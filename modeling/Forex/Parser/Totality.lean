import Forex.Parser.Readings

/-!
The nine signal parsers on any text: whether they return, and with prices that make sense.
-/

namespace Forex
open Support Pattern

/-- The repair keeps the prices of a ladder that it finds the room for. -/
theorem autocorrected_iff {raw : Reads (Option Parsed)} {readable : Prop}
    (read : Ends raw readable fun o => ∀ p ∈ o, p.Sound) (f : Parsed → Parsed)
    (same : ∀ p, (f p).Sound ↔ p.Sound) :
    (∃ o, (raw >>= fun o => .ok (o.map fun p => f p.autocorrectTps)) = .ok o ∧
        ∀ p ∈ o, p.Sound) ↔
      readable ∧ ∀ p, raw = .ok (some p) → p.StaysAboveZero := by
  cases result : raw with
  | error e =>
      refine iff_of_false ?_ fun both => ?_
      · rintro ⟨o, ⟨⟩, -⟩
      · obtain ⟨o, returned⟩ := read.returns both.1
        rw [result] at returned
        cases returned
  | ok o =>
      obtain ⟨met, sound⟩ := read.result o result
      rw [and_iff_right met]
      cases o with
      | none => simp [Bind.bind, Except.bind]
      | some p =>
          have keeps := (same p.autocorrectTps).trans (sound p rfl).autocorrectTps_iff
          simp [Bind.bind, Except.bind, keeps]

/-- It returns, with nothing or with something of the kind. -/
def Returns {α : Type} (kind : α → Prop) : Reads (Option α) → Prop
  | .ok o => ∀ a ∈ o, kind a
  | .error _ => False

instance decidableReturns {α : Type} (kind : α → Prop) [DecidablePred kind] :
    ∀ r : Reads (Option α), Decidable (Returns kind r)
  | .ok o => inferInstanceAs (Decidable (∀ a ∈ o, kind a))
  | .error _ => isFalse False.elim

theorem returns_iff {α : Type} {kind : α → Prop} {r : Reads (Option α)} :
    Returns kind r ↔ ∃ o, r = .ok o ∧ ∀ a ∈ o, kind a := by
  cases r with
  | ok o =>
      constructor
      · exact fun all => ⟨o, rfl, all⟩
      · rintro ⟨_, ⟨⟩, all⟩
        exact all
  | error e =>
      constructor
      · exact False.elim
      · rintro ⟨_, ⟨⟩, -⟩

inductive SignalParser where
  | instantEntry
  | gd2InstantEntry
  | goldSignal
  | gd2Signal
  | gd2Partial
  | formatAbPartial
  | partialAnyFormat
  | tpSlOnly
  | limitOrderSignal

namespace SignalParser
variable (U : CharTables) (text : Text)

/-- The parser returns, with no price below zero and the entry in order. -/
def TotalOn : SignalParser → Prop
  | .instantEntry => Returns InstantSound (parseInstantEntry U text)
  | .gd2InstantEntry => Returns InstantSound (parseGd2InstantEntry U text)
  | .goldSignal => Returns Parsed.Sound (parseGoldSignal U text)
  | .gd2Signal => Returns Parsed.Sound (parseGd2Signal U text)
  | .gd2Partial => Returns PartialSignal.Sound (parseGd2Partial U text)
  | .formatAbPartial => Returns PartialSignal.Sound (parseFormatAbPartial U text)
  | .partialAnyFormat => Returns Parsed.Sound (parsePartialAnyFormat U text)
  | .tpSlOnly => Returns StatedLevels.Sound (parseTpSlOnly U text)
  | .limitOrderSignal => Returns Parsed.Sound (parseLimitOrderSignal U text)

/-- The words that the parser converts are numbers, and there is room for the targets it
adds to the stated ones. -/
def Readable : SignalParser → Prop
  | .instantEntry => InstantReadable U text
  | .gd2InstantEntry => True
  | .goldSignal => GoldReadable U text ∧ ∀ p, goldRaw U text = .ok (some p) → p.StaysAboveZero
  | .gd2Signal => Gd2Readable U text ∧ ∀ p, gd2Raw U text = .ok (some p) → p.StaysAboveZero
  | .gd2Partial => Gd2PartialReadable U text
  | .formatAbPartial => AbPartialReadable U text
  | .partialAnyFormat => PartialAnyReadable U text
  | .tpSlOnly => statesDirection U text = false → LevelsReadable U text
  | .limitOrderSignal =>
      isLimitOrderSignal U text = true →
        Gd2Readable U text ∧ ∀ p, gd2Raw U text = .ok (some p) → p.StaysAboveZero

/-- For every text: a parser returns with prices that make sense exactly if the words it
converts are numbers, and a ladder it adds targets to has the room for them. -/
theorem totalOn_iff (parser : SignalParser) :
    parser.TotalOn U text ↔ parser.Readable U text := by
  cases parser with
  | instantEntry => exact returns_iff.trans parseInstantEntry_ends.iff_returns
  | gd2InstantEntry => exact iff_of_true (returns_iff.mpr parseGd2InstantEntry_returns) True.intro
  | goldSignal =>
      exact returns_iff.trans (autocorrected_iff goldRaw_ends id fun _ => Iff.rfl)
  | gd2Signal =>
      exact returns_iff.trans
        (autocorrected_iff (gd2Raw_ends.mono fun _ held => held.1) id fun _ => Iff.rfl)
  | gd2Partial =>
      exact returns_iff.trans (parseGd2Partial_ends.mono fun _ held => held.1).iff_returns
  | formatAbPartial =>
      exact returns_iff.trans (parseFormatAbPartial_ends.mono fun _ held => held.1).iff_returns
  | partialAnyFormat => exact returns_iff.trans parsePartialAnyFormat_ends.iff_returns
  | tpSlOnly => exact returns_iff.trans parseTpSlOnly_ends.iff_returns
  | limitOrderSignal =>
      rw [TotalOn, Readable, parseLimitOrderSignal]
      cases isLimitOrderSignal U text with
      | false =>
          exact iff_of_true (fun _ mem => absurd mem (Option.not_mem_none _)) Bool.noConfusion
      | true =>
          rw [if_pos rfl, forall_prop_of_true rfl]
          refine Iff.trans ?_ (autocorrected_iff (gd2Raw_ends.mono fun _ held => held.1)
            (fun p => { p with tpOpen := some (hasMatch text gd2TpOpen) }) fun _ => Iff.rfl)
          rw [parseGd2Signal, returns_iff]
          cases gd2Raw U text with
          | error e => rfl
          | ok o => cases o <;> rfl

end SignalParser

/-- Digits and words as they are in ASCII. -/
def asciiTables : CharTables where
  digit c := if c.isDigit then some (c.toNat - 48) else none
  word c := c.isAlphanum || c == '_'

instance decidableTotalOn (U : CharTables) (text : Text) :
    ∀ parser : SignalParser, Decidable (parser.TotalOn U text)
  | .instantEntry | .gd2InstantEntry => inferInstanceAs (Decidable (Returns InstantSound _))
  | .goldSignal | .gd2Signal | .partialAnyFormat | .limitOrderSignal =>
      inferInstanceAs (Decidable (Returns Parsed.Sound _))
  | .gd2Partial | .formatAbPartial => inferInstanceAs (Decidable (Returns PartialSignal.Sound _))
  | .tpSlOnly => inferInstanceAs (Decidable (Returns StatedLevels.Sound _))

/-- A full stop behind "Now" is read as a price; a step of almost the whole price is taken
once more. -/
theorem full_stop_is_no_price :
    ¬ SignalParser.TotalOn asciiTables "XAUUSD Buy Now.".toList .instantEntry ∧
      ¬ SignalParser.TotalOn asciiTables
        "Sell Gold 4520 - 4512\nSL 4530\nTP1 4000\nTP2 1\nTP3 9999".toList .goldSignal := by
  decide +kernel

end Forex
