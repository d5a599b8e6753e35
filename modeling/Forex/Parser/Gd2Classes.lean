import Forex.Parser.Totality

/-!
How a message of Gold Diggers 2.0 is classified: as a complete signal, as an entry whose
levels are still to come, or as a bare direction. Each parser looks for stop, targets and
entry in its own way.
-/

namespace Forex
open Support Pattern

def accepts {α : Type} : Reads (Option α) → Bool
  | .ok (some _) => true
  | _ => false

theorem accepts_iff {α : Type} {r : Reads (Option α)} {readable stated : Prop} {K : Option α → Prop}
    (read : Ends r readable fun o => K o ∧ (o.isSome = true ↔ stated)) :
    accepts r = true ↔ readable ∧ stated := by
  cases result : r with
  | error e =>
      refine iff_of_false Bool.false_ne_true fun both => ?_
      obtain ⟨o, returned⟩ := read.returns both.1
      rw [result] at returned
      cases returned
  | ok o =>
      obtain ⟨met, -, some⟩ := read.result o result
      rw [and_iff_right met, ← some]
      cases o <;> rfl

section Classes
variable (U : CharTables) (text : Text)

/-- A number behind the "@". -/
def limitsPrice : Regex Char :=
  .all [spaces, .many fun c => c == '.' || c == ',', .one U.isDigit]

/-- A price or a range follows the direction; behind an "@", directly. -/
def StatesEntry : Gd2Layout → Hit Char → Prop
  | .limits, dm => ((limitsPrice U).matchAt dm.passed dm.rest).isSome = true
  | layout, dm => (gd2Entry U text layout dm).isSome = true

/-- The instant parser sees neither a stop nor a target nor a range. -/
def seenBare : Gd2Layout → Hit Char → Bool
  | .labelled, dm =>
      !(hasMatch text (statedSl U) || hasMatch text (statedTp U)) &&
        !(findAfter (gd2EntryRange U) dm).isSome
  | .zone, dm =>
      !(hasMatch text (gd2SlZone U) || (findAfter (gd2TargetsHeader U) dm).isSome) &&
        !(findAfter (gd2EntryRange U) dm).isSome
  | .limits, _ => false

/-- Each class at most once, and an entry is not lost. -/
def ClassifiedOnce (layout : Gd2Layout) (dm : Hit Char) : Prop :=
  [accepts (parseGd2Signal U text), accepts (parseGd2Partial U text),
      accepts (parseGd2InstantEntry U text)].Pairwise (fun a b => ¬ (a = true ∧ b = true)) ∧
    (StatesEntry U text layout dm →
      accepts (parseGd2Signal U text) = true ∨ accepts (parseGd2Partial U text) = true)

/-- What a stop and the targets behind it must be for one of the parsers to take them. -/
def LevelsTaken (layout : Gd2Layout) (dm : Hit Char) : Prop :=
  (gd2Stop U text layout).isSome = true →
    (layout ≠ .labelled → TargetsReadable U text layout dm) ∧
      (TargetStated U text layout dm →
        TargetsReadable U text layout dm ∧ FirstStated U text layout dm ∧
          ∀ m ∈ gd2Stop U text layout, IsNumber U (m.group 1))

/-- A stated entry is found and is a number, the message is not taken for a bare direction,
and its levels are taken. -/
def ReadOnce (layout : Gd2Layout) (dm : Hit Char) : Prop :=
  StatesEntry U text layout dm →
    (∃ e ∈ gd2Entry U text layout dm, IsNumber U e.1 ∧ IsNumber U e.2) ∧
      seenBare U text layout dm = false ∧ LevelsTaken U text layout dm

instance : ∀ layout dm, Decidable (StatesEntry U text layout dm)
  | .labelled, _ | .zone, _ | .limits, _ => inferInstanceAs (Decidable (_ = true))

instance (layout : Gd2Layout) (dm : Hit Char) : Decidable (ClassifiedOnce U text layout dm) :=
  inferInstanceAs (Decidable (_ ∧ _))

instance : ∀ layout dm, Decidable (TargetsReadable U text layout dm)
  | .labelled, _ => inferInstanceAs (Decidable (∀ h ∈ (gd2Tp U).findIter text, _))
  | .zone, dm => inferInstanceAs (Decidable (∀ word ∈ zoneWords U dm, _))
  | .limits, _ => inferInstanceAs (Decidable (∀ word ∈ plainWords U text, _))

instance : ∀ layout dm, Decidable (FirstStated U text layout dm)
  | .labelled, _ => inferInstanceAs (Decidable (∃ h ∈ (gd2Tp U).findIter text, _))
  | .zone, dm => inferInstanceAs (Decidable (zoneWords U dm ≠ []))
  | .limits, _ => inferInstanceAs (Decidable (plainWords U text ≠ []))

instance : ∀ layout dm, Decidable (TargetStated U text layout dm)
  | .labelled, _ => inferInstanceAs (Decidable (_ = true))
  | .zone, dm => inferInstanceAs (Decidable (FirstStated U text .zone dm))
  | .limits, dm => inferInstanceAs (Decidable (FirstStated U text .limits dm))

instance (layout : Gd2Layout) (dm : Hit Char) : Decidable (LevelsTaken U text layout dm) :=
  inferInstanceAs (Decidable (_ → _))

instance (layout : Gd2Layout) (dm : Hit Char) : Decidable (ReadOnce U text layout dm) :=
  inferInstanceAs (Decidable (_ → _))

end Classes

section Layout
variable {U : CharTables} {text : Text} {layout : Gd2Layout} {dm : Hit Char}

theorem accepts_signal_iff (stated : gd2Layout U text = some (layout, dm)) :
    accepts (parseGd2Signal U text) = true ↔
      ∃ e ∈ gd2Entry U text layout dm, (IsNumber U e.1 ∧ IsNumber U e.2) ∧
        TargetsReadable U text layout dm ∧ FirstStated U text layout dm ∧
          ∃ m ∈ gd2Stop U text layout, IsNumber U (m.group 1) := by
  have same : accepts (parseGd2Signal U text) = accepts (gd2Raw U text) := by
    rw [parseGd2Signal]
    cases gd2Raw U text with
    | error e => rfl
    | ok o => cases o <;> rfl
  rw [same, accepts_iff gd2Raw_ends, Gd2Readable, Gd2HasSignal, stated]
  simp only [Option.mem_def, Option.some.injEq, forall_eq', exists_eq_left']
  cases gd2Entry U text layout dm with
  | none => simp
  | some e =>
      cases gd2Stop U text layout with
      | none => simp
      | some m =>
          simp only [Option.some.injEq, forall_eq', exists_eq_left', Option.isSome_some, and_true,
            true_and]
          tauto

theorem accepts_partial_iff (stated : gd2Layout U text = some (layout, dm)) :
    accepts (parseGd2Partial U text) = true ↔
      ∃ e ∈ gd2Entry U text layout dm, (IsNumber U e.1 ∧ IsNumber U e.2) ∧
        ((gd2Stop U text layout).isSome = true →
          (layout ≠ .labelled → TargetsReadable U text layout dm) ∧
            ¬ TargetStated U text layout dm) := by
  rw [accepts_iff parseGd2Partial_ends, Gd2PartialReadable, Gd2HasPartial, stated]
  simp only [Option.mem_def, Option.some.injEq, forall_eq', exists_eq_left']
  cases gd2Entry U text layout dm with
  | none => simp
  | some e =>
      simp only [Option.some.injEq, forall_eq', exists_eq_left', Option.isSome_some, true_and]
      tauto

theorem accepts_bare {α : Type} (levels range : Bool) (a : α) :
    accepts (if levels then .ok none else if range then .ok none else .ok (some a)) =
      (!levels && !range) := by
  cases levels <;> cases range <;> rfl

theorem accepts_instant (stated : gd2Layout U text = some (layout, dm)) :
    accepts (parseGd2InstantEntry U text) = seenBare U text layout dm := by
  rw [gd2Layout] at stated
  rw [parseGd2InstantEntry]
  cases labelled : find (gd2Direction U) text with
  | some m =>
      rw [labelled] at stated
      cases stated
      exact accepts_bare _ _ _
  | none =>
      rw [labelled] at stated
      cases zone : find (gd2ZoneDirection U) text with
      | some m =>
          rw [zone] at stated
          cases stated
          exact accepts_bare _ _ _
      | none =>
          rw [zone] at stated
          obtain ⟨m, -, same⟩ := Option.map_eq_some_iff.mp stated
          cases same
          rfl

/-- A first target is a target. -/
theorem FirstStated.targetStated (first : FirstStated U text layout dm) :
    TargetStated U text layout dm := by
  cases layout with
  | labelled =>
      obtain ⟨h, mem, -⟩ := first
      have some : (gd2Tp U).findIter text ≠ [] := List.ne_nil_of_mem mem
      rw [ne_eq, Regex.findIter_eq_nil_iff, ← ne_eq, Option.ne_none_iff_isSome] at some
      exact some
  | zone => exact first
  | limits => exact first

/-- Where the instant parser could take the message, an entry that is found is a stated one. -/
theorem statesEntry_of_bare (bare : seenBare U text layout dm = true)
    (found : (gd2Entry U text layout dm).isSome = true) : StatesEntry U text layout dm := by
  cases layout with
  | labelled => exact found
  | zone => exact found
  | limits => cases bare

theorem signal_not_partial (stated : gd2Layout U text = some (layout, dm))
    (signal : accepts (parseGd2Signal U text) = true) :
    accepts (parseGd2Partial U text) = false := by
  rw [accepts_signal_iff stated] at signal
  obtain ⟨-, -, -, -, first, m, stop, -⟩ := signal
  rw [← Bool.not_eq_true, accepts_partial_iff stated]
  rintro ⟨-, -, -, levels⟩
  rw [Option.mem_def.mp stop] at levels
  exact (levels rfl).2 first.targetStated

theorem found_of_accepted (stated : gd2Layout U text = some (layout, dm))
    (accepted : accepts (parseGd2Signal U text) = true ∨ accepts (parseGd2Partial U text) = true) :
    ∃ e ∈ gd2Entry U text layout dm, IsNumber U e.1 ∧ IsNumber U e.2 := by
  rw [accepts_signal_iff stated, accepts_partial_iff stated] at accepted
  rcases accepted with ⟨e, found, numbers, -⟩ | ⟨e, found, numbers, -⟩
  · exact ⟨e, found, numbers⟩
  · exact ⟨e, found, numbers⟩

/-- One of the two takes an entry that is a number exactly if its levels are taken. -/
theorem accepted_iff_levels (stated : gd2Layout U text = some (layout, dm)) {e : Text × Text}
    (found : e ∈ gd2Entry U text layout dm) (numbers : IsNumber U e.1 ∧ IsNumber U e.2) :
    (accepts (parseGd2Signal U text) = true ∨ accepts (parseGd2Partial U text) = true) ↔
      LevelsTaken U text layout dm := by
  rw [accepts_signal_iff stated, accepts_partial_iff stated, LevelsTaken, Option.mem_def.mp found]
  simp only [Option.mem_def, Option.some.injEq, exists_eq_left', numbers, true_and, and_self]
  cases gd2Stop U text layout with
  | none => simp
  | some m =>
      simp only [Option.isSome_some, forall_const, Option.some.injEq, exists_eq_left', forall_eq']
      constructor
      · rintro (⟨targets, first, stop⟩ | ⟨targets, none⟩)
        · exact ⟨fun _ => targets, fun _ => ⟨targets, first, stop⟩⟩
        · exact ⟨targets, fun some => absurd some none⟩
      · rintro ⟨targets, complete⟩
        by_cases some : TargetStated U text layout dm
        · exact .inl (complete some)
        · exact .inr ⟨targets, some⟩

end Layout

/-- A message with a direction is classified once exactly if a stated entry is found and a
number, is not overlooked by the instant parser, and the levels behind it are taken. -/
theorem classified_once_iff (U : CharTables) (text : Text) (layout : Gd2Layout) (dm : Hit Char)
    (stated : gd2Layout U text = some (layout, dm)) :
    ClassifiedOnce U text layout dm ↔ ReadOnce U text layout dm := by
  have exclusive := signal_not_partial stated
  have found := found_of_accepted stated
  have levels {e : Text × Text} := accepted_iff_levels stated (e := e)
  have bare := accepts_instant stated
  have entry (instant : seenBare U text layout dm = true) :=
    statesEntry_of_bare instant
  rw [ClassifiedOnce, ReadOnce, bare]
  simp only [List.pairwise_cons, List.forall_mem_cons, List.not_mem_nil, false_imp_iff,
    implies_true, and_true, List.Pairwise.nil]
  generalize accepts (parseGd2Signal U text) = signal at *
  generalize accepts (parseGd2Partial U text) = part at *
  constructor
  · rintro ⟨⟨⟨-, signalOnly⟩, partialOnly⟩, heard⟩ states
    obtain ⟨e, mem, numbers⟩ := found (heard states)
    refine ⟨⟨e, mem, numbers⟩, ?_, (levels mem numbers).mp (heard states)⟩
    rw [← Bool.not_eq_true]
    intro instant
    exact (heard states).elim (fun whole => signalOnly ⟨whole, instant⟩)
      fun open_ => partialOnly ⟨open_, instant⟩
  · intro read
    have alone : signal = true ∨ part = true → seenBare U text layout dm = false := by
      intro accepted
      rw [← Bool.not_eq_true]
      intro instant
      obtain ⟨e, mem, -⟩ := found accepted
      have states := entry instant (Option.isSome_of_mem mem)
      rw [(read states).2.1] at instant
      cases instant
    refine ⟨⟨⟨?_, ?_⟩, ?_⟩, fun states => ?_⟩
    · rintro ⟨whole, open_⟩
      rw [exclusive whole] at open_
      cases open_
    · rintro ⟨whole, instant⟩
      rw [alone (.inl whole)] at instant
      cases instant
    · rintro ⟨open_, instant⟩
      rw [alone (.inr open_)] at instant
      cases instant
    · obtain ⟨⟨e, mem, numbers⟩, -, taken⟩ := read states
      exact (levels mem numbers).mpr taken

/-- The direction that a text begins with. -/
def directionThen (rest : String) : Hit Char :=
  ⟨[], ⟨"XAU USD BUY NOW".toList, [(1, "BUY".toList)]⟩, rest.toList⟩

theorem classified_once_complete :
    let levels := "\n4150 - 4155\nTP1: 4160\nSL: 4140"
    ClassifiedOnce asciiTables ("XAU USD BUY NOW".toList ++ levels.toList) .labelled
      (directionThen levels) :=
  (classified_once_iff _ _ _ _ (by decide)).mpr (by decide)

/-- A single price is an entry for one parser, and not there for the other. -/
theorem single_price_taken_twice :
    ¬ ∀ (U : CharTables) (text : Text) (layout : Gd2Layout) (dm : Hit Char),
      gd2Layout U text = some (layout, dm) → ClassifiedOnce U text layout dm := by
  intro all
  have once := all asciiTables ("XAU USD BUY NOW".toList ++ " 4150".toList) .labelled
    (directionThen " 4150") (by decide)
  exact absurd once (by decide)

end Forex
