import Forex.Parser.AddedTargets
import Forex.Parser.Signals
import Forex.Support.Raises
import Mathlib.Tactic.Positivity

/-!
Exactly when each signal parser returns, and that it then has prices that are not negative
and an entry in order. A price class takes digits, dots and commas in any order, so that a
word of it need not be a number.
-/

namespace Forex
open Support Pattern

section Words
variable (U : CharTables)

/-- The numbers of the targets are not too long, and the prices of those kept are numbers. -/
def HitsReadable (keep : ℕ → Bool) (hits : List (Hit Char)) : Prop :=
  ∀ h ∈ hits, (h.group 1).length ≤ maxStrDigits ∧
    (keep (U.natValue (h.group 1)) = true → IsNumber U (h.group 2))

def Targets.Nonneg (tps : Targets) : Prop := ∀ p ∈ tps, 0 ≤ p.2

variable {U}

theorem toFloat_ends (word : Text) : Ends (toFloat U word) (IsNumber U word) (0 ≤ ·) := by
  rw [toFloat]
  split_ifs with number
  · refine .of_ok number ?_
    rw [priceValue, CharTables.decimalValue]
    positivity
  · exact .of_error number

theorem toInt_ends (word : Text) :
    Ends (toInt U word) (word.length ≤ maxStrDigits) (· = U.natValue word) := by
  rw [toInt]
  split_ifs with fits
  · exact .of_ok fits rfl
  · exact .of_error fits

theorem entryRange_ends (a b : Text) :
    Ends (entryRange U a b) (IsNumber U a ∧ IsNumber U b) fun e => 0 ≤ e.1 ∧ e.1 ≤ e.2 :=
  (toFloat_ends a).bind fun _ low => (toFloat_ends b).map fun _ high =>
    ⟨le_min low high, min_le_max⟩

theorem readTargets_ends {keep : ℕ → Bool} {add : Targets → ℕ → ℚ → Targets} {I : Targets → Prop}
    (adds : ∀ tps n price, I tps → keep n = true → 0 ≤ price → I (add tps n price))
    (hits : List (Hit Char)) {tps : Targets} (start : I tps) :
    Ends (readTargets U keep add hits tps) (HitsReadable U keep hits) I := by
  induction hits generalizing tps with
  | nil => exact .of_ok (fun _ mem => nomatch mem) start
  | cons h hits ih =>
      have next (n : ℕ) (number : n = U.natValue (h.group 1)) : Ends
          (if keep n = true then do
            let price ← toFloat U (h.group 2)
            readTargets U keep add hits (add tps n price)
          else readTargets U keep add hits tps)
          ((keep (U.natValue (h.group 1)) = true → IsNumber U (h.group 2)) ∧
            HitsReadable U keep hits) I := by
        rw [← number]
        split_ifs with kept
        · refine ((toFloat_ends (h.group 2)).bind fun price nonneg =>
            ih (adds tps n price start kept nonneg)).congr ?_
          rw [forall_prop_of_true kept]
        · refine (ih start).congr ?_
          simp [kept]
      rw [readTargets, HitsReadable, List.forall_mem_cons, and_assoc]
      exact (toInt_ends (h.group 1)).bind next

theorem Targets.Nonneg.setDefault {tps : Targets} (h : tps.Nonneg) (n : ℕ) {price : ℚ}
    (nonneg : 0 ≤ price) : (tps.setDefault n price).Nonneg := by
  rw [Targets.setDefault]
  split_ifs
  · exact h
  · exact List.forall_mem_cons.mpr ⟨nonneg, h⟩

theorem Targets.Nonneg.assign {tps : Targets} (h : tps.Nonneg) (n : ℕ) {price : ℚ}
    (nonneg : 0 ≤ price) : (tps.assign n price).Nonneg :=
  List.forall_mem_cons.mpr ⟨nonneg, h⟩

theorem Targets.Nonneg.slots {tps : Targets} (h : tps.Nonneg) :
    ∀ tp ∈ tps.slots, ∀ price ∈ tp, 0 ≤ price := by
  rw [Targets.slots, List.forall_mem_map]
  intro n _ price stated
  obtain ⟨front, rest, split, -⟩ := List.lookup_eq_some_iff.mp stated
  exact h (n, price) (by simp [split])

/-- The first target is there exactly if one of those read has its number. -/
theorem readTargets_lookup_one {keep : ℕ → Bool} (kept : keep 1 = true) {hits : List (Hit Char)}
    {tps tps' : Targets} (read : readTargets U keep Targets.assign hits tps = .ok tps') :
    (tps'.lookup 1).isSome = true ↔
      (tps.lookup 1).isSome = true ∨ ∃ h ∈ hits, U.natValue (h.group 1) = 1 := by
  induction hits generalizing tps with
  | nil =>
      cases read
      simp
  | cons h hits ih =>
      rw [readTargets, bind_eq_ok_iff] at read
      obtain ⟨n, number, read⟩ := read
      have value := ((toInt_ends (h.group 1)).result n number).2
      rw [List.exists_mem_cons_iff, ← value]
      by_cases one : n = 1
      · rw [one, if_pos kept, bind_eq_ok_iff] at read
        obtain ⟨price, -, read⟩ := read
        simp [ih read, Targets.assign, one]
      · split_ifs at read
        · obtain ⟨price, -, read⟩ := bind_eq_ok_iff.mp read
          have apart : (1 == n) = false := beq_false_of_ne fun same => one same.symm
          simp [ih read, Targets.assign, one, List.lookup_cons, apart]
        · simp [ih read, one]

theorem numberedTargets_ends (words : List Text) :
    Ends (numberedTargets U words) (∀ word ∈ words, IsNumber U word) fun tps =>
      tps.Nonneg ∧ ((tps.lookup 1).isSome = true ↔ words ≠ []) ∧ (tps ≠ [] ↔ words ≠ []) := by
  refine (Ends.mapM toFloat_ends words).map fun prices read => ⟨?_, ?_⟩
  · rw [Targets.Nonneg, List.forall_mem_map]
    intro p mem
    exact read.2 p.1 (List.fst_mem_of_mem_zipIdx mem)
  · cases prices with
    | nil => simp [List.eq_nil_of_length_eq_zero read.1.symm]
    | cons price prices =>
        have some : words ≠ [] := fun empty => by
          rw [empty] at read
          cases read.1
        simp [some]

end Words

section Conditions
variable (U : CharTables) (text : Text)

/-- The instant price that is read. -/
def InstantReadable : Prop :=
  ∀ m ∈ find (instant U) text,
    hasMatch text (statedSl U) = false → hasMatch text (statedTp U) = false →
    m.group 2 ≠ [] → IsNumber U (m.group 2)

def AbPartialReadable : Prop :=
  otherCurrency U text = false →
    ∀ e ∈ abEntry U (stripBold text), IsNumber U e.2.1 ∧ IsNumber U e.2.2

def GoldTargetsReadable (clean : Text) : Prop :=
  HitsReadable U (· ≤ 9) ((tp U).findIter clean) ∧ HitsReadable U (· ≤ 9) ((tpB U).findIter clean) ∧
    ∀ m ∈ find (tpOpenValues U) clean, ∀ word ∈ openWords (m.group 2), IsNumber U word

/-- The targets are read only behind a stop. -/
def GoldReadable : Prop :=
  otherCurrency U text = false →
    ∀ e ∈ abEntry U (stripBold text), (IsNumber U e.2.1 ∧ IsNumber U e.2.2) ∧
      ∀ m ∈ abStop U (stripBold text),
        IsNumber U (m.group 1) ∧ GoldTargetsReadable U (stripBold text)

def TargetsReadable : Gd2Layout → Hit Char → Prop
  | .labelled, _ => HitsReadable U (fun n => decide (1 ≤ n ∧ n ≤ 8)) ((gd2Tp U).findIter text)
  | .zone, dm => ∀ word ∈ zoneWords U dm, IsNumber U word
  | .limits, _ => ∀ word ∈ plainWords U text, IsNumber U word

def FirstStated : Gd2Layout → Hit Char → Prop
  | .labelled, _ => ∃ h ∈ (gd2Tp U).findIter text, U.natValue (h.group 1) = 1
  | .zone, dm => zoneWords U dm ≠ []
  | .limits, _ => plainWords U text ≠ []

def TargetStated : Gd2Layout → Hit Char → Prop
  | .labelled, _ => hasMatch text (gd2Tp U) = true
  | layout, dm => FirstStated U text layout dm

/-- The targets are read first, and the stop only behind the first target. -/
def Gd2Readable : Prop :=
  ∀ l ∈ gd2Layout U text, ∀ e ∈ gd2Entry U text l.1 l.2,
    (IsNumber U e.1 ∧ IsNumber U e.2) ∧ TargetsReadable U text l.1 l.2 ∧
      (FirstStated U text l.1 l.2 → ∀ m ∈ gd2Stop U text l.1, IsNumber U (m.group 1))

/-- Behind a stop, the targets are read that have no labels. -/
def Gd2PartialReadable : Prop :=
  ∀ l ∈ gd2Layout U text, ∀ e ∈ gd2Entry U text l.1 l.2,
    (IsNumber U e.1 ∧ IsNumber U e.2) ∧
      ((gd2Stop U text l.1).isSome = true → l.1 ≠ .labelled → TargetsReadable U text l.1 l.2)

def Gd2HasSignal : Prop :=
  ∃ l ∈ gd2Layout U text, (gd2Entry U text l.1 l.2).isSome = true ∧
    FirstStated U text l.1 l.2 ∧ (gd2Stop U text l.1).isSome = true

def Gd2HasPartial : Prop :=
  ∃ l ∈ gd2Layout U text, (gd2Entry U text l.1 l.2).isSome = true ∧
    ¬ ((gd2Stop U text l.1).isSome = true ∧ TargetStated U text l.1 l.2)

def AbHasPartial : Prop :=
  otherCurrency U text = false ∧ (abEntry U (stripBold text)).isSome = true ∧
    (abStop U (stripBold text)).isSome = false ∧
      (hasMatch (stripBold text) (tp U) || hasMatch (stripBold text) (tpB U)) = false

def LevelsReadable : Prop :=
  let clean := stripBold text
  HitsReadable U (· ≤ 8) ((tp U).findIter clean) ∧ HitsReadable U (· ≤ 8) ((tpB U).findIter clean) ∧
    HitsReadable U (· ≤ 8) ((gd2Tp U).findIter clean) ∧
      ∀ m ∈ anyStop U clean, IsNumber U (m.group 1)

def PartialAnyReadable : Prop :=
  Gd2PartialReadable U text ∧ (¬ Gd2HasPartial U text → AbPartialReadable U text) ∧
    (Gd2HasPartial U text ∨ AbHasPartial U text → LevelsReadable U text)

end Conditions

section Parsers
variable {U : CharTables} {text : Text}

def InstantSound (r : Direction × Option ℚ) : Prop := ∀ price ∈ r.2, 0 ≤ price

def PartialSignal.Sound (p : PartialSignal) : Prop := 0 ≤ p.entryLow ∧ p.entryLow ≤ p.entryHigh

def StatedLevels.Sound (l : StatedLevels) : Prop :=
  (∀ stop ∈ l.stopLoss, 0 ≤ stop) ∧ ∀ tp ∈ l.tps, ∀ price ∈ tp, 0 ≤ price

instance : DecidablePred InstantSound := fun r =>
  inferInstanceAs (Decidable (∀ price ∈ r.2, 0 ≤ price))

instance (p : PartialSignal) : Decidable p.Sound := inferInstanceAs (Decidable (_ ∧ _))

instance (l : StatedLevels) : Decidable l.Sound := inferInstanceAs (Decidable (_ ∧ _))

theorem parseInstantEntry_ends :
    Ends (parseInstantEntry U text) (InstantReadable U text)
      fun o => ∀ r ∈ o, InstantSound r := by
  rw [parseInstantEntry, InstantReadable]
  cases find (instant U) text with
  | none => exact .of_ok (fun _ mem => nomatch mem) fun _ mem => nomatch mem
  | some m =>
      simp only [Option.mem_def, Option.some.injEq, forall_eq']
      split_ifs with levels unpriced
      · refine .of_ok (fun sl tp => ?_) fun _ mem => nomatch mem
        rw [sl, tp] at levels
        cases levels
      · exact .of_ok (fun _ _ stated => absurd unpriced stated) (by simp [InstantSound])
      · rw [Bool.not_eq_true, Bool.or_eq_false_iff] at levels
        refine ((toFloat_ends (m.group 2)).map fun price nonneg => ?_).congr ?_
        · simpa [InstantSound] using nonneg
        · simp [levels, unpriced]

theorem parseGd2InstantEntry_returns :
    ∃ o, parseGd2InstantEntry U text = .ok o ∧ ∀ r ∈ o, InstantSound r := by
  rw [parseGd2InstantEntry]
  have bare (d : Direction) : ∀ r ∈ some (d, none), InstantSound r := by
    simp [InstantSound]
  have nothing : ∀ r ∈ none, InstantSound r := fun _ mem => nomatch mem
  cases find (gd2Direction U) text with
  | some m =>
      dsimp only
      split_ifs
      · exact ⟨_, rfl, nothing⟩
      · exact ⟨_, rfl, nothing⟩
      · exact ⟨_, rfl, bare _⟩
  | none =>
      cases find (gd2ZoneDirection U) text with
      | none => exact ⟨_, rfl, nothing⟩
      | some m =>
          dsimp only
          split_ifs
          · exact ⟨_, rfl, nothing⟩
          · exact ⟨_, rfl, nothing⟩
          · exact ⟨_, rfl, bare _⟩

theorem parseFormatAbPartial_ends :
    Ends (parseFormatAbPartial U text) (AbPartialReadable U text)
      fun o => (∀ p ∈ o, p.Sound) ∧ (o.isSome = true ↔ AbHasPartial U text) := by
  rw [parseFormatAbPartial, AbPartialReadable, AbHasPartial]
  cases other : otherCurrency U text with
  | true => exact .of_ok (fun same => nomatch same) (by simp)
  | false =>
      dsimp only
      cases abEntry U (stripBold text) with
      | none => exact .of_ok (fun _ _ mem => nomatch mem) (by simp)
      | some e =>
          obtain ⟨d, a, b⟩ := e
          simp only [Option.mem_def, Option.some.injEq, forall_eq', forall_const]
          refine Ends.congr ((entryRange_ends a b).bind fun entry order => ?_)
            (and_iff_left True.intro)
          split_ifs with stop target
          · exact .of_ok True.intro (by simp [stop])
          · exact .of_ok True.intro (by simp [target])
          · refine .of_ok True.intro ⟨?_, ?_⟩
            · simpa [PartialSignal.Sound] using order
            · simp [stop, target]

theorem openTargets_ends (clean : Text) {tps : Targets} (start : tps.Nonneg) :
    Ends (openTargets U clean tps)
      (∀ m ∈ find (tpOpenValues U) clean, ∀ word ∈ openWords (m.group 2), IsNumber U word)
      Targets.Nonneg := by
  rw [openTargets]
  cases find (tpOpenValues U) clean with
  | none => exact .of_ok (fun _ mem => nomatch mem) start
  | some m =>
      simp only [Option.mem_def, Option.some.injEq, forall_eq']
      refine (Ends.mapM toFloat_ends _).map fun prices read => ?_
      rw [addOpen]
      refine List.foldlRecOn _ _ start fun tps held p mem => ?_
      split_ifs
      · exact held.setDefault _ (read.2 p.1 (List.mem_of_mem_take (List.fst_mem_of_mem_zipIdx mem)))
      · exact held

theorem goldTargets_ends (clean : Text) :
    Ends (goldTargets U clean) (GoldTargetsReadable U clean) Targets.Nonneg := by
  have empty : Targets.Nonneg [] := fun _ mem => nomatch mem
  refine (readTargets_ends (fun _ n _ held _ nonneg => held.setDefault n nonneg) _ empty).bind
    fun tps held => ?_
  exact (readTargets_ends (fun _ n _ held _ nonneg => held.assign n nonneg) _ held).bind
    fun tps held => openTargets_ends clean held

theorem goldRaw_ends :
    Ends (goldRaw U text) (GoldReadable U text) fun o => ∀ p ∈ o, p.Sound := by
  rw [goldRaw, GoldReadable]
  cases otherCurrency U text with
  | true => exact .of_ok (fun same => nomatch same) fun _ mem => nomatch mem
  | false =>
      dsimp only
      cases abEntry U (stripBold text) with
      | none => exact .of_ok (fun _ _ mem => nomatch mem) fun _ mem => nomatch mem
      | some e =>
          obtain ⟨d, a, b⟩ := e
          simp only [Option.mem_def, Option.some.injEq, forall_eq', forall_const]
          refine (entryRange_ends a b).bind fun entry order => ?_
          cases abStop U (stripBold text) with
          | none => exact .of_ok (fun _ mem => nomatch mem) fun _ mem => nomatch mem
          | some m =>
              simp only [Option.some.injEq, forall_eq']
              refine (toFloat_ends (m.group 1)).bind fun stop nonneg =>
                (goldTargets_ends (stripBold text)).map fun tps held => ?_
              rintro p ⟨⟩
              exact ⟨order, by simpa using nonneg, held.slots⟩

theorem gd2Targets_ends (layout : Gd2Layout) (dm : Hit Char) :
    Ends (gd2Targets U text layout dm) (TargetsReadable U text layout dm) fun tps =>
      tps.Nonneg ∧ ((tps.lookup 1).isSome = true ↔ FirstStated U text layout dm) := by
  cases layout with
  | labelled =>
      have empty : Targets.Nonneg [] := fun _ mem => nomatch mem
      refine (readTargets_ends (fun _ n _ held _ nonneg => held.assign n nonneg) _ empty).also
        fun tps read => ?_
      exact (readTargets_lookup_one (by decide) read).trans (or_iff_right Bool.false_ne_true)
  | zone => exact (numberedTargets_ends _).mono fun tps held => ⟨held.1, held.2.1⟩
  | limits => exact (numberedTargets_ends _).mono fun tps held => ⟨held.1, held.2.1⟩

theorem gd2Raw_ends :
    Ends (gd2Raw U text) (Gd2Readable U text)
      fun o => (∀ p ∈ o, p.Sound) ∧ (o.isSome = true ↔ Gd2HasSignal U text) := by
  rw [gd2Raw, Gd2Readable, Gd2HasSignal]
  cases gd2Layout U text with
  | none => exact .of_ok (fun _ mem => nomatch mem) (by simp)
  | some l =>
      obtain ⟨layout, dm⟩ := l
      simp only [Option.mem_def, Option.some.injEq, forall_eq', exists_eq_left']
      cases gd2Entry U text layout dm with
      | none => exact .of_ok (fun _ mem => nomatch mem) (by simp)
      | some e =>
          obtain ⟨a, b⟩ := e
          simp only [Option.some.injEq, forall_eq', Option.isSome_some, true_and]
          refine (entryRange_ends a b).bind fun entry order =>
            (gd2Targets_ends layout dm).bind fun tps held => ?_
          obtain ⟨held, listed⟩ := held
          rw [← listed]
          cases tps.lookup 1 with
          | none => exact .of_ok (fun first => nomatch first) (by simp)
          | some first =>
              rw [if_neg (by simp), Option.isSome_some, forall_prop_of_true rfl]
              cases gd2Stop U text layout with
              | none => exact .of_ok (fun _ mem => nomatch mem) (by simp)
              | some m =>
                  simp only [Option.some.injEq, forall_eq']
                  refine (toFloat_ends (m.group 1)).map fun stop nonneg => ⟨?_, by simp⟩
                  rintro p ⟨⟩
                  exact ⟨order, by simpa using nonneg, held.slots⟩

theorem gd2Full_ends (layout : Gd2Layout) (dm : Hit Char) :
    Ends (gd2Full U text layout dm)
      ((gd2Stop U text layout).isSome = true → layout ≠ .labelled →
        TargetsReadable U text layout dm)
      fun full => full = true ↔
        (gd2Stop U text layout).isSome = true ∧ TargetStated U text layout dm := by
  unfold gd2Full
  cases gd2Stop U text layout with
  | none => exact .of_ok (fun some => nomatch some) (by simp)
  | some m =>
      rw [if_neg (by simp), Option.isSome_some, forall_prop_of_true rfl]
      refine Ends.mono (I := fun full => full = true ↔ TargetStated U text layout dm) ?_
        fun full same => same.trans (and_iff_right rfl).symm
      cases layout with
      | labelled => exact .of_ok (fun other => absurd rfl other) Iff.rfl
      | zone =>
          refine ((numberedTargets_ends (zoneWords U dm)).map fun tps held => ?_).congr
            ⟨fun readable _ => readable, fun all => all nofun⟩
          exact decide_eq_true_iff.trans held.2.2
      | limits =>
          refine ((numberedTargets_ends (plainWords U text)).map fun tps held => ?_).congr
            ⟨fun readable _ => readable, fun all => all nofun⟩
          exact decide_eq_true_iff.trans held.2.2

theorem parseGd2Partial_ends :
    Ends (parseGd2Partial U text) (Gd2PartialReadable U text)
      fun o => (∀ p ∈ o, p.Sound) ∧ (o.isSome = true ↔ Gd2HasPartial U text) := by
  rw [parseGd2Partial, Gd2PartialReadable, Gd2HasPartial]
  cases gd2Layout U text with
  | none => exact .of_ok (fun _ mem => nomatch mem) (by simp)
  | some l =>
      obtain ⟨layout, dm⟩ := l
      simp only [Option.mem_def, Option.some.injEq, forall_eq', exists_eq_left']
      cases gd2Entry U text layout dm with
      | none => exact .of_ok (fun _ mem => nomatch mem) (by simp)
      | some e =>
          obtain ⟨a, b⟩ := e
          simp only [Option.some.injEq, forall_eq', Option.isSome_some, true_and]
          refine (entryRange_ends a b).bind fun entry order =>
            (gd2Full_ends layout dm).map fun full held => ?_
          rw [← held]
          cases full with
          | true => simp
          | false => simpa [PartialSignal.Sound] using order

theorem extractLevels_ends :
    Ends (extractLevels U text) (LevelsReadable U text) StatedLevels.Sound := by
  rw [extractLevels, LevelsReadable]
  have empty : Targets.Nonneg [] := fun _ mem => nomatch mem
  refine (readTargets_ends (fun _ n _ held _ nonneg => held.setDefault n nonneg) _ empty).bind
    fun tps held => ?_
  refine (readTargets_ends (fun _ n _ held _ nonneg => held.setDefault n nonneg) _ held).bind
    fun tps held => ?_
  refine (readTargets_ends (fun _ n _ held _ nonneg => held.setDefault n nonneg) _ held).bind
    fun tps held => ?_
  cases anyStop U (stripBold text) with
  | none => exact .of_ok (fun _ mem => nomatch mem) ⟨(fun _ mem => nomatch mem), held.slots⟩
  | some m =>
      simp only [Option.mem_def, Option.some.injEq, forall_eq']
      refine (toFloat_ends (m.group 1)).map fun stop nonneg => ?_
      exact ⟨by simpa using nonneg, held.slots⟩

theorem parseTpSlOnly_ends :
    Ends (parseTpSlOnly U text) (statesDirection U text = false → LevelsReadable U text)
      fun o => ∀ l ∈ o, l.Sound := by
  rw [parseTpSlOnly]
  cases statesDirection U text with
  | true => exact .of_ok (fun same => nomatch same) fun _ mem => nomatch mem
  | false =>
      refine Ends.congr (extractLevels_ends.bind fun levels sound => ?_)
        ⟨fun readable _ => readable.1, fun all => ⟨all rfl, True.intro⟩⟩
      split_ifs
      · exact .of_ok True.intro fun _ mem => nomatch mem
      · refine .of_ok True.intro ?_
        rintro l ⟨⟩
        exact sound
      · refine .of_ok True.intro ?_
        rintro l ⟨⟩
        exact sound

theorem parsePartialAnyFormat_ends :
    Ends (parsePartialAnyFormat U text) (PartialAnyReadable U text) fun o => ∀ p ∈ o, p.Sound := by
  rw [parsePartialAnyFormat, PartialAnyReadable]
  refine parseGd2Partial_ends.bind fun gd2 own => ?_
  obtain ⟨sound, has⟩ := own
  rw [← has]
  have found : Ends (orFormatAbPartial U text gd2)
      (¬ gd2.isSome = true → AbPartialReadable U text) fun o =>
        (∀ p ∈ o, p.Sound) ∧ (o.isSome = true ↔ gd2.isSome = true ∨ AbHasPartial U text) := by
    cases gd2 with
    | none =>
        rw [orFormatAbPartial]
        simpa using parseFormatAbPartial_ends
    | some p => exact .of_ok (by simp) ⟨sound, by simp⟩
  refine found.bind fun o held => ?_
  rw [← held.2]
  cases o with
  | none => exact .of_ok (fun some => nomatch some) fun _ mem => nomatch mem
  | some p =>
      refine (extractLevels_ends.map fun levels stated => ?_).congr
        ⟨fun readable _ => readable, fun all => all rfl⟩
      rintro q ⟨⟩
      exact ⟨held.1 p rfl, stated⟩

end Parsers

end Forex
