import Forex.Broker.Sides
import Forex.Support.Rounding
import Forex.Telegram.Levels
import Mathlib.Data.List.Chain
import Mathlib.Data.List.Dedup
import Mathlib.Data.List.Sort

/-!
`_autocorrect_tps`: the targets on the right side of the entry, in order and once each,
with further ones at the last step until there are as many as were stated.
-/

namespace Forex
open Support

/-- The targets that follow one another at the last step, each rounded to cents. -/
def extrapolated : ℕ → ℚ → ℚ → List ℚ
  | 0, _, _ => []
  | n + 1, prev, last =>
      let next := roundTo 2 (last + (last - prev))
      next :: extrapolated n last next

namespace Parsed
variable (p : Parsed)

def provided : List ℚ := (p.tps.take 8).reduceOption

/-- The targets on the right side of the entry, sorted and without repetition. -/
def orderedTargets : List ℚ :=
  ((p.provided.filter fun tp => decide (p.direction.beyond p.entryLow p.entryHigh tp)).insertionSort
    fun a b => p.direction.sign * a ≤ p.direction.sign * b).dedup

/-- The ladder: as many targets as were provided, where two are left to take a step from. -/
def correctedTargets : List ℚ :=
  match p.orderedTargets.reverse with
  | last :: prev :: _ =>
      p.orderedTargets ++
        extrapolated (p.provided.length - p.orderedTargets.length) prev last
  | _ => p.orderedTargets

/-- `_autocorrect_tps`; with no target on the right side, nothing is changed. -/
def autocorrectTps : Parsed :=
  if p.orderedTargets = [] then p
  else
    { p with
      tps := p.correctedTargets.map some ++ List.replicate (8 - p.correctedTargets.length) none }

end Parsed

section Order
variable {d : Direction}

theorem Direction.precedes_iff (a b : ℚ) : d.precedes a b ↔ d.sign * a < d.sign * b := by
  cases d <;> simp [Direction.precedes, Direction.sign]

theorem Direction.precedes_trans {a b c : ℚ} (ab : d.precedes a b) (bc : d.precedes b c) :
    d.precedes a c := by
  rw [precedes_iff] at ab bc ⊢
  exact ab.trans bc

/-- The step goes at least half of the way to the next cent beyond the last target. -/
def Direction.stepsBeyond (d : Direction) (prev last : ℚ) : Prop :=
  ¬ RoundsWithin 2 (d.sign * (last + (last - prev))) (d.sign * last)

theorem precedes_extrapolated_iff (prev last : ℚ) :
    d.precedes last (roundTo 2 (last + (last - prev))) ↔ d.stepsBeyond prev last := by
  rw [Direction.precedes_iff, Direction.sign_roundTo, ← not_le, roundTo_le_iff]
  rfl

/-- From two targets in cents on, the steps are all the same. -/
theorem isChain_extrapolated {prev last : ℚ} (prevGrid : OnGrid 2 prev) (lastGrid : OnGrid 2 last)
    (step : d.precedes prev last) (n : ℕ) :
    List.IsChain d.precedes (last :: extrapolated n prev last) := by
  induction n generalizing prev last with
  | zero => exact List.IsChain.singleton _
  | succ n ih =>
      have next : roundTo 2 (last + (last - prev)) = last + (last - prev) :=
        roundTo_of_onGrid (lastGrid.add (lastGrid.sub prevGrid))
      have further : d.precedes last (last + (last - prev)) := by
        rw [Direction.precedes_iff] at step ⊢
        linarith
      rw [extrapolated, next]
      exact List.IsChain.cons_cons further
        (ih lastGrid (lastGrid.add (lastGrid.sub prevGrid)) further)

/-- The first two steps decide. -/
theorem isChain_extrapolated_iff (prev last : ℚ) (n : ℕ) :
    List.IsChain d.precedes (last :: extrapolated n prev last) ↔
      (1 ≤ n → d.stepsBeyond prev last) ∧
        (2 ≤ n → d.stepsBeyond last (roundTo 2 (last + (last - prev)))) := by
  match n with
  | 0 => simp [extrapolated]
  | 1 => simp [extrapolated, precedes_extrapolated_iff]
  | n + 2 =>
      rw [extrapolated, extrapolated, List.isChain_cons_cons, List.isChain_cons_cons,
        precedes_extrapolated_iff, precedes_extrapolated_iff]
      constructor
      · rintro ⟨first, second, -⟩
        exact ⟨fun _ => first, fun _ => second⟩
      · rintro ⟨first, second⟩
        refine ⟨first (by omega), second (by omega), ?_⟩
        exact isChain_extrapolated (roundTo_onGrid 2 _) (roundTo_onGrid 2 _)
          ((precedes_extrapolated_iff _ _).mpr (second (by omega))) n

end Order

namespace Parsed
variable {p : Parsed}

theorem mem_orderedTargets {tp : ℚ} :
    tp ∈ p.orderedTargets ↔ tp ∈ p.provided ∧ p.direction.beyond p.entryLow p.entryHigh tp := by
  rw [orderedTargets, List.mem_dedup, List.mem_insertionSort, List.mem_filter, decide_eq_true_eq]

theorem pairwise_orderedTargets : p.orderedTargets.Pairwise p.direction.precedes := by
  have sorted : p.orderedTargets.Pairwise fun a b =>
      p.direction.sign * a ≤ p.direction.sign * b :=
    (List.pairwise_insertionSort _ _).sublist (List.dedup_sublist _)
  have distinct : p.orderedTargets.Pairwise (· ≠ ·) := List.nodup_dedup _
  refine (sorted.and distinct).imp fun {a b} both => ?_
  rw [Direction.precedes_iff]
  refine lt_of_le_of_ne both.1 fun same => both.2 ?_
  cases direction : p.direction with
  | buy => simpa [direction, Direction.sign] using same
  | sell => simpa [direction, Direction.sign] using same

theorem length_orderedTargets_le : p.orderedTargets.length ≤ p.provided.length :=
  (List.dedup_sublist _).length_le.trans
    ((List.length_insertionSort _ _).le.trans (List.length_filter_le _ _))

theorem length_provided_le : p.provided.length ≤ 8 :=
  (List.reduceOption_length_le _).trans (List.length_take_le _ _)

theorem length_extrapolated (n : ℕ) (prev last : ℚ) : (extrapolated n prev last).length = n := by
  induction n generalizing prev last with
  | zero => rfl
  | succ n ih => rw [extrapolated, List.length_cons, ih]

theorem orderedTargets_eq {last prev : ℚ} {rest : List ℚ}
    (ends : p.orderedTargets.reverse = last :: prev :: rest) :
    p.orderedTargets = rest.reverse ++ [prev, last] := by
  rw [← List.reverse_reverse p.orderedTargets, ends]
  simp

theorem two_of_ends {last prev : ℚ} {rest : List ℚ}
    (ends : p.orderedTargets.reverse = last :: prev :: rest) :
    ¬ p.orderedTargets.length < 2 := by
  have length := congrArg List.length ends
  rw [List.length_reverse, List.length_cons, List.length_cons] at length
  omega

/-- What holds of the last two targets, whichever they are, is about the two there are. -/
theorem forall_ends_iff {last prev : ℚ} {rest : List ℚ}
    (ends : p.orderedTargets.reverse = last :: prev :: rest) {Q : ℚ → ℚ → Prop} :
    (∀ last' prev' rest', p.orderedTargets.reverse = last' :: prev' :: rest' → Q last' prev') ↔
      Q last prev := by
  refine ⟨fun all => all last prev rest ends, fun one last' prev' rest' ends' => ?_⟩
  obtain ⟨rfl, tail⟩ := List.cons.inj (ends.symm.trans ends')
  obtain ⟨rfl, -⟩ := List.cons.inj tail
  exact one

/-- With two targets left to take a step from, the ladder is as long as what was provided. -/
theorem correctedTargets_eq {last prev : ℚ} {rest : List ℚ}
    (ends : p.orderedTargets.reverse = last :: prev :: rest) :
    p.correctedTargets = p.orderedTargets ++
      extrapolated (p.provided.length - p.orderedTargets.length) prev last := by
  rw [correctedTargets, ends]

theorem correctedTargets_of_few (few : p.orderedTargets.length < 2) :
    p.correctedTargets = p.orderedTargets := by
  rw [correctedTargets]
  split
  · rename_i ends
    exact absurd few (two_of_ends ends)
  · rfl

/-- The last two targets, when there are two. -/
theorem ends_of_two (two : 2 ≤ p.orderedTargets.length) :
    ∃ last prev rest, p.orderedTargets.reverse = last :: prev :: rest := by
  match ends : p.orderedTargets.reverse with
  | [] =>
      have length := congrArg List.length ends
      rw [List.length_reverse, List.length_nil] at length
      omega
  | [_] =>
      have length := congrArg List.length ends
      rw [List.length_reverse, List.length_singleton] at length
      omega
  | last :: prev :: rest => exact ⟨last, prev, rest, rfl⟩

theorem correctedTargets_extends : ∃ more, p.correctedTargets = p.orderedTargets ++ more := by
  rw [correctedTargets]
  split
  · exact ⟨_, rfl⟩
  · exact ⟨[], (List.append_nil _).symm⟩

theorem beyond_of_precedes {d : Direction} {low high a b : ℚ} (side : d.beyond low high a)
    (before : d.precedes a b) : d.beyond low high b := by
  cases d with
  | buy => exact lt_trans (show high < a from side) before
  | sell => exact lt_trans (show b < a from before) side

theorem length_correctedTargets_le : p.correctedTargets.length ≤ p.provided.length := by
  rw [correctedTargets]
  split
  · rw [List.length_append, length_extrapolated]
    have within := p.length_orderedTargets_le
    omega
  · exact length_orderedTargets_le

/-- How many targets are missing when those left are in order. -/
def missing (p : Parsed) : ℕ := p.provided.length - p.orderedTargets.length

/-- Rounding takes neither of the first two steps back. -/
def StepsOn (p : Parsed) : Prop :=
  ∀ last prev rest, p.orderedTargets.reverse = last :: prev :: rest →
    (1 ≤ p.missing → p.direction.stepsBeyond prev last) ∧
      (2 ≤ p.missing → p.direction.stepsBeyond last (roundTo 2 (last + (last - prev))))

theorem isChain_iff_pairwise_precedes {d : Direction} {l : List ℚ} :
    l.IsChain d.precedes ↔ l.Pairwise d.precedes := by
  have : IsTrans ℚ d.precedes := ⟨fun _ _ _ => Direction.precedes_trans⟩
  exact List.isChain_iff_pairwise

theorem correctedTargets_pairwise_iff :
    p.correctedTargets.Pairwise p.direction.precedes ↔ p.StepsOn := by
  by_cases few : p.orderedTargets.length < 2
  · rw [correctedTargets_of_few few]
    exact iff_of_true pairwise_orderedTargets fun _ _ _ ends => absurd few (two_of_ends ends)
  · obtain ⟨last, prev, rest, ends⟩ := ends_of_two (not_lt.mp few)
    have whole : p.orderedTargets = rest.reverse ++ [prev, last] := orderedTargets_eq ends
    have kept : (rest.reverse ++ [prev]).IsChain p.direction.precedes ∧
        p.direction.precedes prev last := by
      have ordered := isChain_iff_pairwise_precedes.mpr p.pairwise_orderedTargets
      rw [whole, List.isChain_append_cons_cons] at ordered
      exact ⟨ordered.1, ordered.2.1⟩
    have ladder : p.correctedTargets =
        rest.reverse ++ prev :: last :: extrapolated p.missing prev last := by
      rw [correctedTargets_eq ends, missing]
      simp [whole]
    rw [← isChain_iff_pairwise_precedes, ladder, List.isChain_append_cons_cons,
      and_iff_right kept.1, and_iff_right kept.2, isChain_extrapolated_iff, StepsOn]
    symm
    exact forall_ends_iff ends

/-- What the repair is for: the ladder is complete, in order and on the right side, and
another repair finds nothing to do. -/
structure Repaired (p q : Parsed) : Prop where
  ladder : ∃ l : List ℚ, q.tps = l.map some ++ List.replicate (8 - l.length) none ∧
    l.Pairwise p.direction.precedes ∧
    (∀ tp ∈ l, p.direction.beyond p.entryLow p.entryHigh tp) ∧
    (∀ tp ∈ p.provided, p.direction.beyond p.entryLow p.entryHigh tp → tp ∈ l) ∧
    l.length ≤ p.provided.length
  again : q.autocorrectTps = q
  targets : q.targetErrors = []
  order : q.orderErrors = []

theorem reduceOption_padded (l : List ℚ) (n : ℕ) :
    (l.map some ++ List.replicate n none).reduceOption = l := by
  rw [List.reduceOption_append]
  have filled : (l.map some).reduceOption = l := by
    induction l with
    | nil => rfl
    | cons a l ih => rw [List.map_cons, List.reduceOption_cons_of_some, ih]
  have empty : (List.replicate n (none : Option ℚ)).reduceOption = [] := by
    induction n with
    | zero => rfl
    | succ n ih => rw [List.replicate_succ, List.reduceOption_cons_of_none, ih]
  rw [filled, empty, List.append_nil]

section Padded
variable {q : Parsed} {l : List ℚ}

theorem provided_padded (slots : q.tps = l.map some ++ List.replicate (8 - l.length) none)
    (fits : l.length ≤ 8) : q.provided = l := by
  have length : q.tps.length = 8 := by
    rw [slots, List.length_append, List.length_map, List.length_replicate]
    omega
  rw [provided, List.take_of_length_le length.le, slots, reduceOption_padded]

theorem orderedTargets_of_ladder (provided : q.provided = l)
    (ordered : l.Pairwise q.direction.precedes)
    (side : ∀ tp ∈ l, q.direction.beyond q.entryLow q.entryHigh tp) : q.orderedTargets = l := by
  have ascending : l.Pairwise fun a b => q.direction.sign * a ≤ q.direction.sign * b :=
    ordered.imp fun before => ((Direction.precedes_iff _ _).mp before).le
  have distinct : l.Nodup := ordered.imp fun before same => by
    rw [same, Direction.precedes_iff] at before
    exact lt_irrefl _ before
  rw [orderedTargets, provided,
    List.filter_eq_self.mpr fun tp mem => decide_eq_true (side tp mem),
    ascending.insertionSort_eq, distinct.dedup]

/-- A ladder in order is left as it is. -/
theorem autocorrectTps_of_ladder
    (slots : q.tps = l.map some ++ List.replicate (8 - l.length) none) (fits : l.length ≤ 8)
    (ordered : l.Pairwise q.direction.precedes)
    (side : ∀ tp ∈ l, q.direction.beyond q.entryLow q.entryHigh tp) : q.autocorrectTps = q := by
  have given := provided_padded slots fits
  have same := orderedTargets_of_ladder given ordered side
  rw [autocorrectTps]
  split_ifs
  · rfl
  · have corrected : q.correctedTargets = l := by
      rw [correctedTargets]
      split
      · rw [same, given, Nat.sub_self, extrapolated, List.append_nil]
      · exact same
    rw [corrected, ← slots]

theorem forall_zip_tail {R : ℚ → ℚ → Prop} {l : List ℚ} (chain : l.IsChain R) :
    ∀ pair ∈ l.zip l.tail, R pair.1 pair.2 := by
  induction l with
  | nil => simp
  | cons a l ih =>
      cases l with
      | nil => simp
      | cons b l =>
          obtain ⟨head, rest⟩ := List.isChain_cons_cons.mp chain
          rw [List.tail_cons, List.zip_cons_cons]
          intro pair mem
          rcases List.mem_cons.mp mem with rfl | later
          · exact head
          · exact ih rest pair later

theorem errors_of_ladder (given : q.provided = l) (ordered : l.Pairwise q.direction.precedes)
    (side : ∀ tp ∈ l, q.direction.beyond q.entryLow q.entryHigh tp) :
    q.targetErrors = [] ∧ q.orderErrors = [] := by
  constructor
  · rw [targetErrors_eq_nil_iff]
    exact fun tp mem => side tp (given ▸ List.reduceOption_mem_iff.mpr mem)
  · rw [orderErrors_eq_nil_iff]
    have pairs : q.consecutiveTargets = l.zip l.tail := by
      rw [← given]
      rfl
    rw [pairs]
    exact forall_zip_tail (isChain_iff_pairwise_precedes.mpr ordered)

end Padded

/-- With a target on the right side, the repair does what it is for exactly when rounding
takes no step back. -/
theorem autocorrectTps_repaired_iff (p : Parsed)
    (stated : ∃ tp ∈ p.provided, p.direction.beyond p.entryLow p.entryHigh tp) :
    Repaired p p.autocorrectTps ↔ p.StepsOn := by
  have nonempty : p.orderedTargets ≠ [] := by
    obtain ⟨tp, given, side⟩ := stated
    exact List.ne_nil_of_mem (mem_orderedTargets.mpr ⟨given, side⟩)
  have result : p.autocorrectTps =
      { p with
        tps := p.correctedTargets.map some ++
          List.replicate (8 - p.correctedTargets.length) none } := if_neg nonempty
  have fits : p.correctedTargets.length ≤ 8 :=
    length_correctedTargets_le.trans length_provided_le
  rw [← correctedTargets_pairwise_iff]
  constructor
  · rintro ⟨⟨l, slots, ordered, -⟩, -, -, -⟩
    have same : p.correctedTargets = l := by
      have padded := congrArg List.reduceOption slots
      rw [result, reduceOption_padded, reduceOption_padded] at padded
      exact padded
    rw [same]
    exact ordered
  · intro ordered
    obtain ⟨more, whole⟩ := p.correctedTargets_extends
    have side : ∀ tp ∈ p.correctedTargets, p.direction.beyond p.entryLow p.entryHigh tp := by
      intro tp mem
      rw [whole] at ordered mem
      rcases List.mem_append.mp mem with old | new
      · exact (mem_orderedTargets.mp old).2
      · obtain ⟨first, here⟩ := List.exists_mem_of_ne_nil _ nonempty
        exact beyond_of_precedes (mem_orderedTargets.mp here).2
          ((List.pairwise_append.mp ordered).2.2 first here tp new)
    have slots : p.autocorrectTps.tps = p.correctedTargets.map some ++
        List.replicate (8 - p.correctedTargets.length) none := by rw [result]
    have given := provided_padded slots fits
    rw [result] at slots given ⊢
    obtain ⟨targets, order⟩ := errors_of_ladder given ordered side
    refine ⟨⟨p.correctedTargets, slots, ordered, side, fun tp stated right => ?_,
      length_correctedTargets_le⟩, autocorrectTps_of_ladder slots fits ordered side, targets, order⟩
    rw [whole]
    exact List.mem_append_left _ (mem_orderedTargets.mpr ⟨stated, right⟩)

/-- A buy from 1999 to 2000, whose last target is below its zone. -/
def buyWithTargets (first second : ℚ) : Parsed :=
  ⟨.buy, 1999, 2000, some 1995, [some first, some second, some 1990], none⟩

theorem autocorrectTps_repaired_whole :
    Repaired (buyWithTargets 2010 2005) (buyWithTargets 2010 2005).autocorrectTps := by
  refine (autocorrectTps_repaired_iff (buyWithTargets 2010 2005) ⟨2010, by decide +kernel⟩).mpr ?_
  intro last prev rest ends
  have two : (buyWithTargets 2010 2005).orderedTargets.reverse = [2010, 2005] := by decide +kernel
  rw [two] at ends
  obtain ⟨rfl, tail⟩ := List.cons.inj ends
  obtain ⟨rfl, -⟩ := List.cons.inj tail
  exact ⟨fun _ => by rw [Direction.stepsBeyond]; decide +kernel, fun missing =>
    absurd missing (by decide +kernel)⟩

/-- The step of a thousandth is rounded away: 2000.102 is followed by 2000.10. -/
theorem extrapolated_target_steps_back :
    ¬ ∀ p : Parsed, (∃ tp ∈ p.provided, p.direction.beyond p.entryLow p.entryHigh tp) →
      Repaired p p.autocorrectTps := by
  intro all
  have repaired := all (buyWithTargets (2000101 / 1000) (2000102 / 1000))
    ⟨2000101 / 1000, by decide +kernel⟩
  exact absurd repaired.order (by decide +kernel)

end Parsed

end Forex
