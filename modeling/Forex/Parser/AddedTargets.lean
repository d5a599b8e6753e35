import Forex.Telegram.TpAutocorrect
import Mathlib.Tactic.Positivity

/-!
The targets that `_autocorrect_tps` adds to a ladder follow its last step. Up, they stay
above zero; down, they do as far as there is room.
-/

namespace Forex
open Support

/-- The first and the last of the targets added are not below zero: the first is a step on
from the last stated, and from the second on the steps are all the same. -/
def AddedAboveZero (n : ℕ) (prev last : ℚ) : Prop :=
  let first := roundTo 2 (last + (last - prev))
  let second := roundTo 2 (first + (first - last))
  (1 ≤ n → 0 ≤ first) ∧ (2 ≤ n → 0 ≤ second + (n - 2) * (second - first))

/-- A ladder that goes down has the room for what is added to it. -/
def Parsed.StaysAboveZero (p : Parsed) : Prop :=
  p.direction = .sell →
    ∀ last prev rest, p.orderedTargets.reverse = last :: prev :: rest →
      AddedAboveZero p.missing prev last

/-- From two targets in cents on, the steps are all the same. -/
theorem extrapolated_nonneg_of_onGrid {prev last : ℚ} (prevGrid : OnGrid 2 prev)
    (lastGrid : OnGrid 2 last) (n : ℕ) :
    (∀ tp ∈ extrapolated n prev last, 0 ≤ tp) ↔
      ∀ k : ℕ, k < n → 0 ≤ last + (k + 1) * (last - prev) := by
  induction n generalizing prev last with
  | zero => simp [extrapolated]
  | succ n ih =>
      have next : roundTo 2 (last + (last - prev)) = last + (last - prev) :=
        roundTo_of_onGrid (lastGrid.add (lastGrid.sub prevGrid))
      rw [extrapolated, next, List.forall_mem_cons,
        ih lastGrid (lastGrid.add (lastGrid.sub prevGrid))]
      have later (k : ℕ) : last + (last - prev) + (k + 1) * (last + (last - prev) - last) =
          last + ((k + 1 : ℕ) + 1) * (last - prev) := by
        push_cast
        ring
      simp only [later]
      constructor
      · rintro ⟨first, rest⟩ k within
        cases k with
        | zero => simpa using first
        | succ k => exact rest k (Nat.lt_of_succ_lt_succ within)
      · intro all
        exact ⟨by simpa using all 0 n.succ_pos,
          fun k within => all (k + 1) (Nat.succ_lt_succ within)⟩

/-- Steps in one direction between two numbers that are not below zero. -/
theorem steps_nonneg {first second : ℚ} {k n : ℕ} (within : k ≤ n) (start : 0 ≤ first)
    (stop : 0 ≤ second + n * (second - first)) : 0 ≤ second + k * (second - first) := by
  rcases le_total first second with up | down
  · have further : 0 ≤ (k : ℚ) * (second - first) :=
      mul_nonneg (Nat.cast_nonneg k) (sub_nonneg.mpr up)
    linarith
  · have further : (n : ℚ) * (second - first) ≤ k * (second - first) :=
      mul_le_mul_of_nonpos_right (Nat.cast_le.mpr within) (sub_nonpos.mpr down)
    linarith

theorem extrapolated_nonneg_iff (prev last : ℚ) (n : ℕ) :
    (∀ tp ∈ extrapolated n prev last, 0 ≤ tp) ↔ AddedAboveZero n prev last := by
  rw [AddedAboveZero]
  match n with
  | 0 => simp [extrapolated]
  | 1 => simp [extrapolated]
  | n + 2 =>
      rw [extrapolated, extrapolated, List.forall_mem_cons, List.forall_mem_cons,
        extrapolated_nonneg_of_onGrid (roundTo_onGrid 2 _) (roundTo_onGrid 2 _)]
      generalize roundTo 2 (last + (last - prev)) = first
      generalize roundTo 2 (first + (first - last)) = second
      have count : ((n + 2 : ℕ) : ℚ) - 2 = n := by
        push_cast
        ring
      simp only [count]
      constructor
      · rintro ⟨start, next, rest⟩
        refine ⟨fun _ => start, fun _ => ?_⟩
        cases n with
        | zero => simpa using next
        | succ n => simpa using rest n n.lt_succ_self
      · rintro ⟨start, stop⟩
        have start := start (by omega)
        have stop := stop (by omega)
        refine ⟨start, ?_, fun k within => ?_⟩
        · simpa using steps_nonneg n.zero_le start stop
        · simpa using steps_nonneg (Nat.succ_le_of_lt within) start stop

/-- A ladder that goes up from prices does not come down below zero. -/
theorem extrapolated_nonneg_of_up {prev last : ℚ} (up : prev < last) (start : 0 ≤ last) (n : ℕ) :
    ∀ tp ∈ extrapolated n prev last, 0 ≤ tp := by
  rw [extrapolated_nonneg_iff, AddedAboveZero]
  have near := abs_le.mp (abs_roundTo_sub_le 2 (last + (last - prev)))
  have first_nonneg : 0 ≤ roundTo 2 (last + (last - prev)) := roundTo_nonneg 2 (by linarith)
  have grid : OnGrid 2 (roundTo 2 (last + (last - prev))) := roundTo_onGrid 2 _
  generalize roundTo 2 (last + (last - prev)) = first at near first_nonneg grid
  -- the first is less than half a cent below the last, so the second is not below the first
  have forward : first ≤ roundTo 2 (first + (first - last)) := by
    obtain ⟨k, rfl⟩ := grid
    rw [← not_lt, roundTo_lt_div_iff]
    rintro (below | ⟨middle, -⟩)
    · norm_num at near below
      linarith
    · norm_num at near middle
      linarith
  refine ⟨fun _ => first_nonneg, fun two => ?_⟩
  have more : (0 : ℚ) ≤ n - 2 := sub_nonneg.mpr (by exact_mod_cast two)
  have further := mul_nonneg more (sub_nonneg.mpr forward)
  linarith

/-- Prices that are not negative, and an entry in order. -/
def Parsed.Sound (p : Parsed) : Prop :=
  (0 ≤ p.entryLow ∧ p.entryLow ≤ p.entryHigh) ∧ (∀ stop ∈ p.stopLoss, 0 ≤ stop) ∧
    ∀ tp ∈ p.tps, ∀ price ∈ tp, 0 ≤ price

instance (p : Parsed) : Decidable p.Sound := inferInstanceAs (Decidable (_ ∧ _ ∧ _))

namespace Parsed
variable {p : Parsed}

theorem Sound.orderedTargets (h : p.Sound) : ∀ tp ∈ p.orderedTargets, 0 ≤ tp := by
  intro tp mem
  obtain ⟨given, -⟩ := mem_orderedTargets.mp mem
  rw [provided, List.reduceOption_mem_iff] at given
  exact h.2.2 (some tp) (List.mem_of_mem_take given) tp rfl

/-- The targets added to a ladder from prices. -/
theorem Sound.correctedTargets_iff (h : p.Sound) :
    (∀ tp ∈ p.correctedTargets, 0 ≤ tp) ↔ p.StaysAboveZero := by
  by_cases few : p.orderedTargets.length < 2
  · rw [correctedTargets_of_few few]
    exact iff_of_true h.orderedTargets fun _ _ _ _ ends => absurd few (two_of_ends ends)
  · obtain ⟨last, prev, rest, ends⟩ := ends_of_two (not_lt.mp few)
    have whole : p.orderedTargets = rest.reverse ++ [prev, last] := orderedTargets_eq ends
    have only : p.StaysAboveZero ↔
        (p.direction = .sell → AddedAboveZero p.missing prev last) :=
      forall_congr' fun _ => forall_ends_iff ends
    rw [correctedTargets_eq ends, List.forall_mem_append, and_iff_right h.orderedTargets,
      extrapolated_nonneg_iff, only]
    cases side : p.direction with
    | sell => exact ⟨fun above _ => above, fun all => all rfl⟩
    | buy =>
        refine iff_of_true ?_ fun sell => Direction.noConfusion sell
        have ordered := p.pairwise_orderedTargets
        rw [whole, List.pairwise_append, side] at ordered
        have up : prev < last := (List.pairwise_pair.mp ordered.2.1)
        have start := h.orderedTargets last (by rw [whole]; simp)
        exact (extrapolated_nonneg_iff prev last _).mp (extrapolated_nonneg_of_up up start _)

theorem Sound.autocorrectTps_iff (h : p.Sound) : p.autocorrectTps.Sound ↔ p.StaysAboveZero := by
  rw [← h.correctedTargets_iff, autocorrectTps]
  split_ifs with unsided
  · refine iff_of_true h ?_
    rw [correctedTargets_of_few (by simp [unsided]), unsided]
    exact List.forall_mem_nil _
  · have slots : (∀ tp ∈ p.correctedTargets.map some ++
        List.replicate (8 - p.correctedTargets.length) none, ∀ price ∈ tp, 0 ≤ price) ↔
          ∀ tp ∈ p.correctedTargets, 0 ≤ tp := by
      rw [List.forall_mem_append, List.forall_mem_map]
      simp
    rw [Sound, slots]
    exact ⟨fun all => all.2.2, fun all => ⟨h.1, h.2.1, all⟩⟩

end Parsed

end Forex
