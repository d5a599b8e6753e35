import Mathlib.Algebra.BigOperators.Group.Finset.Basic
import Mathlib.Algebra.BigOperators.Intervals
import Mathlib.Algebra.Order.Group.MinMax
import Mathlib.Order.Bounds.Basic
import Mathlib.Tactic.Abel

/-!
What an interval has in common with the cells of a grid, and lists of cells that shares are
added to. An interval within the grid is shared out among its cells. The grid goes from the
least of some values to the greatest.
-/

namespace Support
open Finset

section Extremes
variable {α K : Type*} [LinearOrder K] {as : List α} {f : α → K} {x : K}

theorem isLeast_of_min? (least : (as.map f).min? = some x) :
    IsLeast { x | ∃ a ∈ as, f a = x } x := by
  obtain ⟨mem, below⟩ := List.min?_eq_some_iff.mp least
  refine ⟨List.mem_map.mp mem, ?_⟩
  rintro y ⟨a, listed, rfl⟩
  exact below _ (List.mem_map_of_mem listed)

theorem isGreatest_of_max? (most : (as.map f).max? = some x) :
    IsGreatest { x | ∃ a ∈ as, f a = x } x := by
  obtain ⟨mem, above⟩ := List.max?_eq_some_iff.mp most
  refine ⟨List.mem_map.mp mem, ?_⟩
  rintro y ⟨a, listed, rfl⟩
  exact above _ (List.mem_map_of_mem listed)

variable (some_ : as ≠ []) (f)
include some_

theorem exists_min? : ∃ x, (as.map f).min? = some x :=
  Option.isSome_iff_exists.mp
    (List.isSome_min?_of_ne_nil (List.map_eq_nil_iff.not.mpr some_ : as.map f ≠ []))

theorem exists_max? : ∃ x, (as.map f).max? = some x :=
  Option.isSome_iff_exists.mp
    (List.isSome_max?_of_ne_nil (List.map_eq_nil_iff.not.mpr some_ : as.map f ≠ []))

end Extremes

section Overlap
variable {K : Type*} [AddCommGroup K] [LinearOrder K] [IsOrderedAddMonoid K] {lo hi a b : K}

/-- The length that two intervals have in common. -/
def overlapLength (lo hi a b : K) : K := max 0 (min hi b - max lo a)

/-- The point of an interval that is next to `x`. -/
def nearest (lo hi x : K) : K := max lo (min hi x)

/-- What a cell covers of an interval lies between the points next to its ends. -/
theorem overlapLength_eq (le : lo ≤ hi) (cell : a ≤ b) :
    overlapLength lo hi a b = nearest lo hi b - nearest lo hi a := by
  rcases le_or_gt b lo with before | starts
  · have none : min hi b - max lo a ≤ 0 :=
      sub_nonpos.mpr (((min_le_right _ _).trans before).trans (le_max_left _ _))
    have ends : nearest lo hi b = lo := max_eq_left ((min_le_right _ _).trans before)
    have begins : nearest lo hi a = lo :=
      max_eq_left ((min_le_right _ _).trans (cell.trans before))
    rw [overlapLength, max_eq_left none, ends, begins, sub_self]
  · rcases le_or_gt hi a with behind | ends
    · have none : min hi b - max lo a ≤ 0 :=
        sub_nonpos.mpr (((min_le_left _ _).trans behind).trans (le_max_right _ _))
      rw [overlapLength, max_eq_left none, nearest, nearest, min_eq_left behind,
        min_eq_left (behind.trans cell), sub_self]
    · have some : max lo a ≤ min hi b :=
        max_le (le_min le starts.le) (le_min ends.le cell)
      rw [overlapLength, max_eq_right (sub_nonneg.mpr some), nearest, nearest,
        min_eq_right ends.le, max_eq_right (le_min le starts.le)]

/-- An interval within a grid is covered by its cells. -/
theorem sum_overlapLength (edge : ℕ → K) {n : ℕ} (rises : ∀ i < n, edge i ≤ edge (i + 1))
    (le : lo ≤ hi) (first : edge 0 ≤ lo) (last : hi ≤ edge n) :
    ∑ i ∈ range n, overlapLength lo hi (edge i) (edge (i + 1)) = hi - lo := by
  have each : ∀ i ∈ range n, overlapLength lo hi (edge i) (edge (i + 1)) =
      nearest lo hi (edge (i + 1)) - nearest lo hi (edge i) :=
    fun i mem => overlapLength_eq le (rises i (mem_range.mp mem))
  have starts : nearest lo hi (edge 0) = lo := max_eq_left ((min_le_right _ _).trans first)
  have ends : nearest lo hi (edge n) = hi := by rw [nearest, min_eq_left last, max_eq_right le]
  rw [sum_congr rfl each, sum_range_sub fun i => nearest lo hi (edge i), starts, ends]

end Overlap

section Shares
variable {K : Type*} [AddCommMonoid K] {share : ℕ → K} {cells : List K}

/-- Each cell with its share. -/
def addShares (share : ℕ → K) (cells : List K) : List K := cells.mapIdx fun i c => c + share i

@[simp] theorem length_addShares : (addShares share cells).length = cells.length :=
  List.length_mapIdx

theorem sum_addShares (share : ℕ → K) (cells : List K) :
    (addShares share cells).sum = cells.sum + ∑ i ∈ range cells.length, share i := by
  induction cells generalizing share with
  | nil => simp [addShares]
  | cons c cells ih =>
      have rest := ih fun i => share (i + 1)
      rw [addShares] at rest ⊢
      rw [List.mapIdx_cons, List.sum_cons, rest, List.sum_cons, List.length_cons,
        sum_range_succ']
      abel

theorem modify_add_eq_addShares (k : ℕ) (w : K) :
    cells.modify k (· + w) = addShares (fun i => if i = k then w else 0) cells := by
  apply List.ext_getElem?
  intro i
  rw [addShares, List.getElem?_mapIdx, List.getElem?_modify]
  by_cases here : k = i
  · simp [here]
  · simp [here, Ne.symm here]

theorem addShares_nonneg [PartialOrder K] [IsOrderedAddMonoid K] (cells_nonneg : ∀ c ∈ cells, 0 ≤ c)
    (share_nonneg : ∀ i, 0 ≤ share i) : ∀ c ∈ addShares share cells, 0 ≤ c := by
  intro c mem
  obtain ⟨i, inside, rfl⟩ := List.mem_mapIdx.mp mem
  exact add_nonneg (cells_nonneg _ (List.getElem_mem _)) (share_nonneg i)

end Shares

end Support
