import Mathlib.Data.List.Nodup
import Mathlib.Data.List.Range

/-!
A range of indices that is cut at increasing bounds. The blocks are not empty, they stand
in order, and every index lies in one of them.
-/

namespace Support

/-- The indices from one bound to the next. -/
def block (bound : ℕ → ℕ) (f : ℕ) : List ℕ := List.range' (bound f) (bound (f + 1) - bound f)

/-- Lists of consecutive indices that share out the indices from `first` up to `n`. -/
structure BlocksOf (first n : ℕ) (blocks : List (List ℕ)) : Prop where
  nonempty : ∀ b ∈ blocks, b ≠ []
  contiguous : ∀ b ∈ blocks, ∃ start length, b = List.range' start length
  disjoint : blocks.Pairwise List.Disjoint
  covers : ∀ i, (∃ b ∈ blocks, i ∈ b) ↔ first ≤ i ∧ i < n

section Block
variable {bound : ℕ → ℕ} {k : ℕ}

theorem mem_block {f i : ℕ} : i ∈ block bound f ↔ bound f ≤ i ∧ i < bound (f + 1) := by
  rw [block, List.mem_range'_1]
  omega

variable (rises : ∀ f < k, bound f < bound (f + 1))
include rises

theorem bound_le {f g : ℕ} (le : f ≤ g) (inside : g ≤ k) : bound f ≤ bound g := by
  induction g, le using Nat.le_induction with
  | base => exact le_rfl
  | succ g _ ih => exact (ih (by omega)).trans (rises g (by omega)).le

theorem block_ne_nil {f : ℕ} (inside : f < k) : block bound f ≠ [] :=
  List.ne_nil_of_mem (mem_block.mpr ⟨le_rfl, rises f inside⟩)

/-- An earlier block stands before a later one. -/
theorem lt_of_mem_block {f g i j : ℕ} (before : f < g) (inside : g ≤ k)
    (mem : i ∈ block bound f) (mem' : j ∈ block bound g) : i < j :=
  (mem_block.mp mem).2.trans_le ((bound_le rises before inside).trans (mem_block.mp mem').1)

theorem exists_block {i : ℕ} (least : bound 0 ≤ i) (most : i < bound k) :
    ∃ f < k, i ∈ block bound f := by
  induction k with
  | zero => omega
  | succ k ih =>
      by_cases last : bound k ≤ i
      · exact ⟨k, k.lt_succ_self, mem_block.mpr ⟨last, most⟩⟩
      · obtain ⟨f, inside, mem⟩ := ih (fun f lt => rises f (by omega)) (not_le.mp last)
        exact ⟨f, by omega, mem⟩

theorem blocksOf_range : BlocksOf (bound 0) (bound k) ((List.range k).map (block bound)) where
  nonempty b mem := by
    obtain ⟨f, inside, rfl⟩ := List.mem_map.mp mem
    exact block_ne_nil rises (List.mem_range.mp inside)
  contiguous b mem := by
    obtain ⟨f, -, rfl⟩ := List.mem_map.mp mem
    exact ⟨_, _, rfl⟩
  disjoint := by
    rw [List.pairwise_map]
    refine List.Pairwise.imp_of_mem ?_ List.pairwise_lt_range
    intro f g _ inside before i mem mem'
    have := lt_of_mem_block rises before (List.mem_range.mp inside).le mem mem'
    omega
  covers i := by
    constructor
    · rintro ⟨b, listed, mem⟩
      obtain ⟨f, inside, rfl⟩ := List.mem_map.mp listed
      have lt := List.mem_range.mp inside
      obtain ⟨least, most⟩ := mem_block.mp mem
      exact ⟨(bound_le rises f.zero_le lt.le).trans least,
        most.trans_le (bound_le rises lt le_rfl)⟩
    · rintro ⟨least, most⟩
      obtain ⟨f, inside, mem⟩ := exists_block rises least most
      exact ⟨_, List.mem_map_of_mem (List.mem_range.mpr inside), mem⟩

end Block

end Support
