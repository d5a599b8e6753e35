import Mathlib.Algebra.BigOperators.Group.List.Basic
import Mathlib.Algebra.Order.BigOperators.Group.List
import Mathlib.Algebra.Order.Ring.Defs
import Mathlib.Tactic.LinearCombination
import Mathlib.Tactic.Linarith

/-!
A position that is closed in parts, each of them at a gain. What is not closed yet is
never negative, and with the rest closed no lower than at a distance below the entry the
whole of it loses no more than that distance.
-/

namespace Support
universe u
variable {K : Type u} [CommRing K] [LinearOrder K]

/-- The parts, by gain and size, with what is left and what they have brought in. -/
structure Parted (lot : K) (parts : List (K × K)) (left banked : K) : Prop where
  whole : (parts.map Prod.snd).sum + left = lot
  left_nonneg : 0 ≤ left
  sizes : ∀ p ∈ parts, 0 ≤ p.2
  gains : ∀ p ∈ parts, 0 ≤ p.1
  banked_eq : banked = (parts.map fun p => p.1 * p.2).sum

namespace Parted
variable {lot left banked : K} {parts : List (K × K)}

theorem start (nonneg : 0 ≤ lot) : Parted lot [] lot 0 where
  whole := zero_add lot
  left_nonneg := nonneg
  sizes _ mem := absurd mem List.not_mem_nil
  gains _ mem := absurd mem List.not_mem_nil
  banked_eq := rfl

variable [IsStrictOrderedRing K]

/-- A part of what is left, at a gain that is not negative. -/
theorem close (parted : Parted lot parts left banked) {gain size : K} (gains : 0 ≤ gain)
    (nonneg : 0 ≤ size) (le : size ≤ left) :
    Parted lot (parts ++ [(gain, size)]) (left - size) (banked + gain * size) where
  whole := by
    rw [List.map_append, List.sum_append, List.map_singleton, List.sum_singleton]
    linear_combination parted.whole
  left_nonneg := sub_nonneg.mpr le
  sizes p mem := by
    rcases List.mem_append.mp mem with old | new
    · exact parted.sizes p old
    · rw [List.mem_singleton.mp new]
      exact nonneg
  gains p mem := by
    rcases List.mem_append.mp mem with old | new
    · exact parted.gains p old
    · rw [List.mem_singleton.mp new]
      exact gains
  banked_eq := by
    rw [List.map_append, List.sum_append, List.map_singleton, List.sum_singleton,
      parted.banked_eq]

theorem banked_nonneg (parted : Parted lot parts left banked) : 0 ≤ banked := by
  rw [parted.banked_eq]
  refine List.sum_nonneg fun x mem => ?_
  obtain ⟨p, held, rfl⟩ := List.mem_map.mp mem
  exact mul_nonneg (parted.gains p held) (parted.sizes p held)

/-- What is left behind each of the parts. -/
theorem sum_take_le (parted : Parted lot parts left banked) (n : ℕ) :
    ((parts.take n).map Prod.snd).sum ≤ lot := by
  have rest : 0 ≤ ((parts.drop n).map Prod.snd).sum := by
    refine List.sum_nonneg fun x mem => ?_
    obtain ⟨p, held, rfl⟩ := List.mem_map.mp mem
    exact parted.sizes p (List.mem_of_mem_drop held)
  have split : ((parts.take n).map Prod.snd).sum + ((parts.drop n).map Prod.snd).sum =
      (parts.map Prod.snd).sum := by
    rw [← List.sum_append, ← List.map_append, List.take_append_drop]
  have whole := parted.whole
  have left_nonneg := parted.left_nonneg
  linarith

theorem left_le (parted : Parted lot parts left banked) : left ≤ lot := by
  have sizes : 0 ≤ (parts.map Prod.snd).sum := by
    refine List.sum_nonneg fun x mem => ?_
    obtain ⟨p, held, rfl⟩ := List.mem_map.mp mem
    exact parted.sizes p held
  have whole := parted.whole
  linarith

/-- The rest closed at the distance or better loses no more than the distance. -/
theorem neg_mul_le (parted : Parted lot parts left banked) {dist last : K} (nonneg : 0 ≤ dist)
    (le : -dist ≤ last) : -(lot * dist) ≤ banked + last * left := by
  have rest : -dist * left ≤ last * left := mul_le_mul_of_nonneg_right le parted.left_nonneg
  have most : left * dist ≤ lot * dist := mul_le_mul_of_nonneg_right parted.left_le nonneg
  have banked_nonneg := parted.banked_nonneg
  linarith

end Parted
end Support
