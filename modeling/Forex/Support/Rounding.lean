import Forex.Support.Decimal

/-!
When a number that is rounded to decimals stays within a bound that is not one of them.
-/

namespace Support

/-- The number is below the middle between the last decimal within the bound and the next
one, or in the middle and that decimal is even. -/
def RoundsWithin (n : ℕ) (x bound : ℚ) : Prop :=
  x * 10 ^ n < ⌊bound * 10 ^ n⌋ + 1 / 2 ∨
    x * 10 ^ n = ⌊bound * 10 ^ n⌋ + 1 / 2 ∧ ⌊bound * 10 ^ n⌋ % 2 = 0

instance decidableRoundsWithin (n : ℕ) (x bound : ℚ) : Decidable (RoundsWithin n x bound) :=
  inferInstanceAs (Decidable (_ ∨ _))

theorem roundTo_le_iff (n : ℕ) (x bound : ℚ) : roundTo n x ≤ bound ↔ RoundsWithin n x bound := by
  have pos : (0 : ℚ) < 10 ^ n := by positivity
  rw [roundTo, div_le_iff₀ pos, ← Int.le_floor, ← Int.lt_add_one_iff, roundHalfEven_lt_iff,
    RoundsWithin]
  refine or_congr ?_ (and_congr ?_ ?_)
  · push_cast
    constructor <;> intro below <;> linarith
  · push_cast
    constructor <;> intro same <;> linarith
  · omega

/-- A bound that is a decimal itself is kept. -/
theorem RoundsWithin.of_onGrid {n : ℕ} {x bound : ℚ} (grid : OnGrid n bound) (le : x ≤ bound) :
    RoundsWithin n x bound :=
  (roundTo_le_iff n x bound).mp (roundTo_of_onGrid grid ▸ roundTo_mono n le)

end Support
