import Forex.Broker.Terminal
import Forex.Support.Decimal

/-!
Prices seen from the side of a trade: the sign of its direction turns a sell into a buy.
-/

namespace Forex
open Support

namespace Direction
variable (d : Direction)

theorem sign_mul_sign : d.sign * d.sign = 1 := by
  cases d <;> norm_num [Direction.sign]

theorem abs_sign_mul (x : ℚ) : |d.sign * x| = |x| := by
  cases d <;> simp [Direction.sign]

theorem sign_roundTo (n : ℕ) (x : ℚ) : d.sign * roundTo n x = roundTo n (d.sign * x) := by
  cases d with
  | buy => simp [Direction.sign]
  | sell => simp [Direction.sign, roundTo_neg]

end Direction

end Forex
