import Mathlib.Algebra.Order.Floor.Ring
import Mathlib.Data.Rat.Floor

/-!
The trading week, by the hours of UTC. Times are seconds since the epoch, which
was a Thursday. The market's weekend is one stretch of 49 hours a week.
-/

namespace Forex

def hourOf (now : ℚ) : ℤ := ⌊now / 3600⌋

/-- Monday is 0. -/
def weekdayOf (now : ℚ) : ℤ := (hourOf now / 24 + 3) % 7

def isWeeklyMarketClosed (now : ℚ) : Bool :=
  let weekday := weekdayOf now
  let hour := hourOf now % 24
  if weekday = 5 then true
  else if weekday = 6 then decide (hour < 22)
  else if weekday = 4 then decide (21 ≤ hour)
  else false

/-- The Friday evening at which the market closes, in the given week. -/
def weekendStart (week : ℤ) : ℚ := week * 604800 + 162000

def weekendLength : ℚ := 49 * 3600

theorem weekendStart_le_iff (week : ℤ) (now : ℚ) :
    weekendStart week ≤ now ↔ 168 * week + 45 ≤ hourOf now := by
  rw [hourOf, Int.le_floor, le_div_iff₀ (by norm_num), weekendStart]
  push_cast
  constructor
  · intro started
    linarith
  · intro started
    linarith

theorem lt_weekendEnd_iff (week : ℤ) (now : ℚ) :
    now < weekendStart week + weekendLength ↔ hourOf now < 168 * week + 94 := by
  rw [hourOf, Int.floor_lt, div_lt_iff₀ (by norm_num), weekendStart, weekendLength]
  push_cast
  constructor
  · intro before
    linarith
  · intro before
    linarith

theorem isWeeklyMarketClosed_iff_hours (now : ℚ) :
    isWeeklyMarketClosed now = true ↔
      ∃ week : ℤ, 168 * week + 45 ≤ hourOf now ∧ hourOf now < 168 * week + 94 := by
  have within : isWeeklyMarketClosed now = true ↔
      45 ≤ hourOf now % 168 ∧ hourOf now % 168 < 94 := by
    simp only [isWeeklyMarketClosed, weekdayOf]
    by_cases saturday : (hourOf now / 24 + 3) % 7 = 5
    · simp only [saturday, if_true, true_iff]
      omega
    by_cases sunday : (hourOf now / 24 + 3) % 7 = 6
    · simp only [sunday, if_true, decide_eq_true_eq, show ¬(6 : ℤ) = 5 by decide, if_false]
      omega
    by_cases friday : (hourOf now / 24 + 3) % 7 = 4
    · simp only [friday, if_true, decide_eq_true_eq, show ¬(4 : ℤ) = 5 by decide,
        show ¬(4 : ℤ) = 6 by decide, if_false]
      omega
    · simp only [saturday, sunday, friday, if_false, Bool.false_eq_true, false_iff]
      omega
  rw [within]
  constructor
  · intro hours
    exact ⟨hourOf now / 168, by omega, by omega⟩
  · rintro ⟨week, started, before⟩
    omega

/-- The market is closed exactly within the 49 hours of some weekend. -/
theorem isWeeklyMarketClosed_iff (now : ℚ) :
    isWeeklyMarketClosed now = true ↔
      ∃ week : ℤ, weekendStart week ≤ now ∧ now < weekendStart week + weekendLength := by
  simp only [weekendStart_le_iff, lt_weekendEnd_iff]
  exact isWeeklyMarketClosed_iff_hours now

end Forex
