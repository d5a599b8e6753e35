import Forex.Broker.ModifyPosition
import Forex.Broker.Sides
import Forex.Support.Rounding
import Mathlib.Tactic.LinearCombination

/-!
The stop that `_modify_position` sends, against the one that the position has. The clamp
knows the market and the distance of the broker only: where the market has come nearer to
the stop than that, a tighter request is answered with a looser stop.
-/

namespace Forex
open Support

namespace SymbolStops
variable (q : SymbolStops) (d : Direction)

def minPts : ℕ := max q.stopsLevel q.freezeLevel

/-- `getattr(info, "point", 0.01) or 0.01`. -/
def pointInUse : ℚ := if q.point = 0 then 1 / 100 else q.point

/-- The distance that the broker keeps stops away; the clamp keeps a point more. -/
def brokerDist : ℚ := q.minPts * q.pointInUse

/-- The price at which the position is closed. -/
def market : Direction → ℚ
  | .buy => q.bid
  | .sell => q.ask

/-- The stop sent is no further from the market than the one there is, and not within the
distance of the broker. -/
structure StopKept (posSl sent : ℚ) : Prop where
  noLooser : d.sign * posSl ≤ d.sign * sent
  outside : 0 < q.minPts → q.brokerDist ≤ d.sign * (q.market d - sent)

/-- The request is nearer to the market than the clamp lets through. -/
def Crowds (sl : ℚ) : Prop := 0 < q.minDist ∧ d.sign * (q.market d - sl) < q.minDist

instance (sl : ℚ) : Decidable (q.Crowds d sl) := inferInstanceAs (Decidable (_ ∧ _))

/-- The level of the clamp, which does not depend on the request: rounding takes it neither
past the stop there is nor to the broker's distance. -/
structure ClampFits (posSl : ℚ) : Prop where
  behind : RoundsWithin 2 (q.minDist - d.sign * q.market d) (-(d.sign * posSl))
  outside : RoundsWithin 2 (d.sign * q.market d - q.minDist) (d.sign * q.market d - q.brokerDist)

/-- Rounding takes the request neither past the stop there is nor into the distance. -/
structure RequestFits (posSl sl : ℚ) : Prop where
  behind : RoundsWithin 2 (-(d.sign * sl)) (-(d.sign * posSl))
  outside : 0 < q.minPts →
    RoundsWithin 2 (d.sign * sl) (d.sign * q.market d - q.brokerDist)

/-- A clamp level of zero cents is no level, and the stop there is is sent again. -/
def ClampsToZero : Prop := |q.market d - d.sign * q.minDist| ≤ 1 / 200

instance : Decidable (q.ClampsToZero d) := inferInstanceAs (Decidable (_ ≤ _))

def StopFits (posSl sl : ℚ) : Prop :=
  if q.Crowds d sl then
    if q.ClampsToZero d then q.brokerDist ≤ d.sign * (q.market d - posSl)
    else q.ClampFits d posSl
  else q.RequestFits d posSl sl

variable {q d}

theorem minPts_pos_of_minDist (far : 0 < q.minDist) : 0 < q.minPts := by
  by_contra none
  have flat : q.minDist = 0 := if_neg none
  exact far.ne' flat

theorem clampStop_eq {sl : ℚ} (asked : sl ≠ 0) :
    q.clampStop d sl =
      if q.Crowds d sl then roundTo 2 (q.market d - d.sign * q.minDist) else sl := by
  by_cases far : 0 < q.minDist
  · cases d with
    | buy =>
        simp only [clampStop, Crowds, market, Direction.sign, one_mul, far, asked, ne_eq,
          not_false_eq_true, and_self, true_and, if_true]
        refine if_congr ?_ rfl rfl
        constructor <;> intro near <;> linarith
    | sell =>
        simp only [clampStop, Crowds, market, Direction.sign, neg_one_mul, sub_neg_eq_add, far,
          asked, ne_eq, not_false_eq_true, and_self, true_and, if_true]
        refine if_congr ?_ rfl rfl
        constructor <;> intro near <;> linarith
  · simp only [clampStop, Crowds, far, false_and, if_false]

theorem roundTo_eq_zero_iff (x : ℚ) : roundTo 2 x = 0 ↔ |x| ≤ 1 / 200 := by
  have scaled : |x * 10 ^ 2| = |x| * 100 := by
    rw [abs_mul]
    norm_num
  have cents : roundTo 2 x = 0 ↔ roundHalfEven (x * 10 ^ 2) = 0 := by
    rw [roundTo, div_eq_zero_iff]
    norm_num
  rw [cents, roundHalfEven_eq_iff, Int.cast_zero, sub_zero, scaled, le_iff_lt_or_eq]
  refine or_congr ?_ ((and_iff_left rfl).trans ?_)
  · constructor <;> intro small <;> linarith
  · constructor <;> intro half <;> linarith

theorem sign_market_sub (x : ℚ) :
    d.sign * (q.market d - x) = d.sign * q.market d - d.sign * x :=
  mul_sub _ _ _

/-- A level in cents, seen from the side of the position. -/
theorem stopKept_roundTo_iff {posSl x : ℚ} :
    q.StopKept d posSl (roundTo 2 x) ↔
      RoundsWithin 2 (-(d.sign * x)) (-(d.sign * posSl)) ∧
        (0 < q.minPts →
          RoundsWithin 2 (d.sign * x) (d.sign * q.market d - q.brokerDist)) := by
  have behind : RoundsWithin 2 (-(d.sign * x)) (-(d.sign * posSl)) ↔
      d.sign * posSl ≤ d.sign * roundTo 2 x := by
    rw [← roundTo_le_iff, roundTo_neg, neg_le_neg_iff, d.sign_roundTo]
  have outside : RoundsWithin 2 (d.sign * x) (d.sign * q.market d - q.brokerDist) ↔
      q.brokerDist ≤ d.sign * (q.market d - roundTo 2 x) := by
    rw [← roundTo_le_iff, sign_market_sub, d.sign_roundTo]
    exact le_sub_comm
  rw [behind, outside]
  exact ⟨fun kept => ⟨kept.noLooser, kept.outside⟩, fun both => ⟨both.1, both.2⟩⟩

/-- At the level of the clamp. -/
theorem clamped_kept_iff {posSl : ℚ} (far : 0 < q.minDist) :
    q.StopKept d posSl (roundTo 2 (q.market d - d.sign * q.minDist)) ↔ q.ClampFits d posSl := by
  have side : d.sign * (q.market d - d.sign * q.minDist) = d.sign * q.market d - q.minDist := by
    linear_combination (-q.minDist) * d.sign_mul_sign
  rw [stopKept_roundTo_iff, side, neg_sub, forall_prop_of_true (minPts_pos_of_minDist far)]
  exact ⟨fun both => ⟨both.1, both.2⟩, fun fits => ⟨fits.behind, fits.outside⟩⟩

theorem requestedStop_eq {v : ModifyView} {posSl sl : ℚ} (symbol : v.symbol = some q)
    (asked : sl ≠ 0) :
    v.requestedStop d posSl sl =
      if q.Crowds d sl then
        if q.ClampsToZero d then posSl else roundTo 2 (q.market d - d.sign * q.minDist)
      else roundTo 2 sl := by
  have level : v.requestedStop d posSl sl =
      if q.clampStop d sl = 0 then posSl else roundTo 2 (q.clampStop d sl) := by
    rw [ModifyView.requestedStop, symbol]
  rw [level, clampStop_eq asked]
  by_cases crowds : q.Crowds d sl
  · simp only [if_pos crowds, roundTo_eq_zero_iff, roundTo_of_onGrid (roundTo_onGrid 2 _)]
    rfl
  · simp only [if_neg crowds, if_neg asked]

end SymbolStops

/-- The stop of the request is kept exactly if the one there is is as far from the market as
the clamp wants it, or the clamp lets the request through, and rounding takes neither of the
two over its bound. -/
theorem modify_stop_kept_iff (d : Direction) (v : ModifyView) (q : SymbolStops) (posSl sl : ℚ)
    (symbol : v.symbol = some q) (asked : sl ≠ 0) :
    q.StopKept d posSl (v.requestedStop d posSl sl) ↔ q.StopFits d posSl sl := by
  rw [SymbolStops.requestedStop_eq symbol asked, SymbolStops.StopFits]
  split_ifs with crowds zero
  · have levels := SymbolStops.minPts_pos_of_minDist crowds.1
    exact ⟨fun kept => kept.outside levels, fun outside => ⟨le_rfl, fun _ => outside⟩⟩
  · exact SymbolStops.clamped_kept_iff crowds.1
  · rw [SymbolStops.stopKept_roundTo_iff]
    exact ⟨fun both => ⟨both.1, both.2⟩, fun fits => ⟨fits.behind, fits.outside⟩⟩

/-- A hundred points of distance, and the market at 2000. -/
def hundredPoints : SymbolStops := ⟨1 / 100, 100, 0, 2000, 2000⟩

def connected : ModifyView := ⟨true, some hundredPoints, true⟩

theorem modify_stop_kept_two_below :
    hundredPoints.StopKept .buy 1998 (connected.requestedStop .buy 1998 (1998 + 1 / 2)) := by
  refine (modify_stop_kept_iff .buy connected hundredPoints 1998 (1998 + 1 / 2) rfl
    (by norm_num)).mpr ?_
  rw [SymbolStops.StopFits, if_neg (by decide +kernel)]
  exact ⟨by decide +kernel, fun _ => by decide +kernel⟩

/-- The market is half a point above the stop of a buy: a request for a tighter one takes it
half a point down. -/
theorem modify_stop_loosened :
    ¬ ∀ (d : Direction) (v : ModifyView) (q : SymbolStops) (posSl sl : ℚ),
      v.symbol = some q → posSl ≠ 0 → sl ≠ 0 → d.sign * posSl ≤ d.sign * sl →
        q.StopKept d posSl (v.requestedStop d posSl sl) := by
  intro all
  have kept := all .buy connected hundredPoints (1999 + 1 / 2) (1999 + 6 / 10) rfl
    (by norm_num) (by norm_num) (by decide +kernel)
  exact absurd kept.noLooser (by decide +kernel)

end Forex
