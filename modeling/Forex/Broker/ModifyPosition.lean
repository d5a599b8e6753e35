import Forex.Broker.Terminal
import Forex.Support.Decimal

/-!
`_modify_position` of the bridge, on the stop of a position: the level asked for
is clamped to the minimum distance from the price, rounded, and sent; a missing
or zero level leaves the stop of the position, and so does any answer other
than done.
-/

namespace Forex
open Support

/-- `symbol_info` and `symbol_info_tick` of the position's symbol. -/
structure SymbolStops where
  point : ℚ
  stopsLevel : ℕ
  freezeLevel : ℕ
  bid : ℚ
  ask : ℚ

structure ModifyView where
  /-- The terminal is connected and has the position. -/
  found : Bool
  symbol : Option SymbolStops
  /-- `order_send` answers `TRADE_RETCODE_DONE`. -/
  done : Bool

namespace SymbolStops

def minDist (q : SymbolStops) : ℚ :=
  let minPts := max q.stopsLevel q.freezeLevel
  if 0 < minPts then (minPts + 1) * (if q.point = 0 then 1 / 100 else q.point) else 0

def clampStop (direction : Direction) (q : SymbolStops) (sl : ℚ) : ℚ :=
  if 0 < q.minDist ∧ sl ≠ 0 then
    match direction with
    | .buy => if q.bid - q.minDist < sl then roundTo 2 (q.bid - q.minDist) else sl
    | .sell => if sl < q.ask + q.minDist then roundTo 2 (q.ask + q.minDist) else sl
  else sl

end SymbolStops

namespace ModifyView
variable (v : ModifyView) (direction : Direction)

/-- The `sl` of the request; a missing level is a zero one. -/
def requestedStop (posSl sl : ℚ) : ℚ :=
  let sl := match v.symbol with
    | none => sl
    | some q => q.clampStop direction sl
  if sl = 0 then posSl else roundTo 2 sl

end ModifyView

/-- The stop of the position after the call. -/
def modifyPosition (direction : Direction) (v : ModifyView) (posSl : ℚ) (sl : Option ℚ) : ℚ :=
  if v.found && v.done then v.requestedStop direction posSl (sl.getD 0) else posSl

/-- The broker has the level after the call: it takes the request and the
request is for that level, or it refuses and stands there already. -/
def ModifyView.lands (v : ModifyView) (direction : Direction) (posSl sl : ℚ) : Bool :=
  if v.found && v.done then decide (v.requestedStop direction posSl sl = sl)
  else decide (posSl = sl)

theorem modifyPosition_eq_iff (direction : Direction) (v : ModifyView) (posSl sl : ℚ) :
    modifyPosition direction v posSl (some sl) = sl ↔ v.lands direction posSl sl = true := by
  rw [modifyPosition, ModifyView.lands]
  split_ifs
  · exact decide_eq_true_iff.symm
  · exact decide_eq_true_iff.symm

/-- Nothing is asked for, so the position keeps its stop. -/
theorem modifyPosition_none (direction : Direction) (v : ModifyView) (posSl : ℚ) :
    modifyPosition direction v posSl none = posSl := by
  have none : v.requestedStop direction posSl 0 = posSl := by
    rw [ModifyView.requestedStop]
    cases v.symbol with
    | none => exact if_pos rfl
    | some q =>
        have level : q.clampStop direction 0 = 0 := if_neg fun both => both.2 rfl
        exact if_pos level
  rw [modifyPosition]
  split_ifs
  · exact none
  · rfl

end Forex
