import Forex.Backtest.Atr
import Forex.Backtest.LadderWalk
import Forex.Support.Loop

/-!
The simulators of a backtest. The seven that are not ladders share one loop: the
stop first, then what the strategy does with the bar, and a close at the market
when the bars run out. The ladders and the templates have walks of their own,
and end in a trade the same way.
-/

namespace Forex
namespace Backtest
open Support

structure Candle extends Bar where
  ts : ℚ
deriving DecidableEq, Repr

/-- A signal with its zone. -/
structure ZoneSignal extends BtSignal where
  signalId : String
  entryLow : ℚ
  entryHigh : ℚ
  createdTs : ℚ

inductive BtOutcome where
  | sl
  | tp1Only
  | tp1Tp3
  | tp3Direct
  | slAfterPartial
  | allClosed
  | tp
  | timeout
deriving DecidableEq, Repr

structure BtTrade where
  signalId : String
  strategy : Strategy
  direction : Direction
  fillPrice : ℚ
  fillBarIdx : ℕ
  lotSize : ℚ
  pnlPts : ℚ
  pnlUsd : ℚ
  commission : ℚ
  closePrice : ℚ
  closeBarIdx : ℕ
  outcome : BtOutcome
  holdBars : ℕ
deriving DecidableEq, Repr

/-- What a simulator writes into the trade at its end. -/
structure SimExit where
  closePrice : ℚ
  pnlPts : ℚ
  pnlUsd : ℚ
  outcome : BtOutcome
deriving DecidableEq, Repr

/-- `_close_trade`. -/
def closeTrade (direction : Direction) (fillPrice closePx remainingLot partialPnl : ℚ)
    (outcome : BtOutcome) : SimExit where
  closePrice := closePx
  pnlPts := direction.sign * (closePx - fillPrice)
  pnlUsd := partialPnl + direction.sign * (closePx - fillPrice) * remainingLot * 100
  outcome := outcome

/-- `_valid_tp`. -/
def validTp (direction : Direction) (fillPrice : ℚ) (tp : Option ℚ) : Option ℚ :=
  tp.filter fun price =>
    match direction with
    | .buy => decide (fillPrice < price)
    | .sell => decide (price < fillPrice)

def BtAccount.lotFor (account : BtAccount) (slDist : ℚ) : ℚ :=
  lotSize account.balance slDist account.riskPct account.fixedLots

/-- `_MAX_HOLD_BARS`. -/
def simulatorHoldBars : ℕ := 96

/-- The variables of the loops; each simulator has its own of them. -/
structure SimVars where
  currentSl : ℚ
  remainingLot : ℚ
  partialPnl : ℚ
  tp1Hit : Bool
  tp2Hit : Bool
  tp3Hit : Bool
  tpIdx : ℕ
deriving DecidableEq, Repr

def SimVars.start (sl lot : ℚ) : SimVars := ⟨sl, lot, 0, false, false, false, 0⟩

/-- One of the simulators, for one signal and one fill. -/
structure Simulator where
  direction : Direction
  fillPrice : ℚ
  lot : ℚ
  sl : ℚ
  stopOutcome : SimVars → BtOutcome
  manage : SimVars → Bar → SimExit ⊕ SimVars

namespace Simulator
variable (sim : Simulator)

def bar (v : SimVars) (bar : Bar) : SimExit ⊕ SimVars :=
  if barStopped sim.direction bar v.currentSl then
    .inl (closeTrade sim.direction sim.fillPrice v.currentSl v.remainingLot v.partialPnl
      (sim.stopOutcome v))
  else sim.manage v bar

/-- The loop over the bars from the fill on, with the bar of the close counted from there. -/
def run (bars : List Bar) : ℕ × SimExit :=
  let held := bars.take simulatorHoldBars
  match loop sim.bar 0 (.start sim.sl sim.lot) held with
  | .inl left => left
  | .inr v =>
      (held.length - 1,
        closeTrade sim.direction sim.fillPrice ((held.getLast?.map Bar.close).getD 0)
          v.remainingLot v.partialPnl .timeout)

end Simulator

section Simulators
variable (sig : ZoneSignal) (fillPrice : ℚ) (account : BtAccount)

/-- The gain of a price over the fill. -/
def ZoneSignal.move (price : ℚ) : ℚ := sig.direction.sign * (price - fillPrice)

def ZoneSignal.reaches (bar : Bar) (tp : ℚ) : Bool := barReached sig.direction bar tp

/-- The stop behind the close by a distance, not behind the fill and never loosened. -/
def ZoneSignal.trailed (dist : ℚ) (bar : Bar) (currentSl : ℚ) : ℚ :=
  match sig.direction with
  | .buy => max currentSl (max (roundTo 2 (bar.close - dist)) fillPrice)
  | .sell => min currentSl (min (roundTo 2 (bar.close + dist)) fillPrice)

/-- A part of the lot closed at a level. -/
def ZoneSignal.bank (tp closeLot : ℚ) (v : SimVars) : SimVars :=
  { v with
    partialPnl := v.partialPnl + sig.move fillPrice tp * closeLot * 100
    remainingLot := roundTo 2 (v.remainingLot - closeLot) }

/-- The rest of the lot closed at a level. -/
def ZoneSignal.closeAt (tp : ℚ) (v : SimVars) : SimExit :=
  closeTrade sig.direction fillPrice tp v.remainingLot v.partialPnl .tp1Tp3

/-- `_simulate_conservative`. -/
def simulateConservative : Simulator :=
  let lot := account.lotFor 5
  let tp1 := fillPrice + sig.direction.sign * 3
  { direction := sig.direction
    fillPrice := fillPrice
    lot := lot
    sl := fillPrice - sig.direction.sign * 5
    stopOutcome := fun v => if v.tp1Hit then .tp1Only else .sl
    manage := fun v bar =>
      let v :=
        if !v.tp1Hit && sig.reaches bar tp1 then
          let closeLot := roundTo 2 (lot * (4 / 5))
          { v with
            tp1Hit := true
            partialPnl := v.partialPnl + sig.move fillPrice tp1 * closeLot * 100
            remainingLot := roundTo 2 (lot - closeLot)
            currentSl := fillPrice }
        else v
      .inr (if v.tp1Hit then { v with currentSl := sig.trailed fillPrice 3 bar v.currentSl }
        else v) }

/-- The levels of `_simulate_ct`, as distances from the fill with their shares. -/
def ctLevels : List (ℚ × ℚ) :=
  [(5, 1 / 20), (10, 3 / 10), (14, 1 / 5), (20, 2 / 5), (27, 1 / 20), (35, 1)]

/-- The inner loop of `_simulate_ct`, from the level `tp_idx` on. -/
def ctClimb (lot : ℚ) (bar : Bar) : List (ℚ × ℚ) → SimVars → SimExit ⊕ SimVars
  | [], v => .inr v
  | (dist, pct) :: levels, v =>
      let tpVal := fillPrice + sig.direction.sign * dist
      if sig.reaches bar tpVal = false then .inr v
      else
        let wanted := if v.tpIdx = 5 then v.remainingLot else roundTo 2 (lot * pct)
        let closeLot := max 0 (min wanted v.remainingLot)
        let stop :=
          if v.tpIdx = 1 then fillPrice
          else if v.tpIdx = 3 then fillPrice + sig.direction.sign * 10
          else v.currentSl
        let v : SimVars :=
          { sig.bank fillPrice tpVal closeLot v with
            currentSl := stop
            tpIdx := v.tpIdx + 1 }
        if v.remainingLot ≤ 0 then
          .inl ⟨tpVal, sig.move fillPrice tpVal, v.partialPnl, .tp3Direct⟩
        else ctClimb lot bar levels v

/-- `_simulate_ct`. -/
def simulateCt : Simulator :=
  let lot := account.lotFor 10
  { direction := sig.direction
    fillPrice := fillPrice
    lot := lot
    sl := fillPrice - sig.direction.sign * 10
    stopOutcome := fun v => if 2 ≤ v.tpIdx then .tp1Only else .sl
    manage := fun v bar => ctClimb sig fillPrice lot bar (ctLevels.drop v.tpIdx) v }

/-- The level in a column of the signal, where it is on the side of the profit. -/
def ZoneSignal.tp (n : ℕ) : Option ℚ := validTp sig.direction fillPrice (sig.tps.getD (n - 1) none)

/-- `tp is not None and` the bar reaches it. -/
def ZoneSignal.hits (bar : Bar) (tp : Option ℚ) : Bool := tp.any (sig.reaches bar)

/-- `sl_dist` of `_simulate`. -/
def ZoneSignal.slDist : ℚ := |fillPrice - sig.stopLoss|

/-- `_simulate_nss`. -/
def simulateNss : Simulator :=
  let emgDist := sig.slDist fillPrice * (3 / 2)
  let lot := account.lotFor emgDist
  let tp1 := sig.tp fillPrice 1
  let tp3 := sig.tp fillPrice 3
  let closeLot := roundTo 2 (lot * (1 / 5))
  { direction := sig.direction
    fillPrice := fillPrice
    lot := lot
    sl := fillPrice - sig.direction.sign * emgDist
    stopOutcome := fun v => if v.tp3Hit then .tp1Tp3 else if v.tp1Hit then .tp1Only else .sl
    manage := fun v bar =>
      let v :=
        if !v.tp1Hit && sig.hits bar tp1 then
          { sig.bank fillPrice (tp1.getD 0) closeLot v with tp1Hit := true }
        else v
      .inr (if !v.tp3Hit && v.tp1Hit && sig.hits bar tp3 then
          { sig.bank fillPrice (tp3.getD 0) closeLot v with
            tp3Hit := true
            currentSl := tp1.getD v.currentSl }
        else v) }

/-- `_simulate_be_runner`; it closes no part. -/
def simulateBeRunner : Simulator :=
  let tp1 := sig.tp fillPrice 1
  let tp2 := sig.tp fillPrice 2
  let tp3 := sig.tp fillPrice 3
  { direction := sig.direction
    fillPrice := fillPrice
    lot := account.lotFor (sig.slDist fillPrice)
    sl := sig.stopLoss
    stopOutcome := fun v => if v.tp1Hit then .tp1Only else .sl
    manage := fun v bar =>
      let v :=
        if !v.tp1Hit && sig.hits bar tp1 then { v with tp1Hit := true, currentSl := fillPrice }
        else v
      let v :=
        if !v.tp2Hit && v.tp1Hit && sig.hits bar tp2 then
          { v with tp2Hit := true, currentSl := tp1.getD v.currentSl }
        else v
      if v.tp1Hit && sig.hits bar tp3 then .inl (sig.closeAt fillPrice (tp3.getD 0) v)
      else .inr v }

/-- `_simulate_scale_out`. -/
def simulateScaleOut : Simulator :=
  let lot := account.lotFor (sig.slDist fillPrice)
  let tp1 := sig.tp fillPrice 1
  let tp2 := sig.tp fillPrice 2
  let tp3 := sig.tp fillPrice 3
  { direction := sig.direction
    fillPrice := fillPrice
    lot := lot
    sl := sig.stopLoss
    stopOutcome := fun v => if v.tp1Hit then .tp1Only else .sl
    manage := fun v bar =>
      let v :=
        if !v.tp1Hit && sig.hits bar tp1 then
          { sig.bank fillPrice (tp1.getD 0) (roundTo 2 (lot * (2 / 5))) v with
            tp1Hit := true
            currentSl := fillPrice }
        else v
      let v :=
        if !v.tp2Hit && v.tp1Hit && sig.hits bar tp2 then
          { sig.bank fillPrice (tp2.getD 0) (roundTo 2 (lot * (3 / 10))) v with tp2Hit := true }
        else v
      if v.tp1Hit && sig.hits bar tp3 then .inl (sig.closeAt fillPrice (tp3.getD 0) v)
      else .inr v }

/-- `_simulate_protected_scale`. -/
def simulateProtectedScale : Simulator :=
  let tp1 := sig.tp fillPrice 1
  let tp2 := sig.tp fillPrice 2
  let tp3 := sig.tp fillPrice 3
  { direction := sig.direction
    fillPrice := fillPrice
    lot := account.lotFor (sig.slDist fillPrice)
    sl := sig.stopLoss
    stopOutcome := fun v => if v.tp2Hit then .tp1Only else .sl
    manage := fun v bar =>
      let v := if !v.tp1Hit && sig.hits bar tp1 then { v with tp1Hit := true } else v
      let v :=
        if !v.tp2Hit && v.tp1Hit && sig.hits bar tp2 then
          { v with tp2Hit := true, currentSl := fillPrice }
        else v
      if v.tp2Hit && sig.hits bar tp3 then .inl (sig.closeAt fillPrice (tp3.getD 0) v)
      else .inr v }

/-- `_simulate_trail_stop`; it closes no part. -/
def simulateTrailStop : Simulator :=
  let tp1 := sig.tp fillPrice 1
  { direction := sig.direction
    fillPrice := fillPrice
    lot := account.lotFor (sig.slDist fillPrice)
    sl := sig.stopLoss
    stopOutcome := fun v => if v.tp1Hit then .tp1Only else .sl
    manage := fun v bar =>
      let v :=
        if !v.tp1Hit && sig.hits bar tp1 then { v with tp1Hit := true, currentSl := fillPrice }
        else v
      .inr (if v.tp1Hit then { v with currentSl := sig.trailed fillPrice 5 bar v.currentSl }
        else v) }

end Simulators

/-- The end of a ladder: at the stop, at the close of the bar that took the last lot, or at
the market after the last bar. -/
def LadderTest.result (t : LadderTest) (bars : List Bar) : ℕ × SimExit :=
  let s := t.runLadderStrategy bars
  let priceOf (column : ℕ) : ℚ := (t.tps.getD (column - 1) none).getD 0
  let partialPnl := (s.closes.map fun p =>
    t.direction.sign * (priceOf p.1 - t.fillPrice) * p.2 * 100).sum
  let lastClose := ((bars[s.bars - 1]?).map Bar.close).getD 0
  let close := closeTrade t.direction t.fillPrice
  (s.bars - 1,
    match s.outcome with
    | some .sl => close s.slPrice s.remainingLot partialPnl .sl
    | some .slAfterPartial => close s.slPrice s.remainingLot partialPnl .slAfterPartial
    | some .allClosed => ⟨lastClose, 0, partialPnl, .allClosed⟩
    | none => close lastClose s.remainingLot partialPnl .timeout)

/-- The end of a template's walk, with the P&L in points rounded. -/
def TemplateResult.result (res : TemplateResult) : ℕ × SimExit :=
  (res.closeBar,
    { closePrice := res.closePrice
      pnlPts := roundTo 2 res.pnlPrice
      pnlUsd := res.pnlUsd
      outcome :=
        match res.outcome with
        | .timeout => .timeout
        | .sl => .sl
        | .tp => .tp })

end Backtest
end Forex
