import Forex.Backtest.Simulators
import Forex.Support.Run

/-!
`_simulate` and `run_backtest`: a signal is filled by the first bar that touches
its zone, its trade is walked to the end, and the account that sizes the next
trade of the list is the one after that end.
-/

namespace Forex
namespace Backtest
open Support

/-- The arguments of `run_backtest` beside signals and candles, and `get_ea_template`. -/
structure BtSettings where
  getEaTemplate : String → Option Template
  startingBalance : ℚ
  riskPct : ℚ
  spreadPts : ℚ
  lotsPerTrade : ℚ
  commissionPerLot : ℚ

/-- `_BROKER_TZ_OFFSET`. -/
def brokerTzOffset : ℚ := 10800

namespace ZoneSignal
variable (sig : ZoneSignal)

def entryMid : ℚ := (sig.entryLow + sig.entryHigh) / 2

/-- A candle since the creation that touches the zone. -/
def touchedBy (c : Candle) : Bool :=
  decide (sig.createdTs + brokerTzOffset ≤ c.ts) && decide (c.low ≤ sig.entryHigh) &&
    decide (sig.entryLow ≤ c.high)

def fillBar (candles : List Candle) : Option ℕ := candles.findIdx? sig.touchedBy

/-- The stop is not behind the zone. -/
def misplaced : Bool :=
  match sig.direction with
  | .buy => decide (sig.entryLow ≤ sig.stopLoss)
  | .sell => decide (sig.stopLoss ≤ sig.entryHigh)

end ZoneSignal

namespace BtSettings
variable (S : BtSettings) (strategy : Strategy)

def fillPrice (sig : ZoneSignal) : ℚ := sig.entryMid + sig.direction.sign * (S.spreadPts / 2)

def account (balance : ℚ) : BtAccount := ⟨balance, S.riskPct, S.lotsPerTrade⟩

/-- The lot of a trade and its end, counted from the fill; the bars are those from there
on. None for a strategy that has no simulator or a template that is refused. -/
def walkFrom (sig : ZoneSignal) (balance atr : ℚ) (bars : List Bar) :
    Option (ℚ × ℕ × SimExit) :=
  let account := S.account balance
  let price := S.fillPrice sig
  let plain (sim : Simulator) := some (sim.lot, sim.run bars)
  let ladder (t : LadderTest) := some (t.lot, t.result bars)
  match strategy with
  | .template name =>
      match S.getEaTemplate name with
      | none => none
      | some t =>
          match simulate t bars price sig.direction balance atr with
          | .error _ => none
          | .ok res => some (res.lotSize, res.result)
  | .conservative => plain (simulateConservative sig price account)
  | .conservativeTrial => plain (simulateCt sig price account)
  | .noSlScale => plain (simulateNss sig price account)
  | .beRunner => plain (simulateBeRunner sig price account)
  | .scaleOut => plain (simulateScaleOut sig price account)
  | .protectedScale => plain (simulateProtectedScale sig price account)
  | .trailStop => plain (simulateTrailStop sig price account)
  | .reversalRunner => ladder (simulateReversalRunner sig.toBtSignal price account)
  | .signalClimber => ladder (simulateSignalClimber sig.toBtSignal price account)
  | .adaptiveRunner => ladder (simulateAdaptiveRunner sig.toBtSignal price account)
  | _ => none

/-- The trade of a walk, with its commission. -/
def tradeOf (sig : ZoneSignal) (fill : ℕ) (walked : ℚ × ℕ × SimExit) : BtTrade :=
  let lot := walked.1
  let bars := walked.2.1
  let exit := walked.2.2
  let charged := decide (0 < S.commissionPerLot)
  let comm := roundTo 2 (S.commissionPerLot * lot)
  { signalId := sig.signalId
    strategy := strategy
    direction := sig.direction
    fillPrice := S.fillPrice sig
    fillBarIdx := fill
    lotSize := lot
    pnlPts := exit.pnlPts
    pnlUsd := if charged then roundTo 2 (exit.pnlUsd - comm) else exit.pnlUsd
    commission := if charged then comm else 0
    closePrice := exit.closePrice
    closeBarIdx := fill + bars
    outcome := exit.outcome
    holdBars := bars }

/-- `_simulate`. -/
def simulate (candles : List Candle) (balance : ℚ) (sig : ZoneSignal) : Option BtTrade :=
  if strategy ≠ .conservative ∧ strategy ≠ .conservativeTrial ∧ sig.misplaced = true then none
  else
    match sig.fillBar candles with
    | none => none
    | some fill =>
        let bars := candles.map Candle.toBar
        (S.walkFrom strategy sig balance (atr14 bars fill) (bars.drop fill)).map
          (S.tradeOf strategy sig fill)

end BtSettings

/-- The variables of `run_backtest` for one strategy. -/
structure BtRun where
  trades : List BtTrade
  currentBalance : ℚ

namespace BtSettings
variable (S : BtSettings) (strategy : Strategy) (candles : List Candle)

def start : BtRun := ⟨[], S.startingBalance⟩

def step (s : BtRun) (sig : ZoneSignal) : BtRun :=
  match S.simulate strategy candles s.currentBalance sig with
  | none => s
  | some t => ⟨s.trades ++ [t], max (s.currentBalance + t.pnlUsd) 1⟩

/-- The trades of one strategy. -/
def tradesOf (signals : List ZoneSignal) : List BtTrade :=
  (signals.foldl (S.step strategy candles) S.start).trades

/-- `run_backtest`: an account for each strategy. -/
def runBacktest (signals : List ZoneSignal) (strategies : List Strategy) :
    List (Strategy × List BtTrade) :=
  strategies.map fun strategy => (strategy, S.tradesOf strategy candles signals)

end BtSettings

end Backtest
end Forex
