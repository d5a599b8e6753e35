import Forex.Market.Adx
import Forex.Reversal.IctPatterns
import Forex.Strategy.StopDesk
import Forex.Strategy.SwingStop

/-!
The parameters of the position manager, `compute_adaptive_params`: the session, the
regime and the momentum of the market scale the average range to a trailing distance
and to a breakeven threshold, or the calibrated multipliers do; both end in fixed
bands.
-/

namespace Forex
open Support

namespace Dpm

def minTrail : ℚ := 2
def maxTrail : ℚ := 50
def minBe : ℚ := 2
def maxBe : ℚ := 30
def minCalSamples : ℕ := 5

inductive Session where
  | asian
  | london
  | ny
  | overlap
deriving DecidableEq, Repr

namespace Session

def name : Session → String
  | .asian => "asian"
  | .london => "london"
  | .ny => "ny"
  | .overlap => "overlap"

def mult : Session → ℚ
  | .asian => 80 / 100
  | .london => 120 / 100
  | .ny => 110 / 100
  | .overlap => 140 / 100

end Session

inductive Regime where
  | trending
  | weakTrend
  | ranging
  | spike
deriving DecidableEq, Repr

namespace Regime

def trailMult : Regime → ℚ
  | .trending => 140 / 100
  | .weakTrend => 110 / 100
  | .ranging => 85 / 100
  | .spike => 70 / 100

def beMult : Regime → ℚ
  | .trending => 120 / 100
  | .weakTrend => 105 / 100
  | .ranging => 90 / 100
  | .spike => 70 / 100

end Regime

/-- By the hour of UTC. -/
def detectSession (hour : ℕ) : Session :=
  let london := decide (7 ≤ hour ∧ hour < 16)
  let ny := decide (12 ≤ hour ∧ hour < 21)
  if london && ny then .overlap
  else if london then .london
  else if ny then .ny
  else .asian

/-- The ranges of the candles before the newest, as far as they have one. -/
def recentRanges (candles : List OhlcCandle) : List ℚ :=
  (((lastN 20 candles).dropLast).filter fun c => decide (c.high ≠ 0 ∧ c.low ≠ 0)).map fun c =>
    c.high - c.low

def detectRegime (candles : List OhlcCandle) (atr : ℚ) : Regime :=
  let ranges := recentRanges candles
  if 20 ≤ candles.length ∧ ranges ≠ [] ∧ 0 < mean ranges ∧ mean ranges * (18 / 10) < atr then .spike
  else
    let adx := computeAdx (candles.map OhlcCandle.toBar) 14
    if 25 < adx then .trending else if 20 ≤ adx then .weakTrend else .ranging

/-- A candle with its four prices and a range. -/
def weighs (c : OhlcCandle) : Bool :=
  decide (c.opening ≠ 0 ∧ c.close ≠ 0 ∧ c.high ≠ 0 ∧ c.low ≠ 0 ∧ 0 < c.high - c.low)

def aligned (direction : Direction) (c : OhlcCandle) : Bool :=
  match direction with
  | .buy => decide (c.opening < c.close)
  | .sell => decide (c.close < c.opening)

def computeMomentumScore (candles : List OhlcCandle) (direction : Direction) : ℚ :=
  if candles = [] then 1 / 2
  else
    let window := if 12 ≤ candles.length then lastN 12 candles else candles
    let counted := window.filter weighs
    let bodies := (counted.map fun c => |c.close - c.opening|).sum
    let ranges := (counted.map fun c => c.high - c.low).sum
    let dirScore : ℚ := counted.countP (aligned direction) / window.length
    let bodyRatio := if ranges ≠ 0 then bodies / ranges else 1 / 2
    roundTo 3 (min (max (dirScore * (6 / 10) + bodyRatio * (4 / 10)) 0) 1)

inductive MomentumLabel where
  | strong
  | moderate
  | weak
deriving DecidableEq, Repr

def MomentumLabel.name : MomentumLabel → String
  | .strong => "strong"
  | .moderate => "moderate"
  | .weak => "weak"

def momentumLabel (momentum : ℚ) : MomentumLabel :=
  if 70 / 100 ≤ momentum then .strong else if 45 / 100 ≤ momentum then .moderate else .weak

structure Calibration where
  beMultiplier : ℚ
  trailMultiplier : ℚ
  tp1PartialPct : ℚ
  sampleSize : ℕ
deriving DecidableEq, Repr

/-- The calibrated multipliers by their key, a session and a momentum. -/
abbrev Calibrations := List (String × Calibration)

def getCalibratedMultipliers (session : Session) (label : MomentumLabel)
    (calibrated : Calibrations) : Option Calibration :=
  let keys := [session.name ++ "_" ++ label.name, "all_" ++ label.name, session.name ++ "_all",
    "all_all"]
  keys.findSome? fun key =>
    ((calibrated.find? fun e => decide (e.1 = key)).map Prod.snd).filter fun entry =>
      decide (minCalSamples ≤ entry.sampleSize)

/-- The dollar index as the closes of its candles. -/
def computeDxyBias (dxyCloses : List ℚ) (direction : Direction) : ℚ :=
  if dxyCloses.length < 5 then 1
  else
    let window := if 10 ≤ dxyCloses.length then lastN 10 dxyCloses else dxyCloses
    let first := window.headD 0
    let last := window.getLastD 0
    if first = 0 ∨ last = 0 then 1
    else
      let headwind :=
        match direction with
        | .buy => decide (first < last)
        | .sell => !decide (first < last)
      if headwind then 75 / 100 else 1

/-- What the market and the clock show the manager. -/
structure MarketView where
  candles : List OhlcCandle
  dxyCloses : List ℚ
  utcHour : ℕ
  calibrated : Calibrations
deriving DecidableEq, Repr

structure AdaptiveParams where
  trailDistance : ℚ
  beTriggerUsd : ℚ
  tp1PartialPct : ℚ
  swingSl : Option ℚ
  atr : ℚ
  adx : ℚ
  session : Session
  regime : Regime
  momentum : ℚ
  momentumLabel : MomentumLabel
  beMultiplier : ℚ
  trailMultiplier : ℚ
  usedCalibrated : Bool
  dxyBias : ℚ
  postTp1 : Bool
deriving DecidableEq, Repr

def clamp (low high x : ℚ) : ℚ := max low (min x high)

/-- The close at TP1 without a calibration. -/
def defaultTp1Pct : MomentumLabel → ℚ
  | .strong => 25 / 100
  | .moderate => 40 / 100
  | .weak => 60 / 100

/-- A number of zero passes for none. -/
def orElse (x y : ℚ) : ℚ := if x ≠ 0 then x else y

def beLots (trade : Trade) : ℚ := orElse trade.remainingLots (orElse trade.lotSize (1 / 100))

/-- Once profit is locked in, half of the distance. -/
def tightened (distance : ℚ) : ℚ := max minTrail (roundTo 1 (distance * (1 / 2)))

def computeAdaptiveParams (trade : Trade) (tick : Tick) (market : MarketView) (postTp1 : Bool) :
    AdaptiveParams :=
  let bars := market.candles.map OhlcCandle.toBar
  let current := tick.closePrice trade.direction
  let atr := Backtest.computeAtr bars 14
  let session := detectSession market.utcHour
  let regime := detectRegime market.candles atr
  let momentum := computeMomentumScore market.candles trade.direction
  let label := momentumLabel momentum
  let momentumFactor := 1 + momentum * (1 / 2)
  let cal := getCalibratedMultipliers session label market.calibrated
  let beMult := (cal.map Calibration.beMultiplier).getD (6 / 10 * regime.beMult)
  let trailMult := (cal.map Calibration.trailMultiplier).getD (12 / 10 * regime.trailMult)
  let dxyBias := computeDxyBias market.dxyCloses trade.direction
  let trail := clamp minTrail maxTrail
    (roundTo 1 (atr * trailMult * session.mult * momentumFactor * dxyBias))
  let swing := market.candles.map fun c => (⟨some c.high, some c.low⟩ : SwingCandle)
  { trailDistance := if postTp1 then tightened trail else trail
    beTriggerUsd := clamp minBe maxBe
      (roundTo 1 (atr * beMult * session.mult * dxyBias * beLots trade * 100))
    tp1PartialPct := (cal.map Calibration.tp1PartialPct).getD (defaultTp1Pct label)
    swingSl := findSwingSl swing trade.direction trade.entryPrice current 2
    atr := atr
    adx := computeAdx bars 14
    session := session
    regime := regime
    momentum := momentum
    momentumLabel := label
    beMultiplier := beMult
    trailMultiplier := trailMult
    usedCalibrated := cal.isSome
    dxyBias := dxyBias
    postTp1 := postTp1 }

theorem le_clamp (low high x : ℚ) : low ≤ clamp low high x := le_max_left _ _

theorem clamp_le {low high : ℚ} (band : low ≤ high) (x : ℚ) : clamp low high x ≤ high :=
  max_le band (min_le_right _ _)

theorem onGrid_two (n : ℕ) : OnGrid n 2 := ⟨2 * 10 ^ n, by push_cast; field_simp⟩

theorem onGrid_fifty (n : ℕ) : OnGrid n 50 := ⟨50 * 10 ^ n, by push_cast; field_simp⟩

theorem tightened_le {distance : ℚ} (wide : minTrail ≤ distance) (grid : OnGrid 1 distance) :
    tightened distance ≤ distance := by
  have positive : (0 : ℚ) < minTrail := by norm_num [minTrail]
  refine max_le wide ?_
  calc roundTo 1 (distance * (1 / 2)) ≤ roundTo 1 distance := roundTo_mono 1 (by linarith)
    _ = distance := roundTo_of_onGrid grid

section Bands
variable (trade : Trade) (tick : Tick) (market : MarketView)

theorem trail_onGrid (postTp1 : Bool) :
    OnGrid 1 (computeAdaptiveParams trade tick market postTp1).trailDistance := by
  have trail (x : ℚ) : OnGrid 1 (clamp minTrail maxTrail (roundTo 1 x)) :=
    (onGrid_two 1).max ((roundTo_onGrid 1 x).min (onGrid_fifty 1))
  simp only [computeAdaptiveParams]
  split_ifs
  · exact (onGrid_two 1).max (roundTo_onGrid 1 _)
  · exact trail _

theorem trail_mem_band (postTp1 : Bool) :
    minTrail ≤ (computeAdaptiveParams trade tick market postTp1).trailDistance ∧
      (computeAdaptiveParams trade tick market postTp1).trailDistance ≤ maxTrail := by
  have grid := trail_onGrid trade tick market false
  simp only [computeAdaptiveParams] at grid ⊢
  have band : minTrail ≤ maxTrail := by norm_num [minTrail, maxTrail]
  have wide (x : ℚ) : minTrail ≤ clamp minTrail maxTrail x := le_clamp _ _ _
  split_ifs
  · exact ⟨le_max_left _ _, (tightened_le (wide _) grid).trans (clamp_le band _)⟩
  · exact ⟨wide _, clamp_le band _⟩

theorem beTrigger_mem_band (postTp1 : Bool) :
    minBe ≤ (computeAdaptiveParams trade tick market postTp1).beTriggerUsd ∧
      (computeAdaptiveParams trade tick market postTp1).beTriggerUsd ≤ maxBe :=
  ⟨le_clamp _ _ _, clamp_le (by norm_num [minBe, maxBe]) _⟩

end Bands

end Dpm
end Forex
