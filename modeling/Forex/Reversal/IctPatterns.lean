import Forex.Backtest.Atr
import Forex.Support.Clusters
import Mathlib.Data.List.Sort

/-!
The pattern detectors of the Reversal Engine: fair value gaps, pools of equal
highs and lows, sweeps, structure shifts and breaker blocks, chained to a unicorn
setup. A price that a candle does not have is read as zero.
-/

namespace Forex
open Support

structure OhlcCandle extends Backtest.Bar where
  ts : ℚ
  opening : ℚ
deriving DecidableEq, Repr

/-- A candle as a broker sends it. -/
structure OhlcCandle.Valid (c : OhlcCandle) : Prop where
  positive : 0 < c.low
  ordered : c.low ≤ c.high

/-- `l[-n:]`. -/
def lastN {α : Type} (n : ℕ) (l : List α) : List α :=
  if n = 0 then l else l.drop (l.length - n)

namespace Ict

inductive Bias where
  | bullish
  | bearish
deriving DecidableEq, Repr

structure Fvg where
  top : ℚ
  bottom : ℚ
  mid : ℚ
  direction : Bias
  idx : ℕ
  filled : Bool
  inverted : Bool
deriving DecidableEq, Repr

/-- A candle closes all the way through the gap. -/
def Fvg.closedThrough (fvg : Fvg) (c : OhlcCandle) : Bool :=
  match fvg.direction with
  | .bullish => decide (c.close < fvg.bottom)
  | .bearish => decide (fvg.top < c.close)

/-- `_track_fill_and_inversion`, over the candles from the start on. -/
def trackFillAndInversion (fvg : Fvg) (later : List OhlcCandle) : Fvg :=
  later.foldl (fun fvg c =>
    { fvg with
      filled := fvg.filled || decide (c.low ≤ fvg.top ∧ fvg.bottom ≤ c.high)
      inverted := fvg.inverted || fvg.closedThrough c }) fvg

/-- `sorted(gaps)[len(gaps) // 2]`. -/
def typicalInterval (candles : List OhlcCandle) : ℚ :=
  let gaps := (candles.zip candles.tail).map fun p => p.2.ts - p.1.ts
  ((gaps.insertionSort (· ≤ ·))[gaps.length / 2]?).getD 900

def gapBetween (top bottom : ℚ) (direction : Bias) (idx : ℕ) : Fvg :=
  ⟨roundTo 2 top, roundTo 2 bottom, roundTo 2 ((top + bottom) / 2), direction, idx, false, false⟩

/-- The gap that three candles leave, if any; `idx` is the index of the middle one. -/
def fvgOf (typical minGapPts : ℚ) (idx : ℕ) (c0 c2 : OhlcCandle) (later : List OhlcCandle) :
    Option Fvg :=
  if 3 * typical < c2.ts - c0.ts then none
  else if c0.high < c2.low ∧ minGapPts ≤ c2.low - c0.high then
    some (trackFillAndInversion (gapBetween c2.low c0.high .bullish idx) later)
  else if c2.high < c0.low ∧ minGapPts ≤ c0.low - c2.high then
    some (trackFillAndInversion (gapBetween c0.low c2.high .bearish idx) later)
  else none

/-- The loop of `detect_fvgs`, from the candle of the given index on. -/
def fvgsFrom (typical minGapPts : ℚ) : ℕ → List OhlcCandle → List Fvg
  | i, c0 :: c1 :: c2 :: later =>
      (fvgOf typical minGapPts (i + 1) c0 c2 later).toList ++
        fvgsFrom typical minGapPts (i + 1) (c1 :: c2 :: later)
  | _, _ => []

/-- `detect_fvgs`. -/
def detectFvgs (candles : List OhlcCandle) : List Fvg :=
  fvgsFrom (typicalInterval candles) (1 / 2) 0 candles

/-- `atr`. -/
def atr (candles : List OhlcCandle) (period : ℕ) : ℚ :=
  if candles.length < 2 then 0
  else
    mean (((lastN (period + 1) candles).dropLast.zip (lastN period candles)).map fun p =>
      Backtest.trueRange p.1.toBar p.2.toBar)

inductive PoolType where
  | eqHigh
  | eqLow
deriving DecidableEq, Repr

structure Pool where
  price : ℚ
  type : PoolType
  touches : ℕ
deriving DecidableEq, Repr

/-- The clusters of `_cluster`, before the small ones are left out: a value joins the
first one whose last value is within the tolerance. -/
def clusters (tolerancePts : ℚ) (vals : List ℚ) : List (List ℚ) :=
  greedyClusters (fun u v => |u - v| ≤ tolerancePts) vals

/-- The candles that are looked at. -/
def recent (lookback : ℕ) (candles : List OhlcCandle) : List OhlcCandle :=
  if lookback < candles.length then lastN lookback candles else candles

/-- The distinct values to one decimal, highest first. -/
def highValues (recent : List OhlcCandle) : List ℚ :=
  ((recent.map fun c => roundTo 1 c.high).dedup).insertionSort (· ≥ ·)

def lowValues (recent : List OhlcCandle) : List ℚ :=
  ((recent.map fun c => roundTo 1 c.low).dedup).insertionSort (· ≤ ·)

/-- What is reported of a cluster. -/
def poolOf (type : PoolType) (cluster : List ℚ) : Pool :=
  ⟨roundTo 2 (mean cluster), type, cluster.length⟩

def reported (minTouches : ℕ) (tolerancePts : ℚ) (vals : List ℚ) : List (List ℚ) :=
  (clusters tolerancePts vals).filter fun k => decide (minTouches ≤ k.length)

/-- `detect_equal_levels`. -/
def detectEqualLevels (candles : List OhlcCandle) (lookback : ℕ) (tolerancePts : ℚ)
    (minTouches : ℕ) : List Pool :=
  if candles.length < 5 then []
  else
    let recent := recent lookback candles
    (reported minTouches tolerancePts (highValues recent)).map (poolOf .eqHigh) ++
      (reported minTouches tolerancePts (lowValues recent)).map (poolOf .eqLow)

/-- A pool that was swept, and where. -/
structure Sweep where
  pool : Pool
  reversalDirection : Bias
  sweptAt : ℚ
deriving DecidableEq, Repr

def sweepOf (c : OhlcCandle) (pool : Pool) : Option Sweep :=
  match pool.type with
  | .eqHigh =>
      if pool.price < c.high ∧ c.close < pool.price then some ⟨pool, .bearish, c.high⟩ else none
  | .eqLow =>
      if c.low < pool.price ∧ pool.price < c.close then some ⟨pool, .bullish, c.low⟩ else none

/-- `detect_liquidity_sweep`. -/
def detectLiquiditySweep (candles : List OhlcCandle) (pools : List Pool) : Option Sweep :=
  (lastN 5 candles).findSome? fun c => pools.findSome? (sweepOf c)

/-- `detect_market_structure_shift`. -/
def detectMarketStructureShift (candles : List OhlcCandle) (direction : Bias) : Bool :=
  if candles.length < 15 + 3 then false
  else
    let window := lastN 15 candles
    let before := window.take (window.length - 3)
    let lastClose := (window.getLast?.map fun c => c.close).getD 0
    match direction with
    | .bullish => decide ((before.map fun c => c.high).max?.getD 0 < lastClose)
    | .bearish => decide (lastClose < (before.map fun c => c.low).min?.getD 0)

structure Breaker where
  low : ℚ
  high : ℚ
  idx : ℕ
deriving DecidableEq, Repr

/-- The test of one candle, with the one before it and the one after it. -/
def breakerOf (direction : Bias) (prev c next : OhlcCandle) (idx : ℕ) : Option Breaker :=
  let breaks : Bool :=
    match direction with
    | .bullish => decide (c.close < c.opening ∧ prev.high < next.close)
    | .bearish => decide (c.opening < c.close ∧ next.close < prev.low)
  if breaks then some ⟨roundTo 2 c.low, roundTo 2 c.high, idx⟩ else none

/-- `find_breaker_block`; the last candle has itself after it. -/
def findBreakerBlock (candles : List OhlcCandle) (direction : Bias) : Option Breaker :=
  if candles.length < 5 then none
  else
    let window := lastN 20 candles
    (List.range' 1 (window.length - 1)).reverse.findSome? fun i =>
      match window[i - 1]?, window[i]?, window[min (i + 1) (window.length - 1)]? with
      | some prev, some c, some next => breakerOf direction prev c next i
      | _, _, _ => none

structure Setup where
  direction : Bias
  sweep : Sweep
  fvg : Fvg
  breaker : Option Breaker
  zoneLow : ℚ
  zoneHigh : ℚ
  entryMid : ℚ
  confluence : Bool
deriving DecidableEq, Repr

/-- The overlap with the breaker block, or the gap where there is none. -/
def overlapZone (fvg : Fvg) : Option Breaker → ℚ × ℚ
  | some b =>
      let lo := max fvg.bottom b.low
      let hi := min fvg.top b.high
      if hi < lo then (fvg.bottom, fvg.top) else (lo, hi)
  | none => (fvg.bottom, fvg.top)

/-- Wider or narrower than an entry zone is. -/
def degenerate (zone : ℚ × ℚ) : Bool :=
  decide (15 < zone.2 - zone.1 ∨ zone.2 - zone.1 < 1 / 2)

/-- The zone, or none where even the gap is no entry zone. -/
def entryZone (fvg : Fvg) (breaker : Option Breaker) : Option (ℚ × ℚ) :=
  let zone := overlapZone fvg breaker
  if degenerate zone then
    if degenerate (fvg.bottom, fvg.top) then none else some (fvg.bottom, fvg.top)
  else some zone

/-- `find_unicorn_setup`, on pools that are given or detected. -/
def findUnicornSetup (candles : List OhlcCandle) (pools : Option (List Pool)) : Option Setup := do
  let sweep ← detectLiquiditySweep candles (pools.getD (detectEqualLevels candles 40 (3 / 2) 2))
  let direction := sweep.reversalDirection
  if !detectMarketStructureShift candles direction then none
  else
    let live := (detectFvgs candles).filter fun f => decide (f.direction = direction) && !f.inverted
    let fvg ← live.getLast?
    let breaker := findBreakerBlock candles direction
    let (lo, hi) ← entryZone fvg breaker
    some
      { direction := direction
        sweep := sweep
        fvg := fvg
        breaker := breaker
        zoneLow := roundTo 2 lo
        zoneHigh := roundTo 2 hi
        entryMid := roundTo 2 ((lo + hi) / 2)
        confluence := breaker.isSome }

end Ict
end Forex
