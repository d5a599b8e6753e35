import Forex.Backtest.TemplateWalk
import Forex.Support.Smoothing

/-!
The average true range, computed twice: `_atr14` for a backtest and
`compute_atr` for a live template. The backtest takes the plain mean of the last
fourteen ranges; the live path smooths over all of them, by the period of the
template, and rounds to cents.
-/

namespace Forex
namespace Backtest
open Support

def trueRange (prev bar : Bar) : ℚ :=
  max (max (bar.high - bar.low) |bar.high - prev.close|) |bar.low - prev.close|

/-- Consecutive bars. -/
def steps (bars : List Bar) : List (Bar × Bar) := bars.zip bars.tail

/-- `_atr14`. -/
def atr14 (candles : List Bar) (endIdx : ℕ) : ℚ :=
  let window := (candles.take (endIdx + 1)).drop (endIdx - 14)
  if window.length < 2 then 1
  else
    let trs := (steps window).map fun p => trueRange p.1 p.2
    mean trs

/-- A range whose three prices are there. -/
def stated (p : Bar × Bar) : Bool :=
  decide (p.2.high ≠ 0) && decide (p.2.low ≠ 0) && decide (p.1.close ≠ 0)

/-- The ranges that `compute_atr` goes over. -/
def trueRanges (candles : List Bar) : List ℚ :=
  ((steps candles).filter stated).map fun p => trueRange p.1 p.2

/-- `compute_atr`, on the ranges. -/
def wilderAtr (trs : List ℚ) (period : ℕ) : ℚ :=
  if trs = [] then 10
  else
    let window :=
      if period < trs.length then trs.drop (trs.length - max (period * 2) trs.length) else trs
    let seed :=
      if period ≤ window.length then (window.take period).sum / period
      else window.sum / window.length
    let smoothed (atr tr : ℚ) : ℚ := (atr * (period - 1) + tr) / period
    roundTo 2 (max ((window.drop period).foldl smoothed seed) (1 / 2))

def computeAtr (candles : List Bar) (period : ℕ) : ℚ :=
  if candles.length < 2 then 10 else wilderAtr (trueRanges candles) period

/-- A template with its `atr_period`. -/
structure AtrTemplate extends Template where
  atrPeriod : ℕ

/-- `int(template.get("atr_period") or 14)`. -/
def AtrTemplate.period (t : AtrTemplate) : ℕ := if t.atrPeriod = 0 then 14 else t.atrPeriod

end Backtest
end Forex
