import Forex.Backtest.TemplateLadder
import Forex.Strategy.EaLadder

/-!
`simulate` and `simulate_ticks`: the walk of a template trade over bars and its
walk over ticks, each loop written out as the source has it. A walk leaves its
loop when nothing of the position remains; a template that a walk cannot model
is refused with the reasons.
-/

namespace Forex
namespace Backtest
open Support

inductive Unsupported where
  | grid
  | pendings
  | dynamicAtr
  | equityProtect
  | harvest
  | trailMode (mode : TemplateTrail)
deriving DecidableEq, Repr

/-- `can_simulate`: the reasons, none of them when it is supported. -/
def canSimulate (t : Template) (atrAvailable : Bool) : List Unsupported :=
  (if t.mode = .grid then [.grid] else []) ++
    (if 0 < t.pendings then [.pendings] else []) ++
    (if t.useDynamicAtr && !atrAvailable then [.dynamicAtr] else []) ++
    (if t.equityProtect ≠ 0 then [.equityProtect] else []) ++
    (if t.harvestEnabled then [.harvest] else [])

def supportedTrailModes : List TemplateTrail := [.off, .step, .candle, .tp]

def supportedTickTrailModes : List TemplateTrail := [.off, .step, .tp]

/-- `_guard`; the reasons it raises `UnsupportedTemplate` with. -/
def guard (t : Template) (tickMode atrAvailable : Bool) : List Unsupported :=
  let reasons := canSimulate t (atrAvailable && !tickMode)
  if reasons ≠ [] then reasons
  else if t.trailMode ∉ if tickMode then supportedTickTrailModes else supportedTrailModes then
    [.trailMode t.trailMode]
  else []

structure Bar where
  high : ℚ
  low : ℚ
  close : ℚ
deriving DecidableEq, Repr

inductive WalkOutcome where
  | timeout
  | sl
  | tp
deriving DecidableEq, Repr

structure TemplateResult where
  lotSize : ℚ
  entry : ℚ
  outcome : WalkOutcome
  closePrice : ℚ
  closeBar : ℕ
  pnlPrice : ℚ
  pnlUsd : ℚ
  closedLots : List ℚ
  remainingLots : ℚ
deriving DecidableEq, Repr

/-- `_lot_for`. -/
def lotFor (t : Template) (slDistance balance : ℚ) : ℚ :=
  let lot :=
    if 0 < t.riskPct ∧ 0 < slDistance then
      balance * t.riskPct / 100 / (slDistance * 100)
    else t.lotAnchor
  roundTo 2 (min 5 (max (1 / 100) lot))

/-- A level of the ladder with its entry of `triggered`. -/
structure Rung where
  price : ℚ
  pct : ℚ
  triggered : Bool
deriving DecidableEq, Repr

/-- The variables of a walk. -/
structure Walk where
  stop : Option ℚ
  rungs : List Rung
  trailArmed : Bool
  res : TemplateResult
deriving DecidableEq, Repr

/-- `0 < level <= len(ladder) and triggered[level - 1]`. -/
def triggeredAt (rungs : List Rung) (level : ℤ) : Bool :=
  decide (0 < level) && (rungs[(level - 1).toNat]?).any Rung.triggered

/-- The price of the last level before the first one that is not triggered. -/
def bestTriggered : List Rung → Option ℚ
  | [] => none
  | r :: rungs => if r.triggered then some ((bestTriggered rungs).getD r.price) else none

/-- `_tighten`. -/
def tighten (sign : ℚ) (stop : Option ℚ) (newStop : ℚ) : Option ℚ :=
  match stop with
  | none => some newStop
  | some s => if 0 < (newStop - s) * sign then some newStop else some s

def TemplateResult.start (lot entry : ℚ) : TemplateResult :=
  ⟨lot, entry, .timeout, 0, 0, 0, 0, [], lot⟩

/-- The close of everything at the last level. -/
def TemplateResult.closeLast (res : TemplateResult) (sign tpPrice : ℚ) (idx : ℕ) : TemplateResult :=
  { res with
    pnlPrice := res.pnlPrice + (tpPrice - res.entry) * sign * res.remainingLots
    closedLots := res.closedLots ++ [roundTo 2 res.remainingLots]
    remainingLots := 0
    outcome := .tp
    closePrice := tpPrice
    closeBar := idx }

def TemplateResult.closePart (res : TemplateResult) (sign tpPrice lots : ℚ) (idx : ℕ) :
    TemplateResult :=
  let remaining := roundTo 2 (res.remainingLots - lots)
  { res with
    pnlPrice := res.pnlPrice + (tpPrice - res.entry) * sign * lots
    closedLots := res.closedLots ++ [lots]
    remainingLots := remaining
    closePrice := if remaining ≤ 0 then tpPrice else res.closePrice
    closeBar := if remaining ≤ 0 then idx else res.closeBar }

def TemplateResult.stopOut (res : TemplateResult) (sign stop : ℚ) (idx : ℕ) : TemplateResult :=
  { res with
    outcome := .sl
    closePrice := stop
    closeBar := idx
    pnlPrice := res.pnlPrice + (stop - res.entry) * sign * res.remainingLots
    remainingLots := 0 }

/-- The close of what is left after the last price, and the P&L in dollars. -/
def TemplateResult.finish (res : TemplateResult) (sign : ℚ) (last : Option ℚ) (count : ℕ) :
    TemplateResult :=
  let res :=
    match last with
    | none => res
    | some close =>
        if 0 < res.remainingLots ∧ res.outcome = WalkOutcome.timeout then
          { res with
            closePrice := close
            closeBar := count - 1
            pnlPrice := res.pnlPrice + (close - res.entry) * sign * res.remainingLots }
        else res
  { res with pnlUsd := roundTo 2 (res.pnlPrice * 100) }

section Bars
variable (t : Template) (direction : Direction) (entry lot : ℚ) (idx : ℕ)

def barReached (bar : Bar) (tpPrice : ℚ) : Bool :=
  match direction with
  | .buy => decide (tpPrice ≤ bar.high)
  | .sell => decide (bar.low ≤ tpPrice)

def barStopped (bar : Bar) (stop : ℚ) : Bool :=
  match direction with
  | .buy => decide (bar.low ≤ stop)
  | .sell => decide (stop ≤ bar.high)

/-- `high if is_buy else low`. -/
def Bar.favourable (bar : Bar) : Direction → ℚ
  | .buy => bar.high
  | .sell => bar.low

/-- The loop over the ladder; the source walks on at zero lots. -/
def barLadder (bar : Bar) : List Rung → TemplateResult → List Rung × TemplateResult
  | [], res => ([], res)
  | r :: rungs, res =>
      if r.triggered then
        let rest := barLadder bar rungs res
        (r :: rest.1, rest.2)
      else if barReached direction bar r.price = false then (r :: rungs, res)
      else if rungs.isEmpty && (t.closeFullOnLast || !t.partials) then
        ({ r with triggered := true } :: rungs, res.closeLast direction.sign r.price idx)
      else if t.partials = false then (r :: rungs, res)
      else
        let lots := min (roundTo 2 (lot * r.pct)) res.remainingLots
        let res := if lots ≤ 0 then res else res.closePart direction.sign r.price lots idx
        let rest := barLadder bar rungs res
        ({ r with triggered := true } :: rest.1, rest.2)

def barClimb (bar : Bar) (w : Walk) : Walk :=
  if t.tpslMode ≠ .off ∧ 0 < w.res.remainingLots then
    { w with
      rungs := (barLadder t direction lot idx bar w.rungs w.res).1
      res := (barLadder t direction lot idx bar w.rungs w.res).2 }
  else w

/-- The trail, once it is armed. -/
def barTrail (prev : Option Bar) (bar : Bar) (rungs : List Rung) (stop : Option ℚ) : Option ℚ :=
  match t.trailMode with
  | .step =>
      let dist := pipsToPrice t.trailDistance
      if 0 < dist then
        let candidate :=
          bar.favourable direction - direction.sign * (dist + pipsToPrice t.trailPadding)
        let trailStep := pipsToPrice t.trailStep
        match stop with
        | none => tighten direction.sign stop candidate
        | some s =>
            if trailStep ≤ 0 ∨ trailStep ≤ (candidate - s) * direction.sign then
              tighten direction.sign stop candidate
            else stop
      else stop
  | .candle =>
      match prev with
      | none => stop
      | some p =>
          tighten direction.sign stop (match direction with | .buy => p.low | .sell => p.high)
  | .tp =>
      match bestTriggered rungs with
      | none => stop
      | some best => tighten direction.sign stop best
  | _ => stop

/-- The moves of the stop after the ladder: breakeven, arming, trail. -/
def barManage (prev : Option Bar) (bar : Bar) (w : Walk) : Walk :=
  let stop :=
    if triggeredAt w.rungs t.beTrigger then
      tighten direction.sign w.stop
        (if t.beMode = .entryBuffer then entry + direction.sign * t.beBufferPts else entry)
    else w.stop
  let act := pipsToPrice t.trailActivation
  let armed :=
    w.trailArmed ||
      (decide (0 < act) && decide (act ≤ (bar.favourable direction - entry) * direction.sign)) ||
      triggeredAt w.rungs t.tp1TriggerLevel
  { w with
    stop := if armed then barTrail t direction prev bar w.rungs stop else stop
    trailArmed := armed }

/-- One bar; the flag says that the loop is left. -/
def barStep (prev : Option Bar) (bar : Bar) (w : Walk) : Walk × Bool :=
  match w.stop.filter (barStopped direction bar) with
  | some stop => ({ w with res := w.res.stopOut direction.sign stop idx }, true)
  | none =>
      let w := barClimb t direction lot idx bar w
      if w.res.remainingLots ≤ 0 then
        let outcome := if w.res.outcome = .timeout then .tp else w.res.outcome
        ({ w with res := { w.res with outcome } }, true)
      else (barManage t direction entry prev bar w, false)

end Bars

section Ticks
variable (t : Template) (direction : Direction) (entry lot : ℚ) (idx : ℕ)

def markReached (mark tpPrice : ℚ) : Bool :=
  match direction with
  | .buy => decide (tpPrice ≤ mark)
  | .sell => decide (mark ≤ tpPrice)

def markStopped (mark stop : ℚ) : Bool :=
  match direction with
  | .buy => decide (mark ≤ stop)
  | .sell => decide (stop ≤ mark)

def tickLadder (mark : ℚ) : List Rung → TemplateResult → List Rung × TemplateResult
  | [], res => ([], res)
  | r :: rungs, res =>
      if r.triggered then
        let rest := tickLadder mark rungs res
        (r :: rest.1, rest.2)
      else if markReached direction mark r.price = false then (r :: rungs, res)
      else if rungs.isEmpty && (t.closeFullOnLast || !t.partials) then
        ({ r with triggered := true } :: rungs, res.closeLast direction.sign r.price idx)
      else if t.partials = false then (r :: rungs, res)
      else
        let lots := min (roundTo 2 (lot * r.pct)) res.remainingLots
        let res := if lots ≤ 0 then res else res.closePart direction.sign r.price lots idx
        let rest := tickLadder mark rungs res
        ({ r with triggered := true } :: rest.1, rest.2)

def tickClimb (mark : ℚ) (w : Walk) : Walk :=
  if t.tpslMode ≠ .off ∧ 0 < w.res.remainingLots then
    { w with
      rungs := (tickLadder t direction lot idx mark w.rungs w.res).1
      res := (tickLadder t direction lot idx mark w.rungs w.res).2 }
  else w

def tickTrail (mark : ℚ) (rungs : List Rung) (stop : Option ℚ) : Option ℚ :=
  match t.trailMode with
  | .step =>
      let dist := pipsToPrice t.trailDistance
      if 0 < dist then
        let candidate := mark - direction.sign * (dist + pipsToPrice t.trailPadding)
        let trailStep := pipsToPrice t.trailStep
        match stop with
        | none => tighten direction.sign stop candidate
        | some s =>
            if trailStep ≤ 0 ∨ trailStep ≤ (candidate - s) * direction.sign then
              tighten direction.sign stop candidate
            else stop
      else stop
  | .tp =>
      match bestTriggered rungs with
      | none => stop
      | some best => tighten direction.sign stop best
  | _ => stop

def tickManage (mark : ℚ) (w : Walk) : Walk :=
  let stop :=
    if triggeredAt w.rungs t.beTrigger then
      tighten direction.sign w.stop
        (if t.beMode = .entryBuffer then entry + direction.sign * t.beBufferPts else entry)
    else w.stop
  let act := pipsToPrice t.trailActivation
  let armed :=
    w.trailArmed || (decide (0 < act) && decide (act ≤ (mark - entry) * direction.sign)) ||
      triggeredAt w.rungs t.tp1TriggerLevel
  { w with
    stop := if armed then tickTrail t direction mark w.rungs stop else stop
    trailArmed := armed }

def tickStep (tick : Tick) (w : Walk) : Walk × Bool :=
  let mark := tick.closePrice direction
  match w.stop.filter (markStopped direction mark) with
  | some stop => ({ w with res := w.res.stopOut direction.sign stop idx }, true)
  | none =>
      let w := tickClimb t direction lot idx mark w
      if w.res.remainingLots ≤ 0 then
        let outcome := if w.res.outcome = .timeout then .tp else w.res.outcome
        ({ w with res := { w.res with outcome } }, true)
      else (tickManage t direction entry mark w, false)

end Ticks

def walkBars (t : Template) (direction : Direction) (entry lot : ℚ) :
    ℕ → Option Bar → List Bar → Walk → Walk
  | _, _, [], w => w
  | idx, prev, bar :: bars, w =>
      let next := barStep t direction entry lot idx prev bar w
      if next.2 then next.1
      else walkBars t direction entry lot (idx + 1) (some bar) bars next.1

def walkTicks (t : Template) (direction : Direction) (entry lot : ℚ) :
    ℕ → List Tick → Walk → Walk
  | _, [], w => w
  | idx, tick :: ticks, w =>
      let next := tickStep t direction entry lot idx tick w
      if next.2 then next.1 else walkTicks t direction entry lot (idx + 1) ticks next.1

/-- The walk before its first price. -/
def Walk.start (direction : Direction) (entry lot slDistance : ℚ) (levels : List (ℚ × ℚ)) :
    Walk where
  stop := if 0 < slDistance then some (entry - direction.sign * slDistance) else none
  rungs := levels.map fun p => ⟨p.1, p.2, false⟩
  trailArmed := false
  res := .start lot entry

/-- `atr_sl_distance(…) or pips_to_price(…)`. -/
def slDistanceOf (t : Template) (atr : ℚ) : ℚ :=
  orElseOf ((atrSlDistance t atr).getD 0) (pipsToPrice t.slPips)

def simulate (t : Template) (bars : List Bar) (entry : ℚ) (direction : Direction)
    (balance atr : ℚ) : Except (List Unsupported) TemplateResult :=
  let refused := guard t false (decide (0 < atr))
  if refused ≠ [] then .error refused
  else
    let slDistance := slDistanceOf t atr
    let lot := lotFor t slDistance balance
    let w := Walk.start direction entry lot slDistance (ladder t entry direction.sign atr)
    .ok ((walkBars t direction entry lot 0 none bars w).res.finish direction.sign
      (bars.getLast?.map Bar.close) bars.length)

def simulateTicks (t : Template) (ticks : List Tick) (entry : ℚ) (direction : Direction)
    (balance : ℚ) : Except (List Unsupported) TemplateResult :=
  let refused := guard t true false
  if refused ≠ [] then .error refused
  else
    let slDistance := pipsToPrice t.slPips
    let lot := lotFor t slDistance balance
    let w := Walk.start direction entry lot slDistance (ladder t entry direction.sign 0)
    .ok ((walkTicks t direction entry lot 0 ticks w).res.finish direction.sign
      (ticks.getLast?.map fun tick => tick.closePrice direction) ticks.length)

/-- The bar of one tick: the mark of the side in all three prices. -/
def markBar (direction : Direction) (tick : Tick) : Bar :=
  let mark := tick.closePrice direction
  ⟨mark, mark, mark⟩

section OneMachine
variable {t : Template} {direction : Direction} {entry lot : ℚ}

theorem barReached_markBar (tick : Tick) (tpPrice : ℚ) :
    barReached direction (markBar direction tick) tpPrice =
      markReached direction (tick.closePrice direction) tpPrice := by
  cases direction <;> rfl

theorem barStopped_markBar (tick : Tick) :
    barStopped direction (markBar direction tick) =
      markStopped direction (tick.closePrice direction) := by
  cases direction <;> rfl

theorem favourable_markBar (tick : Tick) :
    (markBar direction tick).favourable direction = tick.closePrice direction := by
  cases direction <;> rfl

theorem barLadder_markBar (idx : ℕ) (tick : Tick) (rungs : List Rung) (res : TemplateResult) :
    barLadder t direction lot idx (markBar direction tick) rungs res =
      tickLadder t direction lot idx (tick.closePrice direction) rungs res := by
  induction rungs generalizing res with
  | nil => rfl
  | cons r rungs ih => simp only [barLadder, tickLadder, ih, barReached_markBar]

theorem barClimb_markBar (idx : ℕ) (tick : Tick) (w : Walk) :
    barClimb t direction lot idx (markBar direction tick) w =
      tickClimb t direction lot idx (tick.closePrice direction) w := by
  simp only [barClimb, tickClimb, barLadder_markBar]

theorem barTrail_markBar (refused : t.trailMode ≠ .candle) (prev : Option Bar) (tick : Tick)
    (rungs : List Rung) (stop : Option ℚ) :
    barTrail t direction prev (markBar direction tick) rungs stop =
      tickTrail t direction (tick.closePrice direction) rungs stop := by
  simp only [barTrail, tickTrail, favourable_markBar]
  cases mode : t.trailMode with
  | candle => exact absurd mode refused
  | off | step | tp | fractal | staged => rfl

theorem barManage_markBar (refused : t.trailMode ≠ .candle) (prev : Option Bar) (tick : Tick)
    (w : Walk) :
    barManage t direction entry prev (markBar direction tick) w =
      tickManage t direction entry (tick.closePrice direction) w := by
  simp only [barManage, tickManage, favourable_markBar, barTrail_markBar refused]

theorem barStep_markBar (refused : t.trailMode ≠ .candle) (idx : ℕ) (prev : Option Bar)
    (tick : Tick) (w : Walk) :
    barStep t direction entry lot idx prev (markBar direction tick) w =
      tickStep t direction entry lot idx tick w := by
  simp only [barStep, tickStep, barStopped_markBar, barClimb_markBar, barManage_markBar refused]

theorem walkBars_markBar (refused : t.trailMode ≠ .candle) (ticks : List Tick) (idx : ℕ)
    (prev : Option Bar) (w : Walk) :
    walkBars t direction entry lot idx prev (ticks.map (markBar direction)) w =
      walkTicks t direction entry lot idx ticks w := by
  induction ticks generalizing idx prev w with
  | nil => rfl
  | cons tick ticks ih =>
      simp only [List.map_cons, walkBars, walkTicks, barStep_markBar refused, ih]

theorem slDistanceOf_no_atr : slDistanceOf t 0 = pipsToPrice t.slPips := by
  simp [slDistanceOf, atrSlDistance, orElseOf]

/-- A template of the tick walk is one of the bar walk, and has no candle trail. -/
theorem guard_of_ticks (accepted : guard t true false = []) :
    guard t false false = [] ∧ t.trailMode ≠ .candle := by
  simp only [guard, Bool.false_and] at accepted ⊢
  split_ifs at accepted with refused mode
  · exact absurd accepted refused
  · have listed : t.trailMode ∈ supportedTickTrailModes := by simpa using mode
    refine ⟨?_, fun candle => by simp [candle, supportedTickTrailModes] at listed⟩
    have wider : ∀ m ∈ supportedTickTrailModes, m ∈ supportedTrailModes := by decide
    rw [if_neg refused, if_neg fun unlisted => unlisted (wider _ listed)]

end OneMachine

theorem simulate_markBars (t : Template) (ticks : List Tick) (entry : ℚ) (direction : Direction)
    (balance : ℚ) (accepted : guard t true false = []) :
    simulate t (ticks.map (markBar direction)) entry direction balance 0 =
      simulateTicks t ticks entry direction balance := by
  obtain ⟨bars, refused⟩ := guard_of_ticks accepted
  rw [simulate, simulateTicks, accepted, decide_eq_false (lt_irrefl 0), bars]
  simp only [walkBars_markBar refused, slDistanceOf_no_atr, List.length_map, List.getLast?_map,
    Option.map_map]
  rfl

/-- A single entry with three targets, a breakeven and a step trail. -/
def Template.threeTargets : Template :=
  { Template.defaults with
    pendings := 0
    tpPips := fun n => if n ≤ 3 then 20 * n else 0
    tpPct := fun n => if n ≤ 3 then 30 else 0
    lotAnchor := 1 / 10
    trailMode := .step
    trailDistance := 15
    trailActivation := 30 }

theorem simulate_markBars_threeTargets :
    simulate Template.threeTargets
        ([⟨4001, 4001⟩, ⟨4005, 4005⟩, ⟨4003, 4003⟩].map (markBar .buy)) 4000 .buy 10000 0 =
      simulateTicks Template.threeTargets [⟨4001, 4001⟩, ⟨4005, 4005⟩, ⟨4003, 4003⟩] 4000 .buy
        10000 :=
  simulate_markBars _ _ 4000 .buy 10000 (by decide)

end Backtest
end Forex
