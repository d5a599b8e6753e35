import Forex.Close.CloseTrade
import Forex.Telegram.Inbox

/-!
Which order a message leads to. The three entries of the trading half decide
from the settings, the gates, the quote and the book whether to send an order,
queue the signal, or do nothing; what is sent is in the last argument of the
decision. Balance, sizing, the pre-trade filter and the template's levels are
collaborators passed in by the caller, as in the source. A node that forwards
its orders to another one is not represented.
-/

namespace Forex
open Support

/-- A strategy override of a channel or of a window of the trading schedule. -/
inductive Override where
  | auto
  | fixed (strategy : Strategy)
deriving DecidableEq, Repr

/-- What the evaluation of a signal on an `auto` channel gives. -/
inductive Judgement where
  | unavailable
  | skip
  | chosen (strategy : Option Strategy)
deriving DecidableEq, Repr

structure Template where
  grid : Bool
  sigGuard : Bool
  tgCmdEnabled : Bool
  slPips : ℚ
  useDynamicAtr : Bool
  /-- The range of the template's own period; zero when it cannot be computed. -/
  atr : ℚ
  atrSlMult : ℚ
  riskPct : ℚ
  lotAnchor : ℚ
deriving DecidableEq, Repr

/-- Sizing and stop settings of an instant entry. -/
structure InstantRisk where
  riskGovernor : Bool
  atr : ℚ
  slMin : ℚ
  slMax : ℚ
  slAtrMult : ℚ
  maxRiskPct : ℚ
deriving DecidableEq, Repr

/-- Prices, gates and trading settings, and what the collaborators answer. -/
structure Market where
  tick : Option Tick
  spreadPoints : ℚ
  maxSpread : ℚ
  sessionOk : Bool
  scheduleOk : String → Bool
  newsOk : Bool
  biasBlocks : Direction → Bool
  eaHealthy : Bool
  /-- `should_queue`: shut for the week, and limit orders are to be kept. -/
  queueClosed : Bool
  maxOpenTrades : ℕ
  entryRealignment : Bool
  tradeStrategy : Strategy
  channelOverride : String → Option Override
  scheduleOverride : String → Option Override
  recommended : String → Option Strategy
  judge : String → Parsed → Judgement
  templates : String → Option Template
  instant : InstantRisk
  strategyLot : ℚ
  maxLot : ℚ
  balance : ℚ
  riskPct : ℚ
  suggestLotSize : ℚ → ℚ → ℚ → ℚ → ℚ
  filterRefuses : Direction → ℚ → ℚ → ℚ → Option ℚ → ℚ → Bool
  strategySlPt : Strategy → ℚ
  strategyTpPts : Strategy → List ℚ
  templateLevels : Template → Direction → ℚ → List (Option ℚ) → List (Option ℚ) × Option ℚ
  followupTimeout : ℚ
  /-- The signal id and the trade id that `uuid4` gives for a message. -/
  ids : Message → String × String
  answers : Message → SendAnswers
  closeReply : Trade → Reply
  legReply : LadderLeg → Reply
  modifies : Trade → Bool

inductive Decision where
  | nothing
  | send (site : SendSite) (tpOpen : Bool) (request : SendRequest)
  | queue (p : Parsed) (request : SendRequest)
  | queueClosed (p : Parsed)
deriving DecidableEq, Repr

def Tick.fillPrice (tick : Tick) : Direction → ℚ
  | .buy => tick.ask
  | .sell => tick.bid

/-- `price_in_entry_range`. -/
def inEntryRange (d : Direction) (low high : ℚ) (tick : Tick) : Bool :=
  match d with
  | .buy => decide (tick.ask ≤ high)
  | .sell => decide (low ≤ tick.bid)

def maxGapFirePts : ℚ := 15

def highRisk (m : Message) : Bool := contains "high risk".toList (lower m.body.toList)

def selfManaged : Strategy → Bool
  | .conservative | .scalpRunner | .conservativeTrial | .fixedRr => true
  | _ => false

def climberMode : Strategy → Bool
  | .signalClimber | .reversalRunner | .adaptiveRunner | .adaptiveRunner2 => true
  | _ => false

/-- Python's `x or default` on a number. -/
def unlessZero (x default : ℚ) : ℚ := if x = 0 then default else x

def anchorLot (anchor maxLot : ℚ) : ℚ := min (unlessZero anchor (1 / 100)) maxLot

def clampTo (low high x : ℚ) : ℚ := max low (min (roundTo 2 x) high)

namespace Market
variable (mk : Market)

def templateOf : Strategy → Option Template
  | .template name => mk.templates name
  | _ => none

/-- `is_grid_template`; a template that cannot be read is none. -/
def isGrid (strategy : Strategy) : Bool := (mk.templateOf strategy).any Template.grid

/-- `resolve_strategy_and_skip_reason`: the strategy, and whether the evaluation
declined the signal. -/
def resolveStrategy (channel : String) (m : Message) (p : Parsed) : Strategy × Bool :=
  let recommended := (mk.recommended channel).getD mk.tradeStrategy
  let (strategy, skip) :=
    match (mk.scheduleOverride channel).or (mk.channelOverride channel) with
    | none => (mk.tradeStrategy, false)
    | some (.fixed strategy) => (strategy, false)
    | some .auto =>
        match mk.judge channel p with
        | .unavailable => (recommended, false)
        | .skip => (mk.tradeStrategy, true)
        | .chosen strategy => (strategy.getD mk.tradeStrategy, false)
  (if highRisk m && !strategy.isTemplate then .conservative else strategy, skip)

/-- The strategy of `process_instant_entry`, which no schedule overrides. -/
def instantStrategy (channel : String) (m : Message) : Strategy :=
  let strategy :=
    match mk.channelOverride channel with
    | none => mk.tradeStrategy
    | some (.fixed strategy) => strategy
    | some .auto => (mk.recommended channel).getD mk.tradeStrategy
  if highRisk m && !strategy.isTemplate then .conservative else strategy

def clampedStop (x : ℚ) : ℚ := clampTo mk.instant.slMin mk.instant.slMax x

/-- Lot and stop distance of an instant entry under a template. -/
def templateRisk (t : Template) : ℚ × ℚ :=
  let lot := if t.riskPct ≤ 0 then anchorLot t.lotAnchor mk.maxLot else 1 / 100
  let distance :=
    if t.useDynamicAtr ∧ 0 < t.atr then
      roundTo 2 (t.atr * unlessZero t.atrSlMult (3 / 2))
    else if 0 < t.slPips then roundTo 2 (t.slPips * pipsToPrice)
    else clampTo 8 25 (if 0 < mk.instant.atr then mk.instant.atr * (6 / 5) else 12)
  (lot, distance)

/-- Lot and stop distance of an instant entry without one; the risk governor
declines a size below the smallest lot. -/
def plainRisk : Option (ℚ × ℚ) :=
  let byAtr := mk.clampedStop
    (if 0 < mk.instant.atr then mk.instant.atr * mk.instant.slAtrMult else 12)
  let risk := unlessZero mk.riskPct (1 / 2)
  let maxLot := unlessZero mk.maxLot (1 / 10)
  if mk.instant.riskGovernor then
    if 0 < mk.strategyLot then some (mk.strategyLot, byAtr)
    else
      let lot := roundTo 2 (min (min (mk.balance * risk / 100 / (byAtr * 100))
        (mk.balance * unlessZero mk.instant.maxRiskPct 1 / 100 / (byAtr * 100))) maxLot)
      if lot < 1 / 100 then none else some (lot, byAtr)
  else if 0 < mk.strategyLot then
    some (mk.strategyLot, mk.clampedStop (150 / (mk.strategyLot * 100)))
  else
    some (max (1 / 100) (min (roundTo 2 (mk.balance * risk / 100 / (byAtr * 100))) maxLot),
      byAtr)

def lotFor (strategy : Strategy) (entry stop : ℚ) : ℚ :=
  match mk.templateOf strategy with
  | some t =>
      if 0 < t.riskPct then mk.suggestLotSize entry stop mk.balance t.riskPct
      else anchorLot t.lotAnchor mk.maxLot
  | none =>
      if 0 < mk.strategyLot then mk.strategyLot
      else mk.suggestLotSize entry stop mk.balance mk.riskPct

end Market

section Decide
variable (env : ScanEnv) (mk : Market) (ch : ChannelConfig) (m : Message)

def requestFor (strategy : Strategy) (d : Direction) (lots stop : ℚ) (tps : List (Option ℚ))
    (price : ℚ) : SendRequest where
  tradeId := (mk.ids m).2
  signalId := (mk.ids m).1
  direction := d
  lots := lots
  stopLoss := stop
  tps := tps
  strategy := strategy
  price := price
  now := env.now

/-- The risk of the entry, or none where a template is missing or its guard
blocks. `guarded` says whether a template trade of this side is open. -/
def instantRisk (strategy : Strategy) (guarded : Bool) : Option (ℚ × ℚ) :=
  match strategy with
  | .template name =>
      (mk.templates name).bind fun t =>
        if t.sigGuard && guarded then none else some (mk.templateRisk t)
  | _ => mk.plainRisk

/-- `process_instant_entry` after its staleness guard. -/
def processInstantEntry (slots : ℕ) (guarded : Bool) (d : Direction) (price : Option ℚ) :
    Decision :=
  if !env.settings.autoExecute || !mk.sessionOk || !mk.scheduleOk ch.name || !mk.newsOk ||
      mk.biasBlocks d then .nothing
  else
    match mk.tick with
    | none => .nothing
    | some tick =>
        if mk.maxSpread < mk.spreadPoints then .nothing
        else
          let strategy := mk.instantStrategy ch.name m
          if mk.maxOpenTrades ≤ slots then .nothing
          else
            match instantRisk mk strategy guarded with
            | none => .nothing
            | some (lots, distance) =>
                let entry := (price.filter fun px => decide (px ≠ 0)).getD (tick.fillPrice d)
                .send .instant false
                  (requestFor env mk m strategy d lots (roundTo 2 (entry - d.sign * distance))
                    (List.replicate 8 none) (tick.fillPrice d))

/-- The edge of the zone on the losing side. -/
def farEdge (p : Parsed) : ℚ :=
  match p.direction with
  | .buy => p.entryLow
  | .sell => p.entryHigh

/-- `realign_for_breach` on a zone already known to be breached. -/
def realignForBreach (p : Parsed) (stop price : ℚ) : Option Parsed :=
  let delta := price - farEdge p
  let newStop := roundTo 2 (stop + delta)
  if p.direction.sign * (price - newStop) ≤ 0 then none
  else
    some { p with
      stopLoss := some newStop
      tps := p.tps.map fun tp =>
        (tp.filter fun v => decide (v ≠ 0)).map fun v => roundTo 2 (v + delta) }

/-- The shift of a gap-fired entry. -/
def gapShift (p : Parsed) (gap : ℚ) : Parsed :=
  let shift (x : ℚ) : ℚ := roundTo 2 (x + p.direction.sign * gap)
  { p with
    entryLow := shift p.entryLow
    entryHigh := shift p.entryHigh
    stopLoss := p.stopLoss.map shift
    tps := p.tps.map (Option.map shift) }

/-- The stop a market entry is sent with. -/
def entryStop (strategy : Strategy) (p : Parsed) (stop : ℚ) : ℚ :=
  match strategy with
  | .conservative | .scalpRunner | .adaptiveRunner2 =>
      roundTo 2 ((p.entryLow + p.entryHigh) / 2 - p.direction.sign * mk.strategySlPt strategy)
  | _ => stop

/-- The gap by which the price has left the zone, when it may be fired into. -/
def gapToFire (p : Parsed) (tick : Tick) : Option ℚ :=
  let gap := match p.direction with
    | .buy => roundTo 2 (tick.ask - p.entryHigh)
    | .sell => roundTo 2 (p.entryLow - tick.bid)
  if env.settings.immediateMarketEntry && decide (0 < gap ∧ gap ≤ maxGapFirePts) then some gap
  else none

/-- The branches after the filter: a grid at once, the market in its zone or
gap-fired, otherwise the queue. -/
def placeSignal (strategy : Strategy) (p : Parsed) (stop : ℚ) (tick : Tick) : Decision :=
  let d := p.direction
  let lots := mk.lotFor strategy ((p.entryLow + p.entryHigh) / 2) stop
  if mk.isGrid strategy then
    .send .grid false (requestFor env mk m strategy d lots stop p.tps (tick.fillPrice d))
  else if inEntryRange d p.entryLow p.entryHigh tick then
    .send .market false
      (requestFor env mk m strategy d lots (entryStop mk strategy p stop) p.tps (tick.fillPrice d))
  else
    match gapToFire env p tick with
    | some gap =>
        let shifted := gapShift p gap
        .send .market false
          (requestFor env mk m strategy d lots
            (entryStop mk strategy shifted (roundTo 2 (stop + d.sign * gap))) shifted.tps
            (tick.fillPrice d))
    | none => .queue p (requestFor env mk m strategy d lots stop p.tps (tick.fillPrice d))

def bypassesFilter (strategy : Strategy) : Bool :=
  selfManaged strategy || climberMode strategy || strategy.isTemplate ||
    env.settings.immediateMarketEntry

def zoneBroken (p : Parsed) (tick : Tick) : Bool :=
  match p.direction with
  | .buy => decide (tick.ask < p.entryLow)
  | .sell => decide (p.entryHigh < tick.bid)

def filterAndPlace (strategy : Strategy) (p : Parsed) (stop reference : ℚ) (tick : Tick) :
    Decision :=
  if !bypassesFilter env strategy &&
      mk.filterRefuses p.direction p.entryLow p.entryHigh stop (p.tps.headD none) reference then
    .nothing
  else placeSignal env mk m strategy p stop tick

/-- A breached zone is discarded, or entered with every level moved along. -/
def enterBroken (strategy : Strategy) (p : Parsed) (stop : ℚ) (tick : Tick) : Decision :=
  if mk.entryRealignment then
    match realignForBreach p stop (tick.fillPrice p.direction) with
    | none => .nothing
    | some q =>
        filterAndPlace env mk m strategy q (q.stopLoss.getD stop) (tick.fillPrice q.direction) tick
  else .nothing

/-- From the quote on: validation, the breached zone, the filter. -/
def enterSignal (strategy : Strategy) (p : Parsed) (tick : Tick) : Decision :=
  let refused :=
    if selfManaged strategy then decide (p.entryHigh < p.entryLow)
    else decide (validateSignal p ≠ [])
  match p.stopLoss with
  | none => .nothing
  | some stop =>
      if refused then .nothing
      else if zoneBroken p tick then enterBroken env mk m strategy p stop tick
      else
        let reference :=
          if inEntryRange p.direction p.entryLow p.entryHigh tick then
            tick.fillPrice p.direction
          else (p.entryLow + p.entryHigh) / 2
        filterAndPlace env mk m strategy p stop reference tick

/-- `_execute_auto_signal` below its follow-up gate. -/
def executeAutoSignal (slots : ℕ) (strategy : Strategy) (skip : Bool) (p : Parsed) : Decision :=
  if !mk.sessionOk || !mk.scheduleOk ch.name || !mk.newsOk || mk.biasBlocks p.direction || skip ||
      decide (mk.maxOpenTrades ≤ slots) then .nothing
  else
    match mk.tick with
    | none => .nothing
    | some tick => enterSignal env mk m strategy p tick

/-- The single template assigned to the channel, for a resting order. -/
def restingTemplate : Option Template :=
  match mk.channelOverride ch.name with
  | some (.fixed strategy) =>
      (mk.templateOf strategy).filter fun t => !t.grid
  | _ => none

/-- The strategy stamp of `_resolve_management`. -/
def manageStrategy : Strategy :=
  match mk.channelOverride ch.name with
  | some (.fixed strategy) => strategy
  | _ => .limitRunner

def restingLot (entry stop : ℚ) : ℚ :=
  match restingTemplate mk ch with
  | some t =>
      if 0 < t.riskPct then mk.suggestLotSize entry stop mk.balance t.riskPct
      else anchorLot t.lotAnchor mk.maxLot
  | none =>
      if 0 < mk.strategyLot then mk.strategyLot
      else mk.suggestLotSize entry stop mk.balance mk.riskPct

/-- Where the order would rest has been passed already. -/
def restBreached (d : Direction) (price : ℚ) (tick : Tick) : Bool :=
  match d with
  | .buy => decide (price ≤ tick.ask)
  | .sell => decide (tick.bid ≤ price)

/-- The end of `handle_limit_order_signal`: a resting order, or a market order
with every level moved by the breach. -/
def placeResting (p : Parsed) (tpOpen : Bool) (price stop : ℚ) (tps : List (Option ℚ)) :
    Decision :=
  let d := p.direction
  let lots := restingLot mk ch price stop
  let strategy := manageStrategy mk ch
  let resting := .send .resting tpOpen (requestFor env mk m strategy d lots stop tps price)
  if mk.entryRealignment then
    match mk.tick with
    | none => resting
    | some tick =>
        if restBreached d price tick then
          let delta := tick.fillPrice d - price
          .send .realigned tpOpen
            (requestFor env mk m strategy d lots (roundTo 2 (stop + delta))
              (tps.map (Option.map fun tp => roundTo 2 (tp + delta))) (tick.fillPrice d))
        else resting
  else resting

/-- `handle_limit_order_signal`. -/
def handleLimitOrderSignal (skip : Bool) (p : Parsed) (tpOpen : Bool) : Decision :=
  if !mk.sessionOk then if mk.queueClosed then .queueClosed p else .nothing
  else if skip || !mk.eaHealthy then .nothing
  else
    match p.stopLoss with
    | none => .nothing
    | some stop =>
        if p.tps.reduceOption = [] then .nothing
        else
          let price := match p.direction with
            | .buy => p.entryHigh
            | .sell => p.entryLow
          let (tps, stop) :=
            match restingTemplate mk ch with
            | none => (p.tps, stop)
            | some t =>
                let (tps, own) := mk.templateLevels t p.direction price p.tps
                (if tps.reduceOption = [] then p.tps else tps, own.getD stop)
          if mk.biasBlocks p.direction then .nothing
          else placeResting env mk ch m p tpOpen price stop tps

end Decide

/-- The side of what is asked for, now or when a queue is served. -/
def Decision.direction : Decision → Option Direction
  | .nothing => none
  | .send _ _ r => some r.direction
  | .queue _ r => some r.direction
  | .queueClosed p => some p.direction

/-- The decision is about this side, if about any. -/
def Decision.Takes (d : Direction) (c : Decision) : Prop := ∀ e ∈ c.direction, e = d

section Sides
variable {env : ScanEnv} {mk : Market} {ch : ChannelConfig} {m : Message}

theorem Decision.takes_nothing (d : Direction) : Decision.nothing.Takes d := by
  intro e mem
  cases mem

theorem realignForBreach_direction {p q : Parsed} {stop price : ℚ}
    (h : realignForBreach p stop price = some q) : q.direction = p.direction := by
  simp only [realignForBreach] at h
  split at h
  · cases h
  · rw [← Option.some.inj h]

theorem placeSignal_takes (strategy : Strategy) (p : Parsed) (stop : ℚ) (tick : Tick) :
    (placeSignal env mk m strategy p stop tick).Takes p.direction := by
  rw [placeSignal]
  split
  · exact fun e mem => (Option.some.inj mem).symm
  · split
    · exact fun e mem => (Option.some.inj mem).symm
    · split <;> exact fun e mem => (Option.some.inj mem).symm

theorem filterAndPlace_takes (strategy : Strategy) (p : Parsed) (stop reference : ℚ)
    (tick : Tick) : (filterAndPlace env mk m strategy p stop reference tick).Takes p.direction := by
  rw [filterAndPlace]
  split
  · exact Decision.takes_nothing _
  · exact placeSignal_takes _ _ _ _

theorem enterBroken_takes (strategy : Strategy) (p : Parsed) (stop : ℚ) (tick : Tick) :
    (enterBroken env mk m strategy p stop tick).Takes p.direction := by
  rw [enterBroken]
  split
  · cases realigned : realignForBreach p stop (tick.fillPrice p.direction) with
    | none => exact Decision.takes_nothing _
    | some q =>
        rw [← realignForBreach_direction realigned]
        exact filterAndPlace_takes _ _ _ _ _
  · exact Decision.takes_nothing _

theorem enterSignal_takes (strategy : Strategy) (p : Parsed) (tick : Tick) :
    (enterSignal env mk m strategy p tick).Takes p.direction := by
  rw [enterSignal]
  cases p.stopLoss with
  | none => exact Decision.takes_nothing _
  | some stop =>
      dsimp only
      generalize (if selfManaged strategy = true then decide (p.entryHigh < p.entryLow)
        else decide (validateSignal p ≠ [])) = refused
      cases refused with
      | true => exact Decision.takes_nothing _
      | false =>
          cases zoneBroken p tick with
          | true => exact enterBroken_takes _ _ _ _
          | false => exact filterAndPlace_takes _ _ _ _ _

theorem executeAutoSignal_takes (slots : ℕ) (strategy : Strategy) (skip : Bool) (p : Parsed) :
    (executeAutoSignal env mk ch m slots strategy skip p).Takes p.direction := by
  rw [executeAutoSignal]
  split
  · exact Decision.takes_nothing _
  · split
    · exact Decision.takes_nothing _
    · exact enterSignal_takes _ _ _

theorem placeResting_takes (p : Parsed) (tpOpen : Bool) (price stop : ℚ) (tps : List (Option ℚ)) :
    (placeResting env mk ch m p tpOpen price stop tps).Takes p.direction := by
  simp only [placeResting]
  split
  · split
    · exact fun e mem => (Option.some.inj mem).symm
    · split <;> exact fun e mem => (Option.some.inj mem).symm
  · exact fun e mem => (Option.some.inj mem).symm

theorem handleLimitOrderSignal_takes (skip : Bool) (p : Parsed) (tpOpen : Bool) :
    (handleLimitOrderSignal env mk ch m skip p tpOpen).Takes p.direction := by
  simp only [handleLimitOrderSignal]
  split
  · split
    · exact fun e mem => (Option.some.inj mem).symm
    · exact Decision.takes_nothing _
  · split
    · exact Decision.takes_nothing _
    · split
      · exact Decision.takes_nothing _
      · split
        · exact Decision.takes_nothing _
        · split
          · exact Decision.takes_nothing _
          · exact placeResting_takes _ _ _ _ _

theorem processInstantEntry_takes (slots : ℕ) (guarded : Bool) (d : Direction)
    (price : Option ℚ) :
    (processInstantEntry env mk ch m slots guarded d price).Takes d := by
  simp only [processInstantEntry]
  split
  · exact Decision.takes_nothing _
  · split
    · exact Decision.takes_nothing _
    · split
      · exact Decision.takes_nothing _
      · split
        · exact Decision.takes_nothing _
        · split
          · exact Decision.takes_nothing _
          · exact fun e mem => (Option.some.inj mem).symm

end Sides

/-- A quiet market in which every gate is open, no channel has an override, and
the bridge fills at its quote. -/
def Market.calm : Market where
  tick := some ⟨2000, 2001⟩
  spreadPoints := 10
  maxSpread := 50
  sessionOk := true
  scheduleOk _ := true
  newsOk := true
  biasBlocks _ := false
  eaHealthy := true
  queueClosed := false
  maxOpenTrades := 5
  entryRealignment := false
  tradeStrategy := .scaleOut
  channelOverride _ := none
  scheduleOverride _ := none
  recommended _ := none
  judge _ _ := .unavailable
  templates _ := none
  instant := ⟨false, 0, 8, 25, 6 / 5, 1⟩
  strategyLot := 1 / 10
  maxLot := 1 / 10
  balance := 1000
  riskPct := 1 / 2
  suggestLotSize _ _ _ _ := 1 / 100
  filterRefuses _ _ _ _ _ _ := false
  strategySlPt _ := 5
  strategyTpPts _ := [3]
  templateLevels _ _ _ tps := (tps, none)
  followupTimeout := 180
  ids m := ("s" ++ toString m.id, "t" ++ toString m.id)
  answers _ := ⟨none, false, .notConnected, .absent, "", .placed (some 7001) none⟩
  closeReply _ := .answered ⟨some true, none, none, none⟩
  legReply _ := .raised
  modifies _ := true

end Forex
