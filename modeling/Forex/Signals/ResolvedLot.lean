import Forex.Risk.Sizing
import Forex.Telegram.Orders

/-!
`resolve_open_trade_params` from its sizing on: the lot is chosen, scaled by the channel
and by the age of the signal, and then chosen again by the strategies that set a stop of
their own. What comes before, its gates, only ends the call.
-/

namespace Forex
open Support

/-- The columns of the signal that sizing reads. -/
structure SizedSignal where
  direction : Direction
  entryLow : ℚ
  entryHigh : ℚ
  stopLoss : ℚ
  tps : List (Option ℚ)
  lotSize : Option ℚ
  riskPct : Option ℚ

/-- The parameters of a strategy that widens the stop of the signal. -/
structure WidenParams where
  slFloorPt : ℚ
  slMult : ℚ
  slCapPt : ℚ

/-- What the call reads, with the balance as each of its stages finds it. -/
structure LotResolution where
  rs : SizingSettings
  strategyLotSize : ℚ
  trailStopSlPts : ℚ
  riskGovernorEnabled : Bool
  sig : SizedSignal
  strategy : Strategy
  /-- The template of the strategy, if it is one. -/
  template : Option Template
  lotSizeOverride : Option ℚ
  channelMultiplier : ℚ
  ageLotMult : ℚ
  tick : Tick
  /-- The ADX and the ATR of the candles; no candles, no ADX. -/
  adx : Option ℚ
  atr : ℚ
  balance : ℚ
  balanceAtStop : ℚ
  balanceAtGovernor : ℚ
  governor : GovernorView
  slPt : Strategy → ℚ
  reversal : WidenParams
  adaptive : WidenParams
  tpCapFrac : ℚ
  templated : template.isSome = strategy.isTemplate

inductive ResolutionError where
  | notTrending (adx : ℚ)
  | governorBlocked (refusal : SizeRefusal)
deriving DecidableEq, Repr

/-- `max(0.01, round(lot, 2))`. -/
def toLot (x : ℚ) : ℚ := max (1 / 100) (roundTo 2 x)

/-- `_rr_sl_dist`. -/
def rrSlDist (p : WidenParams) (stated : ℚ) : ℚ :=
  if stated = 0 ∨ stated < 1 / 2 ∨ 50 < stated then p.slFloorPt
  else min (stated * p.slMult) p.slCapPt

/-- `_adaptive_sl_dist`. -/
def adaptiveSlDist (p : WidenParams) (tpCapFrac stated finalTpDist : ℚ) : ℚ :=
  if stated = 0 ∨ stated < 1 / 2 ∨ 50 < stated then p.slFloorPt
  else
    let widened := min (stated * p.slMult) p.slCapPt
    if 0 < finalTpDist then max stated (min widened (finalTpDist * tpCapFrac)) else widened

/-- `_adaptive_final_tp_dist`. -/
def adaptiveFinalTpDist (sig : SizedSignal) (entryMid : ℚ) : ℚ :=
  ((sig.tps.take 8).reduceOption.filter fun tp =>
    decide (0 < sig.direction.sign * (tp - entryMid))).foldl
      (fun far tp => max far |tp - entryMid|) 0

/-- `template_sl_at`. -/
def templateSlAt (t : Template) (d : Direction) (ref : ℚ) : Option ℚ :=
  let dist :=
    if t.useDynamicAtr ∧ 0 < t.atr then some (t.atr * unlessZero t.atrSlMult (3 / 2))
    else if 0 < t.slPips then some (t.slPips * pipsToPrice)
    else none
  dist.map fun dist => roundTo 2 (ref - d.sign * dist)

/-- The strategies that choose the lot again from their own stop. -/
def Strategy.sizesFromStop : Strategy → Bool
  | .fixedRr | .conservative | .scalpRunner | .trailStop | .signalClimber | .reversalRunner
  | .adaptiveRunner | .adaptiveRunner2 => true
  | _ => false

namespace LotResolution
variable (v : LotResolution)

def entryMid : ℚ := (v.sig.entryLow + v.sig.entryHigh) / 2

def riskPct : ℚ := (truthy v.sig.riskPct).getD (v.rs.riskPerTradePct.getD (1 / 2))

/-- `_template_lot_is_fixed`. -/
def templateLotIsFixed : Bool := v.template.any fun t => decide (t.riskPct ≤ 0)

/-- The size of a template from its own fields. -/
def templateLot (t : Template) : ℚ :=
  if 0 < t.riskPct then v.rs.suggestLotSize v.entryMid v.sig.stopLoss v.balance t.riskPct
  else anchorLot t.lotAnchor (v.rs.maxLotSize.getD (1 / 10))

/-- The lot before it is scaled: an explicit one, that of the template, or by risk. -/
def baseLot : ℚ :=
  (((truthy v.lotSizeOverride).or (truthy v.sig.lotSize)).or
    (truthy (v.template.map v.templateLot))).getD
      (v.rs.suggestLotSize v.entryMid v.sig.stopLoss v.balance v.riskPct)

def scaledLot : ℚ :=
  toLot (if v.channelMultiplier ≠ 1 ∧ truthy v.lotSizeOverride = none ∧
      v.templateLotIsFixed = false then v.baseLot * v.channelMultiplier else v.baseLot)

/-- The global fixed lot wins over any other but a template's. -/
def chosenLot : ℚ :=
  if 0 < v.strategyLotSize ∧ v.strategy.isTemplate = false then v.strategyLotSize else v.scaledLot

/-- A stale signal trades smaller. -/
def agedLot : ℚ :=
  if v.ageLotMult < 1 ∧ truthy v.lotSizeOverride = none then toLot (v.chosenLot * v.ageLotMult)
  else v.chosenLot

/-- The stop at a distance from the middle of the zone. -/
def stopAt (distance : ℚ) : ℚ := roundTo 2 (v.entryMid - v.sig.direction.sign * distance)

def statedDistance : ℚ := |v.entryMid - v.sig.stopLoss|

/-- `stop_loss_to_use`. -/
def stopLossToUse : ℚ :=
  match v.strategy with
  | .template _ =>
      (v.template.bind fun t =>
        templateSlAt t v.sig.direction (v.tick.fillPrice v.sig.direction)).getD v.sig.stopLoss
  | .noSlScale => v.stopAt (v.statedDistance * (3 / 2))
  | .fixedRr => v.stopAt (v.slPt .fixedRr)
  | .conservative => v.stopAt (v.slPt .conservative)
  | .scalpRunner => v.stopAt (v.slPt .scalpRunner)
  | .conservativeTrial => v.stopAt (roundTo 1 (100 / (v.agedLot * 100)))
  | .trailStop => v.stopAt v.trailStopSlPts
  | .reversalRunner => v.stopAt (rrSlDist v.reversal v.statedDistance)
  | .adaptiveRunner =>
      v.stopAt (adaptiveSlDist v.adaptive v.tpCapFrac v.statedDistance
        (adaptiveFinalTpDist v.sig v.entryMid))
  | .adaptiveRunner2 => v.stopAt (v.slPt .adaptiveRunner2)
  | _ => v.sig.stopLoss

/-- A fixed lot that keeps a strategy from choosing the lot again. -/
def lotGiven : Bool :=
  decide (0 < v.strategyLotSize) || (truthy v.lotSizeOverride).isSome ||
    (truthy v.sig.lotSize).isSome

def lotAtStop : ℚ :=
  if v.strategy.sizesFromStop && !v.lotGiven then
    toLot (v.rs.suggestLotSize v.entryMid v.stopLossToUse v.balanceAtStop v.riskPct)
  else v.agedLot

/-- `resolve_open_trade_params`: the lot and the stop. -/
def resolve : Except ResolutionError (ℚ × ℚ) :=
  match v.adx.filter fun adx => decide (v.strategy = .noSlScale ∧ adx < 30) with
  | some adx => .error (.notTrending adx)
  | none =>
      if v.riskGovernorEnabled then
        match rgSizeAndCheck v.rs v.governor
            ⟨v.sig.direction, v.tick.fillPrice v.sig.direction, v.stopLossToUse,
              v.sig.tps.headD none, v.strategy, v.atr, v.balanceAtGovernor⟩ with
        | .error refusal => .error (.governorBlocked refusal)
        | .ok lot => .ok (if 0 < v.strategyLotSize then v.strategyLotSize else lot,
            v.stopLossToUse)
      else .ok (v.lotAtStop, v.stopLossToUse)

end LotResolution

section Lots

theorem truthy_some_of_ne {x : ℚ} (nonzero : x ≠ 0) : truthy (some x) = some x :=
  Option.filter_some_pos (decide_eq_true nonzero)

theorem smallest_le_toLot (x : ℚ) : 1 / 100 ≤ toLot x := le_max_left _ _

theorem toLot_mono {x y : ℚ} (le : x ≤ y) : toLot x ≤ toLot y :=
  max_le_max_left _ (roundTo_mono 2 le)

theorem toLot_toLot (x : ℚ) : toLot (toLot x) = toLot x := by
  have grain : OnGrid 2 (1 / 100) := ⟨1, by norm_num⟩
  rw [toLot, toLot, roundTo_of_onGrid (grain.max (roundTo_onGrid 2 x)),
    max_eq_right (le_max_left _ _)]

theorem smallest_le_suggestLotSize (rs : SizingSettings) (entry stopLoss balance riskPct : ℚ) :
    1 / 100 ≤ rs.suggestLotSize entry stopLoss balance riskPct := by
  rw [SizingSettings.suggestLotSize]
  dsimp only
  split_ifs
  · exact le_rfl
  · exact le_max_left _ _
  · exact le_max_left _ _

/-- A suggested lot, however it is made smaller, is within the largest one. -/
theorem toLot_suggested_le {rs : SizingSettings} {entry stopLoss balance riskPct x : ℚ}
    (le : x ≤ rs.suggestLotSize entry stopLoss balance riskPct) :
    toLot x ≤ toLot (rs.maxLotSize.getD (1 / 10)) := by
  by_cases least : rs.suggestLotSize entry stopLoss balance riskPct = 1 / 100
  · refine (toLot_mono le).trans ?_
    have grain : toLot (1 / 100) = 1 / 100 := by decide +kernel
    rw [least, grain]
    exact smallest_le_toLot _
  · exact toLot_mono (le.trans (suggestLotSize_le_maxLot least))

end Lots

namespace LotResolution
variable {v : LotResolution}

variable (v) in
/-- No override, no lot of the signal and no global fixed lot is in force. -/
structure Unfixed : Prop where
  override : truthy v.lotSizeOverride = none
  signal : truthy v.sig.lotSize = none
  global : 0 < v.strategyLotSize → v.strategy.isTemplate = true

variable (v) in
/-- The size by risk for the stop of the signal. -/
def riskSize : ℚ :=
  v.rs.suggestLotSize v.entryMid v.sig.stopLoss v.balance
    ((v.template.map Template.riskPct).getD v.riskPct)

variable (v) in
/-- What the age of the signal leaves of a lot. -/
def decayed (lot : ℚ) : ℚ := if v.ageLotMult < 1 then toLot (lot * v.ageLotMult) else lot

theorem Unfixed.agedLot_eq (free : v.Unfixed) : v.agedLot = v.decayed v.scaledLot := by
  have chosen : v.chosenLot = v.scaledLot :=
    if_neg fun both => by
      rw [free.global both.1] at both
      cases both.2
  rw [agedLot, decayed, chosen, free.override]
  simp only [and_true]

/-- Without a fixed lot of the template either, the base is the size by risk. -/
theorem Unfixed.baseLot_eq (free : v.Unfixed) (flexible : v.templateLotIsFixed = false) :
    v.baseLot = v.riskSize := by
  rw [baseLot, riskSize, free.override, free.signal]
  cases held : v.template with
  | none => rfl
  | some t =>
      have sized : 0 < t.riskPct := by
        rw [templateLotIsFixed, held] at flexible
        simpa using flexible
      have lot : v.templateLot t =
          v.rs.suggestLotSize v.entryMid v.sig.stopLoss v.balance t.riskPct := if_pos sized
      have kept : truthy (some (v.rs.suggestLotSize v.entryMid v.sig.stopLoss v.balance
          t.riskPct)) = some (v.rs.suggestLotSize v.entryMid v.sig.stopLoss v.balance t.riskPct) :=
        truthy_some_of_ne
          (lt_of_lt_of_le (by norm_num) (smallest_le_suggestLotSize _ _ _ _ _)).ne'
      rw [Option.map_some, lot, kept]
      rfl

theorem Unfixed.scaledLot_eq (free : v.Unfixed) (flexible : v.templateLotIsFixed = false) :
    v.scaledLot = toLot (v.riskSize * v.channelMultiplier) := by
  rw [scaledLot, free.override, flexible, free.baseLot_eq flexible]
  split_ifs with scales
  · rfl
  · have neutral : v.channelMultiplier = 1 := by simpa using scales
    rw [neutral, mul_one]

/-- The base of a lot that the channel may only make smaller is within the largest lot. -/
theorem Unfixed.scaledLot_le (free : v.Unfixed)
    (modest : v.channelMultiplier ≤ 1 ∨ v.templateLotIsFixed = true) :
    v.scaledLot ≤ toLot (v.rs.maxLotSize.getD (1 / 10)) := by
  cases fixed : v.templateLotIsFixed with
  | false =>
      have multiplier : v.channelMultiplier ≤ 1 := modest.resolve_right fun other => by
        rw [fixed] at other
        cases other
      have pos : 0 ≤ v.riskSize := le_trans (by norm_num) (smallest_le_suggestLotSize _ _ _ _ _)
      rw [free.scaledLot_eq fixed]
      exact toLot_suggested_le (mul_le_of_le_one_right pos multiplier)
  | true =>
      have base : v.scaledLot = toLot v.baseLot := by
        rw [scaledLot, fixed]
        simp
      obtain ⟨t, held, flat⟩ := (Option.any_eq_true _ _).mp fixed
      have anchor : v.templateLot t = anchorLot t.lotAnchor (v.rs.maxLotSize.getD (1 / 10)) :=
        if_neg (not_lt.mpr (of_decide_eq_true flat))
      have within : anchorLot t.lotAnchor (v.rs.maxLotSize.getD (1 / 10)) ≤
          v.rs.maxLotSize.getD (1 / 10) := min_le_right _ _
      rw [base, baseLot, free.override, free.signal, held, Option.map_some, anchor]
      by_cases nothing : anchorLot t.lotAnchor (v.rs.maxLotSize.getD (1 / 10)) = 0
      · rw [nothing]
        exact toLot_suggested_le le_rfl
      · rw [truthy_some_of_ne nothing]
        exact toLot_mono within

/-- A factor below one makes no lot larger. -/
theorem decayed_le {lot bound : ℚ} (least : 1 / 100 ≤ lot) (le : lot ≤ toLot bound) :
    v.decayed lot ≤ toLot bound := by
  rw [decayed]
  split_ifs with stale
  · rw [← toLot_toLot bound]
    have smaller : lot * v.ageLotMult ≤ lot :=
      mul_le_of_le_one_right (le_trans (by norm_num) least) stale.le
    exact toLot_mono (smaller.trans le)
  · exact le

theorem lotAtStop_of_recomputed (own : v.strategy.sizesFromStop = true) (free : v.Unfixed) :
    v.lotAtStop =
      toLot (v.rs.suggestLotSize v.entryMid v.stopLossToUse v.balanceAtStop v.riskPct) := by
  have plain : v.strategy.isTemplate = false := by
    revert own
    cases v.strategy <;> simp [Strategy.sizesFromStop, Strategy.isTemplate]
  have unset : ¬ 0 < v.strategyLotSize := fun set => by
    rw [free.global set] at plain
    cases plain
  rw [lotAtStop, lotGiven, own, free.override, free.signal, decide_eq_false unset]
  rfl

theorem lotAtStop_of_kept (other : v.strategy.sizesFromStop = false) : v.lotAtStop = v.agedLot := by
  rw [lotAtStop, other]
  rfl

variable {lot stop : ℚ}

theorem resolve_ok (ungoverned : v.riskGovernorEnabled = false)
    (resolved : v.resolve = .ok (lot, stop)) : lot = v.lotAtStop ∧ stop = v.stopLossToUse := by
  rw [resolve, ungoverned] at resolved
  cases blocked : v.adx.filter fun adx => decide (v.strategy = .noSlScale ∧ adx < 30) with
  | some adx =>
      rw [blocked] at resolved
      cases resolved
  | none =>
      rw [blocked] at resolved
      obtain ⟨rfl, rfl⟩ := Prod.mk.inj (Except.ok.inj resolved)
      exact ⟨rfl, rfl⟩

/-- Half a percent of ten thousand, for a signal with a stop ten points from its zone. -/
def tenPoints (strategy : Strategy) (plain : strategy.isTemplate = false) : LotResolution where
  rs := ⟨some (1 / 2), some 1, some (1 / 10)⟩
  strategyLotSize := 0
  trailStopSlPts := 5
  riskGovernorEnabled := false
  sig := ⟨.buy, 1999, 2001, 1990, [some 2010], none, none⟩
  strategy := strategy
  template := none
  lotSizeOverride := none
  channelMultiplier := 1
  ageLotMult := 1
  tick := ⟨2000, 2000⟩
  adx := none
  atr := 0
  balance := 10000
  balanceAtStop := 10000
  balanceAtGovernor := 10000
  governor := ⟨3, 1, fun _ => 0⟩
  slPt _ := 5
  reversal := ⟨8, 4, 20⟩
  adaptive := ⟨8, 4, 20⟩
  tpCapFrac := 1 / 2
  templated := plain.symm

theorem tenPoints_unfixed (strategy : Strategy) (plain : strategy.isTemplate = false) :
    (tenPoints strategy plain).Unfixed :=
  ⟨rfl, rfl, fun set => absurd set (lt_irrefl 0)⟩

end LotResolution

end Forex
