import Forex.Broker.Sides
import Forex.Support.Rounding
import Forex.Telegram.Orders
import Mathlib.Tactic.LinearCombination

/-!
The provisional stop and the lot of an instant entry, against the market. The stop is
measured from the price of the message and the order fills at the tick, so that what the
lot was sized for and what it can lose differ by the gap between the two.
-/

namespace Forex
open Support

namespace Market
variable (mk : Market) (strategy : Strategy)

/-- `max_lot_size`, as it is in force. -/
def largestLot : ℚ := unlessZero mk.maxLot (1 / 10)

/-- The stop distance from the ATR. -/
def atrStop : ℚ :=
  mk.clampedStop (if 0 < mk.instant.atr then mk.instant.atr * mk.instant.slAtrMult else 12)

/-- `_IME_SL_DIST`. -/
def instantDistance : ℚ :=
  match strategy with
  | .template name => ((mk.templates name).map fun t => (mk.templateRisk t).2).getD 0
  | _ =>
      if mk.instant.riskGovernor = false ∧ 0 < mk.strategyLot then
        mk.clampedStop (150 / (mk.strategyLot * 100))
      else mk.atrStop

/-- A percentage of the balance. -/
def amountAtRisk (pct : ℚ) : ℚ := mk.balance * pct / 100

def riskPctInForce : ℚ := unlessZero mk.riskPct (1 / 2)
def maxRiskPctInForce : ℚ := unlessZero mk.instant.maxRiskPct 1

/-- The lots that lose a percentage of the balance over the stop distance. -/
def riskLot (pct : ℚ) : ℚ := mk.amountAtRisk pct / (mk.atrStop * 100)

def governedLot : ℚ :=
  min (min (mk.riskLot mk.riskPctInForce) (mk.riskLot mk.maxRiskPctInForce)) mk.largestLot

/-- The lot comes from a risk percentage of the settings. -/
def SizedByRisk : Prop := strategy.isTemplate = false ∧ mk.strategyLot ≤ 0

end Market

/-- The price that the stop is measured from. -/
def entryReference (tick : Tick) (d : Direction) (price : Option ℚ) : ℚ :=
  (price.filter fun px => decide (px ≠ 0)).getD (tick.fillPrice d)

/-- How much closer to the market, in the direction of profit, the stop is than the stop
distance: the gap to the price of the message, and what rounding to cents adds. -/
def stopLead (d : Direction) (market reference distance : ℚ) : ℚ :=
  d.sign * (reference - market) +
    d.sign * (roundTo 2 (reference - d.sign * distance) - (reference - d.sign * distance))

/-- The order is stopped out on its losing side, and loses no more than its size was
chosen for. -/
structure SendRequest.InstantSized (mk : Market) (strategy : Strategy) (d : Direction)
    (market : ℚ) (r : SendRequest) : Prop where
  losing : 0 < d.sign * (market - r.stopLoss)
  governed : mk.SizedByRisk strategy → mk.instant.riskGovernor = true →
    r.lots * |market - r.stopLoss| * 100 ≤ mk.amountAtRisk mk.maxRiskPctInForce
  ungoverned : mk.SizedByRisk strategy → mk.instant.riskGovernor = false →
    r.lots = 1 / 100 ∨
      r.lots * |market - r.stopLoss| * 100 ≤ mk.amountAtRisk mk.riskPctInForce
  ofTemplate : ∀ t, mk.templateOf strategy = some t → 0 < t.riskPct →
    r.lots = mk.suggestLotSize market r.stopLoss mk.balance t.riskPct
  capped : strategy.isTemplate = true ∨ mk.strategyLot ≤ 0 → r.lots ≤ mk.largestLot

/-- The gap between the two prices is less than the stop distance one way, and no more
than the size can bear the other way; a template that sizes by risk would get the smallest
lot; and the largest lot is neither below the smallest one nor passed by rounding. -/
structure Market.FitsGap (mk : Market) (strategy : Strategy) (d : Direction)
    (market reference : ℚ) : Prop where
  ahead : stopLead d market reference (mk.instantDistance strategy) < mk.instantDistance strategy
  governed : mk.SizedByRisk strategy → mk.instant.riskGovernor = true →
    mk.atrStop - stopLead d market reference mk.atrStop ≤
      mk.amountAtRisk mk.maxRiskPctInForce / (roundTo 2 mk.governedLot * 100)
  ungoverned : mk.SizedByRisk strategy → mk.instant.riskGovernor = false →
    mk.largestLot ≤ 1 / 100 ∨ RoundsWithin 2 (mk.riskLot mk.riskPctInForce) (1 / 100) ∨
      mk.atrStop - stopLead d market reference mk.atrStop ≤
        mk.amountAtRisk mk.riskPctInForce /
          (min (roundTo 2 (mk.riskLot mk.riskPctInForce)) mk.largestLot * 100)
  ofTemplate : ∀ t, mk.templateOf strategy = some t → 0 < t.riskPct →
    1 / 100 ≤ mk.largestLot ∧
      mk.suggestLotSize market (roundTo 2 (reference - d.sign * mk.instantDistance strategy))
        mk.balance t.riskPct = 1 / 100
  capped : mk.SizedByRisk strategy →
    if mk.instant.riskGovernor then RoundsWithin 2 mk.governedLot mk.largestLot
    else 1 / 100 ≤ mk.largestLot

section Sent
variable {env : ScanEnv} {mk : Market} {ch : ChannelConfig} {m : Message} {slots : ℕ}
  {guarded : Bool} {d : Direction} {price : Option ℚ} {tick : Tick}

theorem processInstantEntry_send {site : SendSite} {tpOpen : Bool} {r : SendRequest}
    (sent : processInstantEntry env mk ch m slots guarded d price = .send site tpOpen r)
    (quote : mk.tick = some tick) :
    ∃ risk, instantRisk mk (mk.instantStrategy ch.name m) guarded = some risk ∧
      r.lots = risk.1 ∧
      r.stopLoss = roundTo 2 (entryReference tick d price - d.sign * risk.2) := by
  rw [processInstantEntry, quote] at sent
  dsimp only at sent
  split_ifs at sent
  cases risk : instantRisk mk (mk.instantStrategy ch.name m) guarded with
  | none =>
      rw [risk] at sent
      cases sent
  | some pair =>
      rw [risk] at sent
      obtain ⟨-, -, rfl⟩ := Decision.send.inj sent
      exact ⟨pair, rfl, rfl, rfl⟩

variable (mk) in
theorem plainRisk_eq : mk.plainRisk =
    if mk.instant.riskGovernor then
      if 0 < mk.strategyLot then some (mk.strategyLot, mk.atrStop)
      else if roundTo 2 mk.governedLot < 1 / 100 then none
      else some (roundTo 2 mk.governedLot, mk.atrStop)
    else if 0 < mk.strategyLot then
      some (mk.strategyLot, mk.clampedStop (150 / (mk.strategyLot * 100)))
    else some (max (1 / 100) (min (roundTo 2 (mk.riskLot mk.riskPctInForce)) mk.largestLot),
      mk.atrStop) := rfl

/-- A size below the smallest lot is declined by the governor. -/
theorem plainRisk_eq_some {risk : ℚ × ℚ} (sized : mk.plainRisk = some risk) :
    risk.2 = (if mk.instant.riskGovernor = false ∧ 0 < mk.strategyLot then
        mk.clampedStop (150 / (mk.strategyLot * 100)) else mk.atrStop) ∧
      (mk.strategyLot ≤ 0 → mk.instant.riskGovernor = true →
        risk.1 = roundTo 2 mk.governedLot ∧ 1 / 100 ≤ risk.1) ∧
      (mk.strategyLot ≤ 0 → mk.instant.riskGovernor = false →
        risk.1 = max (1 / 100)
          (min (roundTo 2 (mk.riskLot mk.riskPctInForce)) mk.largestLot)) := by
  rw [plainRisk_eq] at sized
  cases governor : mk.instant.riskGovernor with
  | true =>
      by_cases fixed : 0 < mk.strategyLot
      · rw [governor, if_pos rfl, if_pos fixed] at sized
        obtain rfl := Option.some.inj sized
        simp [fixed]
      · rw [governor, if_pos rfl, if_neg fixed] at sized
        split_ifs at sized with small
        obtain rfl := Option.some.inj sized
        simpa using fun _ => not_lt.mp small
  | false =>
      by_cases fixed : 0 < mk.strategyLot
      · rw [governor, if_neg Bool.false_ne_true, if_pos fixed] at sized
        obtain rfl := Option.some.inj sized
        simp [fixed]
      · rw [governor, if_neg Bool.false_ne_true, if_neg fixed] at sized
        obtain rfl := Option.some.inj sized
        simp [fixed]

/-- What the size and the distance of an instant entry are. -/
structure Market.Sizes (mk : Market) (strategy : Strategy) (risk : ℚ × ℚ) : Prop where
  distance : risk.2 = mk.instantDistance strategy
  template : ∀ t, mk.templateOf strategy = some t → risk.1 = (mk.templateRisk t).1
  known : strategy.isTemplate = true → ∃ t, mk.templateOf strategy = some t
  governed : mk.SizedByRisk strategy → mk.instant.riskGovernor = true →
    risk.1 = roundTo 2 mk.governedLot ∧ 1 / 100 ≤ risk.1
  ungoverned : mk.SizedByRisk strategy → mk.instant.riskGovernor = false →
    risk.1 = max (1 / 100) (min (roundTo 2 (mk.riskLot mk.riskPctInForce)) mk.largestLot)

theorem instantRisk_sizes {strategy : Strategy} {risk : ℚ × ℚ}
    (sized : instantRisk mk strategy guarded = some risk) : mk.Sizes strategy risk := by
  cases kind : strategy.isTemplate with
  | true =>
      cases strategy with
      | template name =>
          obtain ⟨t, found, own⟩ := Option.bind_eq_some_iff.mp sized
          split_ifs at own
          obtain rfl := Option.some.inj own
          have held : mk.templateOf (.template name) = some t := found
          refine ⟨?_, fun t' other => ?_, fun _ => ⟨t, held⟩, fun plain => ?_, fun plain => ?_⟩
          · rw [Market.instantDistance, found]
            rfl
          · rw [Option.some.inj (other.symm.trans held)]
          · cases plain.1
          · cases plain.1
      | _ => cases kind
  | false =>
      have plain : mk.plainRisk = some risk := by
        cases strategy with
        | template name => cases kind
        | _ => exact sized
      have absent : mk.templateOf strategy = none := by
        cases strategy with
        | template name => cases kind
        | _ => rfl
      have distance : mk.instantDistance strategy =
          if mk.instant.riskGovernor = false ∧ 0 < mk.strategyLot then
            mk.clampedStop (150 / (mk.strategyLot * 100)) else mk.atrStop := by
        cases strategy with
        | template name => cases kind
        | _ => rfl
      obtain ⟨own, governed, ungoverned⟩ := plainRisk_eq_some plain
      refine ⟨own.trans distance.symm, fun t found => ?_, fun template => ?_,
        fun plain => governed plain.2, fun plain => ungoverned plain.2⟩
      · rw [absent] at found
        cases found
      · rw [kind] at template
        cases template

/-- How far the stop is from the market, on its losing side. -/
theorem market_to_stop (d : Direction) (market reference distance : ℚ) :
    d.sign * (market - roundTo 2 (reference - d.sign * distance)) =
      distance - stopLead d market reference distance := by
  rw [stopLead]
  linear_combination distance * d.sign_mul_sign

theorem instantDistance_of_sized {strategy : Strategy} (sized : mk.SizedByRisk strategy) :
    mk.instantDistance strategy = mk.atrStop := by
  obtain ⟨plain, free⟩ := sized
  have unfixed : ¬ (mk.instant.riskGovernor = false ∧ 0 < mk.strategyLot) := fun both =>
    absurd both.2 (not_lt.mpr free)
  cases strategy with
  | template name => cases plain
  | _ => exact if_neg unfixed

/-- What a number of lots loses over a distance. -/
theorem lots_mul_le_iff {lots : ℚ} (pos : 0 < lots) (distance amount : ℚ) :
    lots * distance * 100 ≤ amount ↔ distance ≤ amount / (lots * 100) := by
  rw [le_div_iff₀ (by linarith)]
  exact iff_of_eq (congrArg (· ≤ amount) (by ring))

/-- A lot that is raised to the smallest one when it is below it. -/
theorem raised_lot_iff {lots distance amount : ℚ} :
    max (1 / 100) lots = 1 / 100 ∨ max (1 / 100) lots * distance * 100 ≤ amount ↔
      lots ≤ 1 / 100 ∨ distance ≤ amount / (lots * 100) := by
  rw [max_eq_left_iff]
  refine or_congr_right' fun above => ?_
  have more := not_le.mp above
  rw [max_eq_right more.le, lots_mul_le_iff (lt_trans (by norm_num) more)]

theorem anchorLot_le_largestLot (anchor : ℚ) : anchorLot anchor mk.maxLot ≤ mk.largestLot := by
  refine (min_le_right _ _).trans ?_
  rw [Market.largestLot, unlessZero]
  split_ifs with zero
  · norm_num [zero]
  · exact le_rfl

section Fields
variable {strategy : Strategy} {risk : ℚ × ℚ}

theorem Market.Sizes.capped_of_template (sizes : mk.Sizes strategy risk) {t : Template}
    (found : mk.templateOf strategy = some t) :
    risk.1 ≤ mk.largestLot ↔ (0 < t.riskPct → 1 / 100 ≤ mk.largestLot) := by
  rw [sizes.template t found, Market.templateRisk]
  by_cases sized : 0 < t.riskPct
  · simp only [not_le.mpr sized, if_false, sized, forall_const]
  · simp only [not_lt.mp sized, if_true]
    exact iff_of_true (anchorLot_le_largestLot _) fun pos => absurd pos sized

theorem Market.Sizes.capped_of_risk (sizes : mk.Sizes strategy risk)
    (sized : mk.SizedByRisk strategy) :
    risk.1 ≤ mk.largestLot ↔
      if mk.instant.riskGovernor then RoundsWithin 2 mk.governedLot mk.largestLot
      else 1 / 100 ≤ mk.largestLot := by
  cases governor : mk.instant.riskGovernor with
  | true =>
      rw [(sizes.governed sized governor).1, if_pos rfl, roundTo_le_iff]
  | false =>
      rw [sizes.ungoverned sized governor, if_neg Bool.false_ne_true, max_le_iff,
        and_iff_left (min_le_right _ _)]

/-- The template of a strategy is the one that sized it. -/
theorem Market.Sizes.capped_iff (sizes : mk.Sizes strategy risk) :
    (strategy.isTemplate = true ∨ mk.strategyLot ≤ 0 → risk.1 ≤ mk.largestLot) ↔
      (∀ t, mk.templateOf strategy = some t → 0 < t.riskPct → 1 / 100 ≤ mk.largestLot) ∧
      (mk.SizedByRisk strategy →
        if mk.instant.riskGovernor then RoundsWithin 2 mk.governedLot mk.largestLot
        else 1 / 100 ≤ mk.largestLot) := by
  cases kind : strategy.isTemplate with
  | true =>
      obtain ⟨t, found⟩ := sizes.known kind
      have plain : ¬ mk.SizedByRisk strategy := fun sized => by
        rw [sized.1] at kind
        cases kind
      have within := sizes.capped_of_template found
      constructor
      · refine fun capped => ⟨fun t' other => ?_, fun sized => absurd sized plain⟩
        rw [← Option.some.inj (found.symm.trans other)]
        exact within.mp (capped (.inl rfl))
      · exact fun fits _ => within.mpr (fits.1 t found)
  | false =>
      have absent : mk.templateOf strategy = none := by
        cases strategy with
        | template name => cases kind
        | _ => rfl
      constructor
      · refine fun capped => ⟨fun t found => ?_, fun sized => ?_⟩
        · rw [absent] at found
          cases found
        · exact (sizes.capped_of_risk sized).mp (capped (.inr sized.2))
      · rintro ⟨-, fits⟩ (template | free)
        · cases template
        · exact (sizes.capped_of_risk ⟨kind, free⟩).mpr (fits ⟨kind, free⟩)

theorem Market.Sizes.governed_iff (sizes : mk.Sizes strategy risk)
    (sized : mk.SizedByRisk strategy) (governor : mk.instant.riskGovernor = true)
    (distance amount : ℚ) :
    risk.1 * distance * 100 ≤ amount ↔ distance ≤ amount / (roundTo 2 mk.governedLot * 100) := by
  obtain ⟨lot, enough⟩ := sizes.governed sized governor
  rw [lots_mul_le_iff (lt_of_lt_of_le (by norm_num) enough), lot]

theorem Market.Sizes.ungoverned_iff (sizes : mk.Sizes strategy risk)
    (sized : mk.SizedByRisk strategy) (governor : mk.instant.riskGovernor = false)
    (distance amount : ℚ) :
    risk.1 = 1 / 100 ∨ risk.1 * distance * 100 ≤ amount ↔
      mk.largestLot ≤ 1 / 100 ∨ RoundsWithin 2 (mk.riskLot mk.riskPctInForce) (1 / 100) ∨
        distance ≤ amount /
          (min (roundTo 2 (mk.riskLot mk.riskPctInForce)) mk.largestLot * 100) := by
  rw [sizes.ungoverned sized governor, raised_lot_iff, min_le_iff, roundTo_le_iff, or_assoc,
    or_left_comm]

/-- The template's own percentage is left for the smallest lot. -/
theorem Market.Sizes.ofTemplate_iff (sizes : mk.Sizes strategy risk) (lotAtRisk : ℚ → ℚ) :
    (∀ t, mk.templateOf strategy = some t → 0 < t.riskPct → risk.1 = lotAtRisk t.riskPct) ↔
      ∀ t, mk.templateOf strategy = some t → 0 < t.riskPct → lotAtRisk t.riskPct = 1 / 100 := by
  refine forall_congr' fun t => forall_congr' fun found => forall_congr' fun sized => ?_
  rw [sizes.template t found, Market.templateRisk]
  simp only [not_le.mpr sized, if_false]
  exact eq_comm

end Fields

end Sent

/-- No fixed lot: the size comes from half a percent of the balance. -/
def Market.byPercent : Market := { Market.calm with strategyLot := 0, balance := 6000 }

def buyNow (mk : Market) (price : Option ℚ) : Decision :=
  processInstantEntry (ScanEnv.shipped Parsers.silent 1000) mk ⟨"G", true, false, ""⟩
    ⟨7, "G", "BUY NOW", .posted 800, false, false⟩ 0 false .buy price

end Forex
