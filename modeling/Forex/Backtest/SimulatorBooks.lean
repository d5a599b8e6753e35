import Forex.Backtest.Accounting

/-!
What each of the seven simulators has closed by the variables of its loop, and the stop
that goes with it. A part is a rounded share of the lot or what is left of it, and every
level is on the side of the profit.
-/

namespace Forex
namespace Backtest
open Support

/-- The variables agree with the parts, and what is left is in hundredths of a lot. -/
structure SimVars.Booked (direction : Direction) (fillPrice lot : ℚ) (parts : List (ℚ × ℚ))
    (v : SimVars) : Prop where
  parted : Parted lot (parts.map (inGain direction fillPrice)) v.remainingLot (v.partialPnl / 100)
  grid : OnGrid 2 v.remainingLot

namespace SimVars
variable {direction : Direction} {fillPrice lot : ℚ} {parts : List (ℚ × ℚ)} {v : SimVars}

theorem booked_start (sl : ℚ) (cents : OnGrid 2 lot) (nonneg : 0 ≤ lot) :
    (SimVars.start sl lot).Booked direction fillPrice lot [] :=
  ⟨by simpa [SimVars.start] using Parted.start nonneg, cents⟩

/-- A part that is closed on the side of the profit. -/
theorem Booked.close (booked : v.Booked direction fillPrice lot parts) {tp size : ℚ} {v' : SimVars}
    (gain : 0 ≤ direction.sign * (tp - fillPrice)) (nonneg : 0 ≤ size)
    (le : size ≤ v.remainingLot) (cents : OnGrid 2 size)
    (left : v'.remainingLot = roundTo 2 (v.remainingLot - size))
    (pnl : v'.partialPnl = v.partialPnl + direction.sign * (tp - fillPrice) * size * 100) :
    v'.Booked direction fillPrice lot (parts ++ [(tp, size)]) := by
  have grid := booked.grid.sub cents
  have closed := booked.parted.close gain nonneg le
  have exact_ : v'.remainingLot = v.remainingLot - size := left.trans (roundTo_of_onGrid grid)
  have sum : v'.partialPnl / 100 =
      v.partialPnl / 100 + direction.sign * (tp - fillPrice) * size := by
    rw [pnl]
    ring
  refine ⟨?_, exact_ ▸ grid⟩
  rw [exact_, sum, List.map_append]
  exact closed

/-- The amounts alone tell what is booked. -/
theorem Booked.of_same (booked : v.Booked direction fillPrice lot parts) {v' : SimVars}
    (left : v'.remainingLot = v.remainingLot) (pnl : v'.partialPnl = v.partialPnl) :
    v'.Booked direction fillPrice lot parts :=
  ⟨left ▸ pnl ▸ booked.parted, left ▸ booked.grid⟩

/-- What is left is what no part has taken. -/
theorem Booked.left_eq (booked : v.Booked direction fillPrice lot parts) :
    v.remainingLot = lot - (parts.map Prod.snd).sum := by
  have whole := booked.parted.whole
  rw [List.map_map] at whole
  exact eq_sub_of_add_eq' whole

end SimVars

namespace BtAccount
variable (account : BtAccount) (slDist : ℚ)

theorem lotFor_onGrid : OnGrid 2 (account.lotFor slDist) := lotSize_onGrid _ _ _ _

theorem cent_le_lotFor : 1 / 100 ≤ account.lotFor slDist := cent_le_lotSize _ _ _ _

theorem lotFor_nonneg : 0 ≤ account.lotFor slDist :=
  le_trans (by norm_num) (account.cent_le_lotFor slDist)

/-- A lot is one of the first few hundredths, or a larger one. -/
theorem lotFor_cases (n : ℕ) :
    (∃ k : ℕ, 0 < k ∧ k < n ∧ account.lotFor slDist = k / 100) ∨
      (n : ℚ) / 100 ≤ account.lotFor slDist := by
  obtain ⟨k, eq⟩ := account.lotFor_onGrid slDist
  have least := account.cent_le_lotFor slDist
  have positive : 0 < k := by
    have large : (1 : ℚ) ≤ k := by
      rw [eq] at least
      norm_num at least
      linarith
    exact_mod_cast lt_of_lt_of_le one_pos large
  obtain ⟨m, rfl⟩ := Int.eq_ofNat_of_zero_le positive.le
  by_cases small : m < n
  · refine .inl ⟨m, by exact_mod_cast positive, small, ?_⟩
    rw [eq]
    norm_num
  · refine .inr ?_
    have le : (n : ℚ) ≤ m := by exact_mod_cast not_lt.mp small
    rw [eq]
    norm_num
    linarith

/-- A share of the lot, rounded. -/
theorem share_spec (pct : ℚ) (nonneg : 0 ≤ pct) (le : pct ≤ 1) :
    0 ≤ roundTo 2 (account.lotFor slDist * pct) ∧
      roundTo 2 (account.lotFor slDist * pct) ≤ account.lotFor slDist := by
  have lot := account.lotFor_nonneg slDist
  refine ⟨roundTo_nonneg 2 (mul_nonneg lot nonneg), ?_⟩
  have most := roundTo_mono 2 (mul_le_of_le_one_right lot le)
  rwa [roundTo_of_onGrid (account.lotFor_onGrid slDist)] at most

theorem share_le (pct : ℚ) :
    roundTo 2 (account.lotFor slDist * pct) ≤ account.lotFor slDist * pct + 1 / 200 := by
  have near := (abs_le.mp (abs_roundTo_sub_le 2 (account.lotFor slDist * pct))).2
  norm_num at near ⊢
  linarith

/-- Two fifths of the lot in two parts. -/
theorem twice_fifth_le :
    roundTo 2 (account.lotFor slDist * (1 / 5)) ≤
      account.lotFor slDist - roundTo 2 (account.lotFor slDist * (1 / 5)) := by
  have share := account.share_le slDist (1 / 5)
  rcases account.lotFor_cases slDist 2 with ⟨k, positive, small, lot⟩ | large
  · obtain rfl : k = 1 := by omega
    rw [lot]
    decide +kernel
  · norm_num at large
    linarith

/-- The first two parts of Scale Out. -/
theorem scale_shares_le :
    roundTo 2 (account.lotFor slDist * (3 / 10)) ≤
      account.lotFor slDist - roundTo 2 (account.lotFor slDist * (2 / 5)) := by
  have first := account.share_le slDist (2 / 5)
  have second := account.share_le slDist (3 / 10)
  rcases account.lotFor_cases slDist 4 with ⟨k, positive, small, lot⟩ | large
  · rw [lot]
    interval_cases k <;> decide +kernel
  · norm_num at large
    linarith

end BtAccount

namespace ZoneSignal
variable {sig : ZoneSignal} {fillPrice : ℚ}

/-- A level of the signal is on the side of the profit. -/
theorem lt_of_tp {n : ℕ} {price : ℚ} (level : sig.tp fillPrice n = some price) :
    sig.direction.sign * fillPrice ≤ sig.direction.sign * price := by
  have side := (Option.filter_eq_some_iff.mp level).2
  cases direction : sig.direction with
  | buy =>
      rw [direction, decide_eq_true_eq] at side
      rw [Direction.sign]
      linarith
  | sell =>
      rw [direction, decide_eq_true_eq] at side
      rw [Direction.sign]
      linarith

/-- A level that a bar reaches is there. -/
theorem some_of_hits {bar : Bar} {tp : Option ℚ} (hits : sig.hits bar tp = true) :
    ∃ price, tp = some price := by
  cases tp with
  | none => exact absurd hits Bool.false_ne_true
  | some price => exact ⟨price, rfl⟩

theorem gain_of_le {price : ℚ}
    (le : sig.direction.sign * fillPrice ≤ sig.direction.sign * price) :
    0 ≤ sig.direction.sign * (price - fillPrice) := by
  linarith

/-- A level that is hit closes a part of what is left. -/
theorem booked_bank {lot : ℚ} {parts : List (ℚ × ℚ)} {v : SimVars}
    (booked : v.Booked sig.direction fillPrice lot parts) {bar : Bar} {n : ℕ}
    (hits : sig.hits bar (sig.tp fillPrice n) = true) {size : ℚ} (nonneg : 0 ≤ size)
    (le : size ≤ v.remainingLot) (cents : OnGrid 2 size) :
    (sig.bank fillPrice ((sig.tp fillPrice n).getD 0) size v).Booked sig.direction fillPrice lot
      (parts ++ [((sig.tp fillPrice n).getD 0, size)]) := by
  obtain ⟨price, level⟩ := sig.some_of_hits hits
  rw [level]
  exact booked.close (sig.gain_of_le (sig.lt_of_tp level)) nonneg le cents rfl rfl

/-- The trail does not go back, and not behind the fill. -/
theorem trailed_spec (dist : ℚ) (bar : Bar) (currentSl : ℚ) :
    sig.direction.sign * currentSl ≤
        sig.direction.sign * sig.trailed fillPrice dist bar currentSl ∧
      sig.direction.sign * fillPrice ≤
        sig.direction.sign * sig.trailed fillPrice dist bar currentSl := by
  rw [trailed]
  cases sig.direction with
  | buy =>
      simp only [Direction.sign, one_mul]
      exact ⟨le_max_left _ _, (le_max_right _ _).trans (le_max_right _ _)⟩
  | sell =>
      simp only [Direction.sign, neg_one_mul, neg_le_neg_iff]
      exact ⟨min_le_left _ _, (min_le_right _ _).trans (min_le_right _ _)⟩

end ZoneSignal

/-- One block of a bar keeps the invariant and does not take the stop back. -/
structure Advances (I : SimVars → Prop) (direction : Direction) (v v' : SimVars) : Prop where
  inv : I v'
  stop : direction.sign * v.currentSl ≤ direction.sign * v'.currentSl

namespace Advances
variable {I : SimVars → Prop} {direction : Direction} {u v w : SimVars}

theorem trans (first : Advances I direction u v) (second : Advances I direction v w) :
    Advances I direction u w :=
  ⟨second.inv, first.stop.trans second.stop⟩

/-- A block that does nothing unless its test is met. -/
theorem ite (inv : I v) {test : Bool} (taken : test = true → Advances I direction v w) :
    Advances I direction v (if test = true then w else v) := by
  split
  · next met => exact taken met
  · exact ⟨inv, le_rfl⟩

end Advances

section Books
variable (sig : ZoneSignal) (fillPrice : ℚ) (account : BtAccount)

/-- The stop goes to the fill with the first level. -/
def toBreakEven (bar : Bar) (v : SimVars) : SimVars :=
  if !v.tp1Hit && sig.hits bar (sig.tp fillPrice 1) then
    { v with tp1Hit := true, currentSl := fillPrice }
  else v

def trailAfterTp1 (dist : ℚ) (bar : Bar) (v : SimVars) : SimVars :=
  if v.tp1Hit then { v with currentSl := sig.trailed fillPrice dist bar v.currentSl } else v

/-- Nothing is closed at a level, and the stop has not moved before the first one. -/
structure TrailInv (lot : ℚ) (v : SimVars) : Prop where
  booked : v.Booked sig.direction fillPrice lot []
  stop : v.tp1Hit = false → v.currentSl = sig.stopLoss

section Behind
variable {sig fillPrice}
  (behind : sig.direction.sign * sig.stopLoss ≤ sig.direction.sign * fillPrice)

include behind in
theorem trail_advances {lot : ℚ} (bar : Bar) {v : SimVars} (inv : TrailInv sig fillPrice lot v) :
    Advances (TrailInv sig fillPrice lot) sig.direction v
      (trailAfterTp1 sig fillPrice 5 bar (toBreakEven sig fillPrice bar v)) := by
  have first : Advances (TrailInv sig fillPrice lot) sig.direction v
      (toBreakEven sig fillPrice bar v) := by
    refine .ite inv fun takes => ⟨⟨inv.booked.of_same rfl rfl, fun unmoved => nomatch unmoved⟩, ?_⟩
    rw [Bool.and_eq_true, Bool.not_eq_true'] at takes
    rw [inv.stop takes.1]
    exact behind
  refine first.trans (.ite first.inv fun moved => ⟨⟨first.inv.booked.of_same rfl rfl, ?_⟩, ?_⟩)
  · exact fun unmoved => absurd (moved.symm.trans unmoved) (by decide)
  · exact (sig.trailed_spec 5 bar _).1

/-- `_simulate_trail_stop`. -/
def trailStopBook : (simulateTrailStop sig fillPrice account).CloseBook where
  after v bar := trailAfterTp1 sig fillPrice 5 bar (toBreakEven sig fillPrice bar v)
  closes _ := []
  Inv := TrailInv sig fillPrice (account.lotFor (sig.slDist fillPrice))
  start :=
    ⟨SimVars.booked_start _ (account.lotFor_onGrid _) (account.lotFor_nonneg _), fun _ => rfl⟩
  keep bar inv := ⟨(trail_advances behind bar inv).inv, (trail_advances behind bar inv).stop⟩
  parted inv := inv.booked.parted
  goes goes := (Sum.inr.inj goes).symm
  leaves _ leaves := nomatch leaves

/-- The blocks of `_simulate_be_runner` behind its stop. -/
def beRunnerBar (sig : ZoneSignal) (fillPrice : ℚ) (bar : Bar) (v : SimVars) : SimVars :=
  let v := toBreakEven sig fillPrice bar v
  if !v.tp2Hit && v.tp1Hit && sig.hits bar (sig.tp fillPrice 2) then
    { v with tp2Hit := true, currentSl := (sig.tp fillPrice 1).getD v.currentSl }
  else v

/-- Nothing is closed at a level, and the stop is the first one, the fill or TP1. -/
structure RunnerInv (sig : ZoneSignal) (fillPrice lot : ℚ) (v : SimVars) : Prop where
  booked : v.Booked sig.direction fillPrice lot []
  stop : v.tp1Hit = false → v.currentSl = sig.stopLoss ∧ v.tp2Hit = false
  fill : v.tp1Hit = true → v.tp2Hit = false → v.currentSl = fillPrice

include behind in
theorem beRunner_advances {lot : ℚ} (bar : Bar) {v : SimVars}
    (inv : RunnerInv sig fillPrice lot v) :
    Advances (RunnerInv sig fillPrice lot) sig.direction v (beRunnerBar sig fillPrice bar v) := by
  have first : Advances (RunnerInv sig fillPrice lot) sig.direction v
      (toBreakEven sig fillPrice bar v) := by
    refine .ite inv fun takes => ⟨⟨inv.booked.of_same rfl rfl, (fun unmoved => nomatch unmoved),
      fun _ _ => rfl⟩, ?_⟩
    rw [Bool.and_eq_true, Bool.not_eq_true'] at takes
    rw [(inv.stop takes.1).1]
    exact behind
  refine first.trans (.ite first.inv fun takes => ?_)
  rw [Bool.and_eq_true, Bool.and_eq_true, Bool.not_eq_true'] at takes
  refine ⟨⟨first.inv.booked.of_same rfl rfl, fun unmoved => ?_,
    fun _ unmoved => nomatch unmoved⟩, ?_⟩
  · exact absurd (takes.1.2.symm.trans unmoved) (by decide)
  · rw [first.inv.fill takes.1.2 takes.1.1]
    cases level : sig.tp fillPrice 1 with
    | none => exact le_rfl
    | some price => exact sig.lt_of_tp level

/-- The last level closes what is left, above the fill. -/
theorem closeAt_spec {bar : Bar} {n : ℕ} {v : SimVars} {exit : SimExit} {moved : Bool}
    (leaves : (if moved && sig.hits bar (sig.tp fillPrice n) then
      (.inl (sig.closeAt fillPrice ((sig.tp fillPrice n).getD 0) v) : SimExit ⊕ SimVars)
      else .inr v) = .inl exit) :
    0 ≤ sig.direction.sign * (exit.closePrice - fillPrice) ∧
      exit.pnlUsd = v.partialPnl +
        sig.direction.sign * (exit.closePrice - fillPrice) * v.remainingLot * 100 := by
  split at leaves
  · next takes =>
    cases leaves
    rw [Bool.and_eq_true] at takes
    obtain ⟨price, level⟩ := sig.some_of_hits takes.2
    rw [level]
    exact ⟨sig.gain_of_le (sig.lt_of_tp level), rfl⟩
  · cases leaves

theorem onward_spec {stay : Bool} {exit : SimExit} {v v' : SimVars}
    (goes : (if stay then (.inl exit : SimExit ⊕ SimVars) else .inr v) = .inr v') : v' = v := by
  split at goes
  · cases goes
  · exact (Sum.inr.inj goes).symm

/-- `_simulate_be_runner`. -/
def beRunnerBook : (simulateBeRunner sig fillPrice account).CloseBook where
  after v bar := beRunnerBar sig fillPrice bar v
  closes _ := []
  Inv := RunnerInv sig fillPrice (account.lotFor (sig.slDist fillPrice))
  start := ⟨SimVars.booked_start _ (account.lotFor_onGrid _) (account.lotFor_nonneg _),
    fun _ => ⟨rfl, rfl⟩, fun moved => nomatch moved⟩
  keep bar inv := ⟨(beRunner_advances behind bar inv).inv, (beRunner_advances behind bar inv).stop⟩
  parted inv := inv.booked.parted
  goes goes := onward_spec goes
  leaves _ leaves := closeAt_spec leaves

/-- The blocks of `_simulate_protected_scale` behind its stop. -/
def protectedScaleBar (sig : ZoneSignal) (fillPrice : ℚ) (bar : Bar) (v : SimVars) : SimVars :=
  let v := if !v.tp1Hit && sig.hits bar (sig.tp fillPrice 1) then { v with tp1Hit := true } else v
  if !v.tp2Hit && v.tp1Hit && sig.hits bar (sig.tp fillPrice 2) then
    { v with tp2Hit := true, currentSl := fillPrice }
  else v

/-- Nothing is closed at a level, and the stop has not moved before the second one. -/
structure ProtectedInv (sig : ZoneSignal) (fillPrice lot : ℚ) (v : SimVars) : Prop where
  booked : v.Booked sig.direction fillPrice lot []
  stop : v.tp2Hit = false → v.currentSl = sig.stopLoss

include behind in
theorem protectedScale_advances {lot : ℚ} (bar : Bar) {v : SimVars}
    (inv : ProtectedInv sig fillPrice lot v) :
    Advances (ProtectedInv sig fillPrice lot) sig.direction v
      (protectedScaleBar sig fillPrice bar v) := by
  have first : Advances (ProtectedInv sig fillPrice lot) sig.direction v
      (if !v.tp1Hit && sig.hits bar (sig.tp fillPrice 1) then { v with tp1Hit := true } else v) :=
    .ite inv fun _ => ⟨⟨inv.booked.of_same rfl rfl, inv.stop⟩, le_rfl⟩
  refine first.trans (.ite first.inv fun takes => ?_)
  rw [Bool.and_eq_true, Bool.and_eq_true, Bool.not_eq_true'] at takes
  refine ⟨⟨first.inv.booked.of_same rfl rfl, fun unmoved => nomatch unmoved⟩, ?_⟩
  rw [first.inv.stop takes.1.1]
  exact behind

/-- `_simulate_protected_scale`. -/
def protectedScaleBook : (simulateProtectedScale sig fillPrice account).CloseBook where
  after v bar := protectedScaleBar sig fillPrice bar v
  closes _ := []
  Inv := ProtectedInv sig fillPrice (account.lotFor (sig.slDist fillPrice))
  start :=
    ⟨SimVars.booked_start _ (account.lotFor_onGrid _) (account.lotFor_nonneg _), fun _ => rfl⟩
  keep bar inv :=
    ⟨(protectedScale_advances behind bar inv).inv, (protectedScale_advances behind bar inv).stop⟩
  parted inv := inv.booked.parted
  goes goes := onward_spec goes
  leaves _ leaves := closeAt_spec leaves

/-- The first block of `_simulate_scale_out`. -/
def scaleOutFirst (sig : ZoneSignal) (fillPrice lot : ℚ) (bar : Bar) (v : SimVars) : SimVars :=
  if !v.tp1Hit && sig.hits bar (sig.tp fillPrice 1) then
    { sig.bank fillPrice ((sig.tp fillPrice 1).getD 0) (roundTo 2 (lot * (2 / 5))) v with
      tp1Hit := true
      currentSl := fillPrice }
  else v

def scaleOutSecond (sig : ZoneSignal) (fillPrice lot : ℚ) (bar : Bar) (v : SimVars) : SimVars :=
  if !v.tp2Hit && v.tp1Hit && sig.hits bar (sig.tp fillPrice 2) then
    { sig.bank fillPrice ((sig.tp fillPrice 2).getD 0) (roundTo 2 (lot * (3 / 10))) v with
      tp2Hit := true }
  else v

/-- The parts of Scale Out, by the levels that have been hit. -/
def scaleOutParts (sig : ZoneSignal) (fillPrice lot : ℚ) (v : SimVars) : List (ℚ × ℚ) :=
  (if v.tp1Hit then [((sig.tp fillPrice 1).getD 0, roundTo 2 (lot * (2 / 5)))] else []) ++
    if v.tp2Hit then [((sig.tp fillPrice 2).getD 0, roundTo 2 (lot * (3 / 10)))] else []

structure ScaleOutInv (sig : ZoneSignal) (fillPrice lot : ℚ) (v : SimVars) : Prop where
  booked : v.Booked sig.direction fillPrice lot (scaleOutParts sig fillPrice lot v)
  stop : v.tp1Hit = false → v.currentSl = sig.stopLoss ∧ v.tp2Hit = false

include behind in
theorem scaleOutFirst_advances (slDist : ℚ) (bar : Bar) {v : SimVars}
    (inv : ScaleOutInv sig fillPrice (account.lotFor slDist) v) :
    Advances (ScaleOutInv sig fillPrice (account.lotFor slDist)) sig.direction v
      (scaleOutFirst sig fillPrice (account.lotFor slDist) bar v) := by
  refine .ite inv fun takes => ?_
  rw [Bool.and_eq_true, Bool.not_eq_true'] at takes
  obtain ⟨unmoved, untaken⟩ := inv.stop takes.1
  have none : scaleOutParts sig fillPrice (account.lotFor slDist) v = [] := by
    rw [scaleOutParts, takes.1, untaken]
    rfl
  have booked := inv.booked
  rw [none] at booked
  have share := account.share_spec slDist (2 / 5) (by norm_num) (by norm_num)
  have part := ZoneSignal.booked_bank booked takes.2 share.1
    (by simpa [booked.left_eq] using share.2) (roundTo_onGrid 2 _)
  refine ⟨⟨?_, fun moved => nomatch moved⟩, ?_⟩
  · have one : scaleOutParts sig fillPrice (account.lotFor slDist)
        { sig.bank fillPrice ((sig.tp fillPrice 1).getD 0)
            (roundTo 2 (account.lotFor slDist * (2 / 5))) v with
          tp1Hit := true
          currentSl := fillPrice } =
        [((sig.tp fillPrice 1).getD 0, roundTo 2 (account.lotFor slDist * (2 / 5)))] := by
      simp [scaleOutParts, ZoneSignal.bank, untaken]
    rw [one]
    exact part.of_same rfl rfl
  · rw [unmoved]
    exact behind

theorem scaleOutSecond_advances (slDist : ℚ) (bar : Bar) {v : SimVars}
    (inv : ScaleOutInv sig fillPrice (account.lotFor slDist) v) :
    Advances (ScaleOutInv sig fillPrice (account.lotFor slDist)) sig.direction v
      (scaleOutSecond sig fillPrice (account.lotFor slDist) bar v) := by
  refine .ite inv fun takes => ?_
  rw [Bool.and_eq_true, Bool.and_eq_true, Bool.not_eq_true'] at takes
  have one : scaleOutParts sig fillPrice (account.lotFor slDist) v =
      [((sig.tp fillPrice 1).getD 0, roundTo 2 (account.lotFor slDist * (2 / 5)))] := by
    rw [scaleOutParts, takes.1.1, takes.1.2]
    rfl
  have booked := inv.booked
  rw [one] at booked
  have share := account.share_spec slDist (3 / 10) (by norm_num) (by norm_num)
  have part := ZoneSignal.booked_bank booked takes.2 share.1
    (by simpa [booked.left_eq] using account.scale_shares_le slDist) (roundTo_onGrid 2 _)
  refine ⟨⟨?_, fun unmoved => absurd (takes.1.2.symm.trans unmoved) (by decide)⟩, le_rfl⟩
  have two : scaleOutParts sig fillPrice (account.lotFor slDist)
      { sig.bank fillPrice ((sig.tp fillPrice 2).getD 0)
          (roundTo 2 (account.lotFor slDist * (3 / 10))) v with
        tp2Hit := true } =
      [((sig.tp fillPrice 1).getD 0, roundTo 2 (account.lotFor slDist * (2 / 5)))] ++
        [((sig.tp fillPrice 2).getD 0, roundTo 2 (account.lotFor slDist * (3 / 10)))] := by
    simp [scaleOutParts, ZoneSignal.bank, takes.1.2]
  rw [two]
  exact part.of_same rfl rfl

/-- `_simulate_scale_out`. -/
def scaleOutBook : (simulateScaleOut sig fillPrice account).CloseBook where
  after v bar :=
    scaleOutSecond sig fillPrice (account.lotFor (sig.slDist fillPrice)) bar
      (scaleOutFirst sig fillPrice (account.lotFor (sig.slDist fillPrice)) bar v)
  closes := scaleOutParts sig fillPrice (account.lotFor (sig.slDist fillPrice))
  Inv := ScaleOutInv sig fillPrice (account.lotFor (sig.slDist fillPrice))
  start := ⟨SimVars.booked_start _ (account.lotFor_onGrid _) (account.lotFor_nonneg _),
    fun _ => ⟨rfl, rfl⟩⟩
  keep bar inv :=
    have first := scaleOutFirst_advances account behind _ bar inv
    have advances := first.trans (scaleOutSecond_advances account _ bar first.inv)
    ⟨advances.inv, advances.stop⟩
  parted inv := inv.booked.parted
  goes goes := onward_spec goes
  leaves _ leaves := closeAt_spec leaves

end Behind

/-- The first block of `_simulate_nss`. -/
def nssFirst (lot : ℚ) (bar : Bar) (v : SimVars) : SimVars :=
  if !v.tp1Hit && sig.hits bar (sig.tp fillPrice 1) then
    { sig.bank fillPrice ((sig.tp fillPrice 1).getD 0) (roundTo 2 (lot * (1 / 5))) v with
      tp1Hit := true }
  else v

def nssSecond (lot : ℚ) (bar : Bar) (v : SimVars) : SimVars :=
  if !v.tp3Hit && v.tp1Hit && sig.hits bar (sig.tp fillPrice 3) then
    { sig.bank fillPrice ((sig.tp fillPrice 3).getD 0) (roundTo 2 (lot * (1 / 5))) v with
      tp3Hit := true
      currentSl := (sig.tp fillPrice 1).getD v.currentSl }
  else v

def nssParts (lot : ℚ) (v : SimVars) : List (ℚ × ℚ) :=
  (if v.tp1Hit then [((sig.tp fillPrice 1).getD 0, roundTo 2 (lot * (1 / 5)))] else []) ++
    if v.tp3Hit then [((sig.tp fillPrice 3).getD 0, roundTo 2 (lot * (1 / 5)))] else []

/-- The emergency stop stays until the third level. -/
structure NssInv (lot sl : ℚ) (v : SimVars) : Prop where
  booked : v.Booked sig.direction fillPrice lot (nssParts sig fillPrice lot v)
  order : v.tp1Hit = false → v.tp3Hit = false
  stop : v.tp3Hit = false → v.currentSl = sl

section Nss
variable {sig fillPrice}

theorem nssFirst_advances (slDist sl : ℚ) (bar : Bar) {v : SimVars}
    (inv : NssInv sig fillPrice (account.lotFor slDist) sl v) :
    Advances (NssInv sig fillPrice (account.lotFor slDist) sl) sig.direction v
      (nssFirst sig fillPrice (account.lotFor slDist) bar v) := by
  refine .ite inv fun takes => ?_
  rw [Bool.and_eq_true, Bool.not_eq_true'] at takes
  have untaken := inv.order takes.1
  have none : nssParts sig fillPrice (account.lotFor slDist) v = [] := by
    rw [nssParts, takes.1, untaken]
    rfl
  have booked := inv.booked
  rw [none] at booked
  have share := account.share_spec slDist (1 / 5) (by norm_num) (by norm_num)
  have part := ZoneSignal.booked_bank booked takes.2 share.1
    (by simpa [booked.left_eq] using share.2) (roundTo_onGrid 2 _)
  refine ⟨⟨?_, (fun moved => nomatch moved), inv.stop⟩, le_rfl⟩
  have one : nssParts sig fillPrice (account.lotFor slDist)
      { sig.bank fillPrice ((sig.tp fillPrice 1).getD 0)
          (roundTo 2 (account.lotFor slDist * (1 / 5))) v with
        tp1Hit := true } =
      [((sig.tp fillPrice 1).getD 0, roundTo 2 (account.lotFor slDist * (1 / 5)))] := by
    simp [nssParts, ZoneSignal.bank, untaken]
  rw [one]
  exact part.of_same rfl rfl

theorem nssSecond_advances (slDist : ℚ) {sl : ℚ}
    (behind : sig.direction.sign * sl ≤ sig.direction.sign * fillPrice) (bar : Bar) {v : SimVars}
    (inv : NssInv sig fillPrice (account.lotFor slDist) sl v) :
    Advances (NssInv sig fillPrice (account.lotFor slDist) sl) sig.direction v
      (nssSecond sig fillPrice (account.lotFor slDist) bar v) := by
  refine .ite inv fun takes => ?_
  rw [Bool.and_eq_true, Bool.and_eq_true, Bool.not_eq_true'] at takes
  have one : nssParts sig fillPrice (account.lotFor slDist) v =
      [((sig.tp fillPrice 1).getD 0, roundTo 2 (account.lotFor slDist * (1 / 5)))] := by
    rw [nssParts, takes.1.1, takes.1.2]
    rfl
  have booked := inv.booked
  rw [one] at booked
  have share := account.share_spec slDist (1 / 5) (by norm_num) (by norm_num)
  have part := ZoneSignal.booked_bank booked takes.2 share.1
    (by simpa [booked.left_eq] using account.twice_fifth_le slDist) (roundTo_onGrid 2 _)
  refine ⟨⟨?_, fun unmoved => absurd (takes.1.2.symm.trans unmoved) (by decide),
    fun moved => nomatch moved⟩, ?_⟩
  · have two : nssParts sig fillPrice (account.lotFor slDist)
        { sig.bank fillPrice ((sig.tp fillPrice 3).getD 0)
            (roundTo 2 (account.lotFor slDist * (1 / 5))) v with
          tp3Hit := true
          currentSl := (sig.tp fillPrice 1).getD v.currentSl } =
        [((sig.tp fillPrice 1).getD 0, roundTo 2 (account.lotFor slDist * (1 / 5)))] ++
          [((sig.tp fillPrice 3).getD 0, roundTo 2 (account.lotFor slDist * (1 / 5)))] := by
      simp [nssParts, ZoneSignal.bank, takes.1.2]
    rw [two]
    exact part.of_same rfl rfl
  · cases level : sig.tp fillPrice 1 with
    | none => exact le_rfl
    | some price =>
        rw [inv.stop takes.1.1]
        exact behind.trans (sig.lt_of_tp level)

end Nss

/-- A stop at a distance on the side of the loss. -/
theorem stop_behind (direction : Direction) {dist : ℚ} (nonneg : 0 ≤ dist) :
    direction.sign * (fillPrice - direction.sign * dist) ≤ direction.sign * fillPrice := by
  cases direction with
  | buy | sell =>
      simp only [Direction.sign]
      linarith

/-- `_simulate_nss`. -/
def nssBook : (simulateNss sig fillPrice account).CloseBook where
  after v bar :=
    nssSecond sig fillPrice (account.lotFor (sig.slDist fillPrice * (3 / 2))) bar
      (nssFirst sig fillPrice (account.lotFor (sig.slDist fillPrice * (3 / 2))) bar v)
  closes := nssParts sig fillPrice (account.lotFor (sig.slDist fillPrice * (3 / 2)))
  Inv := NssInv sig fillPrice (account.lotFor (sig.slDist fillPrice * (3 / 2)))
    (simulateNss sig fillPrice account).sl
  start := ⟨SimVars.booked_start _ (account.lotFor_onGrid _) (account.lotFor_nonneg _),
    fun _ => rfl, fun _ => rfl⟩
  keep bar inv :=
    have first := nssFirst_advances account _ _ bar inv
    have behind := stop_behind fillPrice sig.direction
      (mul_nonneg (abs_nonneg (fillPrice - sig.stopLoss)) (by norm_num : (0 : ℚ) ≤ 3 / 2))
    have advances := first.trans (nssSecond_advances account _ behind bar first.inv)
    ⟨advances.inv, advances.stop⟩
  parted inv := inv.booked.parted
  goes goes := (Sum.inr.inj goes).symm
  leaves _ leaves := nomatch leaves

/-- The first block of `_simulate_conservative`. -/
def conservativeFirst (lot : ℚ) (bar : Bar) (v : SimVars) : SimVars :=
  let tp1 := fillPrice + sig.direction.sign * 3
  if !v.tp1Hit && sig.reaches bar tp1 then
    { v with
      tp1Hit := true
      partialPnl := v.partialPnl + sig.move fillPrice tp1 * roundTo 2 (lot * (4 / 5)) * 100
      remainingLot := roundTo 2 (lot - roundTo 2 (lot * (4 / 5)))
      currentSl := fillPrice }
  else v

def conservativeParts (lot : ℚ) (v : SimVars) : List (ℚ × ℚ) :=
  if v.tp1Hit then [(fillPrice + sig.direction.sign * 3, roundTo 2 (lot * (4 / 5)))] else []

structure ConservativeInv (lot : ℚ) (v : SimVars) : Prop where
  booked : v.Booked sig.direction fillPrice lot (conservativeParts sig fillPrice lot v)
  stop : v.tp1Hit = false → v.currentSl = fillPrice - sig.direction.sign * 5

theorem gain_ahead_nonneg (direction : Direction) {dist : ℚ} (nonneg : 0 ≤ dist) :
    0 ≤ direction.sign * (fillPrice + direction.sign * dist - fillPrice) := by
  cases direction with
  | buy | sell =>
      simp only [Direction.sign]
      linarith

theorem conservative_advances (bar : Bar) {v : SimVars}
    (inv : ConservativeInv sig fillPrice (account.lotFor 5) v) :
    Advances (ConservativeInv sig fillPrice (account.lotFor 5)) sig.direction v
      (trailAfterTp1 sig fillPrice 3 bar
        (conservativeFirst sig fillPrice (account.lotFor 5) bar v)) := by
  have first : Advances (ConservativeInv sig fillPrice (account.lotFor 5)) sig.direction v
      (conservativeFirst sig fillPrice (account.lotFor 5) bar v) := by
    refine .ite inv fun takes => ?_
    rw [Bool.and_eq_true, Bool.not_eq_true'] at takes
    have booked := inv.booked
    rw [conservativeParts, takes.1, if_neg Bool.false_ne_true] at booked
    have left : v.remainingLot = account.lotFor 5 := by simpa using booked.left_eq
    have share := account.share_spec 5 (4 / 5) (by norm_num) (by norm_num)
    refine ⟨⟨?_, fun moved => nomatch moved⟩, ?_⟩
    · exact booked.close (gain_ahead_nonneg fillPrice sig.direction (by norm_num)) share.1
        (left ▸ share.2) (roundTo_onGrid 2 _) (by rw [left]) rfl
    · rw [inv.stop takes.1]
      exact stop_behind fillPrice sig.direction (by norm_num)
  refine first.trans (.ite first.inv fun moved => ⟨⟨?_, ?_⟩, (sig.trailed_spec 3 bar _).1⟩)
  · exact first.inv.booked.of_same rfl rfl
  · exact fun unmoved => absurd (moved.symm.trans unmoved) (by decide)

/-- `_simulate_conservative`. -/
def conservativeBook : (simulateConservative sig fillPrice account).CloseBook where
  after v bar :=
    trailAfterTp1 sig fillPrice 3 bar (conservativeFirst sig fillPrice (account.lotFor 5) bar v)
  closes := conservativeParts sig fillPrice (account.lotFor 5)
  Inv := ConservativeInv sig fillPrice (account.lotFor 5)
  start :=
    ⟨SimVars.booked_start _ (account.lotFor_onGrid _) (account.lotFor_nonneg _), fun _ => rfl⟩
  keep bar inv :=
    have advances := conservative_advances sig fillPrice account bar inv
    ⟨advances.inv, advances.stop⟩
  parted inv := inv.booked.parted
  goes goes := (Sum.inr.inj goes).symm
  leaves _ leaves := nomatch leaves

/-- The close of one level of `_simulate_ct`. -/
def ctClose (lot : ℚ) (l : ℚ × ℚ) (v : SimVars) : SimVars :=
  let wanted := if v.tpIdx = 5 then v.remainingLot else roundTo 2 (lot * l.2)
  let closeLot := max 0 (min wanted v.remainingLot)
  { sig.bank fillPrice (fillPrice + sig.direction.sign * l.1) closeLot v with
    currentSl :=
      if v.tpIdx = 1 then fillPrice
      else if v.tpIdx = 3 then fillPrice + sig.direction.sign * 10
      else v.currentSl
    tpIdx := v.tpIdx + 1 }

/-- The variables at the end of the inner loop, however it ends. -/
def ctEnd (lot : ℚ) (bar : Bar) : List (ℚ × ℚ) → SimVars → SimVars
  | [], v => v
  | l :: levels, v =>
      if sig.reaches bar (fillPrice + sig.direction.sign * l.1) = false then v
      else if (ctClose sig fillPrice lot l v).remainingLot ≤ 0 then ctClose sig fillPrice lot l v
      else ctEnd lot bar levels (ctClose sig fillPrice lot l v)

/-- The parts of the first levels, each capped by what the ones before have left. -/
def ctParts (lot : ℚ) : ℕ → List (ℚ × ℚ)
  | 0 => []
  | n + 1 =>
      let l := ctLevels.getD n (0, 0)
      let left := lot - ((ctParts lot n).map Prod.snd).sum
      ctParts lot n ++ [(fillPrice + sig.direction.sign * l.1,
        max 0 (min (if n = 5 then left else roundTo 2 (lot * l.2)) left))]

def ctStop (n : ℕ) : ℚ :=
  if n ≤ 1 then fillPrice - sig.direction.sign * 10
  else if n ≤ 3 then fillPrice
  else fillPrice + sig.direction.sign * 10

structure CtInv (lot : ℚ) (v : SimVars) : Prop where
  booked : v.Booked sig.direction fillPrice lot (ctParts sig fillPrice lot v.tpIdx)
  stop : v.currentSl = ctStop sig fillPrice v.tpIdx

section Ct
variable {sig fillPrice}

theorem ctStop_mono (n : ℕ) :
    sig.direction.sign * ctStop sig fillPrice n ≤
      sig.direction.sign * ctStop sig fillPrice (n + 1) := by
  rw [ctStop, ctStop]
  have low := stop_behind fillPrice sig.direction (by norm_num : (0 : ℚ) ≤ 10)
  have high := gain_ahead_nonneg fillPrice sig.direction (by norm_num : (0 : ℚ) ≤ 10)
  split_ifs <;> first | exact le_rfl | linarith

theorem ctClimb_cons (lot : ℚ) (bar : Bar) (l : ℚ × ℚ) (levels : List (ℚ × ℚ)) (v : SimVars) :
    ctClimb sig fillPrice lot bar (l :: levels) v =
      if sig.reaches bar (fillPrice + sig.direction.sign * l.1) = false then .inr v
      else if (ctClose sig fillPrice lot l v).remainingLot ≤ 0 then
        .inl ⟨fillPrice + sig.direction.sign * l.1,
          sig.move fillPrice (fillPrice + sig.direction.sign * l.1),
          (ctClose sig fillPrice lot l v).partialPnl, .tp3Direct⟩
      else ctClimb sig fillPrice lot bar levels (ctClose sig fillPrice lot l v) := rfl

theorem ctClose_advances {slDist : ℚ} {l : ℚ × ℚ} {v : SimVars}
    (inv : CtInv sig fillPrice (account.lotFor slDist) v) (level : ctLevels[v.tpIdx]? = some l) :
    Advances (CtInv sig fillPrice (account.lotFor slDist)) sig.direction v
      (ctClose sig fillPrice (account.lotFor slDist) l v) := by
  have here : ctLevels.getD v.tpIdx (0, 0) = l := by
    rw [List.getD_eq_getElem?_getD, level]
    rfl
  have ahead : 0 ≤ l.1 :=
    (by decide : ∀ l ∈ ctLevels, (0 : ℚ) ≤ l.1) l (List.mem_of_getElem? level)
  have grid : OnGrid 2 (max 0 (min (if v.tpIdx = 5 then v.remainingLot
      else roundTo 2 (account.lotFor slDist * l.2)) v.remainingLot)) := by
    refine (onGrid_zero 2).max (OnGrid.min ?_ inv.booked.grid)
    split
    · exact inv.booked.grid
    · exact roundTo_onGrid 2 _
  have stop : (ctClose sig fillPrice (account.lotFor slDist) l v).currentSl =
      ctStop sig fillPrice (v.tpIdx + 1) := by
    rw [ctClose, ctStop]
    dsimp only
    rw [inv.stop, ctStop]
    split_ifs <;> first | rfl | omega
  refine ⟨⟨?_, stop⟩, ?_⟩
  · have next : (ctClose sig fillPrice (account.lotFor slDist) l v).tpIdx = v.tpIdx + 1 := rfl
    rw [next, ctParts, here, ← inv.booked.left_eq]
    exact inv.booked.close (gain_ahead_nonneg fillPrice sig.direction ahead) (le_max_left 0 _)
      (max_le inv.booked.parted.left_nonneg (min_le_right _ _)) grid rfl rfl
  · rw [stop, inv.stop]
    exact ctStop_mono v.tpIdx

theorem ctEnd_advances {slDist : ℚ} (bar : Bar) {levels : List (ℚ × ℚ)} {v : SimVars}
    (inv : CtInv sig fillPrice (account.lotFor slDist) v)
    (rest : levels = ctLevels.drop v.tpIdx) :
    Advances (CtInv sig fillPrice (account.lotFor slDist)) sig.direction v
      (ctEnd sig fillPrice (account.lotFor slDist) bar levels v) := by
  induction levels generalizing v with
  | nil => exact ⟨inv, le_rfl⟩
  | cons l levels ih =>
      have level : ctLevels[v.tpIdx]? = some l := by
        rw [← List.head?_drop, ← rest]
        rfl
      have closed := ctClose_advances account inv level
      have further : levels =
          ctLevels.drop (ctClose sig fillPrice (account.lotFor slDist) l v).tpIdx := by
        have tail := congrArg List.tail rest
        rwa [List.tail_cons, List.tail_drop] at tail
      rw [ctEnd]
      split
      · exact ⟨inv, le_rfl⟩
      · split
        · exact closed
        · exact closed.trans (ih closed.inv further)

theorem ctEnd_of_goes {lot : ℚ} {bar : Bar} {levels : List (ℚ × ℚ)} {v v' : SimVars}
    (goes : ctClimb sig fillPrice lot bar levels v = .inr v') :
    v' = ctEnd sig fillPrice lot bar levels v := by
  induction levels generalizing v with
  | nil => exact (Sum.inr.inj goes).symm
  | cons l levels ih =>
      rw [ctClimb_cons] at goes
      rw [ctEnd]
      split at goes
      · next missed =>
        rw [if_pos missed]
        exact (Sum.inr.inj goes).symm
      · next reached =>
        rw [if_neg reached]
        split at goes
        · cases goes
        · next more =>
          rw [if_neg more]
          exact ih goes

/-- The level that closes the last lot leaves nothing. -/
theorem ctEnd_of_leaves {slDist : ℚ} {bar : Bar} {levels : List (ℚ × ℚ)} {v : SimVars}
    {exit : SimExit} (inv : CtInv sig fillPrice (account.lotFor slDist) v)
    (rest : levels = ctLevels.drop v.tpIdx)
    (leaves : ctClimb sig fillPrice (account.lotFor slDist) bar levels v = .inl exit) :
    0 ≤ sig.direction.sign * (exit.closePrice - fillPrice) ∧
      exit.pnlUsd = (ctEnd sig fillPrice (account.lotFor slDist) bar levels v).partialPnl +
        sig.direction.sign * (exit.closePrice - fillPrice) *
          (ctEnd sig fillPrice (account.lotFor slDist) bar levels v).remainingLot * 100 := by
  induction levels generalizing v with
  | nil => cases leaves
  | cons l levels ih =>
      have level : ctLevels[v.tpIdx]? = some l := by
        rw [← List.head?_drop, ← rest]
        rfl
      have closed := ctClose_advances account inv level
      have further : levels =
          ctLevels.drop (ctClose sig fillPrice (account.lotFor slDist) l v).tpIdx := by
        have tail := congrArg List.tail rest
        rwa [List.tail_cons, List.tail_drop] at tail
      rw [ctClimb_cons] at leaves
      rw [ctEnd]
      split at leaves
      · cases leaves
      · next reached =>
        rw [if_neg reached]
        split at leaves
        · next none =>
          cases leaves
          have zero := le_antisymm none closed.inv.booked.parted.left_nonneg
          have ahead : 0 ≤ l.1 :=
            (by decide : ∀ l ∈ ctLevels, (0 : ℚ) ≤ l.1) l (List.mem_of_getElem? level)
          rw [if_pos none, zero]
          exact ⟨gain_ahead_nonneg fillPrice sig.direction ahead, by ring⟩
        · next more =>
          rw [if_neg more]
          exact ih closed.inv further leaves

end Ct

/-- `_simulate_ct`. -/
def ctBook : (simulateCt sig fillPrice account).CloseBook where
  after v bar := ctEnd sig fillPrice (account.lotFor 10) bar (ctLevels.drop v.tpIdx) v
  closes v := ctParts sig fillPrice (account.lotFor 10) v.tpIdx
  Inv := CtInv sig fillPrice (account.lotFor 10)
  start := ⟨SimVars.booked_start _ (account.lotFor_onGrid _) (account.lotFor_nonneg _), rfl⟩
  keep bar inv :=
    have advances := ctEnd_advances account bar inv rfl
    ⟨advances.inv, advances.stop⟩
  parted inv := inv.booked.parted
  goes goes := ctEnd_of_goes goes
  leaves inv leaves := ctEnd_of_leaves account inv rfl leaves

end Books
end Backtest
end Forex
