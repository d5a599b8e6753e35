import Forex.Reversal.Books
import Forex.Support.Run

/-!
The life of one simulated signal under the ticks of the outcome loop. A pass is told
by what it comes to; from that follow the fractions that are booked and what a close
stores, in every run. The stop is written by three setters, of which only the trail of
the conservative style compares it with the one that is there.
-/

namespace Forex
open Support

/-- A tick with what `calculate_fees` answers, and the clock and the balance of the books. -/
structure PricedTick extends MidTick where
  cost : Option ℚ
  now : ℚ
  balance : ℚ
  crossed : bid ≤ ask

namespace ManageCall

def booking : ManageCall → Option (ℕ × ℚ)
  | bookPartialClose _ fracClosed tpIdx => some (tpIdx, fracClosed)
  | moveSlToBe _ | setStopLoss _ | closeSignal _ => none

def legNet : ManageCall → ℚ
  | bookPartialClose legNet _ _ => legNet
  | moveSlToBe _ | setStopLoss _ | closeSignal _ => 0

def close : ManageCall → Option SignalClosing
  | closeSignal c => some c
  | moveSlToBe _ | setStopLoss _ | bookPartialClose _ _ _ => none

@[simp] theorem legNet_bookPartialClose (net fracClosed : ℚ) (tpIdx : ℕ) :
    (bookPartialClose net fracClosed tpIdx).legNet = net := rfl

@[simp] theorem close_bookPartialClose (net fracClosed : ℚ) (tpIdx : ℕ) :
    (bookPartialClose net fracClosed tpIdx).close = none := rfl

@[simp] theorem legNet_closeSignal (c : SignalClosing) : (closeSignal c).legNet = 0 := rfl

theorem silent_of_stopOnly {c : ManageCall} (only : c.stopOnly = true) :
    c.booking = none ∧ c.legNet = 0 ∧ c.close = none := by
  cases c with
  | moveSlToBe _ | setStopLoss _ => exact ⟨rfl, rfl, rfl⟩
  | bookPartialClose _ _ _ | closeSignal _ => exact absurd only Bool.false_ne_true

end ManageCall

/-- A stop-out fills at the stop or worse, by no more than the spread and the slippage. -/
theorem MidTick.stopFill_within (tick : MidTick) (direction : Direction) (sl : ℚ) :
    0 ≤ direction.sign * (sl - tick.stopFill direction sl) ∧
      direction.sign * (sl - tick.stopFill direction sl) ≤
        |tick.ask - tick.bid| + stopSlipMaxPts := by
  have allowance : 0 ≤ |tick.ask - tick.bid| + stopSlipMaxPts :=
    add_nonneg (abs_nonneg _) (by decide +kernel)
  cases direction with
  | buy =>
      have low := le_min (sub_le_self sl allowance)
        (le_max_right (tick.realisticFill .buy true)
          (sl - (|tick.ask - tick.bid| + stopSlipMaxPts)))
      have high := min_le_left sl
        (max (tick.realisticFill .buy true) (sl - (|tick.ask - tick.bid| + stopSlipMaxPts)))
      rw [stopFill, Direction.sign]
      constructor <;> linarith
  | sell =>
      have high := max_le (le_add_of_nonneg_right allowance)
        (min_le_right (tick.realisticFill .sell true)
          (sl + (|tick.ask - tick.bid| + stopSlipMaxPts)))
      have low := le_max_left sl
        (min (tick.realisticFill .sell true) (sl + (|tick.ask - tick.bid| + stopSlipMaxPts)))
      rw [stopFill, Direction.sign]
      constructor <;> linarith

namespace ReSignal
variable (sig : ReSignal) (tick : MidTick) (cost : Option ℚ)

def isLadder : Bool := decide (sig.management ≠ .conservative)

/-- The stop that a pass looks at. -/
def stopInForce : ℚ :=
  if sig.isLadder then sig.stopLoss
  else if sig.isWhole then sig.entryRef - sig.direction.sign * conservativeSlPts
  else sig.runnerStop tick

/-- The trail of a pass. -/
def trailing : List ManageCall :=
  if sig.isLadder || sig.isWhole || decide (sig.runnerStop tick = sig.stopLoss) then []
  else [.setStopLoss (sig.runnerStop tick)]

def firstTarget : ℚ :=
  if sig.isLadder then sig.tp1 else sig.entryRef + sig.direction.sign * conservativeTp1Pts

def firstFrac : ℚ := if sig.isLadder then tp1Frac else conservativeTp1Frac

/-- Where the stop goes with the first partial, in cents. -/
def breakEven : ℚ :=
  if sig.isLadder then
    roundTo 2 (sig.entryRef + sig.direction.sign * roundTo 2 (tick.ask - tick.bid + 5 / 100))
  else roundTo 2 sig.entryRef

def midIdx : ℕ := if sig.management = .gd2 then 2 else 4

def midTarget : ℚ :=
  (unlessFalsy (if sig.management = .gd2 then sig.tp2 else sig.tp4)).getD
    ((unlessFalsy sig.tp3).getD sig.tp1)

/-- The pass books the first partial. -/
def takesFirst : Bool :=
  !tick.atStop sig.direction (sig.stopInForce tick) &&
    (tick.atTarget sig.direction sig.firstTarget && sig.isWhole)

/-- The pass books the middle partial. -/
def takesMiddle : Bool :=
  sig.isLadder && !tick.atStop sig.direction sig.stopLoss &&
    !(tick.atTarget sig.direction sig.tp1 && sig.isWhole) &&
    (decide (sig.midTarget ≠ 0) && tick.atTarget sig.direction sig.midTarget &&
      decide (postMidRemaining < sig.remaining ∧
        sig.remaining ≤ postTp1Remaining + 1 / 10 ^ 6))

/-- What a pass comes to. -/
inductive Pass : List ManageCall → Prop where
  | stopOut (won : Bool)
      (reached : tick.atStop sig.direction (sig.stopInForce tick) = true) :
      Pass (sig.trailing tick ++
        [.closeSignal (sig.closing cost won (tick.stopFill sig.direction (sig.stopInForce tick)))])
  | first (takes : sig.takesFirst tick = true) :
      Pass [.bookPartialClose (sig.legNet tick cost sig.firstFrac) sig.firstFrac 1,
        .moveSlToBe (sig.breakEven tick)]
  | middle (takes : sig.takesMiddle tick = true) (later : sig.takesFirst tick = false) :
      Pass [.bookPartialClose (sig.legNet tick cost midFrac) midFrac sig.midIdx,
        .setStopLoss sig.tp1]
  | final (ladder : sig.isLadder = true)
      (above : tick.atStop sig.direction (sig.stopInForce tick) = false)
      (first : sig.takesFirst tick = false) (middle : sig.takesMiddle tick = false) :
      Pass [.closeSignal (sig.closing cost true (tick.realisticFill sig.direction true))]
  | rides (above : tick.atStop sig.direction (sig.stopInForce tick) = false)
      (first : sig.takesFirst tick = false) (middle : sig.takesMiddle tick = false) :
      Pass (sig.trailing tick)

section Pass
variable {sig tick cost}

/-- The ladder, over the fields that stand for its middle and its end. -/
theorem pass_ladder {tpMidField tp7Field : ReSignal → Option ℚ} (ladder : sig.isLadder = true)
    (mid : sig.midTarget =
      (unlessFalsy (tpMidField sig)).getD ((unlessFalsy sig.tp3).getD sig.tp1)) :
    sig.Pass tick cost (sig.manageRefLadderSignal tick cost tpMidField tp7Field sig.midIdx) := by
  have stop : sig.stopInForce tick = sig.stopLoss := if_pos ladder
  have target : sig.firstTarget = sig.tp1 := if_pos ladder
  have frac : sig.firstFrac = tp1Frac := if_pos ladder
  have be : sig.breakEven tick =
      roundTo 2 (sig.entryRef + sig.direction.sign * roundTo 2 (tick.ask - tick.bid + 5 / 100)) :=
    if_pos ladder
  have trail : sig.trailing tick = [] := by
    rw [trailing, ladder]
    rfl
  rw [manageRefLadderSignal, ← mid]
  cases stopped : tick.atStop sig.direction sig.stopLoss with
  | true =>
      have out : sig.Pass tick cost _ := .stopOut false (by rw [stop, stopped])
      rwa [trail, stop] at out
  | false =>
      have above : tick.atStop sig.direction (sig.stopInForce tick) = false := by
        rw [stop, stopped]
      rw [if_neg Bool.false_ne_true]
      cases first : tick.atTarget sig.direction sig.tp1 && sig.isWhole with
      | true =>
          have books : sig.Pass tick cost _ :=
            .first (by rw [takesFirst, above, target, first]; rfl)
          rwa [frac, be] at books
      | false =>
          have later : sig.takesFirst tick = false := by
            rw [takesFirst, target, first, Bool.and_false]
          rw [if_neg Bool.false_ne_true]
          generalize middle : (decide (sig.midTarget ≠ 0) &&
            tick.atTarget sig.direction sig.midTarget && decide (postMidRemaining < sig.remaining ∧
              sig.remaining ≤ postTp1Remaining + 1 / 10 ^ 6)) = taken
          have takes : sig.takesMiddle tick = taken := by
            rw [takesMiddle, ladder, stopped, first, middle]
            rfl
          cases taken with
          | true =>
              rw [if_pos rfl]
              exact .middle takes later
          | false =>
              rw [if_neg Bool.false_ne_true]
              split
              · exact .final ladder above later takes
              · rw [← trail]
                exact .rides above later takes

/-- A conservative signal before its only target. -/
theorem pass_conservative_whole (conservative : sig.isLadder = false) (whole : sig.isWhole = true) :
    sig.Pass tick cost (sig.manageConservativeSignal tick cost) := by
  have middle : sig.takesMiddle tick = false := by
    rw [takesMiddle, conservative]
    rfl
  have stop : sig.stopInForce tick = sig.entryRef - sig.direction.sign * conservativeSlPts := by
    rw [stopInForce, conservative, whole, if_neg Bool.false_ne_true, if_pos rfl]
  have trail : sig.trailing tick = [] := by
    rw [trailing, conservative, whole]
    rfl
  have target : sig.firstTarget =
      sig.entryRef + sig.direction.sign * conservativeTp1Pts := by
    rw [firstTarget, conservative, if_neg Bool.false_ne_true]
  rw [manageConservativeSignal]
  dsimp only
  rw [whole, if_pos rfl, ← stop, ← target]
  cases stopped : tick.atStop sig.direction (sig.stopInForce tick) with
  | true =>
      have out : sig.Pass tick cost _ := .stopOut false stopped
      rwa [trail] at out
  | false =>
      rw [if_neg Bool.false_ne_true]
      cases reached : tick.atTarget sig.direction sig.firstTarget with
      | true =>
          have books : sig.Pass tick cost _ :=
            .first (by rw [takesFirst, stopped, reached, whole]; rfl)
          have frac : sig.firstFrac = conservativeTp1Frac := by
            rw [firstFrac, conservative, if_neg Bool.false_ne_true]
          have be : sig.breakEven tick = roundTo 2 sig.entryRef := by
            rw [breakEven, conservative, if_neg Bool.false_ne_true]
          rwa [frac, be] at books
      | false =>
          have rides : sig.Pass tick cost _ :=
            .rides stopped (by rw [takesFirst, reached]; simp) middle
          rwa [trail] at rides

/-- The runner of a conservative signal. -/
theorem pass_conservative_runner (conservative : sig.isLadder = false)
    (part : sig.isWhole = false) :
    sig.Pass tick cost (sig.manageConservativeSignal tick cost) := by
  have middle : sig.takesMiddle tick = false := by
    rw [takesMiddle, conservative]
    rfl
  have stop : sig.stopInForce tick = sig.runnerStop tick := by
    rw [stopInForce, conservative, part, if_neg Bool.false_ne_true, if_neg Bool.false_ne_true]
  have trail : sig.trailing tick =
      if sig.runnerStop tick ≠ sig.stopLoss then [.setStopLoss (sig.runnerStop tick)] else [] := by
    rw [trailing, conservative, part]
    by_cases same : sig.runnerStop tick = sig.stopLoss <;> simp [same]
  have first : sig.takesFirst tick = false := by
    rw [takesFirst, part, Bool.and_false, Bool.and_false]
  rw [manageConservativeSignal]
  dsimp only
  rw [part, if_neg Bool.false_ne_true, ← trail, ← stop]
  cases stopped : tick.atStop sig.direction (sig.stopInForce tick) with
  | true => exact .stopOut true stopped
  | false =>
      rw [if_neg Bool.false_ne_true, List.append_nil]
      exact .rides stopped first middle

theorem pass_conservative (conservative : sig.isLadder = false) :
    sig.Pass tick cost (sig.manageConservativeSignal tick cost) := by
  cases whole : sig.isWhole with
  | true => exact pass_conservative_whole conservative whole
  | false => exact pass_conservative_runner conservative whole

theorem pass_manageTriggeredSignal : sig.Pass tick cost (sig.manageTriggeredSignal tick cost) := by
  rw [manageTriggeredSignal]
  cases style : sig.management with
  | gd2 =>
      have idx : sig.midIdx = 2 := if_pos style
      have ladder : sig.Pass tick cost
          (sig.manageRefLadderSignal tick cost ReSignal.tp2 ReSignal.tp3 sig.midIdx) :=
        pass_ladder (by rw [isLadder, style]; rfl) (by rw [midTarget, if_pos style])
      rwa [idx] at ladder
  | refLadder =>
      have other : sig.management ≠ .gd2 := by
        rw [style]
        decide
      have idx : sig.midIdx = 4 := if_neg other
      have ladder : sig.Pass tick cost
          (sig.manageRefLadderSignal tick cost ReSignal.tp4 ReSignal.tp7 sig.midIdx) :=
        pass_ladder (by rw [isLadder, style]; rfl) (by rw [midTarget, if_neg other])
      rwa [idx] at ladder
  | conservative => exact pass_conservative (by rw [isLadder, style]; rfl)

/-- A pass makes two calls at most, and one of two is a move of the stop. -/
theorem Pass.short {calls : List ManageCall} (pass : sig.Pass tick cost calls) :
    calls = [] ∨ (∃ c, calls = [c]) ∨
      ∃ c c', calls = [c, c'] ∧ (c.stopOnly = true ∨ c'.stopOnly = true) := by
  have trail : sig.trailing tick = [] ∨ ∃ price, sig.trailing tick = [.setStopLoss price] := by
    rw [trailing]
    split
    · exact .inl rfl
    · exact .inr ⟨_, rfl⟩
  cases pass with
  | stopOut won _ =>
      rcases trail with none | ⟨price, one⟩
      · rw [none]
        exact .inr (.inl ⟨_, rfl⟩)
      · rw [one]
        exact .inr (.inr ⟨_, _, rfl, .inl rfl⟩)
  | first _ | middle _ _ => exact .inr (.inr ⟨_, _, rfl, .inr rfl⟩)
  | final _ _ _ _ => exact .inr (.inl ⟨_, rfl⟩)
  | rides _ _ _ =>
      rcases trail with none | ⟨price, one⟩
      · rw [none]
        exact .inl rfl
      · rw [one]
        exact .inr (.inl ⟨_, rfl⟩)

end Pass

/-- What a call of the repository does to the row. -/
def called (now balance : ℚ) (sig : ReSignal) : ManageCall → ReSignal
  | .bookPartialClose legNet fracClosed tpIdx =>
      banked (roundTo 2 (sig.partialBooked + legNet))
        (roundTo 4 (max 0 (sig.remaining - fracClosed))) (max (sig.maxTpHit.getD 0) tpIdx) sig
  | .moveSlToBe bePrice => withStopAtBe (roundTo 2 bePrice) sig
  | .setStopLoss price => withStop (roundTo 2 price) sig
  | .closeSignal c => closed c now (balance + c.balanceDelta) sig

/-- What has been booked of a signal, and what that leaves. -/
inductive Stage : List (ℕ × ℚ) → Prop where
  | whole (left : sig.remaining = 1) : Stage []
  | first (ladder : sig.isLadder = true) (left : sig.remaining = 1 / 2) : Stage [(1, 1 / 2)]
  | middle (ladder : sig.isLadder = true) (left : sig.remaining = 1 / 5) :
      Stage [(1, 1 / 2), (sig.midIdx, 3 / 10)]
  | runner (conservative : sig.isLadder = false) (left : sig.remaining = 1 / 5)
      (cents : OnGrid 2 sig.stopLoss) : Stage [(1, 4 / 5)]

section Stage
variable {sig} {booked : List (ℕ × ℚ)}

/-- The stage is told by the style, the fraction that is left and the stop. -/
theorem Stage.of_same (stage : sig.Stage booked) {sig' : ReSignal}
    (style : sig'.management = sig.management) (left : sig'.remaining = sig.remaining)
    (cents : OnGrid 2 sig.stopLoss → OnGrid 2 sig'.stopLoss) : sig'.Stage booked := by
  have ladder : sig'.isLadder = sig.isLadder := by
    rw [isLadder, isLadder, style]
  have idx : sig'.midIdx = sig.midIdx := by
    rw [midIdx, midIdx, style]
  cases stage with
  | whole whole => exact .whole (left.trans whole)
  | first style half => exact .first (ladder.trans style) (left.trans half)
  | middle style fifth =>
      rw [← idx]
      exact .middle (ladder.trans style) (left.trans fifth)
  | runner style fifth grid => exact .runner (ladder.trans style) (left.trans fifth) (cents grid)

theorem isWhole_of_takesFirst {tick : MidTick} (takes : sig.takesFirst tick = true) :
    sig.isWhole = true := by
  rw [takesFirst, Bool.and_eq_true, Bool.and_eq_true] at takes
  exact takes.2.2

theorem Stage.of_whole (stage : sig.Stage booked) (whole : sig.isWhole = true) :
    booked = [] ∧ sig.remaining = 1 := by
  have least := of_decide_eq_true whole
  cases stage with
  | whole left => exact ⟨rfl, left⟩
  | first _ left | middle _ left | runner _ left _ =>
      rw [left] at least
      norm_num at least

theorem Stage.of_takesMiddle (stage : sig.Stage booked) {tick : MidTick}
    (takes : sig.takesMiddle tick = true) :
    booked = [(1, 1 / 2)] ∧ sig.remaining = 1 / 2 ∧ sig.isLadder = true := by
  have after : postTp1Remaining = 1 / 2 := by decide +kernel
  have last : postMidRemaining = 1 / 5 := by decide +kernel
  rw [takesMiddle, Bool.and_eq_true, Bool.and_eq_true (_ && _) (decide _), decide_eq_true_eq,
    after, last] at takes
  obtain ⟨-, -, more, most⟩ := takes
  cases stage with
  | first ladder left => exact ⟨rfl, left, ladder⟩
  | whole left =>
      rw [left] at most
      norm_num at most
  | middle _ left | runner _ left _ =>
      rw [left] at more
      norm_num at more

end Stage

/-- The setter that the pass comes to does not take the stop back: with the first partial
the fill with its costs, with the middle partial TP1, is no further from profit than
the recorded stop. -/
def StopGoesOn : Prop :=
  (sig.takesFirst tick = true → sig.direction.sign * sig.stopLoss ≤
      sig.direction.sign * sig.breakEven tick) ∧
    (sig.takesMiddle tick = true → sig.direction.sign * sig.stopLoss ≤
      sig.direction.sign * roundTo 2 sig.tp1)

instance : Decidable (sig.StopGoesOn tick) := inferInstanceAs (Decidable (_ ∧ _))

section Takes
variable {sig tick}

theorem above_of_takesFirst (takes : sig.takesFirst tick = true) :
    tick.atStop sig.direction (sig.stopInForce tick) = false := by
  rw [takesFirst, Bool.and_eq_true, Bool.not_eq_true'] at takes
  exact takes.1

theorem above_of_takesMiddle (takes : sig.takesMiddle tick = true) :
    tick.atStop sig.direction (sig.stopInForce tick) = false := by
  simp only [takesMiddle, Bool.and_eq_true, Bool.not_eq_true'] at takes
  rw [stopInForce, if_pos takes.1.1.1]
  exact takes.1.1.2

theorem later_of_takesMiddle (takes : sig.takesMiddle tick = true) :
    sig.takesFirst tick = false := by
  simp only [takesMiddle, Bool.and_eq_true, Bool.not_eq_true'] at takes
  rw [takesFirst, firstTarget, if_pos takes.1.1.1, takes.1.2, Bool.and_false]

theorem stopGoesOn_of_atStop
    (reached : tick.atStop sig.direction (sig.stopInForce tick) = true) : sig.StopGoesOn tick := by
  constructor
  · intro takes
    rw [above_of_takesFirst takes] at reached
    exact absurd reached Bool.false_ne_true
  · intro takes
    rw [above_of_takesMiddle takes] at reached
    exact absurd reached Bool.false_ne_true

theorem breakEven_onGrid (sig : ReSignal) (tick : MidTick) : OnGrid 2 (sig.breakEven tick) := by
  rw [breakEven]
  split <;> exact roundTo_onGrid 2 _

end Takes
end ReSignal

/-- A signal under management, with the calls that were made for it. -/
structure VirtualTrade where
  row : ReSignal
  calls : List (PricedTick × ManageCall)

namespace VirtualTrade
variable (v : VirtualTrade) (t : PricedTick)

def after (calls : List ManageCall) : VirtualTrade :=
  ⟨calls.foldl (ReSignal.called t.now t.balance) v.row, v.calls ++ calls.map (Prod.mk t)⟩

/-- One pass of the outcome loop. -/
def step : VirtualTrade :=
  if ReBooks.isSimulated v.row then
    v.after t (v.row.manageTriggeredSignal t.toMidTick t.cost)
  else v

/-- The partials, by their target and fraction. -/
def bookings : List (ℕ × ℚ) := v.calls.filterMap fun c => c.2.booking

def closings : List (PricedTick × SignalClosing) :=
  v.calls.filterMap fun c => c.2.close.map (Prod.mk c.1)

def bankedLegs : ℚ := (v.calls.map fun c => c.2.legNet).sum

def closedFrac : ℚ := (v.bookings.map Prod.snd).sum

/-- No partial twice, and a close books the rest of the fraction and stores the sum of
the legs. -/
structure Booked : Prop where
  once : (v.bookings.map Prod.fst).Nodup
  fractions : v.closedFrac + v.row.remaining = 1
  closesOnce : v.closings.length ≤ 1
  rest : ∀ x ∈ v.closings, x.2.balanceDelta =
    roundTo 2 ((virtualPnl x.1.cost (v.row.legPts x.2.closePrice)).2 * (1 - v.closedFrac))
  net : ∀ x ∈ v.closings, v.row.netPnl = some x.2.netPnl ∧
    |x.2.netPnl - (v.bankedLegs + x.2.balanceDelta)| ≤ 1 / 100

/-- A pass does not take the stop back, and a pass that finds the stop reached closes at
the stop or worse, by no more than the spread and the slippage. -/
structure Guarded : Prop where
  goesOn : v.row.direction.sign * v.row.stopLoss ≤
    v.row.direction.sign * (v.step t).row.stopLoss
  stopOut : ReBooks.isSimulated v.row = true →
    let stop := v.row.stopInForce t.toMidTick
    t.atStop v.row.direction stop = true → ∃ c, (v.step t).closings = v.closings ++ [(t, c)] ∧
      0 ≤ v.row.direction.sign * (stop - c.closePrice) ∧
      v.row.direction.sign * (stop - c.closePrice) ≤ t.ask - t.bid + stopSlipMaxPts

/-- The discipline of a run. -/
structure Disciplined (sig : ReSignal) (ticks : List PricedTick) : Prop where
  booked : ∀ v ∈ states step ⟨sig, []⟩ ticks, v.Booked
  guarded : Meets step Guarded ⟨sig, []⟩ ticks

/-- The bookkeeping of a trade. -/
structure Kept : Prop where
  stage : v.row.Stage v.bookings
  legs : v.row.partialBooked = v.bankedLegs
  cents : OnGrid 2 v.row.partialBooked
  closes : (ReBooks.isSimulated v.row = true ∧ v.closings = []) ∨
    (ReBooks.isSimulated v.row = false ∧ ∃ t c, v.closings = [(t, c)] ∧
      v.row.netPnl = some c.netPnl ∧
      |c.netPnl - (v.row.partialBooked + c.balanceDelta)| ≤ 1 / 100 ∧ c.balanceDelta =
        roundTo 2 ((virtualPnl t.cost (v.row.legPts c.closePrice)).2 * v.row.remaining))

section After
variable {v t}

theorem after_append (calls calls' : List ManageCall) :
    v.after t (calls ++ calls') = (v.after t calls).after t calls' := by
  simp [after]

theorem bookings_after (calls : List ManageCall) :
    (v.after t calls).bookings = v.bookings ++ calls.filterMap ManageCall.booking := by
  rw [bookings, bookings, after, List.filterMap_append, List.filterMap_map]
  rfl

theorem closings_after (calls : List ManageCall) :
    (v.after t calls).closings =
      v.closings ++ calls.filterMap fun c => c.close.map (Prod.mk t) := by
  rw [closings, closings, after, List.filterMap_append, List.filterMap_map]
  rfl

theorem bankedLegs_after (calls : List ManageCall) :
    (v.after t calls).bankedLegs = v.bankedLegs + (calls.map ManageCall.legNet).sum := by
  rw [bankedLegs, bankedLegs, after, List.map_append, List.sum_append, List.map_map]
  rfl

/-- A move of the stop leaves it in cents, and everything else as it is. -/
theorem Kept.stop (kept : v.Kept) {c : ManageCall} (only : c.stopOnly = true) :
    (v.after t [c]).Kept := by
  obtain ⟨booking, leg, close⟩ := ManageCall.silent_of_stopOnly only
  have bookings : (v.after t [c]).bookings = v.bookings := by
    simp [bookings_after, booking]
  have legs : (v.after t [c]).bankedLegs = v.bankedLegs := by
    simp [bankedLegs_after, leg]
  have closings : (v.after t [c]).closings = v.closings := by
    simp [closings_after, close]
  cases c with
  | bookPartialClose _ _ _ | closeSignal _ => exact absurd only Bool.false_ne_true
  | moveSlToBe _ | setStopLoss _ =>
      refine ⟨?_, legs ▸ kept.legs, kept.cents, ?_⟩
      · rw [bookings]
        exact kept.stage.of_same rfl rfl fun _ => roundTo_onGrid 2 _
      · rw [closings]
        exact kept.closes

/-- The first partial, or the middle one, and the move of the stop beside it. -/
theorem Kept.book (kept : v.Kept) (simulated : ReBooks.isSimulated v.row = true)
    {legNet fracClosed : ℚ} {tpIdx : ℕ} (cents : OnGrid 2 legNet) {c : ManageCall}
    (only : c.stopOnly = true)
    (stage : (v.after t [.bookPartialClose legNet fracClosed tpIdx, c]).row.Stage
      (v.bookings ++ [(tpIdx, fracClosed)])) :
    (v.after t [.bookPartialClose legNet fracClosed tpIdx, c]).Kept := by
  obtain ⟨booking, leg, close⟩ := ManageCall.silent_of_stopOnly only
  have sum := kept.cents.add cents
  have open_ : v.closings = [] := by
    rcases kept.closes with ⟨-, open_⟩ | ⟨ended, -⟩
    · exact open_
    · rw [simulated] at ended
      exact absurd ended (by decide)
  have closings : (v.after t [.bookPartialClose legNet fracClosed tpIdx, c]).closings = [] := by
    simp [closings_after, open_, close]
  have same : (v.after t [.bookPartialClose legNet fracClosed tpIdx, c]).row.partialBooked =
        roundTo 2 (v.row.partialBooked + legNet) ∧
      ReBooks.isSimulated (v.after t [.bookPartialClose legNet fracClosed tpIdx, c]).row =
        ReBooks.isSimulated v.row := by
    cases c with
    | moveSlToBe _ | setStopLoss _ => exact ⟨rfl, rfl⟩
    | bookPartialClose _ _ _ | closeSignal _ => exact absurd only Bool.false_ne_true
  have booked := same.1.trans (roundTo_of_onGrid sum)
  refine ⟨?_, ?_, booked ▸ sum, .inl ⟨same.2.trans simulated, closings⟩⟩
  · rw [bookings_after, List.filterMap_cons, List.filterMap_cons, booking]
    exact stage
  · rw [bankedLegs_after, ← kept.legs, booked]
    simp [leg]

theorem Kept.close (kept : v.Kept) (simulated : ReBooks.isSimulated v.row = true) (won : Bool)
    (exitFill : ℚ) : (v.after t [.closeSignal (v.row.closing t.cost won exitFill)]).Kept := by
  have agrees := v.row.closing_agrees t.cost won exitFill
  refine ⟨?_, ?_, kept.cents, .inr ⟨?_, t, v.row.closing t.cost won exitFill, ?_, rfl,
    agrees.total, rfl⟩⟩
  · rw [bookings_after]
    refine Eq.substr (List.append_nil v.bookings) ?_
    exact kept.stage.of_same rfl rfl id
  · rw [bankedLegs_after]
    exact kept.legs.trans (by simp)
  · rw [ReBooks.isSimulated]
    rfl
  · rw [closings_after]
    rcases kept.closes with ⟨-, open_⟩ | ⟨ended, -⟩
    · rw [open_]
      rfl
    · rw [simulated] at ended
      exact absurd ended (by decide)

theorem Kept.trail (kept : v.Kept) :
    (v.after t (v.row.trailing t.toMidTick)).Kept ∧
      (v.after t (v.row.trailing t.toMidTick)).closings = v.closings ∧
      (∀ won exitFill, (v.after t (v.row.trailing t.toMidTick)).row.closing t.cost won exitFill =
        v.row.closing t.cost won exitFill) ∧
      ReBooks.isSimulated (v.after t (v.row.trailing t.toMidTick)).row =
        ReBooks.isSimulated v.row := by
  rw [ReSignal.trailing]
  split
  · have same : v.after t [] = v := by simp [after]
    rw [same]
    exact ⟨kept, rfl, fun _ _ => rfl, rfl⟩
  · refine ⟨kept.stop rfl, ?_, fun _ _ => rfl, rfl⟩
    rw [closings_after]
    exact List.append_nil _

theorem Kept.step (kept : v.Kept) : (v.step t).Kept := by
  rw [VirtualTrade.step]
  cases simulated : ReBooks.isSimulated v.row with
  | false => exact kept
  | true =>
      have pass : v.row.Pass t.toMidTick t.cost (v.row.manageTriggeredSignal t.toMidTick t.cost) :=
        ReSignal.pass_manageTriggeredSignal
      rw [if_pos rfl]
      generalize v.row.manageTriggeredSignal t.toMidTick t.cost = calls at pass
      cases pass with
      | stopOut won reached =>
          obtain ⟨trailed, -, closing, same⟩ := kept.trail (t := t)
          rw [after_append, ← closing]
          exact trailed.close (same.trans simulated) _ _
      | first takes =>
          refine kept.book simulated (roundTo_onGrid 2 _) rfl ?_
          have whole := ReSignal.isWhole_of_takesFirst takes
          obtain ⟨none, all⟩ := kept.stage.of_whole whole
          rw [none]
          cases style : v.row.isLadder with
          | true =>
              have frac : v.row.firstFrac = 1 / 2 := if_pos style
              rw [frac]
              refine .first style ?_
              change roundTo 4 (max 0 (v.row.remaining - 1 / 2)) = 1 / 2
              rw [all]
              decide +kernel
          | false =>
              have frac : v.row.firstFrac = 4 / 5 :=
                if_neg (by rw [style]; exact Bool.false_ne_true)
              rw [frac]
              refine .runner style ?_ (roundTo_onGrid 2 _)
              change roundTo 4 (max 0 (v.row.remaining - 4 / 5)) = 1 / 5
              rw [all]
              decide +kernel
      | middle takes later =>
          obtain ⟨booked, half, ladder⟩ := kept.stage.of_takesMiddle takes
          refine kept.book simulated (roundTo_onGrid 2 _) rfl ?_
          rw [booked]
          refine .middle ladder ?_
          change roundTo 4 (max 0 (v.row.remaining - 3 / 10)) = 1 / 5
          rw [half]
          decide +kernel
      | final ladder above first middle => exact kept.close simulated _ _
      | rides above first middle => exact kept.trail.1

theorem Kept.booked (kept : v.Kept) : v.Booked := by
  have idx : v.row.midIdx ≠ 1 := by
    rw [ReSignal.midIdx]
    split <;> decide
  have fractions : v.closedFrac + v.row.remaining = 1 := by
    have stage := kept.stage
    rw [closedFrac]
    generalize v.bookings = booked at stage
    cases stage with
    | whole left | first _ left | middle _ left | runner _ left _ =>
        rw [left]
        norm_num
  have rest : v.row.remaining = 1 - v.closedFrac := by
    linarith
  refine ⟨?_, fractions, ?_, ?_, ?_⟩
  · have stage := kept.stage
    generalize v.bookings = booked at stage
    cases stage with
    | whole _ => exact List.nodup_nil
    | first _ _ | runner _ _ _ => exact List.nodup_singleton 1
    | middle _ _ => simpa using idx.symm
  · rcases kept.closes with ⟨-, open_⟩ | ⟨-, t, c, closed, -⟩
    · rw [open_]
      exact Nat.zero_le 1
    · rw [closed]
      exact le_rfl
  · intro x mem
    rcases kept.closes with ⟨-, open_⟩ | ⟨-, t, c, closed, -, -, leg⟩
    · rw [open_] at mem
      exact absurd mem List.not_mem_nil
    · rw [closed, List.mem_singleton] at mem
      rw [mem, ← rest]
      exact leg
  · intro x mem
    rcases kept.closes with ⟨-, open_⟩ | ⟨-, t, c, closed, stored, total, -⟩
    · rw [open_] at mem
      exact absurd mem List.not_mem_nil
    · rw [closed, List.mem_singleton] at mem
      rw [mem, ← kept.legs]
      exact ⟨stored, total⟩

/-- The trail of the runner is not taken back, since its stop is in cents. -/
theorem Kept.trail_goesOn (kept : v.Kept) :
    v.row.direction.sign * v.row.stopLoss ≤
      v.row.direction.sign * (v.after t (v.row.trailing t.toMidTick)).row.stopLoss := by
  rw [ReSignal.trailing]
  split
  · exact le_rfl
  · next moves =>
    rw [Bool.or_eq_true, Bool.or_eq_true, not_or, not_or] at moves
    have cents : OnGrid 2 v.row.stopLoss := by
      have stage := kept.stage
      generalize v.bookings = booked at stage
      cases stage with
      | whole left =>
          refine absurd ?_ moves.1.2
          rw [ReSignal.isWhole, left]
          decide +kernel
      | first ladder _ | middle ladder _ => exact absurd ladder moves.1.1
      | runner _ _ cents => exact cents
    change v.row.direction.sign * v.row.stopLoss ≤
      v.row.direction.sign * roundTo 2 (v.row.runnerStop t.toMidTick)
    have same := roundTo_of_onGrid cents
    rw [ReSignal.runnerStop]
    cases v.row.direction with
    | buy =>
        have on := roundTo_mono 2 (le_max_left v.row.stopLoss
          (t.toMidTick.price - Direction.buy.sign * conservativeTrailPts))
        rw [same] at on
        exact mul_le_mul_of_nonneg_left on zero_le_one
    | sell =>
        have on := roundTo_mono 2 (min_le_left v.row.stopLoss
          (t.toMidTick.price - Direction.sell.sign * conservativeTrailPts))
        rw [same] at on
        exact mul_le_mul_of_nonpos_left on (by decide)

theorem guarded_iff_of_above
    (above : t.atStop v.row.direction (v.row.stopInForce t.toMidTick) = false) :
    v.Guarded t ↔
      v.row.direction.sign * v.row.stopLoss ≤ v.row.direction.sign * (v.step t).row.stopLoss := by
  refine ⟨fun guarded => guarded.goesOn, fun on => ⟨on, fun _ reached => ?_⟩⟩
  rw [above] at reached
  exact absurd reached Bool.false_ne_true

/-- A stop-out closes at the stop in force, within the spread. -/
theorem Kept.guarded_of_stopOut (kept : v.Kept) (won : Bool)
    (next : v.step t = v.after t (v.row.trailing t.toMidTick ++ [.closeSignal (v.row.closing t.cost
      won (t.stopFill v.row.direction (v.row.stopInForce t.toMidTick)))])) :
    v.Guarded t := by
  refine ⟨?_, fun _ _ => ?_⟩
  · rw [next, after_append]
    exact kept.trail_goesOn
  · obtain ⟨-, closings, closing, -⟩ := kept.trail (t := t)
    refine ⟨v.row.closing t.cost won (t.stopFill v.row.direction
      (v.row.stopInForce t.toMidTick)), ?_, ?_⟩
    · rw [next, after_append, closings_after, closings]
      rfl
    · have within := t.stopFill_within v.row.direction (v.row.stopInForce t.toMidTick)
      rw [abs_of_nonneg (sub_nonneg.mpr t.crossed)] at within
      exact within

theorem Kept.guarded_iff (kept : v.Kept) :
    v.Guarded t ↔
      (ReBooks.isSimulated v.row = true → v.row.StopGoesOn t.toMidTick) := by
  cases simulated : ReBooks.isSimulated v.row with
  | false =>
      have stays : v.step t = v := by
        rw [VirtualTrade.step, simulated, if_neg Bool.false_ne_true]
      refine iff_of_true ⟨by rw [stays], fun on => ?_⟩ fun on => ?_
      · rw [simulated] at on
        exact absurd on Bool.false_ne_true
      · exact absurd on Bool.false_ne_true
  | true =>
      have pass : v.row.Pass t.toMidTick t.cost (v.row.manageTriggeredSignal t.toMidTick t.cost) :=
        ReSignal.pass_manageTriggeredSignal
      have next : v.step t = v.after t (v.row.manageTriggeredSignal t.toMidTick t.cost) := by
        rw [VirtualTrade.step, simulated, if_pos rfl]
      generalize v.row.manageTriggeredSignal t.toMidTick t.cost = calls at pass next
      rw [forall_prop_of_true rfl]
      cases pass with
      | stopOut won reached =>
          exact iff_of_true (kept.guarded_of_stopOut won next)
            (ReSignal.stopGoesOn_of_atStop reached)
      | first takes =>
          have later : v.row.takesMiddle t.toMidTick = false := by
            cases both : v.row.takesMiddle t.toMidTick with
            | false => rfl
            | true => exact absurd takes (by rw [ReSignal.later_of_takesMiddle both]; decide)
          rw [guarded_iff_of_above (ReSignal.above_of_takesFirst takes), next,
            ReSignal.StopGoesOn, takes, later, forall_prop_of_true rfl]
          have same : (v.after t [.bookPartialClose (v.row.legNet t.toMidTick t.cost
              v.row.firstFrac) v.row.firstFrac 1, .moveSlToBe (v.row.breakEven t.toMidTick)]
                ).row.stopLoss = v.row.breakEven t.toMidTick :=
            roundTo_of_onGrid (v.row.breakEven_onGrid t.toMidTick)
          rw [same]
          exact (and_iff_left fun on => absurd on Bool.false_ne_true).symm
      | middle takes later =>
          rw [guarded_iff_of_above (ReSignal.above_of_takesMiddle takes), next,
            ReSignal.StopGoesOn, takes, later, forall_prop_of_true rfl]
          exact (and_iff_right fun on => absurd on Bool.false_ne_true).symm
      | final ladder above first middle =>
          rw [guarded_iff_of_above above, next, ReSignal.StopGoesOn, first, middle]
          exact iff_of_true le_rfl ⟨fun on => absurd on Bool.false_ne_true,
            fun on => absurd on Bool.false_ne_true⟩
      | rides above first middle =>
          rw [guarded_iff_of_above above, next, ReSignal.StopGoesOn, first, middle]
          exact iff_of_true kept.trail_goesOn ⟨fun on => absurd on Bool.false_ne_true,
            fun on => absurd on Bool.false_ne_true⟩

end After
end VirtualTrade

namespace ReBooks
variable {s : ReBooks} {id : ℕ} {row : ReSignal}

theorem find_call (found : s.signals.find id = some row) (c : ManageCall) :
    (call id s c).signals.find id = some (row.called s.clock s.virtualBalance c) ∧
      (call id s c).clock = s.clock ∧
      (c.stopOnly = true → (call id s c).virtualBalance = s.virtualBalance) := by
  cases c with
  | moveSlToBe _ | setStopLoss _ =>
      exact ⟨(Table.find_update_self _ _ _).trans (congrArg _ found), rfl, fun _ => rfl⟩
  | closeSignal c =>
      exact ⟨(Table.find_update_self _ _ _).trans (congrArg _ found), rfl,
        fun only => absurd only Bool.false_ne_true⟩
  | bookPartialClose legNet fracClosed tpIdx =>
      rw [call, bookPartialClose, found]
      exact ⟨(Table.find_update_self _ _ _).trans (congrArg _ found), rfl,
        fun only => absurd only Bool.false_ne_true⟩

theorem find_calls (found : s.signals.find id = some row) {c c' : ManageCall}
    (only : c.stopOnly = true ∨ c'.stopOnly = true) :
    (call id (call id s c) c').signals.find id =
      some ((row.called s.clock s.virtualBalance c).called s.clock s.virtualBalance c') := by
  obtain ⟨first, clock, balance⟩ := find_call found c
  rw [(find_call first c').1, clock]
  rcases only with only | only
  · rw [balance only]
  · -- a move of the stop does not look at the balance
    cases c' with
    | moveSlToBe _ | setStopLoss _ => rfl
    | bookPartialClose _ _ _ | closeSignal _ => exact absurd only Bool.false_ne_true

/-- What the books do with the row of a signal at a tick is one pass of its life. -/
theorem find_step_manage (found : s.signals.find id = some row) (tick : PricedTick)
    (clock : tick.now = max s.clock tick.now) (balance : tick.balance = s.virtualBalance)
    {made : ℕ} (whole : 2 ≤ made) (calls : List (PricedTick × ManageCall)) :
    (s.step (tick.now, .manage id tick.toMidTick tick.cost made)).signals.find id =
      some ((VirtualTrade.mk row calls).step tick).row := by
  have here : (s.at_ tick.now).signals.find id = some row := found
  rw [step, act, onRow, here, VirtualTrade.step]
  dsimp only
  split
  · have pass : row.Pass tick.toMidTick tick.cost
        (row.manageTriggeredSignal tick.toMidTick tick.cost) :=
      ReSignal.pass_manageTriggeredSignal
    generalize row.manageTriggeredSignal tick.toMidTick tick.cost = made' at pass
    have now : (s.at_ tick.now).clock = tick.now := clock.symm
    have worth : (s.at_ tick.now).virtualBalance = tick.balance := balance.symm
    rcases pass.short with rfl | ⟨c, rfl⟩ | ⟨c, c', rfl, only⟩
    · rw [List.take_nil]
      exact here
    · rw [List.take_of_length_le (by simp only [List.length_singleton]; omega)]
      have called := (find_call here c).1
      rw [now, worth] at called
      exact called
    · rw [List.take_of_length_le whole]
      have called := find_calls here only
      rw [now, worth] at called
      exact called
  · exact here

end ReBooks

namespace ReSignal

/-- A signal that has been filled, before its first pass. -/
structure JustTriggered (sig : ReSignal) : Prop where
  simulated : ReBooks.isSimulated sig = true
  whole : sig.remaining = 1
  unbanked : sig.partialBooked = 0

/-- Every signal that the books have created and triggered is one. -/
theorem justTriggered_of_new (data : NewSignal) (id : ℕ) (price now : ℚ) :
    (triggered price now (data.row id)).JustTriggered := ⟨rfl, rfl, rfl⟩

end ReSignal

theorem virtual_ladder_iff {sig : ReSignal} (fresh : sig.JustTriggered)
    (ticks : List PricedTick) :
    VirtualTrade.Disciplined sig ticks ↔
      Meets VirtualTrade.step (fun v t => ReBooks.isSimulated v.row = true →
        v.row.StopGoesOn t.toMidTick) ⟨sig, []⟩ ticks := by
  have start : (VirtualTrade.mk sig []).Kept :=
    ⟨.whole fresh.whole, fresh.unbanked, fresh.unbanked ▸ onGrid_zero 2,
      .inl ⟨fresh.simulated, rfl⟩⟩
  have keep (v : VirtualTrade) (t : PricedTick) (kept : v.Kept) (_ : True) : (v.step t).Kept :=
    kept.step
  have run : Meets VirtualTrade.step (fun _ _ => True) ⟨sig, []⟩ ticks :=
    meets_of_forall (fun _ _ => True.intro) _ _
  have guarded :=
    meets_iff_of_invariant keep (fun v t kept _ => kept.guarded_iff (t := t)) start run
  constructor
  · exact fun disciplined => guarded.mp disciplined.guarded
  · intro met
    refine ⟨fun v mem => ?_, guarded.mpr met⟩
    exact (states_invariant keep start run v mem).booked

namespace VirtualTrade

/-- A signal of the reference channel, bought at 2001. -/
def boughtLadder : ReSignal :=
  ReSignal.triggered 2001 0
    (NewSignal.row
      { signalRef := "RE-1", createdAt := 0, direction := .buy, entryLow := 1999,
        entryHigh := 2002, stopLoss := 3989 / 2, tp1 := 4007 / 2, tp2 := some 2006,
        tp3 := some 2009, tp4 := some 2012, tp7 := some 2021, tp8 := some 2025,
        sourceChannel := "Gold Diggers VIP", strategy := "scale_out" } 1)

def quote (bid : ℚ) (spread : {x : ℚ // 0 ≤ x}) : PricedTick where
  bid := bid
  ask := bid + spread
  mid := bid + spread / 2
  cost := none
  now := 0
  balance := startingBalance
  crossed := le_add_of_nonneg_right spread.2

/-- TP1, TP4 and the stop that has been moved to TP1, at a spread of 30 cents. -/
theorem disciplined_narrow :
    Disciplined boughtLadder [quote 2004 ⟨3 / 10, by norm_num⟩, quote 2013 ⟨3 / 10, by norm_num⟩,
      quote 2003 ⟨3 / 10, by norm_num⟩] :=
  (virtual_ladder_iff (ReSignal.justTriggered_of_new _ _ _ _) _).mpr (by decide +kernel)

/-- At TP1 the spread is three points, so the stop goes above TP1; the middle partial takes
it back to TP1. -/
theorem stop_taken_back :
    ¬ ∀ sig : ReSignal, sig.JustTriggered → ∀ ticks, Disciplined sig ticks := by
  intro always
  have goesOn := (always boughtLadder (ReSignal.justTriggered_of_new _ _ _ _)
    [quote 2004 ⟨3, by norm_num⟩, quote 2013 ⟨3 / 10, by norm_num⟩]).guarded.2.1.goesOn
  exact absurd goesOn (by decide +kernel)

end VirtualTrade
end Forex
