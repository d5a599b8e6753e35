import Forex.Reversal.LiveOutcome

/-!
The simulated management of a triggered Reversal Engine signal: the ladder of the
reference channel, the same ladder over the three targets of a GD2 signal, and the
conservative style. Each reads the row and a tick and comes down to a few calls of
the repository. `calculate_fees` is given by the cost it answers with, if it does.
-/

namespace Forex
open Support

structure MidTick extends Tick where
  mid : ℚ
deriving DecidableEq, Repr

/-- The columns of `re_signals` that the management reads or writes. -/
structure ReSignal extends MirrorRow where
  id : ℕ
  signalRef : Option String
  sourceChannel : String
  strategy : String
  stopLoss : ℚ
  tp1 : ℚ
  tp2 : Option ℚ
  tp3 : Option ℚ
  tp4 : Option ℚ
  tp7 : Option ℚ
  tp8 : Option ℚ
  partialPnl : Option ℚ
  remainingFrac : Option ℚ
  maxTpHit : Option ℕ
  slMovedToBe : Bool
  pnl : Option ℚ
  balanceAfter : Option ℚ
  closeTime : Option ℚ

/-- The arguments of `close_signal`. -/
structure SignalClosing where
  closePrice : ℚ
  outcome : String
  pnlPts : ℚ
  netPnl : ℚ
  pnl : ℚ
  balanceDelta : ℚ
deriving DecidableEq, Repr

inductive ManageCall where
  | bookPartialClose (legNet fracClosed : ℚ) (tpIdx : ℕ)
  | moveSlToBe (bePrice : ℚ)
  | setStopLoss (price : ℚ)
  | closeSignal (c : SignalClosing)
deriving DecidableEq, Repr

namespace ManageCall

/-- The call touches nothing but the stop. -/
def stopOnly : ManageCall → Bool
  | moveSlToBe _ | setStopLoss _ => true
  | bookPartialClose _ _ _ | closeSignal _ => false

end ManageCall

/-- Neither NULL nor zero. -/
def unlessFalsy (x : Option ℚ) : Option ℚ := x.filter fun v => decide (v ≠ 0)

def virtualLot : ℚ := 1 / 10
def tp1Frac : ℚ := 1 / 2
def midFrac : ℚ := 3 / 10
def postTp1Remaining : ℚ := roundTo 4 (1 - tp1Frac)
def postMidRemaining : ℚ := roundTo 4 (postTp1Remaining - midFrac)
def conservativeSlPts : ℚ := 5
def conservativeTp1Pts : ℚ := 3
def conservativeTp1Frac : ℚ := 4 / 5
def conservativeTrailPts : ℚ := 3
def stopSlipMaxPts : ℚ := 1 / 2

namespace MidTick
variable (tick : MidTick)

def price : ℚ := if tick.mid = 0 then tick.bid else tick.mid

/-- `_realistic_fill`. -/
def realisticFill (direction : Direction) (closing : Bool) : ℚ :=
  let side := if decide (direction = .buy) != closing then tick.ask else tick.bid
  if side = 0 then tick.mid else side

/-- `_stop_fill`: at the stop, or worse by no more than the spread and the slippage. -/
def stopFill (direction : Direction) (sl : ℚ) : ℚ :=
  let raw := tick.realisticFill direction true
  let allowance := |tick.ask - tick.bid| + stopSlipMaxPts
  match direction with
  | .buy => min sl (max raw (sl - allowance))
  | .sell => max sl (min raw (sl + allowance))

/-- The price has come to a level on the losing side. -/
def atStop (direction : Direction) (sl : ℚ) : Bool :=
  match direction with
  | .buy => decide (tick.price ≤ sl)
  | .sell => decide (sl ≤ tick.price)

def atTarget (direction : Direction) (tp : ℚ) : Bool :=
  match direction with
  | .buy => decide (tp ≤ tick.price)
  | .sell => decide (tick.price ≤ tp)

end MidTick

/-- `_net_pnl`: the gross and the net result of the whole virtual lot. -/
def virtualPnl (cost : Option ℚ) (pnlPts : ℚ) : ℚ × ℚ :=
  let gross := pnlPts * virtualLot * 100
  match cost with
  | none => (gross, gross)
  | some cost => (roundTo 4 gross, roundTo 4 (gross - cost))

namespace ReSignal
variable (sig : ReSignal) (tick : MidTick) (cost : Option ℚ)

def remaining : ℚ := sig.remainingFrac.getD 1

def partialBooked : ℚ := sig.partialPnl.getD 0

/-- Nothing has been closed yet. -/
def isWhole : Bool := decide (1 - 1 / 10 ^ 6 ≤ sig.remaining)

def legPts (exitPx : ℚ) : ℚ := sig.direction.sign * (exitPx - sig.entryRef)

/-- Everything that is left goes at this fill. Only a win is told beforehand; any other
outcome follows from the total. -/
def closing (won : Bool) (exitFill : ℚ) : SignalClosing :=
  let legPts := sig.legPts exitFill
  let grossLeg := (virtualPnl cost legPts).1 * sig.remaining
  let netLeg := (virtualPnl cost legPts).2 * sig.remaining
  let totalNet := roundTo 2 (sig.partialBooked + netLeg)
  { closePrice := exitFill
    outcome := if won then "win" else outcomeOf totalNet
    pnlPts := roundTo 2 legPts
    netPnl := totalNet
    pnl := roundTo 2 (sig.partialBooked + grossLeg)
    balanceDelta := roundTo 2 netLeg }

/-- What a fraction closed at the market banks. -/
def legNet (frac : ℚ) : ℚ :=
  roundTo 2 ((virtualPnl cost (sig.legPts (tick.realisticFill sig.direction true))).2 * frac)

/-- `_manage_ref_ladder_signal`. -/
def manageRefLadderSignal (tpMidField tp7Field : ReSignal → Option ℚ) (tpMidIdx : ℕ) :
    List ManageCall :=
  let tpMid := (unlessFalsy (tpMidField sig)).getD ((unlessFalsy sig.tp3).getD sig.tp1)
  let tp7 := (unlessFalsy (tp7Field sig)).getD ((unlessFalsy sig.tp8).getD sig.tp1)
  let costPts := roundTo 2 (tick.ask - tick.bid + 5 / 100)
  if tick.atStop sig.direction sig.stopLoss then
    [.closeSignal (sig.closing cost false (tick.stopFill sig.direction sig.stopLoss))]
  else if tick.atTarget sig.direction sig.tp1 && sig.isWhole then
    [.bookPartialClose (sig.legNet tick cost tp1Frac) tp1Frac 1,
      .moveSlToBe (roundTo 2 (sig.entryRef + sig.direction.sign * costPts))]
  else if decide (tpMid ≠ 0) && tick.atTarget sig.direction tpMid &&
      decide (postMidRemaining < sig.remaining ∧
        sig.remaining ≤ postTp1Remaining + 1 / 10 ^ 6) then
    [.bookPartialClose (sig.legNet tick cost midFrac) midFrac tpMidIdx, .setStopLoss sig.tp1]
  else if decide (tp7 ≠ 0) && tick.atTarget sig.direction tp7 then
    [.closeSignal (sig.closing cost true (tick.realisticFill sig.direction true))]
  else []

/-- `_manage_gd2_signal`: TP2 stands for the middle level and TP3 for the runner's. -/
def manageGd2Signal : List ManageCall :=
  sig.manageRefLadderSignal tick cost ReSignal.tp2 ReSignal.tp3 2

/-- The stop of the runner, three points behind the price and never loosened. -/
def runnerStop : ℚ :=
  let candidateSl := tick.price - sig.direction.sign * conservativeTrailPts
  match sig.direction with
  | .buy => max sig.stopLoss candidateSl
  | .sell => min sig.stopLoss candidateSl

/-- `_manage_conservative_signal`. -/
def manageConservativeSignal : List ManageCall :=
  let sign := sig.direction.sign
  let fixedSl := sig.entryRef - sign * conservativeSlPts
  let fixedTp1 := sig.entryRef + sign * conservativeTp1Pts
  if sig.isWhole then
    if tick.atStop sig.direction fixedSl then
      [.closeSignal (sig.closing cost false (tick.stopFill sig.direction fixedSl))]
    else if tick.atTarget sig.direction fixedTp1 then
      [.bookPartialClose (sig.legNet tick cost conservativeTp1Frac) conservativeTp1Frac 1,
        .moveSlToBe (roundTo 2 sig.entryRef)]
    else []
  else
    let newSl := sig.runnerStop tick
    (if newSl ≠ sig.stopLoss then [.setStopLoss newSl] else []) ++
      if tick.atStop sig.direction newSl then
        [.closeSignal (sig.closing cost true (tick.stopFill sig.direction newSl))]
      else []

end ReSignal

/-- `_GD2_SOURCE_CHANNEL`. -/
def gd2SourceChannel : String := "GOLD DIGGERS 2.0 ⚡️"

def strategyConservative : String := "conservative"

inductive SignalManager where
  | gd2
  | conservative
  | refLadder
deriving DecidableEq, Repr

namespace ReSignal
variable (sig : ReSignal) (tick : MidTick) (cost : Option ℚ)

def management : SignalManager :=
  if sig.sourceChannel = gd2SourceChannel then .gd2
  else if sig.strategy = strategyConservative then .conservative
  else .refLadder

/-- `_manage_triggered_signal`. -/
def manageTriggeredSignal : List ManageCall :=
  match sig.management with
  | .gd2 => sig.manageGd2Signal tick cost
  | .conservative => sig.manageConservativeSignal tick cost
  | .refLadder => sig.manageRefLadderSignal tick cost ReSignal.tp4 ReSignal.tp7 4

end ReSignal

/-- What is stored as the whole result agrees, to a cent, with what has been banked and
what goes to the balance now. -/
structure SignalClosing.Agrees (c : SignalClosing) (sig : ReSignal) : Prop where
  cents : OnGrid 2 c.netPnl
  deltaCents : OnGrid 2 c.balanceDelta
  total : |c.netPnl - (sig.partialBooked + c.balanceDelta)| ≤ 1 / 100

/-- At most one call books money, and only moves of the stop stand beside it. -/
inductive Booking (sig : ReSignal) : List ManageCall → Prop where
  | stops {calls : List ManageCall} (only : ∀ c ∈ calls, c.stopOnly = true) : Booking sig calls
  | banks {legNet fracClosed : ℚ} {tpIdx : ℕ} {calls : List ManageCall}
      (cents : OnGrid 2 legNet) (only : ∀ c ∈ calls, c.stopOnly = true) :
      Booking sig (.bookPartialClose legNet fracClosed tpIdx :: calls)
  | closes {c : SignalClosing} {calls : List ManageCall} (agrees : c.Agrees sig)
      (only : ∀ c ∈ calls, c.stopOnly = true) : Booking sig (calls ++ [.closeSignal c])

namespace ReSignal
variable (sig : ReSignal) (tick : MidTick) (cost : Option ℚ)

theorem closing_agrees (won : Bool) (exitFill : ℚ) :
    (sig.closing cost won exitFill).Agrees sig where
  cents := roundTo_onGrid 2 _
  deltaCents := roundTo_onGrid 2 _
  total := by
    rw [closing]
    dsimp only
    generalize (virtualPnl cost (sig.legPts exitFill)).2 * sig.remaining = netLeg
    have total := abs_le.mp (abs_roundTo_sub_le 2 (sig.partialBooked + netLeg))
    have leg := abs_le.mp (abs_roundTo_sub_le 2 netLeg)
    rw [abs_le]
    constructor <;> linarith

theorem booking_close (won : Bool) (exitFill : ℚ) :
    Booking sig [.closeSignal (sig.closing cost won exitFill)] := by
  rw [← List.nil_append [_]]
  exact .closes (sig.closing_agrees cost won exitFill) fun _ mem => nomatch mem

theorem booking_bank (frac fracClosed : ℚ) (tpIdx : ℕ) {call : ManageCall}
    (stop : call.stopOnly = true) :
    Booking sig [.bookPartialClose (sig.legNet tick cost frac) fracClosed tpIdx, call] := by
  refine .banks (roundTo_onGrid 2 _) fun c mem => ?_
  rw [List.mem_singleton.mp mem, stop]

theorem booking_idle : Booking sig [] := .stops fun _ mem => nomatch mem

theorem booking_manageRefLadderSignal (tpMidField tp7Field : ReSignal → Option ℚ)
    (tpMidIdx : ℕ) :
    Booking sig (sig.manageRefLadderSignal tick cost tpMidField tp7Field tpMidIdx) := by
  rw [manageRefLadderSignal]
  split
  · exact sig.booking_close cost _ _
  · split
    · exact sig.booking_bank tick cost _ _ _ rfl
    · split
      · exact sig.booking_bank tick cost _ _ _ rfl
      · split
        · exact sig.booking_close cost _ _
        · exact sig.booking_idle

theorem booking_manageConservativeSignal :
    Booking sig (sig.manageConservativeSignal tick cost) := by
  rw [manageConservativeSignal]
  dsimp only
  split
  · split
    · exact sig.booking_close cost _ _
    · split
      · exact sig.booking_bank tick cost _ _ _ rfl
      · exact sig.booking_idle
  · -- the runner: the stop may be trailed first
    generalize trail : (if sig.runnerStop tick ≠ sig.stopLoss then
      [ManageCall.setStopLoss (sig.runnerStop tick)] else []) = calls
    have only : ∀ c ∈ calls, c.stopOnly = true := by
      rw [← trail]
      intro c mem
      split at mem
      · rw [List.mem_singleton.mp mem]
        rfl
      · exact nomatch mem
    split
    · exact .closes (sig.closing_agrees cost _ _) only
    · rw [List.append_nil]
      exact .stops only

/-- Whatever the style, a pass books at most once, and a close books what is left. -/
theorem booking_manageTriggeredSignal : Booking sig (sig.manageTriggeredSignal tick cost) := by
  rw [manageTriggeredSignal]
  cases sig.management with
  | gd2 => exact sig.booking_manageRefLadderSignal tick cost _ _ _
  | conservative => exact sig.booking_manageConservativeSignal tick cost
  | refLadder => exact sig.booking_manageRefLadderSignal tick cost _ _ _

end ReSignal

/-- A pass that is cut short has made the first of its calls. -/
theorem Booking.take {sig : ReSignal} {calls : List ManageCall} (booking : Booking sig calls)
    (n : ℕ) : Booking sig (calls.take n) := by
  cases booking with
  | stops only => exact .stops fun c mem => only c (List.mem_of_mem_take mem)
  | banks cents only =>
      cases n with
      | zero => exact sig.booking_idle
      | succ n => exact .banks cents fun c mem => only c (List.mem_of_mem_take mem)
  | @closes c calls agrees only =>
      rw [List.take_append]
      cases n - calls.length with
      | zero =>
          rw [List.take_zero, List.append_nil]
          exact .stops fun c mem => only c (List.mem_of_mem_take mem)
      | succ m =>
          rw [List.take_succ_cons, List.take_nil]
          exact .closes agrees fun c mem => only c (List.mem_of_mem_take mem)

end Forex
