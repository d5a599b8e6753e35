import Forex.Reversal.Manage
import Forex.Support.Table

/-!
The signals of the Reversal Engine with its virtual balance, and the calls that
write them: creation, trigger and expiry, the bookings of the management, and the
recomputation of the balance at every start of the process. Each call that writes a
row and the balance is one transaction.
-/

namespace Forex
open Support

/-- A row of `re_balance_log`. -/
structure BalanceEntry where
  ts : ℚ
  balance : ℚ
  changeAmt : ℚ
  reason : String
  signalId : Option ℕ
deriving DecidableEq, Repr

/-- The columns that a new row is given. -/
structure NewSignal where
  signalRef : String
  createdAt : ℚ
  direction : Direction
  entryLow : ℚ
  entryHigh : ℚ
  stopLoss : ℚ
  tp1 : ℚ
  tp2 : Option ℚ
  tp3 : Option ℚ
  tp4 : Option ℚ
  tp7 : Option ℚ
  tp8 : Option ℚ
  sourceChannel : String
  strategy : String
deriving DecidableEq, Repr

/-- A new row; the other columns take their defaults. -/
def NewSignal.row (data : NewSignal) (id : ℕ) : ReSignal where
  status := .pending
  createdAt := data.createdAt
  entryLow := data.entryLow
  entryHigh := data.entryHigh
  mt5Ticket := none
  vantageSignalId := none
  liveExecStatus := none
  direction := data.direction
  triggerPrice := none
  triggerTime := none
  outcome := some "open"
  closePrice := none
  pnlPts := none
  netPnl := none
  id := id
  signalRef := some data.signalRef
  sourceChannel := data.sourceChannel
  strategy := data.strategy
  stopLoss := data.stopLoss
  tp1 := data.tp1
  tp2 := data.tp2
  tp3 := data.tp3
  tp4 := data.tp4
  tp7 := data.tp7
  tp8 := data.tp8
  partialPnl := some 0
  remainingFrac := some 1
  maxTpHit := some 0
  slMovedToBe := false
  pnl := none
  balanceAfter := none
  closeTime := none

namespace ReSignal

def withStop (price : ℚ) : Assign ReSignal.id where
  apply r := { r with stopLoss := price }
  keeps _ := rfl

def withStopAtBe (price : ℚ) : Assign ReSignal.id where
  apply r := { r with stopLoss := price, slMovedToBe := true }
  keeps _ := rfl

def banked (partialPnl remainingFrac : ℚ) (maxTpHit : ℕ) : Assign ReSignal.id where
  apply r :=
    { r with
      partialPnl := some partialPnl
      remainingFrac := some remainingFrac
      maxTpHit := some maxTpHit }
  keeps _ := rfl

def closed (c : SignalClosing) (now balance : ℚ) : Assign ReSignal.id where
  apply r :=
    { r with
      status := .closed
      outcome := some c.outcome
      closePrice := some c.closePrice
      closeTime := some now
      pnlPts := some c.pnlPts
      pnl := some c.pnl
      netPnl := some c.netPnl
      balanceAfter := some balance }
  keeps _ := rfl

def expired (now : ℚ) : Assign ReSignal.id where
  apply r :=
    { r with status := .expired, outcome := some "expired", closeTime := some now }
  keeps _ := rfl

def triggered (price now : ℚ) : Assign ReSignal.id where
  apply r :=
    { r with status := .triggered, triggerPrice := some price, triggerTime := some now }
  keeps _ := rfl

def liveExec (mt5Ticket : Option ℤ) (vantageSigId : Option String) (status : String) :
    Assign ReSignal.id where
  apply r := { r with toMirrorRow := r.recordLiveExec mt5Ticket vantageSigId status }
  keeps _ := rfl

/-- What `_reconcile_live_signal` closes a signal with. -/
def liveClosing (sig : ReSignal) (d : Deal) (ds : List Deal) : SignalClosing :=
  let price := (Deal.latest d ds).price
  let netPnl := roundTo 2 ((d :: ds).map Deal.money).sum
  { closePrice := if price = 0 then sig.entryRef else price
    outcome := outcomeOf netPnl
    pnlPts := if price = 0 then 0 else roundTo 2 (sig.legPts price)
    netPnl := netPnl
    pnl := netPnl
    balanceDelta := netPnl }

end ReSignal

def startingBalance : ℚ := 1000

structure ReBooks where
  signals : Table ReSignal ReSignal.id
  nextId : ℕ
  virtualBalance : ℚ
  log : List BalanceEntry
  /-- `stats_epoch`. -/
  epoch : ℚ
  clock : ℚ

inductive BooksOp where
  | create (data : NewSignal)
  | expire (id : ℕ)
  | trigger (id : ℕ) (price : ℚ)
  /-- `update_live_exec`. -/
  | record (id : ℕ) (mt5Ticket : Option ℤ) (vantageSigId : Option String) (status : String)
  /-- The pass may be cut short after some of its calls. -/
  | manage (id : ℕ) (tick : MidTick) (cost : Option ℚ) (made : ℕ)
  /-- The live reconcile has come to the closing deals. -/
  | reconcile (id : ℕ) (d : Deal) (ds : List Deal)
  /-- `init`. -/
  | restart

namespace ReSignal
variable (epoch : ℚ) (r : ReSignal)

/-- What a closed signal adds to the sum that a start of the process recomputes. -/
def realised : ℚ :=
  if r.status = .closed ∧ r.closeTime.any (fun t => decide (epoch ≤ t)) = true then
    r.netPnl.getD 0
  else 0

/-- The partial result banked on a signal that is still open. -/
def bankedOpen : ℚ := if r.isOpen then r.partialBooked else 0

end ReSignal

namespace ReBooks
variable (s : ReBooks)

def updateSignal (id : ℕ) (f : Assign ReSignal.id) : ReBooks :=
  { s with signals := s.signals.update id f }

/-- `_update_balance`. -/
def updateBalance (delta : ℚ) (reason : String) (signalId : Option ℕ) : ReBooks :=
  let bal := s.virtualBalance + delta
  { s with
    virtualBalance := roundTo 4 bal
    log := s.log ++ [⟨s.clock, bal, delta, reason, signalId⟩] }

/-- `reconcile_balance_with_trades`. -/
def reconcileBalanceWithTrades : ReBooks :=
  let correct := roundTo 4 (startingBalance + s.signals.total (ReSignal.realised s.epoch))
  if 1 / 100 < |correct - s.virtualBalance| then { s with virtualBalance := correct } else s

/-- `create_signal`: a reference that is there already is ignored. -/
def createSignal (data : NewSignal) : ReBooks :=
  if s.signals.rows.any fun r => decide (r.signalRef = some data.signalRef) then s
  else
    { s with
      signals := s.signals.insertOrIgnore (data.row s.nextId)
      nextId := s.nextId + 1 }

def closeSignal (id : ℕ) (c : SignalClosing) : ReBooks :=
  (s.updateBalance c.balanceDelta ("signal_close_" ++ c.outcome) (some id)).updateSignal id
    (ReSignal.closed c s.clock (s.virtualBalance + c.balanceDelta))

def bookPartialClose (id : ℕ) (legNet fracClosed : ℚ) (tpIdx : ℕ) : ReBooks :=
  match s.signals.find id with
  | none => s
  | some row =>
      (s.updateBalance legNet ("re_partial_tp" ++ toString tpIdx) (some id)).updateSignal id
        (ReSignal.banked (roundTo 2 (row.partialBooked + legNet))
          (roundTo 4 (max 0 (row.remaining - fracClosed))) (max (row.maxTpHit.getD 0) tpIdx))

def call (id : ℕ) : ReBooks → ManageCall → ReBooks
  | s, .bookPartialClose legNet fracClosed tpIdx => s.bookPartialClose id legNet fracClosed tpIdx
  | s, .moveSlToBe bePrice => s.updateSignal id (ReSignal.withStopAtBe (roundTo 2 bePrice))
  | s, .setStopLoss price => s.updateSignal id (ReSignal.withStop (roundTo 2 price))
  | s, .closeSignal c => s.closeSignal id c

/-- The caller has read a row of this kind. -/
def onRow (id : ℕ) (p : ReSignal → Bool) (f : ReSignal → ReBooks) : ReBooks :=
  match s.signals.find id with
  | none => s
  | some row => if p row then f row else s

def isPending (row : ReSignal) : Bool := decide (row.status = .pending)

/-- The outcome loop simulates the signal. -/
def isSimulated (row : ReSignal) : Bool :=
  decide (row.status = .triggered ∧ row.liveTicket = none)

/-- The outcome loop mirrors the signal from the broker. -/
def isMirrored (row : ReSignal) : Bool :=
  decide (row.status = .triggered) && row.liveTicket.isSome

def act : BooksOp → ReBooks
  | .create data => s.createSignal data
  | .expire id => s.onRow id isPending fun _ => s.updateSignal id (ReSignal.expired s.clock)
  | .trigger id price =>
      s.onRow id isPending fun _ => s.updateSignal id (ReSignal.triggered price s.clock)
  | .record id mt5Ticket vantageSigId status =>
      s.updateSignal id (ReSignal.liveExec mt5Ticket vantageSigId status)
  | .manage id tick cost made =>
      s.onRow id isSimulated fun row =>
        ((row.manageTriggeredSignal tick cost).take made).foldl (call id) s
  | .reconcile id d ds =>
      s.onRow id isMirrored fun row => s.closeSignal id (row.liveClosing d ds)
  | .restart => s.reconcileBalanceWithTrades

/-- The clock does not run backwards. -/
def at_ (now : ℚ) : ReBooks := { s with clock := max s.clock now }

/-- An operation at the time it takes place. -/
def step (s : ReBooks) (a : ℚ × BooksOp) : ReBooks := (s.at_ a.1).act a.2

/-- A database that has just been made. -/
def fresh : ReBooks where
  signals := Table.empty
  nextId := 1
  virtualBalance := startingBalance
  log := []
  epoch := 0
  clock := 0

end ReBooks
end Forex
