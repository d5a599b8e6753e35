import Forex.Signals.SignalState
import Forex.Support.Run

/-!
The life of one resting order: the revalidation sweep that withdraws and
re-arms it, the EA that places, deletes and watches it, the broker that fills
or drops it, and the app's handler of what the EA reports. Commands and events
are read in the order they were sent. A step of the sweep or of the handler
ends where the code awaits. Restarts of the EA are left out, and so are the
commands of other callers than the sweep.
-/

namespace Forex
open Support

inductive EaCommand where
  | cancel (ticket : ℤ)
  | place
deriving DecidableEq, Repr

inductive EaEvent where
  | placed (ticket : ℤ)
  | openFailed
  | filled (ticket : ℤ) (fillPrice : ℚ)
  | cancelled
deriving DecidableEq, Repr

/-- Where the sweep stands with the row it has read. -/
inductive SweepPhase where
  | idle
  | seen (row : PendingOrder)
  /-- The cancel is sent and the row not yet marked. -/
  | pulled
  /-- The place is sent and its acknowledgement awaited. -/
  | placing
  /-- The acknowledgement is in and the row not yet marked. -/
  | placed (ticket : ℤ)
deriving DecidableEq, Repr

/-- Where the handler of an event stands, once it has fetched the row. -/
inductive HandlerPhase where
  | idle
  | filling (row : PendingOrder) (ticket : ℤ) (fillPrice : ℚ)
  | cancelling (row : PendingOrder)
deriving DecidableEq, Repr

structure RestingSetup where
  db : Db
  /-- The broker's book. -/
  resting : List ℤ
  positions : List ℤ
  nextTicket : ℤ
  /-- `g_pending` of the EA. -/
  tracked : List ℤ
  commands : List EaCommand
  events : List EaEvent
  sweep : SweepPhase
  handler : HandlerPhase

/-- A send is `delivered` or lost, and is `reported` as one or the other; a
write of the sweep is `written` or fails. -/
inductive RestingStep where
  | readRow
  | leaveAsIs
  | sendCancel (reported delivered : Bool)
  | markWithdrawn (written : Bool)
  | expire (now : ℚ) (written : Bool)
  | sendPlace (now : ℚ) (reported delivered : Bool)
  | timeout
  | markRearmed (written : Bool)
  | eaReads (accepted : Bool)
  | fill (ticket : ℤ)
  | drop (ticket : ℤ)
  | eaNotices (ticket : ℤ) (fillPrice : ℚ)
  | appReads
  | applyEvent (now : ℚ)
deriving DecidableEq, Repr

def defaultExpireMinutes : ℚ := 60

/-- `_minutes_left`. -/
def PendingOrder.minutesLeft (o : PendingOrder) (now : ℚ) : ℚ :=
  defaultExpireMinutes - (now - o.createdAt) / 60

namespace RestingSetup
variable (tradeId : String) (s : RestingSetup)

def row : Option PendingOrder := s.db.orders.find tradeId

/-- `_mark`: a write that fails is logged, and the sweep goes on. -/
def mark (written : Bool) (f : Assign PendingOrder.tradeId) : RestingSetup :=
  { s with
    db := if written then s.db.setOrder tradeId f else s.db
    sweep := .idle }

def readRow : RestingSetup :=
  match s.sweep, s.row tradeId with
  | .idle, some row =>
      if row.status = .working ∨ row.status = .withdrawn then { s with sweep := .seen row } else s
  | _, _ => s

/-- The gates have nothing against the order, or something still against its
return. -/
def leaveAsIs : RestingSetup :=
  match s.sweep with
  | .seen _ => { s with sweep := .idle }
  | _ => s

/-- `_withdraw`, up to its status write. -/
def sendCancel (reported delivered : Bool) : RestingSetup :=
  match s.sweep with
  | .seen row =>
      if row.status = .working then
        let ticket := row.eaTicket.getD 0
        if ticket ≤ 0 then { s with sweep := .idle }
        else
          { s with
            sweep := if reported then .pulled else .idle
            commands := if delivered then s.commands ++ [.cancel ticket] else s.commands }
      else s
  | _ => s

def markWithdrawn (written : Bool) : RestingSetup :=
  match s.sweep with
  | .pulled => s.mark tradeId written PendingOrder.withdraw
  | _ => s

/-- `_rearm` on an order whose life is over. -/
def expire (now : ℚ) (written : Bool) : RestingSetup :=
  match s.sweep with
  | .seen row =>
      if row.status = .withdrawn ∧ row.minutesLeft now ≤ 0 then
        s.mark tradeId written (PendingOrder.resolve .expired now)
      else s
  | _ => s

/-- `_rearm`, up to the wait for the acknowledgement; a failed send raises. -/
def sendPlace (now : ℚ) (reported delivered : Bool) : RestingSetup :=
  match s.sweep with
  | .seen row =>
      if row.status = .withdrawn ∧ 0 < row.minutesLeft now then
        { s with
          sweep := if reported then .placing else .idle
          commands := if delivered then s.commands ++ [.place] else s.commands }
      else s
  | _ => s

/-- No acknowledgement within five seconds: the row stays withdrawn. -/
def timeout : RestingSetup :=
  match s.sweep with
  | .placing => { s with sweep := .idle }
  | _ => s

def markRearmed (written : Bool) : RestingSetup :=
  match s.sweep with
  | .placed ticket => s.mark tradeId written (PendingOrder.rearm (some ticket))
  | _ => s

/-- `HandleCancelPendingOrder` and `HandlePlacePendingOrder`. A deletion that
the broker refuses, or that finds no order, is not reported. -/
def eaReads (accepted : Bool) : RestingSetup :=
  match s.commands with
  | [] => s
  | .cancel ticket :: rest =>
      if accepted ∧ ticket ∈ s.resting then
        { s with
          resting := s.resting.erase ticket
          tracked := s.tracked.erase ticket
          commands := rest
          events := s.events ++ [.cancelled] }
      else { s with commands := rest }
  | .place :: rest =>
      if accepted then
        { s with
          resting := s.resting ++ [s.nextTicket]
          tracked := s.tracked ++ [s.nextTicket]
          nextTicket := s.nextTicket + 1
          commands := rest
          events := s.events ++ [.placed s.nextTicket] }
      else { s with commands := rest, events := s.events ++ [.openFailed] }

def fill (ticket : ℤ) : RestingSetup :=
  if ticket ∈ s.resting then
    { s with resting := s.resting.erase ticket, positions := s.positions ++ [ticket] }
  else s

/-- The order expires at the broker or is cancelled in the terminal. -/
def drop (ticket : ℤ) : RestingSetup := { s with resting := s.resting.erase ticket }

/-- `CheckPendingOrders`, for one order. -/
def eaNotices (ticket : ℤ) (fillPrice : ℚ) : RestingSetup :=
  if ticket ∈ s.tracked ∧ ticket ∉ s.resting then
    { s with
      tracked := s.tracked.erase ticket
      events := s.events ++
        [if ticket ∈ s.positions then .filled ticket fillPrice else .cancelled] }
  else s

/-- The dispatch of an event. An acknowledgement wakes whoever waits for one,
whichever request it answers; other handlers fetch the row first. -/
def handle (e : EaEvent) : RestingSetup :=
  match e with
  | .placed ticket => if s.sweep = .placing then { s with sweep := .placed ticket } else s
  | .openFailed => if s.sweep = .placing then { s with sweep := .idle } else s
  | .filled ticket fillPrice =>
      match s.row tradeId with
      | some row => { s with handler := .filling row ticket fillPrice }
      | none => s
  | .cancelled =>
      match s.row tradeId with
      -- a withdrawn row takes the report for its own echo
      | some row => if row.status = .withdrawn then s else { s with handler := .cancelling row }
      | none => s

/-- The connection hands on one event at a time. -/
def appReads : RestingSetup :=
  match s.handler, s.events with
  | .idle, e :: rest => { s with events := rest }.handle tradeId e
  | _, _ => s

/-- The write of `_on_pending_order_filled` or `_on_pending_order_cancelled`. -/
def applyEvent (now : ℚ) : RestingSetup :=
  match s.handler with
  | .idle => s
  | .filling row ticket fillPrice =>
      { s with
        db := (s.db.applyPendingFill row (some ticket) fillPrice now).getD s.db
        handler := .idle }
  | .cancelling row => { s with db := s.db.applyPendingCancelled row now, handler := .idle }

def step : RestingStep → RestingSetup
  | .readRow => s.readRow tradeId
  | .leaveAsIs => s.leaveAsIs
  | .sendCancel reported delivered => s.sendCancel reported delivered
  | .markWithdrawn written => s.markWithdrawn tradeId written
  | .expire now written => s.expire tradeId now written
  | .sendPlace now reported delivered => s.sendPlace now reported delivered
  | .timeout => s.timeout
  | .markRearmed written => s.markRearmed tradeId written
  | .eaReads accepted => s.eaReads accepted
  | .fill ticket => s.fill ticket
  | .drop ticket => s.drop ticket
  | .eaNotices ticket fillPrice => s.eaNotices ticket fillPrice
  | .appReads => s.appReads tradeId
  | .applyEvent now => s.applyEvent now

/-- Nothing is on its way, and the EA has noticed everything. -/
structure Still : Prop where
  commands : s.commands = []
  events : s.events = []
  handler : s.handler = .idle
  tracked : ∀ t ∈ s.tracked, t ∈ s.resting
  sweep : s.sweep = .idle ∨ ∃ row, s.sweep = .seen row

/-- At most one order or position stands for the setup, and a row that nothing
will change any more says which: a resting order has its row working under its
own ticket, and a position has its row filled. -/
structure RestingSafe : Prop where
  one : s.resting.length + s.positions.length ≤ 1
  live : s.Still → ∀ t ∈ s.resting, ∀ row ∈ s.row tradeId,
    row.status = .working ∧ row.eaTicket = some t
  filled : s.Still → s.positions ≠ [] → ∀ row ∈ s.row tradeId, row.status = .filled

def rowFilled : Bool := (s.row tradeId).any fun row => decide (row.status = .filled)

/-- The withdrawal is over: the broker has nothing left of the setup, and all
that the EA had to say about it has been handled. -/
def confirmedGone : Bool :=
  s.resting.isEmpty && s.positions.isEmpty && s.tracked.isEmpty && s.commands.isEmpty &&
    s.events.isEmpty && decide (s.handler = .idle)

/-- The order goes back only once the withdrawal is confirmed; no write of the
sweep falls on a filled row; a place is given up only if no order can come of
it; and neither a cancel nor the mark of a placed order is lost while the order
rests. -/
def guarded : RestingStep → Bool
  | .sendCancel reported delivered => !reported || delivered || s.resting.isEmpty
  | .markWithdrawn written | .expire _ written => !written || !s.rowFilled tradeId
  | .sendPlace _ reported delivered => !delivered || reported && s.confirmedGone
  | .timeout =>
      decide (.place ∉ s.commands) &&
        s.events.all fun e => match e with
          | .placed _ => false
          | _ => true
  | .markRearmed written => if written then !s.rowFilled tradeId else s.resting.isEmpty
  | .eaReads accepted =>
      accepted ||
        match s.commands with
        | .cancel ticket :: _ => decide (ticket ∉ s.resting)
        | _ => true
  | _ => true

/-- The order has just been placed and its row inserted. -/
structure Placed (ticket : ℤ) : Prop where
  row : ∃ row, s.row tradeId = some row ∧ row.status = .working ∧ row.eaTicket = some ticket
  unbooked : s.db.trades.find tradeId = none
  resting : s.resting = [ticket]
  positions : s.positions = []
  tracked : s.tracked = [ticket]
  commands : s.commands = []
  events : s.events = []
  sweep : s.sweep = .idle
  handler : s.handler = .idle

end RestingSetup

end Forex
