import Forex.Signals.SignalState
import Mathlib.Data.List.Sort

/-!
The life of a signal row under the two repositories that write its status, and
the pending watcher that walks a list of queued signals it has read once. A
failed activation is raised out of `open_trade_from_signal`, which has already
put the signal back or parked it, and is then handled by the watcher; the two
are separate steps, since each writes the row.
-/

namespace Forex
open Support

def SignalStatus.text : SignalStatus → String
  | .pending => "pending"
  | .active => "active"
  | .activating => "activating"
  | .activated => "activated"
  | .unknown => "unknown"
  | .closed => "closed"
  | .cancelled => "cancelled"
  | .expired => "expired"

def Signal.activate (now : ℚ) : Assign Signal.signalId where
  apply s := { s with status := .active, activatedAt := some now }
  keeps _ := rfl

namespace Db
variable (db : Db)

/-- `park_signal_pending`; the statement has no condition on the status. -/
def parkSignalPending (signalId : String) : Db := db.setSignalStatus signalId .pending

/-- `expire_signal`, by id alone. -/
def expireSignal (signalId : String) : Db := db.setSignalStatus signalId .expired

def markSignalActivated (signalId : String) : Db := db.setSignalStatus signalId .activated

def activateSignal (signalId : String) (now : ℚ) : Option Db :=
  match db.signals.find signalId with
  | none => none
  | some s =>
      if s.status = .pending then
        some { db with signals := db.signals.update signalId (Signal.activate now) }
      else none

def pendingSignalsAwaitingZoneFill : List Signal :=
  (db.signals.rows.filter fun s =>
    decide (s.status = .pending) && !db.hasWorkingOrder s.signalId).insertionSort
      fun a b => a.createdAt ≤ b.createdAt

def hasOpenTradeForSignal (signalId : String) : Bool :=
  db.trades.rows.any fun t => t.isOpen && decide (t.signalId = signalId)

def describeTradeSlots : String :=
  toString db.openSlots ++ " open, " ++ toString (db.orders.count PendingOrder.isWorking) ++
    " resting at the broker, " ++
    toString (db.signals.count fun s => s.isActivating && !db.hasWorkingOrder s.signalId) ++
    " being opened right now"

def explainFailedClaim (cap : ℕ) (signalId : String) : String :=
  match db.signals.find signalId with
  | none => "Signal " ++ signalId ++ " not found"
  | some s =>
      if s.claimable then
        "Max open trades reached (" ++ toString cap ++ ") — " ++ db.describeTradeSlots
      else
        "Signal " ++ signalId ++ " is already being opened (status " ++ s.status.text ++
          ") — duplicate suppressed"

end Db

/-- How `open_trade_from_signal` ends: refused before the claim, or past it with
a trade, an answer that says no, or no answer at all. -/
inductive OpenOutcome where
  | refused (message : String)
  | opened (t : Trade)
  | rejected (message : String)
  | unanswered (message : String)

/-- `_route_failed_open`. -/
def routeFailedOpen (db : Db) (signalId : String) (unanswered : Bool) : Db :=
  if unanswered then db.parkSignalUnknown signalId else db.restoreSignalAfterFailedOpen signalId

/-- `open_trade_from_signal`: the database it leaves and the message it raises. -/
def openTradeFromSignal (cap : ℕ) (db : Db) (signalId : String) (now : ℚ) :
    OpenOutcome → Db × Option String
  | .refused message => (db, some message)
  | .opened t =>
      match db.claimSignalActivation cap signalId now with
      | none => (db, some (db.explainFailedClaim cap signalId))
      | some claimed =>
          match insertTradeAndActivateSignal claimed { t with signalId := signalId } with
          | some db => (db, none)
          | none => (routeFailedOpen claimed signalId false, some "UNIQUE constraint failed")
  | .rejected message =>
      match db.claimSignalActivation cap signalId now with
      | none => (db, some (db.explainFailedClaim cap signalId))
      | some claimed => (routeFailedOpen claimed signalId false, some message)
  | .unanswered message =>
      match db.claimSignalActivation cap signalId now with
      | none => (db, some (db.explainFailedClaim cap signalId))
      | some claimed => (routeFailedOpen claimed signalId true, some message)

/-- The refusals that do not use up an attempt, by the words of their message. -/
def expectedRefusal (message : String) : Bool :=
  let text := message.toList
  contains "R:R filter".toList text || contains "circuit breaker".toList (lower text) ||
    contains "stood down".toList (lower text) || contains "paused".toList (lower text)

def maxActivationAttempts : ℕ := 3

structure Lifecycle where
  db : Db
  /-- What is left of the list the watcher read at the start of its pass. -/
  queue : List String
  /-- `_ACTIVATION_FAILURES`. -/
  failures : String → ℕ
  /-- An activation that raised, not yet handled. -/
  raised : Option (String × String)

inductive Visit where
  /-- The signal has outlived its expiry. -/
  | aged
  /-- Backing off, out of its zone, or held by a gate. -/
  | held
  | atCap
  | attempt (now : ℚ) (outcome : OpenOutcome)

inductive LifecycleStep where
  | claim (signalId : String) (now : ℚ)
  | restore (signalId : String)
  | reset (signalId : String)
  | parkUnknown (signalId : String)
  | parkPending (signalId : String)
  | release (now : ℚ)
  | expire (signalId : String)
  | activate (signalId : String) (now : ℚ)
  | markActive (t : Trade)
  | markActivated (signalId : String)
  | readQueue
  | visit (v : Visit)
  | handleFailure
  | reconcile (signalId : String) (status : SignalStatus)

namespace Lifecycle
variable (cap : ℕ) (s : Lifecycle)

def withDb (db : Db) : Lifecycle := { s with db := db }

def forget (signalId : String) : Lifecycle :=
  { s with failures := Function.update s.failures signalId 0 }

/-- One signal of the watcher's list, as far as the call that may raise. -/
def visit (signalId : String) : Visit → Lifecycle
  | .aged => (s.withDb (s.db.expireSignal signalId)).forget signalId
  | .held => s
  | .atCap => { s with queue := [] }
  | .attempt now outcome =>
      if s.db.hasOpenTradeForSignal signalId then s.withDb (s.db.markSignalActivated signalId)
      else
        match openTradeFromSignal cap s.db signalId now outcome with
        | (db, none) => (s.withDb db).forget signalId
        | (db, some message) => { s with db := db, raised := some (signalId, message) }

/-- The `except` branch of the watcher. -/
def handleFailure (signalId message : String) : Lifecycle :=
  let s := { s with raised := none }
  if expectedRefusal message then s
  else if s.failures signalId + 1 < maxActivationAttempts then
    { s with failures := Function.update s.failures signalId (s.failures signalId + 1) }
  else (s.withDb (s.db.expireSignal signalId)).forget signalId

def step : LifecycleStep → Lifecycle
  | .claim signalId now => s.withDb ((s.db.claimSignalActivation cap signalId now).getD s.db)
  | .restore signalId => s.withDb (s.db.restoreSignalAfterFailedOpen signalId)
  | .reset signalId => s.withDb (s.db.resetSignalToPending signalId)
  | .parkUnknown signalId => s.withDb (s.db.parkSignalUnknown signalId)
  | .parkPending signalId => s.withDb (s.db.parkSignalPending signalId)
  | .release now => s.withDb (s.db.releaseStrandedActivations now)
  | .expire signalId => s.withDb (s.db.expireSignal signalId)
  | .activate signalId now => s.withDb ((s.db.activateSignal signalId now).getD s.db)
  | .markActive t => s.withDb ((insertTradeAndActivateSignal s.db t).getD s.db)
  | .markActivated signalId => s.withDb (s.db.markSignalActivated signalId)
  | .readQueue =>
      { s with queue := s.db.pendingSignalsAwaitingZoneFill.map Signal.signalId }
  | .visit v =>
      match s.raised, s.queue with
      | none, signalId :: rest => visit cap { s with queue := rest } signalId v
      | _, _ => s
  | .handleFailure =>
      match s.raised with
      | some (signalId, message) => s.handleFailure signalId message
      | none => s
  | .reconcile signalId status => s.withDb (s.db.setSignalStatus signalId status)

end Lifecycle

end Forex
