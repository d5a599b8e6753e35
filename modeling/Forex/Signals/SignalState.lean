import Forex.Ledger.Closers

/-!
The statements of `signal_state_repo` and of the pending-order part of
`broker/repo`: the claim of a signal and the count of trade slots it is gated
on, the ways a signal leaves `activating`, and the life of a resting order.
-/

namespace Forex
open Support

namespace Signal

def claim (now : ℚ) : Assign Signal.signalId where
  apply s := { s with status := .activating, activatedAt := some now }
  keeps _ := rfl

def reset : Assign Signal.signalId where
  apply s := { s with status := .pending, activatedAt := none }
  keeps _ := rfl

def isActivating (s : Signal) : Bool := decide (s.status = .activating)

def claimable (s : Signal) : Bool := decide (s.status = .pending ∨ s.status = .active)

end Signal

namespace PendingOrder

def isWorking (o : PendingOrder) : Bool := decide (o.status = .working)

def withdraw : Assign PendingOrder.tradeId where
  apply o := { o with status := .withdrawn, withdrawCount := o.withdrawCount + 1 }
  keeps _ := rfl

def rearm (ticket : Option ℤ) : Assign PendingOrder.tradeId where
  apply o := { o with status := .working, eaTicket := ticket }
  keeps _ := rfl

def resolve (status : OrderStatus) (now : ℚ) : Assign PendingOrder.tradeId where
  apply o := { o with status := status, resolvedAt := some now }
  keeps _ := rfl

def filledTrade (o : PendingOrder) (ticket : Option ℤ) (fillPrice now : ℚ) : Trade :=
  Trade.fresh o.tradeId o.signalId ticket o.direction fillPrice o.lotSize o.stopLoss o.tps now
    o.strategy .ea o.tpOpen (some o.stopLoss)
    (if o.stopLoss = 0 then none
      else some (roundTo 4 (|fillPrice - o.stopLoss| * o.lotSize * contractSize)))

def resting (tradeId signalId : String) : PendingOrder :=
  ⟨tradeId, signalId, .buy, 2000, 1990, [some 2010], false, 1, some 7001, .limitRunner, .working,
    0, none, 0⟩

end PendingOrder

namespace Db
variable (db : Db)

def hasWorkingOrder (signalId : String) : Bool :=
  db.orders.rows.any fun o => o.isWorking && decide (o.signalId = signalId)

def openSlots : ℕ := db.trades.count Trade.isOpen

/-- `signal_id IS NOT ?`. -/
def notExcluded (excluded : Option String) (signalId : String) : Bool :=
  decide (some signalId ≠ excluded)

def notYetOpenSlots (excluded : Option String) : ℕ :=
  db.orders.count (fun o => o.isWorking && notExcluded excluded o.signalId) +
    db.signals.count fun s =>
      s.isActivating && notExcluded excluded s.signalId && !db.hasWorkingOrder s.signalId

def tradeSlotsUsed (excluded : Option String) : ℕ := db.openSlots + db.notYetOpenSlots excluded

/-- `claim_signal_activation`; the cap stands in the `WHERE` of the update. -/
def claimSignalActivation (cap : ℕ) (signalId : String) (now : ℚ) : Option Db :=
  if (db.signals.find signalId).any Signal.claimable && decide (db.tradeSlotsUsed none < cap) then
    some { db with signals := db.signals.update signalId (Signal.claim now) }
  else none

theorem claimSignalActivation_isSome {db : Db} {cap : ℕ} {signalId : String} {now : ℚ} :
    (db.claimSignalActivation cap signalId now).isSome = true ↔
      (db.signals.find signalId).any Signal.claimable = true ∧ db.tradeSlotsUsed none < cap := by
  rw [claimSignalActivation]
  split
  · next h => simpa using h
  · next h => simpa using h

def restoreSignalAfterFailedOpen (signalId : String) : Db :=
  { db with
    signals := db.signals.updateWhere
      (fun s => decide (s.signalId = signalId) && s.isActivating) (Signal.setStatus .pending) }

def resetSignalToPending (signalId : String) : Db :=
  { db with
    signals := db.signals.updateWhere
      (fun s => decide (s.signalId = signalId ∧ s.status ≠ .unknown)) Signal.reset }

def parkSignalUnknown (signalId : String) : Db :=
  { db with
    signals := db.signals.updateWhere
      (fun s => decide (s.signalId = signalId ∧ (s.status = .activating ∨ s.status = .active)))
      (Signal.setStatus .unknown) }

def strandedActivationSecs : ℚ := 15 * 60

def releaseStrandedActivations (now : ℚ) : Db :=
  { db with
    signals := db.signals.updateWhere
      (fun s => s.isActivating &&
        match s.activatedAt with
        | none => true
        | some claimed => decide (claimed < now - strandedActivationSecs))
      (Signal.setStatus .pending) }

/-- A placement that brings its own signal, in one transaction. -/
def insertPendingOrderSignal (s : Signal) (o : PendingOrder) : Option Db :=
  (db.signals.insert { s with status := .pending }).bind fun signals =>
    (db.orders.insert { o with status := .working, signalId := s.signalId }).map fun orders =>
      { db with signals := signals, orders := orders }

/-- `insert_vantage_pending_order`, for a signal already claimed. -/
def insertVantagePendingOrder (signalId : String) (o : PendingOrder) : Option Db :=
  (db.orders.insert { o with status := .working, signalId := signalId }).map fun orders =>
    { db with orders := orders }

def setOrder (tradeId : String) (f : Assign PendingOrder.tradeId) : Db :=
  { db with orders := db.orders.update tradeId f }

/-- `apply_pending_fill` on the row that was read; its status is not tested. -/
def applyPendingFill (o : PendingOrder) (ticket : Option ℤ) (fillPrice now : ℚ) : Option Db :=
  (insertTradeAndActivateSignal db (o.filledTrade ticket fillPrice now)).map fun db =>
    db.setOrder o.tradeId (PendingOrder.resolve .filled now)

def applyPendingCancelled (o : PendingOrder) (now : ℚ) : Db :=
  Db.setSignalStatus (db.setOrder o.tradeId (PendingOrder.resolve .cancelled now)) o.signalId
    .cancelled

end Db

end Forex
