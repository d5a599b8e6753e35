import Forex.Ledger.Schema
import Forex.Support.Decimal

/-!
The write transactions of `trade_repo` that close trades or correct their
profit. Each definition is one transaction: either all of its statements take
effect or the database is as before. The `_spec` lemmas say what a transaction
does to the trade table, the partial closes and the balance; callers cite them
and do not unfold the statements.
-/

namespace Forex
open Support

def contractSize : ℚ := 100

def pnl (direction : Direction) (entry current lots : ℚ) : ℚ :=
  roundTo 4 ((current - entry) * direction.sign * lots * contractSize)

theorem pnl_onGrid (direction : Direction) (entry current lots : ℚ) :
    OnGrid 4 (pnl direction entry current lots) :=
  roundTo_onGrid 4 _

/-- `reason GLOB 'TP[0-9]' OR reason GLOB 'TP[0-9][0-9]'`. -/
def isTpMarker (reason : String) : Bool :=
  match reason.toList with
  | ['T', 'P', a] => a.isDigit
  | ['T', 'P', a, b] => a.isDigit && b.isDigit
  | _ => false

/-- The partial unique index over trade, reason, lots and price. -/
def PartialClose.clashes (p q : PartialClose) : Bool :=
  decide (p.tradeId = q.tradeId ∧ p.reason = q.reason ∧
    p.lotsClosed = q.lotsClosed ∧ p.closePrice = q.closePrice)

def Db.alreadyRecorded (db : Db) (p : PartialClose) : Bool :=
  isTpMarker p.reason && db.partials.any p.clashes

namespace Trade

def bookPartial (newRemaining partialPnl : ℚ) : Assign Trade.tradeId where
  apply t :=
    { t with
      remainingLots := newRemaining
      realisedPnl := t.realisedPnl + partialPnl
      netPnl := t.netPnl + partialPnl }
  keeps _ := rfl

def moveToBreakeven (entryPrice : ℚ) : Assign Trade.tradeId where
  apply t := { t with stopLoss := entryPrice, slMovedToBe := true }
  keeps _ := rfl

def closeAllTpsHit (now closePrice : ℚ) : Assign Trade.tradeId where
  apply t :=
    { t with
      status := .closed
      closeTime := some now
      exitReason := some "all_tps_hit"
      closePrice := some (roundTo 2 closePrice)
      remainingLots := 0 }
  keeps _ := rfl

def closeFully (now closePrice : ℚ) (reason : String)
    (grossPnl realisedTotal netPnlTotal : ℚ) : Assign Trade.tradeId where
  apply t :=
    { t with
      status := .closed
      closeTime := some now
      closePrice := some closePrice
      exitReason := some reason
      grossPnl := grossPnl
      realisedPnl := realisedTotal
      swapEst := 0
      netPnl := netPnlTotal
      remainingLots := 0 }
  keeps _ := rfl

def closeLadder (now lastPrice totalPnl : ℚ) (reason : String) : Assign Trade.tradeId where
  apply t :=
    { t with
      status := .closed
      closeTime := some now
      closePrice := some (roundTo 2 lastPrice)
      exitReason := some reason
      realisedPnl := t.realisedPnl + totalPnl
      netPnl := t.netPnl + totalPnl
      remainingLots := 0 }
  keeps _ := rfl

def setNetPnl (netPnl : ℚ) : Assign Trade.tradeId where
  apply t := { t with netPnl := netPnl }
  keeps _ := rfl

def setInitialRisk (risk : ℚ) : Assign Trade.tradeId where
  apply t := { t with initialRisk := some risk }
  keeps _ := rfl

def stampMt5Profit (mt5Profit : ℚ) : Assign Trade.tradeId where
  apply t := { t with mt5Profit := some mt5Profit }
  keeps _ := rfl

def isOpen (t : Trade) : Bool := decide (t.status = .opened)

end Trade

def LadderLeg.close (closePrice pnl : ℚ) (status : LegStatus) (now : ℚ) :
    Assign LadderLeg.id where
  apply l :=
    { l with
      status := status
      closePrice := some closePrice
      closeTime := some now
      pnl := some pnl }
  keeps _ := rfl

def applyFullClose (db : Db) (tradeId : String) (now closePrice : ℚ) (reason : String)
    (grossPnl realisedTotal netPnlTotal netDelta : ℚ) (signalId : String) : Db × Bool :=
  if (db.getTrade tradeId).any Trade.isOpen then
    let db := db.setTrade tradeId
      (Trade.closeFully now closePrice reason grossPnl realisedTotal netPnlTotal)
    let db := db.addToBalance netDelta
    (db.setSignalStatus signalId .closed, true)
  else (db, false)

def applyLadderClose (db : Db) (tradeId : String) (closedAny : Bool)
    (lotsClosed lastPrice totalPnl : ℚ) (reason signalId : String) (now : ℚ) : Db :=
  let db :=
    if closedAny then
      let booking : PartialClose := ⟨tradeId, now, lotsClosed, lastPrice, totalPnl, reason⟩
      Db.addToBalance { db with partials := db.partials ++ [booking] } totalPnl
    else db
  let db := db.setTrade tradeId (Trade.closeLadder now lastPrice totalPnl reason)
  db.setSignalStatus signalId .closed

/-- `insert_trade_and_activate_signal`; a duplicate id violates the primary key
and the transaction is rolled back. -/
def insertTradeAndActivateSignal (db : Db) (t : Trade) : Option Db :=
  (db.trades.insert t).map fun trades =>
    Db.setSignalStatus { db with trades := trades } t.signalId .active

def movesToBreakeven (setting : Bool) (row : Trade) (reason : String) : Bool :=
  decide (reason = "TP1") && setting && !row.slMovedToBe

def applyPartialCloseWithReason (db : Db) (tradeId : String)
    (now lotsToClose closePrice partialPnl newRemaining entryPrice : ℚ)
    (row : Trade) (reason : String) : Db :=
  let booking : PartialClose := ⟨tradeId, now, lotsToClose, closePrice, partialPnl, reason⟩
  if db.alreadyRecorded booking then db
  else
    let db := { db with partials := db.partials ++ [booking] }
    let db := db.setTrade tradeId (Trade.bookPartial newRemaining partialPnl)
    let db := db.addToBalance partialPnl
    let db :=
      if movesToBreakeven db.moveSlToBeAfterTp1 row reason then
        db.setTrade tradeId (Trade.moveToBreakeven entryPrice)
      else db
    if newRemaining ≤ 0 then
      let db := db.setTrade tradeId (Trade.closeAllTpsHit now closePrice)
      db.setSignalStatus row.signalId .closed
    else db

/-- `apply_profit_sync` with `risk_total` and `all_settled`; returns the
estimate and the correction when one was applied. -/
def applyProfitSync (db : Db) (tradeId : String) (mt5Profit riskTotal : ℚ)
    (allSettled : Bool) : Db × Option (ℚ × ℚ) :=
  let corrected : Db × Option (ℚ × ℚ) :=
    match db.getTrade tradeId with
    | some existing =>
        match existing.mt5Profit with
        | none =>
            let ourEstimate := existing.netPnl
            let correction := roundTo 4 (mt5Profit - ourEstimate)
            if 1 / 100 ≤ |correction| then
              ((db.addToBalance correction).setTrade tradeId (Trade.setNetPnl mt5Profit),
                some (ourEstimate, correction))
            else (db, none)
        | some _ => (db, none)
    | none => (db, none)
  let db := corrected.1
  let db :=
    if 0 < riskTotal then
      db.setTrade tradeId (Trade.setInitialRisk (roundTo 4 riskTotal))
    else db
  let db :=
    if allSettled then
      db.setTrade tradeId (Trade.stampMt5Profit mt5Profit)
    else db
  (db, corrected.2)

def closeLadderLeg (db : Db) (legId : ℕ) (closePrice pnl : ℚ) (status : LegStatus)
    (now : ℚ) : Db :=
  { db with legs := db.legs.update legId (LadderLeg.close closePrice pnl status now) }

/-- The row a recorded partial close leaves, `be` being the breakeven move. -/
def Trade.afterPartial ( be : Bool)
    (now closePrice partialPnl newRemaining entryPrice : ℚ) : Assign Trade.tradeId :=
  let closes := if newRemaining ≤ 0 then Trade.closeAllTpsHit now closePrice else Assign.skip
  let breakeven := if be then Trade.moveToBreakeven entryPrice else Assign.skip
  closes.comp (breakeven.comp (Trade.bookPartial newRemaining partialPnl))

section AfterPartial
variable ( be : Bool) (now closePrice partialPnl newRemaining entryPrice : ℚ) (t : Trade)

@[simp] theorem Trade.afterPartial_netPnl :
    (Trade.afterPartial be now closePrice partialPnl newRemaining entryPrice t).netPnl =
      t.netPnl + partialPnl := by
  rw [afterPartial]
  split_ifs <;> rfl

@[simp] theorem Trade.afterPartial_lotSize :
    (Trade.afterPartial be now closePrice partialPnl newRemaining entryPrice t).lotSize =
      t.lotSize := by
  rw [afterPartial]
  split_ifs <;> rfl

@[simp] theorem Trade.afterPartial_mt5Profit :
    (Trade.afterPartial be now closePrice partialPnl newRemaining entryPrice t).mt5Profit =
      t.mt5Profit := by
  rw [afterPartial]
  split_ifs <;> rfl

@[simp] theorem Trade.afterPartial_remainingLots :
    (Trade.afterPartial be now closePrice partialPnl newRemaining entryPrice t).remainingLots =
      if newRemaining ≤ 0 then 0 else newRemaining := by
  rw [afterPartial]
  split_ifs <;> rfl

end AfterPartial

/-- One transaction of a closer: the row of one trade, the bookings and the
balance. Legs and pending orders are left alone. -/
structure LedgerWrite (db db' : Db) (tradeId : String) (f : Assign Trade.tradeId)
    (booked : List PartialClose) (moved : ℚ) : Prop where
  trades : db'.trades = db.trades.update tradeId f
  partials : db'.partials = db.partials ++ booked
  balance : db'.balance = db.balance + moved
  legs : db'.legs = db.legs
  orders : db'.orders = db.orders

theorem LedgerWrite.refl (db : Db) (tradeId : String) :
    LedgerWrite db db tradeId Assign.skip [] 0 :=
  ⟨(db.trades.update_skip tradeId).symm, (List.append_nil _).symm, (add_zero _).symm, rfl, rfl⟩

theorem LedgerWrite.bookedLots {db db' : Db} {tradeId : String} {f : Assign Trade.tradeId}
    {moved : ℚ} (write : LedgerWrite db db' tradeId f [] moved) (other : String) :
    db'.bookedLots other = db.bookedLots other :=
  bookedLots_congr (write.partials.trans (List.append_nil _)) other

theorem LedgerWrite.getTrade_of_ne {db db' : Db} {tradeId other : String}
    {f : Assign Trade.tradeId} {booked : List PartialClose} {moved : ℚ}
    (write : LedgerWrite db db' tradeId f booked moved) (ne : other ≠ tradeId) :
    db'.getTrade other = db.getTrade other := by
  rw [Db.getTrade, write.trades]
  exact Table.find_update_of_ne _ _ ne

theorem LedgerWrite.getTrade_self {db db' : Db} {tradeId : String} {f : Assign Trade.tradeId}
    {booked : List PartialClose} {moved : ℚ} (write : LedgerWrite db db' tradeId f booked moved) :
    db'.getTrade tradeId = (db.getTrade tradeId).map f := by
  rw [Db.getTrade, write.trades]
  exact Table.find_update_self _ _ _

section PartialSpec
variable {db : Db} {tradeId reason : String} {now lotsToClose closePrice partialPnl : ℚ}
  (newRemaining entryPrice : ℚ) (row : Trade)

theorem applyPartialCloseWithReason_of_recorded
    (old : db.alreadyRecorded ⟨tradeId, now, lotsToClose, closePrice, partialPnl, reason⟩ = true) :
    applyPartialCloseWithReason db tradeId now lotsToClose closePrice partialPnl newRemaining
      entryPrice row reason = db := by
  rw [applyPartialCloseWithReason]
  rw [if_pos old]

theorem applyPartialCloseWithReason_of_new
    (new : db.alreadyRecorded ⟨tradeId, now, lotsToClose, closePrice, partialPnl, reason⟩ = false) :
    LedgerWrite db
      (applyPartialCloseWithReason db tradeId now lotsToClose closePrice partialPnl newRemaining
        entryPrice row reason)
      tradeId
      (Trade.afterPartial (movesToBreakeven db.moveSlToBeAfterTp1 row reason) now closePrice
        partialPnl newRemaining entryPrice)
      [⟨tradeId, now, lotsToClose, closePrice, partialPnl, reason⟩] partialPnl := by
  rw [applyPartialCloseWithReason, Trade.afterPartial, if_neg (by simp [new])]
  dsimp only [Db.setTrade, Db.addToBalance]
  generalize movesToBreakeven db.moveSlToBeAfterTp1 row reason = be
  cases be with
  | false =>
      by_cases closes : newRemaining ≤ 0 <;> constructor <;>
        simp [closes, Db.setSignalStatus, ← Table.update_update]
  | true =>
      by_cases closes : newRemaining ≤ 0 <;> constructor <;>
        simp [closes, Db.setSignalStatus, ← Table.update_update]

end PartialSpec

section FullCloseSpec
variable {db : Db} {tradeId reason signalId : String}
  {now closePrice grossPnl realisedTotal netPnlTotal netDelta : ℚ}

theorem applyFullClose_of_settled (settled : (db.getTrade tradeId).any Trade.isOpen = false) :
    applyFullClose db tradeId now closePrice reason grossPnl realisedTotal netPnlTotal netDelta
      signalId = (db, false) := by
  rw [applyFullClose]
  rw [if_neg (by simp [settled])]

theorem applyFullClose_of_open (won : (db.getTrade tradeId).any Trade.isOpen = true) :
    LedgerWrite db
      (applyFullClose db tradeId now closePrice reason grossPnl realisedTotal netPnlTotal netDelta
        signalId).1
      tradeId (Trade.closeFully now closePrice reason grossPnl realisedTotal netPnlTotal) []
      netDelta := by
  rw [applyFullClose, if_pos won]
  exact ⟨rfl, (List.append_nil _).symm, rfl, rfl, rfl⟩

end FullCloseSpec

def Trade.afterSync (correction : Option ℚ) (riskTotal mt5Profit : ℚ) (allSettled : Bool) :
    Assign Trade.tradeId :=
  let net := if correction.isSome then Trade.setNetPnl mt5Profit else Assign.skip
  let risk :=
    if 0 < riskTotal then Trade.setInitialRisk (roundTo 4 riskTotal) else Assign.skip
  let stamp := if allSettled then Trade.stampMt5Profit mt5Profit else Assign.skip
  stamp.comp (risk.comp net)

section AfterSync
variable (correction : Option ℚ) (riskTotal mt5Profit : ℚ) (allSettled : Bool) (t : Trade)

@[simp] theorem Trade.afterSync_netPnl :
    (Trade.afterSync correction riskTotal mt5Profit allSettled t).netPnl =
      if correction.isSome then mt5Profit else t.netPnl := by
  rw [afterSync]
  split_ifs <;> rfl

@[simp] theorem Trade.afterSync_lotSize :
    (Trade.afterSync correction riskTotal mt5Profit allSettled t).lotSize = t.lotSize := by
  rw [afterSync]
  split_ifs <;> rfl

@[simp] theorem Trade.afterSync_remainingLots :
    (Trade.afterSync correction riskTotal mt5Profit allSettled t).remainingLots =
      t.remainingLots := by
  rw [afterSync]
  split_ifs <;> rfl

@[simp] theorem Trade.afterSync_mt5Profit :
    (Trade.afterSync correction riskTotal mt5Profit allSettled t).mt5Profit =
      if allSettled then some mt5Profit else t.mt5Profit := by
  rw [afterSync]
  split_ifs <;> rfl

end AfterSync

def syncCorrection (db : Db) (tradeId : String) (mt5Profit : ℚ) : Option ℚ :=
  match db.getTrade tradeId with
  | none => none
  | some existing =>
      let correction := roundTo 4 (mt5Profit - existing.netPnl)
      if existing.mt5Profit = none ∧ 1 / 100 ≤ |correction| then some correction else none

theorem syncCorrection_of_found {db : Db} {tradeId : String} {t : Trade}
    (found : db.getTrade tradeId = some t) (mt5Profit : ℚ) :
    syncCorrection db tradeId mt5Profit =
      if t.mt5Profit = none ∧ 1 / 100 ≤ |roundTo 4 (mt5Profit - t.netPnl)| then
        some (roundTo 4 (mt5Profit - t.netPnl))
      else none := by
  simp only [syncCorrection, found]

theorem syncCorrection_eq_some {db : Db} {tradeId : String} {mt5Profit c : ℚ}
    (h : syncCorrection db tradeId mt5Profit = some c) :
    ∃ t, db.getTrade tradeId = some t ∧ c = roundTo 4 (mt5Profit - t.netPnl) := by
  cases found : db.getTrade tradeId with
  | none => simp [syncCorrection, found] at h
  | some t =>
      refine ⟨t, rfl, ?_⟩
      rw [syncCorrection_of_found found] at h
      split at h
      · exact (Option.some.inj h).symm
      · exact absurd h (by simp)

theorem applyProfitSync_spec (db : Db) (tradeId : String) (mt5Profit riskTotal : ℚ)
    (allSettled : Bool) :
    LedgerWrite db (applyProfitSync db tradeId mt5Profit riskTotal allSettled).1 tradeId
      (Trade.afterSync (syncCorrection db tradeId mt5Profit) riskTotal mt5Profit allSettled) []
      ((syncCorrection db tradeId mt5Profit).getD 0) := by
  dsimp only [applyProfitSync, syncCorrection, Trade.afterSync]
  cases found : db.getTrade tradeId with
  | none =>
      by_cases risk : 0 < riskTotal <;> cases allSettled <;> constructor <;>
        simp [risk, Db.setTrade, ← Table.update_update]
  | some t =>
      cases stamp : t.mt5Profit with
      | some p =>
          by_cases risk : 0 < riskTotal <;> cases allSettled <;> constructor <;>
            simp [stamp, risk, Db.setTrade, ← Table.update_update]
      | none =>
          by_cases due : 1 / 100 ≤ |roundTo 4 (mt5Profit - t.netPnl)| <;>
            by_cases risk : 0 < riskTotal <;> cases allSettled <;> constructor <;>
            simp only [stamp, due, risk, Db.setTrade, Db.addToBalance, ← Table.update_update,
              Table.update_skip, if_true, if_false, true_and, and_self, Option.isSome_some,
              Option.isSome_none, Bool.false_eq_true, Option.getD_some, Option.getD_none, add_zero,
              List.append_nil]

theorem applyLadderClose_spec (db : Db) (tradeId : String) (closedAny : Bool)
    (lotsClosed lastPrice totalPnl : ℚ) (reason signalId : String) (now : ℚ) :
    LedgerWrite db
      (applyLadderClose db tradeId closedAny lotsClosed lastPrice totalPnl reason signalId now)
      tradeId (Trade.closeLadder now lastPrice totalPnl reason)
      (if closedAny then [⟨tradeId, now, lotsClosed, lastPrice, totalPnl, reason⟩] else [])
      (if closedAny then totalPnl else 0) := by
  cases closedAny with
  | true => exact ⟨rfl, rfl, rfl, rfl, rfl⟩
  | false => exact ⟨rfl, (List.append_nil _).symm, (add_zero _).symm, rfl, rfl⟩

end Forex
