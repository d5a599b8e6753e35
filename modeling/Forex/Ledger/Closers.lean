import Forex.Ledger.ProfitSync
import Forex.Support.Run

/-!
The three closers as they interleave: each reads the trade row, computes, and
later writes in one transaction, so a write may find a row other than the one
its closer read. The money result follows from full closes that find the net
profit they read; the lots result from partial closes that find the remaining
lots they read. Neither condition is checked by the code.
-/

namespace Forex
open Support

structure PartialWrite where
  row : Trade
  requested : ℚ
  closePrice : ℚ
  reason : String
  now : ℚ

structure FullWrite where
  row : Trade
  closePrice : ℚ
  reason : String
  now : ℚ

namespace PartialWrite

def lots (w : PartialWrite) : ℚ := min w.requested w.row.remainingLots

def partialPnl (w : PartialWrite) : ℚ :=
  pnl w.row.direction w.row.entryPrice w.closePrice w.lots

def newRemaining (w : PartialWrite) : ℚ := roundTo 4 (w.row.remainingLots - w.lots)

def booking (w : PartialWrite) : PartialClose :=
  ⟨w.row.tradeId, w.now, w.lots, w.closePrice, w.partialPnl, w.reason⟩

def apply (w : PartialWrite) (db : Db) : Db :=
  applyPartialCloseWithReason db w.row.tradeId w.now w.lots w.closePrice w.partialPnl
    w.newRemaining w.row.entryPrice w.row w.reason

theorem apply_of_recorded {w : PartialWrite} {db : Db}
    (old : db.alreadyRecorded w.booking = true) : w.apply db = db :=
  applyPartialCloseWithReason_of_recorded _ _ _ old

theorem apply_of_new {w : PartialWrite} {db : Db}
    (new : db.alreadyRecorded w.booking = false) :
    LedgerWrite db (w.apply db) w.row.tradeId
      (Trade.afterPartial (movesToBreakeven db.moveSlToBeAfterTp1 w.row w.reason) w.now
        w.closePrice w.partialPnl w.newRemaining w.row.entryPrice)
      [w.booking] w.partialPnl :=
  applyPartialCloseWithReason_of_new _ _ _ new

end PartialWrite

namespace FullWrite

/-- The computed profit, or the broker's figure when no entry was recorded. -/
def grossPnl (w : FullWrite) : ℚ :=
  if 0 < w.row.entryPrice then
    pnl w.row.direction w.row.entryPrice w.closePrice w.row.remainingLots
  else w.row.mt5Profit.getD 0

def apply (w : FullWrite) (db : Db) : Db × Bool :=
  applyFullClose db w.row.tradeId w.now (roundTo 2 w.closePrice) w.reason
    (roundTo 4 w.grossPnl) (roundTo 4 (w.row.realisedPnl + w.grossPnl))
    (roundTo 4 (w.row.netPnl + w.grossPnl)) w.grossPnl w.row.signalId

theorem apply_of_settled {w : FullWrite} {db : Db}
    (settled : (db.getTrade w.row.tradeId).any Trade.isOpen = false) :
    w.apply db = (db, false) :=
  applyFullClose_of_settled settled

theorem apply_of_open {w : FullWrite} {db : Db}
    (won : (db.getTrade w.row.tradeId).any Trade.isOpen = true) :
    LedgerWrite db (w.apply db).1 w.row.tradeId
      (Trade.closeFully w.now (roundTo 2 w.closePrice) w.reason (roundTo 4 w.grossPnl)
        (roundTo 4 (w.row.realisedPnl + w.grossPnl)) (roundTo 4 (w.row.netPnl + w.grossPnl)))
      [] w.grossPnl :=
  applyFullClose_of_open won

end FullWrite

/-- `partial_close_trade` up to its write; a trade that is not open raises. -/
def partialCloseTrade (db : Db) (tradeId : String) (lotsToClose closePrice : ℚ)
    (reason : String) (now : ℚ) : Option PartialWrite :=
  match db.getTrade tradeId with
  | none => none
  | some row => if row.isOpen then some ⟨row, lotsToClose, closePrice, reason, now⟩ else none

theorem partialCloseTrade_eq_some {db : Db} {tradeId reason : String} {lots price now : ℚ}
    {w : PartialWrite} (h : partialCloseTrade db tradeId lots price reason now = some w) :
    db.getTrade tradeId = some w.row ∧ w.row.isOpen = true ∧ w.requested = lots := by
  rw [partialCloseTrade] at h
  split at h
  · exact absurd h (by simp)
  · rename_i row found
    by_cases isOpen : row.isOpen
    · rw [if_pos isOpen] at h
      rw [← Option.some.inj h]
      exact ⟨found, isOpen, rfl⟩
    · rw [if_neg isOpen] at h
      exact absurd h (by simp)

/-- `record_close` up to its write; a missing row raises. -/
def recordClose (db : Db) (tradeId : String) (closePrice : ℚ) (reason : String) (now : ℚ) :
    Option FullWrite :=
  match db.getTrade tradeId with
  | none => none
  | some row => some ⟨row, closePrice, reason, now⟩

inductive CloserWrite where
  | partialClose (w : PartialWrite)
  | fullClose (w : FullWrite)
  | profitSync (w : SyncWrite)

def CloserWrite.apply : CloserWrite → Db → Db
  | .partialClose w, db => w.apply db
  | .fullClose w, db => (w.apply db).1
  | .profitSync w, db => (applyProfitSync db w.tradeId w.mt5Profit w.riskTotal w.allSettled).1

structure Closing where
  db : Db
  inFlight : List CloserWrite

inductive CloserStep where
  | readPartial (tradeId : String) (lots price : ℚ) (reason : String) (now : ℚ)
  | readClose (tradeId : String) (price : ℚ) (reason : String) (now : ℚ)
  | readSync (tradeId : String) (ticket : ℤ) (view : SyncView)
  | write (i : ℕ)

namespace Closing

def began (s : Closing) : Option CloserWrite → Closing
  | none => s
  | some w => { s with inFlight := s.inFlight ++ [w] }

def step (s : Closing) : CloserStep → Closing
  | .readPartial tradeId lots price reason now =>
      s.began ((partialCloseTrade s.db tradeId lots price reason now).map .partialClose)
  | .readClose tradeId price reason now =>
      s.began ((recordClose s.db tradeId price reason now).map .fullClose)
  | .readSync tradeId ticket view =>
      s.began ((syncProfit s.db tradeId ticket view).map .profitSync)
  | .write i =>
      match s.inFlight[i]? with
      | none => s
      | some w => ⟨w.apply s.db, s.inFlight.eraseIdx i⟩

theorem step_write_none {s : Closing} {i : ℕ} (h : s.inFlight[i]? = none) :
    s.step (.write i) = s := by
  simp only [step, h]

theorem step_write_some {s : Closing} {i : ℕ} {w : CloserWrite} (h : s.inFlight[i]? = some w) :
    s.step (.write i) = ⟨w.apply s.db, s.inFlight.eraseIdx i⟩ := by
  simp only [step, h]

/-- A full close about to write, if it wins, finds the net profit it read. -/
def netFresh (s : Closing) : CloserStep → Bool
  | .write i =>
      match s.inFlight[i]? with
      | some (.fullClose w) =>
          (s.db.getTrade w.row.tradeId).all fun t =>
            !t.isOpen || decide (t.netPnl = w.row.netPnl)
      | _ => true
  | _ => true

/-- A partial close about to be recorded finds the remaining lots it read, and
takes a whole number of ten-thousandths of a lot. -/
def lotsFresh (s : Closing) : CloserStep → Bool
  | .write i =>
      match s.inFlight[i]? with
      | some (.partialClose w) =>
          s.db.alreadyRecorded w.booking ||
            (decide (OnGrid 4 w.lots) &&
              (s.db.getTrade w.row.tradeId).all fun t =>
                decide (t.remainingLots = w.row.remainingLots))
      | _ => true
  | _ => true

end Closing
end Forex
