import Forex.Broker.ModifyPosition
import Forex.Ea.LegEvents
import Forex.Strategy.EaLadder
import Forex.Strategy.LadderStop
import Forex.Support.Flow
import Forex.Telegram.Scan

/-!
What the strategy handlers read and write of one trade: its row and its
bookings, the cached set of triggered levels, the times of failed closes, and
the stop with the levels that were sent to the broker and stored in the row.
-/

namespace Forex
open Support

/-- The stop stored last, those stored before it, those asked of the broker, and
the one the broker has; lists are newest first. -/
structure StopBook where
  stop : ℚ
  earlier : List ℚ
  sent : List ℚ
  broker : ℚ

namespace StopBook

def stored (b : StopBook) : List ℚ := b.stop :: b.earlier

def store (b : StopBook) (sl : ℚ) : StopBook := { b with stop := sl, earlier := b.stored }

def ask (b : StopBook) (direction : Direction) (view : ModifyView) (sl : Option ℚ) : StopBook :=
  { b with
    sent := sl.toList ++ b.sent
    broker := modifyPosition direction view b.broker sl }

end StopBook

/-- `get_strategy_params` of the strategies whose handlers read it. -/
structure ScaleParams where
  scaleOutPct : ℕ → ℚ
  trialPct : ℕ → ℚ
  midTpClosePct : ℚ

/-- What one call of a handler meets: the prices, and the answers of the broker
to its closes and its modifications, by the number of the level. -/
structure StopTick where
  tick : Tick
  now : ℚ
  reply : ℕ → Reply
  modify : ℕ → ModifyView
  /-- The ADX of the cached candles is below the ranging threshold. -/
  ranging : Bool
  trailingStopDistance : ℚ
  params : ScaleParams

structure StopDesk where
  db : Db
  cache : Option (List ℕ × ℚ)
  /-- `scale_out_last_fail`, for this trade. -/
  lastFail : ℕ → Option ℚ
  stops : StopBook

def Trade.tp (trade : Trade) (n : ℕ) : Option ℚ := trade.tps.getD (n - 1) none

def Trade.tpNums : List ℕ := List.range' 1 maxTp

/-- `last_tp_num`. -/
def Trade.lastTpNum (trade : Trade) : Option ℕ :=
  (Trade.tpNums.filter fun n => (trade.tp n).isSome).getLast?

/-- The level, when it is on the profit side of the entry and hit. -/
def tpCleared (trade : Trade) (tick : Tick) (n : ℕ) : Option ℚ :=
  (trade.tp n).filter fun price => onProfitSide trade price && tpHit trade.direction tick price

/-- `if tp_val and (…)`: a level of zero is none. -/
def setTpCleared (trade : Trade) (tick : Tick) (n : ℕ) : Option ℚ :=
  (tpCleared trade tick n).filter fun price => decide (price ≠ 0)

def checkTpHits (trade : Trade) (tick : Tick) (already : List ℕ) : List ℕ :=
  Trade.tpNums.filter fun n => decide (n ∉ already) && (tpCleared trade tick n).isSome

/-- The stop that follows the price at a distance, no worse than the entry. -/
def trailLevel (trade : Trade) (tick : Tick) (dist : ℚ) : ℚ :=
  match trade.direction with
  | .buy => max (roundTo 2 (tick.bid - dist)) trade.entryPrice
  | .sell => min (roundTo 2 (tick.ask + dist)) trade.entryPrice

def Trade.latchBreakeven : Assign Trade.tradeId where
  apply t := { t with slMovedToBe := true }
  keeps _ := rfl

/-- A booking of the transaction that is new and moves the stop with it. -/
def PartialWrite.movesStop (p : PartialWrite) (db : Db) : Bool :=
  !db.alreadyRecorded p.booking && movesToBreakeven db.moveSlToBeAfterTp1 p.row p.reason

inductive LevelClose where
  | raised
  | skipped
  | booked (p : PartialWrite)

def LevelClose.all (ok : PartialWrite → Bool) : LevelClose → Bool
  | .booked p => ok p
  | .skipped => true
  | .raised => true

/-- The close is booked, and moves the stop to the entry with it. -/
def LevelClose.moves (db : Db) : LevelClose → Bool
  | .booked p => p.movesStop db
  | _ => false

/-- The close of a level at the broker and its `partial_close_trade`. -/
def closeLevel (trade : Trade) (db : Db) (n : ℕ) (price lots : ℚ) (reply : Reply) (now : ℚ) :
    LevelClose :=
  match closeWrite db trade n price lots reply now with
  | some p => .booked p
  | none =>
      if (linkedTicket trade.mt5Ticket).isSome && decide (reply = .raised) then .raised
      else .skipped

namespace StopDesk
variable (trade : Trade) (s : StopDesk)

/-- The desk of a trade whose stop is the one it was opened with. -/
def opened (row : Trade) (db : Db) (cache : Option (List ℕ × ℚ)) (lastFail : ℕ → Option ℚ) :
    StopDesk :=
  ⟨db, cache, lastFail, ⟨row.stopLoss, [], [row.stopLoss], row.stopLoss⟩⟩

def triggered : List ℕ := (s.cache.map Prod.fst).getD []

def readTriggered (now : ℚ) : StopDesk :=
  { s with cache := some (getTriggeredTps s.cache s.db trade.tradeId now) }

/-- `triggered.add`: the set of the call is the one in the cache. -/
def addTriggered (n : ℕ) : StopDesk :=
  { s with cache := s.cache.map fun cached => (n :: cached.1, cached.2) }

def remaining : ℚ := remainingLotsOf s.db trade.tradeId

def record (p : PartialWrite) : StopDesk :=
  { s with
    db := p.apply s.db
    stops := if p.movesStop s.db then s.stops.store p.row.entryPrice else s.stops }

def insertTpMarker (now price : ℚ) (reason : String) : StopDesk :=
  { s with
    db := { s.db with
      partials := s.db.partials ++ [⟨trade.tradeId, now, 0, price, 0, reason⟩] } }

def modifyOrder (view : ModifyView) (sl : Option ℚ) : StopDesk :=
  match linkedTicket trade.mt5Ticket with
  | none => s
  | some _ => { s with stops := s.stops.ask trade.direction view sl }

def setStopLoss (sl : ℚ) : StopDesk :=
  { s with
    db := s.db.setTrade trade.tradeId (Trade.setStopLoss sl)
    stops := s.stops.store sl }

def setStopLossBe (sl : ℚ) : StopDesk :=
  { s with
    db := s.db.setTrade trade.tradeId (Trade.setStopLossBe sl)
    stops := s.stops.store sl }

def lockSlWithMarker (sl now : ℚ) (reason : String) : StopDesk :=
  (s.setStopLossBe trade sl).insertTpMarker trade now sl reason

def markTrailingStarted (now price : ℚ) : StopDesk :=
  let latched := { s with db := s.db.setTrade trade.tradeId Trade.latchBreakeven }
  latched.insertTpMarker trade now price "TP1_TRAIL_START"

end StopDesk

/-- What no write of the handlers changes about the position of a trade. -/
structure Trade.SamePosition (row trade : Trade) : Prop where
  direction : row.direction = trade.direction
  entryPrice : row.entryPrice = trade.entryPrice
  mt5Ticket : row.mt5Ticket = trade.mt5Ticket
  managedBy : row.managedBy = trade.managedBy

theorem Trade.SamePosition.refl (trade : Trade) : trade.SamePosition trade :=
  ⟨rfl, rfl, rfl, rfl⟩

theorem Trade.SamePosition.trans {a b c : Trade} (ab : a.SamePosition b) (bc : b.SamePosition c) :
    a.SamePosition c :=
  ⟨ab.direction.trans bc.direction, ab.entryPrice.trans bc.entryPrice,
    ab.mt5Ticket.trans bc.mt5Ticket, ab.managedBy.trans bc.managedBy⟩

/-- The row is that of the trade still, and holds the stop that the book has
stored last. -/
def StopDesk.Tracks (trade : Trade) (s : StopDesk) : Prop :=
  ∃ row, s.db.getTrade trade.tradeId = some row ∧ row.SamePosition trade ∧
    row.stopLoss = s.stops.stop

theorem samePosition_afterPartial ( be : Bool)
    (now closePrice partialPnl newRemaining entryPrice : ℚ) (row : Trade) :
    (Trade.afterPartial be now closePrice partialPnl newRemaining entryPrice row).SamePosition
      row := by
  rw [Trade.afterPartial]
  split_ifs <;> exact ⟨rfl, rfl, rfl, rfl⟩

/-- Only the booking of TP1 moves the stop. -/
theorem movesStop_eq_false {db : Db} {trade : Trade} {n : ℕ} {price lots now : ℚ} {reply : Reply}
    {p : PartialWrite} (write : closeWrite db trade n price lots reply now = some p)
    (later : n ≠ 1) : p.movesStop db = false := by
  have reason : p.reason ≠ "TP1" := by
    rw [(closeWrite_eq_some write).2.2.1]
    exact fun same => later (tpReason_injective same)
  rw [PartialWrite.movesStop, movesToBreakeven, decide_eq_false reason, Bool.false_and,
    Bool.false_and, Bool.and_false]

theorem closeLevel_eq_booked {trade : Trade} {db : Db} {n : ℕ} {price lots now : ℚ}
    {reply : Reply} {p : PartialWrite}
    (booked : closeLevel trade db n price lots reply now = .booked p) :
    closeWrite db trade n price lots reply now = some p := by
  rw [closeLevel] at booked
  cases write : closeWrite db trade n price lots reply now with
  | some q =>
      rw [write] at booked
      cases booked
      rfl
  | none =>
      rw [write] at booked
      dsimp only at booked
      split at booked <;> cases booked

namespace StopDesk
variable {trade : Trade} {s : StopDesk}

/-- What leaves the row of the trade and its stops alone keeps track of it. -/
theorem Tracks.of_same {s' : StopDesk} (h : Tracks trade s)
    (row : s'.db.getTrade trade.tradeId = s.db.getTrade trade.tradeId)
    (stops : s'.stops = s.stops) : Tracks trade s' := by
  rw [Tracks, row, stops]
  exact h

/-- An update of the row that keeps the position and writes the stop of the
book. -/
theorem Tracks.setTrade (h : Tracks trade s) (f : Assign Trade.tradeId) (stops : StopBook)
    (same : ∀ row, (f row).SamePosition row)
    (stop : ∀ row : Trade, row.stopLoss = s.stops.stop → (f row).stopLoss = stops.stop) :
    Tracks trade { s with db := s.db.setTrade trade.tradeId f, stops := stops } := by
  obtain ⟨row, found, position, held⟩ := h
  refine ⟨f row, ?_, (same row).trans position, stop row held⟩
  exact (Table.find_update_self _ _ _).trans (congrArg _ found)

theorem Tracks.setStopLoss (h : Tracks trade s) (sl : ℚ) : Tracks trade (s.setStopLoss trade sl) :=
  h.setTrade _ _ (fun _ => ⟨rfl, rfl, rfl, rfl⟩) fun _ _ => rfl

theorem Tracks.setStopLossBe (h : Tracks trade s) (sl : ℚ) :
    Tracks trade (s.setStopLossBe trade sl) :=
  h.setTrade _ _ (fun _ => ⟨rfl, rfl, rfl, rfl⟩) fun _ _ => rfl

theorem Tracks.insertTpMarker (h : Tracks trade s) (now price : ℚ) (reason : String) :
    Tracks trade (s.insertTpMarker trade now price reason) :=
  h.of_same rfl rfl

theorem Tracks.markTrailingStarted (h : Tracks trade s) (now price : ℚ) :
    Tracks trade (s.markTrailingStarted trade now price) :=
  (h.setTrade Trade.latchBreakeven s.stops (fun _ => ⟨rfl, rfl, rfl, rfl⟩)
    fun _ held => held).insertTpMarker now price _

theorem Tracks.modifyOrder (h : Tracks trade s) (view : ModifyView) (sl : Option ℚ) :
    Tracks trade (s.modifyOrder trade view sl) := by
  rw [StopDesk.modifyOrder]
  cases linkedTicket trade.mt5Ticket with
  | none => exact h
  | some _ => exact h

theorem Tracks.record (h : Tracks trade s) {n : ℕ} {price lots now : ℚ} {reply : Reply}
    {p : PartialWrite} (write : closeWrite s.db trade n price lots reply now = some p) :
    Tracks trade (s.record p) ∧ p.row.entryPrice = trade.entryPrice := by
  obtain ⟨row, found, position, stop⟩ := h
  have row_eq := (closeWrite_eq_some write).1
  rw [found] at row_eq
  cases Option.some.inj row_eq
  have own : p.row.tradeId = trade.tradeId := Table.key_of_find found
  refine ⟨?_, position.entryPrice⟩
  cases recorded : s.db.alreadyRecorded p.booking with
  | true =>
      have still : (s.record p).db = s.db := PartialWrite.apply_of_recorded recorded
      have stops : (s.record p).stops = s.stops := by
        rw [StopDesk.record, PartialWrite.movesStop, recorded, Bool.not_true, Bool.false_and]
        rfl
      exact ⟨p.row, still ▸ found, position, stops ▸ stop⟩
  | false =>
      have ledger := (PartialWrite.apply_of_new recorded).getTrade_self
      rw [own, found, Option.map_some] at ledger
      refine ⟨_, ledger, (samePosition_afterPartial ..).trans position, ?_⟩
      rw [afterPartial_stopLoss, StopDesk.record, PartialWrite.movesStop, recorded, Bool.not_false,
        Bool.true_and]
      split_ifs
      · rfl
      · exact stop

end StopDesk

end Forex
