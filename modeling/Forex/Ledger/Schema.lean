import Forex.Broker.Terminal
import Forex.Support.Table
import Mathlib.Algebra.Ring.Rat

/-!
The columns of the trading database that the modelled services read or write:
trades, partial closes, ladder legs, signals, pending orders, and the one-row
account. Trades, signals, pending orders and legs have a primary key; partial
closes are a log. Amounts are exact rationals.
-/

namespace Forex
open Support

inductive TradeStatus where
  | opened
  | closed
deriving DecidableEq, Repr

inductive ManagedBy where
  | python
  | ea
deriving DecidableEq, Repr

/-- The strategy column: a known key, `template:<name>`, or any other text. -/
inductive Strategy where
  | scaleOut
  | beRunner
  | trailStop
  | protectedScale
  | conservative
  | noSlScale
  | conservativeTrial
  | scalpRunner
  | signalClimber
  | goldDiggersCopy
  | reversalRunner
  | orbFixed
  | adaptiveRunner
  | adaptiveRunner2
  | limitRunner
  | fixedRr
  | template (name : String)
  | other (text : String)
deriving DecidableEq, Repr

def Strategy.isTemplate : Strategy → Bool
  | .template _ => true
  | _ => false

structure Trade where
  tradeId : String
  signalId : String
  mt5Ticket : Option ℤ
  direction : Direction
  entryPrice : ℚ
  lotSize : ℚ
  remainingLots : ℚ
  stopLoss : ℚ
  /-- `tp1` to `tp8`, in order. -/
  tps : List (Option ℚ)
  status : TradeStatus
  openTime : ℚ
  closeTime : Option ℚ
  closePrice : Option ℚ
  exitReason : Option String
  grossPnl : ℚ
  realisedPnl : ℚ
  swapEst : ℚ
  netPnl : ℚ
  slMovedToBe : Bool
  strategy : Strategy
  mt5Profit : Option ℚ
  managedBy : ManagedBy
  tpOpen : Bool
  initialSl : Option ℚ
  initialRisk : Option ℚ
deriving DecidableEq, Repr

def Trade.fresh (tradeId signalId : String) (mt5Ticket : Option ℤ) (direction : Direction)
    (entryPrice lotSize stopLoss : ℚ) (tps : List (Option ℚ)) (now : ℚ) (strategy : Strategy)
    (managedBy : ManagedBy) (tpOpen : Bool) (initialSl initialRisk : Option ℚ) : Trade where
  tradeId := tradeId
  signalId := signalId
  mt5Ticket := mt5Ticket
  direction := direction
  entryPrice := entryPrice
  lotSize := lotSize
  remainingLots := lotSize
  stopLoss := stopLoss
  tps := tps
  status := .opened
  openTime := now
  closeTime := none
  closePrice := none
  exitReason := none
  grossPnl := 0
  realisedPnl := 0
  swapEst := 0
  netPnl := 0
  slMovedToBe := false
  strategy := strategy
  mt5Profit := none
  managedBy := managedBy
  tpOpen := tpOpen
  initialSl := initialSl
  initialRisk := initialRisk

def Trade.oneLot : Trade :=
  Trade.fresh "t1" "s1" (some 7001) .buy 2000 1 1990 [some 2010] 0 .scaleOut .python false
    (some 1990) none

@[simp] theorem Trade.assign_tradeId (f : Assign Trade.tradeId) (t : Trade) :
    (f t).tradeId = t.tradeId :=
  f.keeps t

structure PartialClose where
  tradeId : String
  ts : ℚ
  lotsClosed : ℚ
  closePrice : ℚ
  pnl : ℚ
  reason : String
deriving DecidableEq, Repr

inductive LegStatus where
  | opened
  | closedManual
  | other (text : String)
deriving DecidableEq, Repr

structure LadderLeg where
  id : ℕ
  tradeId : String
  tier : ℕ
  tpNum : ℕ
  tpPrice : ℚ
  lots : ℚ
  entryPrice : Option ℚ
  mt5Ticket : Option ℤ
  status : LegStatus
  closePrice : Option ℚ
  closeTime : Option ℚ
  pnl : Option ℚ
deriving DecidableEq, Repr

inductive SignalStatus where
  | pending
  | active
  | activating
  | activated
  | unknown
  | closed
  | cancelled
  | expired
deriving DecidableEq, Repr

structure Signal where
  signalId : String
  status : SignalStatus
  createdAt : ℚ
  activatedAt : Option ℚ
deriving DecidableEq, Repr

def Signal.setStatus (status : SignalStatus) : Assign Signal.signalId where
  apply s := { s with status := status }
  keeps _ := rfl

inductive OrderStatus where
  | working
  | withdrawn
  | filled
  | cancelled
  | expired
deriving DecidableEq, Repr

structure PendingOrder where
  tradeId : String
  signalId : String
  direction : Direction
  price : ℚ
  stopLoss : ℚ
  tps : List (Option ℚ)
  tpOpen : Bool
  lotSize : ℚ
  eaTicket : Option ℤ
  strategy : Strategy
  status : OrderStatus
  createdAt : ℚ
  resolvedAt : Option ℚ
  withdrawCount : ℕ
deriving DecidableEq, Repr

structure Db where
  trades : Table Trade Trade.tradeId
  partials : List PartialClose
  legs : Table LadderLeg LadderLeg.id
  signals : Table Signal Signal.signalId
  orders : Table PendingOrder PendingOrder.tradeId
  balance : ℚ
  /-- `move_sl_to_be_after_tp1` of the risk settings. -/
  moveSlToBeAfterTp1 : Bool

namespace Db

def getTrade (db : Db) (tradeId : String) : Option Trade :=
  db.trades.find tradeId

def setTrade (db : Db) (tradeId : String) (f : Assign Trade.tradeId) : Db :=
  { db with trades := db.trades.update tradeId f }

def addToBalance (db : Db) (delta : ℚ) : Db :=
  { db with balance := db.balance + delta }

def setSignalStatus (db : Db) (signalId : String) (status : SignalStatus) : Db :=
  { db with signals := db.signals.update signalId (Signal.setStatus status) }

def totalNetPnl (db : Db) : ℚ :=
  db.trades.total Trade.netPnl

def bookedLots (db : Db) (tradeId : String) : ℚ :=
  ((db.partials.filter fun p => decide (p.tradeId = tradeId)).map PartialClose.lotsClosed).sum

def single (t : Trade) (legs : Table LadderLeg LadderLeg.id) : Db where
  trades := ⟨[t], by simp⟩
  partials := []
  legs := legs
  signals := ⟨[⟨t.signalId, .active, 0, some 0⟩], by simp⟩
  orders := Table.empty
  balance := 1000
  moveSlToBeAfterTp1 := true

end Db

def oneLotBook : Db := Db.single Trade.oneLot Table.empty

theorem bookedLots_append (db db' : Db) (p : PartialClose) (tradeId : String)
    (h : db'.partials = db.partials ++ [p]) :
    db'.bookedLots tradeId =
      db.bookedLots tradeId + if p.tradeId = tradeId then p.lotsClosed else 0 := by
  dsimp only [Db.bookedLots]
  rw [h, List.filter_append, List.map_append, List.sum_append]
  by_cases mine : p.tradeId = tradeId <;> simp [mine]

theorem bookedLots_congr {db db' : Db} (h : db'.partials = db.partials) (tradeId : String) :
    db'.bookedLots tradeId = db.bookedLots tradeId := by
  dsimp only [Db.bookedLots]
  rw [h]

end Forex
