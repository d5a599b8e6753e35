import Forex.Ledger.Closers

/-!
`close_trade` and `close_all_ladder_legs` over an arbitrary bridge. A reply may
say success, refuse, carry an error, carry neither key, or be an exception; the
single-ticket path and the ladder path test these in different ways, and both
are kept as they are. Bookkeeping outside the ledger is not represented.
-/

namespace Forex
open Support

structure CloseReply where
  success : Option Bool
  error : Option String
  closePrice : Option ℚ
  lotsClosed : Option ℚ
deriving DecidableEq, Repr

inductive Reply where
  | answered (r : CloseReply)
  | raised
deriving DecidableEq, Repr

/-- `res.get("error")` is truthy. -/
def CloseReply.hasError (r : CloseReply) : Bool :=
  r.error.any fun text => decide (text ≠ "")

def CloseReply.succeeded (r : CloseReply) : Bool := decide (r.success = some true)

def CloseReply.refused (r : CloseReply) : Bool := decide (r.success = some false)

namespace Reply

/-- The broker positively confirmed the close. -/
def confirmed : Reply → Bool
  | .answered r => r.succeeded
  | .raised => false

/-- An answer with neither a verdict nor an error. -/
def unclear : Reply → Bool
  | .answered r => !r.succeeded && !r.refused && !r.hasError
  | .raised => false

end Reply

/-- `if ticket:`. -/
def linkedTicket (ticket : Option ℤ) : Option ℤ :=
  ticket.filter fun n => decide (n ≠ 0)

inductive CloseError where
  | notOpen (tradeId : String)
  | bridgeRaised
  | rejected (ticket : ℤ) (error : String)
  | failed (ticket : ℤ) (reply : CloseReply)
deriving DecidableEq, Repr

def getLadderLegs (db : Db) (tradeId : String) : List LadderLeg :=
  (db.legs.rows.filter fun l => decide (l.tradeId = tradeId)).insertionSort
    fun a b => a.tier ≤ b.tier

def LadderLeg.isOpen (leg : LadderLeg) : Bool := decide (leg.status = .opened)

structure LadderSums where
  db : Db
  totalPnl : ℚ
  lastPrice : ℚ
  closedAny : Bool

section Ladder
variable (row : Trade) (reply : LadderLeg → Reply) (now : ℚ)

/-- The reply of a leg that is really asked for, when it confirms the close. -/
def legClosed (leg : LadderLeg) : Option CloseReply :=
  if leg.isOpen && (linkedTicket leg.mt5Ticket).isSome then
    match reply leg with
    | .raised => none
    | .answered r => if r.succeeded then some r else none
  else none

def legPrice (leg : LadderLeg) (r : CloseReply) : ℚ := r.closePrice.getD leg.tpPrice

/-- The leg's own entry, or the parent's when it is missing or zero. -/
def legEntry (leg : LadderLeg) : ℚ :=
  match leg.entryPrice with
  | none => row.entryPrice
  | some entry => if entry = 0 then row.entryPrice else entry

def legPnl (leg : LadderLeg) (r : CloseReply) : ℚ :=
  pnl row.direction (legEntry row leg) (legPrice leg r) leg.lots

def closeLeg (sums : LadderSums) (leg : LadderLeg) : LadderSums :=
  match legClosed reply leg with
  | none => sums
  | some r =>
      { db := closeLadderLeg sums.db leg.id (legPrice leg r) (legPnl row leg r) .closedManual now
        totalPnl := sums.totalPnl + legPnl row leg r
        lastPrice := legPrice leg r
        closedAny := true }

/-- `float(row.get("close_price") or parent_entry)`. -/
def ladderStartPrice : ℚ :=
  match row.closePrice with
  | none => row.entryPrice
  | some price => if price = 0 then row.entryPrice else price

def openLots (legs : List LadderLeg) : ℚ :=
  ((legs.filter LadderLeg.isOpen).map LadderLeg.lots).sum

def closeAllLadderLegs (db : Db) (tradeId : String) (legs : List LadderLeg)
    (reason : String) : Db :=
  let sums := legs.foldl (closeLeg row reply now) ⟨db, 0, ladderStartPrice row, false⟩
  applyLadderClose sums.db tradeId sums.closedAny (openLots legs) sums.lastPrice sums.totalPnl
    reason row.signalId now

end Ladder

def quotedPrice (row : Trade) : Option Tick → ℚ
  | some tick => tick.closePrice row.direction
  | none => row.entryPrice

def closeReplyPrice (ticket : ℤ) (price : ℚ) : Reply → Except CloseError ℚ
  | .raised => .error .bridgeRaised
  | .answered r =>
      if r.hasError then .error (.rejected ticket (r.error.getD ""))
      else if r.refused then .error (.failed ticket r)
      else if r.succeeded then .ok (r.closePrice.getD price)
      else .ok price

def closePriceOf (row : Trade) (tick : Option Tick) (reply : Reply) : Except CloseError ℚ :=
  match linkedTicket row.mt5Ticket with
  | none => .ok (quotedPrice row tick)
  | some ticket => closeReplyPrice ticket (quotedPrice row tick) reply

def recordCloseNow (db : Db) (tradeId : String) (price : ℚ) (reason : String) (now : ℚ) : Db :=
  match recordClose db tradeId price reason now with
  | none => db
  | some w => (w.apply db).1

theorem recordCloseNow_of_open {db : Db} {row : Trade} (price : ℚ) (reason : String) (now : ℚ)
    (found : db.getTrade row.tradeId = some row) (isOpen : row.isOpen = true) :
    let gross := FullWrite.grossPnl ⟨row, price, reason, now⟩
    LedgerWrite db (recordCloseNow db row.tradeId price reason now) row.tradeId
      (Trade.closeFully now (roundTo 2 price) reason (roundTo 4 gross)
        (roundTo 4 (row.realisedPnl + gross)) (roundTo 4 (row.netPnl + gross))) [] gross := by
  have won : (db.getTrade row.tradeId).any Trade.isOpen = true := by
    rw [found]
    exact isOpen
  have same : recordCloseNow db row.tradeId price reason now =
      (FullWrite.apply ⟨row, price, reason, now⟩ db).1 := by
    simp only [recordCloseNow, recordClose, found]
  rw [same]
  exact FullWrite.apply_of_open (w := ⟨row, price, reason, now⟩) won

/-- A full close finds the row open and takes all of it, or does nothing. -/
theorem recordCloseNow_cases (db : Db) (tradeId : String) (price : ℚ) (reason : String) (now : ℚ) :
    recordCloseNow db tradeId price reason now = db ∨
      ∃ row gross realised net moved, db.getTrade tradeId = some row ∧ row.isOpen = true ∧
        LedgerWrite db (recordCloseNow db tradeId price reason now) tradeId
          (Trade.closeFully now (roundTo 2 price) reason gross realised net) [] moved := by
  cases found : db.getTrade tradeId with
  | none => exact .inl (by simp only [recordCloseNow, recordClose, found])
  | some row =>
      have key : row.tradeId = tradeId := Table.key_of_find found
      subst key
      cases isOpen : row.isOpen with
      | false =>
          have kept : FullWrite.apply ⟨row, price, reason, now⟩ db = (db, false) := by
            apply FullWrite.apply_of_settled
            rw [found]
            exact isOpen
          exact .inl (by simp only [recordCloseNow, recordClose, found, kept])
      | true =>
          exact .inr ⟨row, _, _, _, _, rfl, isOpen,
            recordCloseNow_of_open price reason now found isOpen⟩

def closeOpenTrade (db : Db) (row : Trade) (reason : String) (tick : Option Tick) (reply : Reply)
    (legReply : LadderLeg → Reply) (now : ℚ) : Except CloseError Db :=
  let legs := getLadderLegs db row.tradeId
  if legs.any LadderLeg.isOpen then
    .ok (closeAllLadderLegs row legReply now db row.tradeId legs reason)
  else (closePriceOf row tick reply).map fun price =>
    recordCloseNow db row.tradeId price reason now

def closeTrade (db : Db) (tradeId reason : String) (tick : Read Tick) (reply : Reply)
    (legReply : LadderLeg → Reply) (now : ℚ) : Except CloseError Db :=
  let tick : Except CloseError (Option Tick) :=
    match tick with
    | .value t => .ok (some t)
    | .none => .ok none
    | .raised => .error .bridgeRaised
  tick.bind fun tick =>
    match db.getTrade tradeId with
    | none => .error (.notOpen tradeId)
    | some row =>
        if row.isOpen then closeOpenTrade db row reason tick reply legReply now
        else .error (.notOpen tradeId)

/-- The database after a call: an exception leaves it as it was. -/
def bookAfter (db : Db) : Except CloseError Db → Db
  | .ok db' => db'
  | .error _ => db

end Forex
