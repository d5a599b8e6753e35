import Forex.Close.CloseTrade

/-!
The four pollers that compare the book with the broker. Each is modelled by the
list of things it does, from the rows it selects and the answers of the bridge
it reads; every collapse of an answer (`or []`, `is None`, a caught exception, a
health check) is kept as the source has it.
-/

namespace Forex
open Support

inductive PollAction where
  | fullClose (tradeId : String) (price : ℚ) (reason : String)
  /-- With the ticket the position goes on under, when it has a new one. -/
  | partialClose (tradeId : String) (lots price : ℚ) (reason : String) (continued : Option ℤ)
  /-- `close_trade`, then the broker's own figures if it did not raise. -/
  | closeTrade (tradeId reason : String) (net price : ℚ)
  | syncProfit (tradeId : String) (ticket : ℤ)
  | adoptLeg (tradeId : String) (ticket : ℤ) (entry lots : ℚ)
  | recordFill (tradeId : String) (ticket : ℤ) (entry lotSize remaining profit : ℚ)
  /-- The import of what the app does not know, from the positions read. -/
  | importUntracked (positions : List Position)
deriving DecidableEq, Repr

def PollAction.closes : PollAction → Bool
  | .fullClose _ _ _ => true
  | .partialClose _ _ _ _ _ => true
  | .closeTrade _ _ _ _ => true
  | _ => false

structure PollView where
  configured : Bool
  positions : Read (List Position)
  connected : Read Bool
  weekDeals : Read (List Deal)
  positionHistory : ℤ → Read (List Deal)
  tick : Read Tick

/-- `max(deals, key=time)`: the first of the latest. -/
def latestDeal : List Deal → Option Deal
  | [] => none
  | d :: ds => some (ds.foldl (fun best d => if best.time < d.time then d else best) d)

def closeReason (comment : String) : String :=
  let text := lower comment.toList
  if contains "sl".toList text || contains "stop".toList text then "SL"
  else if contains "tp".toList text || contains "take".toList text then "MT5_sync_TP"
  else "MT5_close"

/-! `sync_closed_mt5_positions` -/

def fetchPythonManagedOpenTrades (db : Db) : List Trade :=
  db.trades.rows.filter fun t =>
    t.isOpen && t.mt5Ticket.isSome && decide (t.managedBy ≠ .ea) &&
      !(db.legs.rows.any fun l => decide (l.tradeId = t.tradeId))

def fetchKnownMt5Tickets (db : Db) : List ℤ :=
  db.trades.rows.filterMap Trade.mt5Ticket ++ db.legs.rows.filterMap LadderLeg.mt5Ticket

structure SyncPoll where
  streak : String → ℕ
  actions : List PollAction

def SyncPoll.setStreak (s : SyncPoll) (tradeId : String) (n : ℕ) : SyncPoll :=
  { s with streak := fun id => if id = tradeId then n else s.streak id }

section SyncClosed
variable (view : PollView) (positions : List Position) (week : List Deal) (tick : Option Tick)
  (threshold : ℕ)

def dealsOfTicket (ticket : ℤ) : Option (List Deal) :=
  match (view.positionHistory ticket).orEmpty with
  | none => none
  | some (d :: ds) => some (d :: ds)
  | some [] => some (week.filter fun d => decide (d.positionId = ticket ∧ d.positionId ≠ 0))

def closingDeals (direction : Direction) (deals : List Deal) : List Deal :=
  let out := deals.filter fun d => decide (d.entry = 1 ∨ d.entry = 2 ∨ d.entry = 3)
  if out = [] then
    let openType : ℤ := match direction with
      | .buy => 0
      | .sell => 1
    deals.filter fun d => decide (d.dealType ≠ openType)
  else out

/-- A missing ticket past its streak: a partial close when fewer lots were
closed than tracked, else a full one. -/
def settleMissing (trade : Trade) (ticket : ℤ) (deals : List Deal) : List PollAction :=
  let closed := closingDeals trade.direction deals
  let best := latestDeal closed
  let price := (best.map Deal.price).getD (quotedPrice trade tick)
  let reason := (best.map fun d => closeReason d.comment).getD "MT5_close"
  let closedVolume := roundTo 4 (closed.map Deal.volume).sum
  let remaining := roundTo 4 trade.remainingLots
  if closed ≠ [] ∧ closedVolume < remaining - 1 / 1000 then
    let label := if reason = "SL" then "MT5_SL" else reason
    let left := roundTo 4 (remaining - closedVolume)
    let continued := positions.find? fun p =>
      decide (|roundTo 4 p.volume - left| < 1 / 1000 ∧ p.ticket ≠ ticket)
    [.partialClose trade.tradeId closedVolume price label (continued.map Position.ticket)]
  else [.fullClose trade.tradeId price reason, .syncProfit trade.tradeId ticket]

/-- One trade of the loop, and whether the loop goes on: a raising history read
leaves it, with the miss already counted. -/
def syncOne (s : SyncPoll) (trade : Trade) : SyncPoll × Bool :=
  let ticket := trade.mt5Ticket.getD 0
  if ticket ∈ positions.map Position.ticket then (s.setStreak trade.tradeId 0, true)
  else
    let misses := s.streak trade.tradeId + 1
    if misses < threshold then (s.setStreak trade.tradeId misses, true)
    else
      match dealsOfTicket view week ticket with
      | none => (s.setStreak trade.tradeId misses, false)
      | some deals =>
          let done := settleMissing positions tick trade ticket deals
          ({ s.setStreak trade.tradeId 0 with actions := s.actions ++ done }, true)

def syncAll : SyncPoll → List Trade → SyncPoll × Bool
  | s, [] => (s, true)
  | s, trade :: rest =>
      match syncOne view positions week tick threshold s trade with
      | (s, true) => syncAll s rest
      | (s, false) => (s, false)

end SyncClosed

def syncAgainst (view : PollView) (threshold : ℕ) (streak : String → ℕ)
    (openTrades : List Trade) (positions : List Position) : SyncPoll :=
  match view.weekDeals.orEmpty, view.tick with
  | none, _ => ⟨streak, []⟩
  | some _, .raised => ⟨streak, []⟩
  | some week, tick =>
      let quote := match tick with
        | .value t => some t
        | _ => none
      let (s, finished) := syncAll view positions week quote threshold ⟨streak, []⟩ openTrades
      if finished then { s with actions := s.actions ++ [.importUntracked positions] } else s

def syncClosedMt5Positions (db : Db) (view : PollView) (threshold : ℕ) (streak : String → ℕ) :
    SyncPoll :=
  let openTrades := fetchPythonManagedOpenTrades db
  if !view.configured || openTrades.isEmpty then ⟨streak, []⟩
  else
    match view.positions with
    | .raised => ⟨streak, []⟩
    | .none => ⟨streak, []⟩
    | .value [] =>
        match view.connected with
        | .value true => syncAgainst view threshold streak openTrades []
        | _ => ⟨streak, []⟩
    | .value (p :: ps) => syncAgainst view threshold streak openTrades (p :: ps)

/-! `reconcile_sl_hit` -/

inductive SlVerdict where
  | deferred
  | partly
  | closed
deriving DecidableEq, Repr

/-- The volume of the last position listed under a ticket. -/
def liveVolume (positions : List Position) (ticket : ℤ) : Option ℚ :=
  (positions.reverse.find? fun p => decide (p.ticket = ticket)).map fun p => roundTo 4 p.volume

/-- `reconcile_sl_hit`: a failed check of the broker is not trusted and the
local close is recorded. -/
def reconcileSlHit (view : PollView) (trade : Trade) (price : ℚ) (reason : String) :
    SlVerdict × List PollAction :=
  let ticket := linkedTicket trade.mt5Ticket
  let live :=
    match ticket with
    | none => none
    | some n =>
        if view.configured then (view.positions.orEmpty).bind fun ps => liveVolume ps n else none
  match live with
  | some volume =>
      let remaining := roundTo 4 trade.remainingLots
      if |volume - remaining| < 1 / 1000 then (.deferred, [])
      else
        let closedVolume := roundTo 4 (remaining - volume)
        if 1 / 1000 < closedVolume then
          (.partly, [.partialClose trade.tradeId closedVolume price ("MT5_" ++ reason) none])
        else (.partly, [])
  | none =>
      (.closed, .fullClose trade.tradeId price reason ::
        (ticket.toList.map fun n => .syncProfit trade.tradeId n))

/-! `reconcile_orphaned_trades` -/

def fetchReconcilableTrades (db : Db) : List Trade :=
  db.trades.rows.filter fun t => t.isOpen && t.mt5Ticket.any fun n => decide (0 < n)

def reconcileOrphan (view : PollView) (positions : List Position) (t : Trade) :
    List PollAction :=
  let ticket := t.mt5Ticket.getD 0
  if ticket ∈ positions.map Position.ticket then []
  else
    let exits := ((view.positionHistory ticket).orEmptyCaught).filter fun d =>
      decide (d.entry = 1)
    match exits.getLast? with
    | none => []
    | some last =>
        if last.price ≤ 0 then []
        else
          [.closeTrade t.tradeId "reconciled_broker_closed" (exits.map Deal.money).sum last.price]

def orphanMinAge : ℚ := 120

def reconcileOrphanedTrades (db : Db) (view : PollView) (now : ℚ) : List PollAction :=
  let rows := (fetchReconcilableTrades db).filter fun t => decide (t.openTime < now - orphanMinAge)
  if rows.isEmpty then []
  else
    match view.positions.orEmpty with
    | none => []
    | some [] => []
    | some (p :: ps) => rows.flatMap (reconcileOrphan view (p :: ps))

/-! `repair_template_placeholders` -/

def fetchTemplatePlaceholders (db : Db) : List Trade :=
  db.trades.rows.filter fun t =>
    t.isOpen && (linkedTicket t.mt5Ticket).isNone && decide (t.entryPrice = 0)

def adoptLivePosition (row : Trade) (p : Position) : List PollAction :=
  let lots := roundTo 4 p.volume
  if p.ticket = 0 ∨ p.openPrice ≤ 0 ∨ lots ≤ 0 then []
  else [.adoptLeg row.tradeId p.ticket p.openPrice lots]

/-- `_expire_never_filled`: a write-off at price zero past the expiry. -/
def expireNeverFilled (row : Trade) (now expiry : ℚ) : List PollAction :=
  if now - row.openTime < expiry then []
  else [.fullClose row.tradeId 0 "no_fill_expired"]

def closeFromDeals (row : Trade) (opening : Deal) (deals : List Deal) : List PollAction :=
  let ticket := if opening.order = 0 then opening.ticket else opening.order
  let lots := roundTo 4 opening.volume
  let closed := deals.filter fun d =>
    decide (d.positionId = opening.positionId ∧ (d.entry = 1 ∨ d.entry = 2 ∨ d.entry = 3))
  match latestDeal closed with
  | none => []
  | some last =>
      if opening.positionId = 0 ∨ opening.price ≤ 0 then []
      else
        [.recordFill row.tradeId (if ticket = 0 then opening.positionId else ticket) opening.price
            (if lots = 0 then row.lotSize else lots) (if lots = 0 then row.remainingLots else lots)
            (roundTo 2 (closed.map Deal.money).sum),
          .fullClose row.tradeId last.price (closeReason last.comment)]

def repairPlaceholder (positions : List Position) (deals : List Deal) (now expiry : ℚ)
    (row : Trade) : List PollAction :=
  let mine (comment : String) : Bool := (commentForTrade row.tradeId).isPrefixOf comment.toList
  match positions.find? fun p => mine p.comment with
  | some p => adoptLivePosition row p
  | none =>
      match deals.find? fun d => mine d.comment && d.opening with
      | some opening => closeFromDeals row opening deals
      | none => expireNeverFilled row now expiry

/-- The position read is collapsed by `or []` before it is tested for `None`. -/
def repairTemplatePlaceholders (db : Db) (view : PollView) (now expiry : ℚ) : List PollAction :=
  let rows := fetchTemplatePlaceholders db
  if !view.configured || rows.isEmpty then []
  else
    match view.positions.orEmpty, view.weekDeals.orEmpty with
    | some positions, some deals =>
        rows.flatMap (repairPlaceholder positions deals now expiry)
    | _, _ => []

end Forex
