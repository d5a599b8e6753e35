import Forex.Broker.Comments
import Forex.Reversal.LiveExecute
import Mathlib.Data.List.Dedup
import Mathlib.Data.List.Sort

/-!
The outcome loop over a Reversal Engine signal for which a trade was opened at
the broker. A triggered row that carries a ticket and reads "executed" is
mirrored from the broker; every other triggered row is simulated, by a procedure
the results hold for whatever it does. The book is what the broker has of the
trade. Each read of a pass shows it, answers `None`, or raises.
-/

namespace Forex
open Support

namespace Deal

/-- An exit, a reversal, or a close by an opposite position. -/
def exits (d : Deal) : Bool := decide (d.entry = 1 ∨ d.entry = 2 ∨ d.entry = 3)

/-- The first deal with the latest time. -/
def latest (d : Deal) (ds : List Deal) : Deal :=
  ds.foldl (fun best d => if best.time < d.time then d else best) d

end Deal

/-- The read of a pass, where it succeeds. -/
def Read.shows {α : Type} (r : Read Unit) (a : α) : Read α :=
  match r with
  | .value _ => .value a
  | .none => .none
  | .raised => .raised

/-- The broker's side of the trade. -/
structure TradeBook where
  /-- The positions opened for the trade so far. -/
  legs : List ℤ
  /-- Its orders that may still fill. -/
  resting : List ℤ
  /-- All open positions of the account. -/
  positions : List Position
  deals : List Deal
  /-- A leg that is gone was closed by a deal. -/
  closedByDeal : ∀ leg ∈ legs, leg ∉ positions.map Position.ticket →
    ∃ d ∈ deals, d.positionId = leg ∧ d.exits = true

namespace TradeBook
variable (b : TradeBook)

def Placed : Prop := b.legs ≠ [] ∨ b.resting ≠ []

def Over : Prop := b.resting = [] ∧ ∀ leg ∈ b.legs, leg ∉ b.positions.map Position.ticket

def closingDeals : List Deal :=
  b.deals.filter fun d => d.exits && decide (d.positionId ∈ b.legs)

def netPnl : ℚ := roundTo 2 (b.closingDeals.map Deal.money).sum

/-- `get_position_history`. -/
def positionHistory (ticket : ℤ) : List Deal :=
  b.deals.filter fun d => decide (d.positionId = ticket)

/-- `get_deal_history(7)`. -/
def dealHistory (now : ℚ) : List Deal :=
  b.deals.filter fun d => decide (now - 7 * 86400 ≤ d.time)

instance : Decidable b.Placed := inferInstanceAs (Decidable (_ ∨ _))

instance : Decidable b.Over := inferInstanceAs (Decidable (_ ∧ _))

end TradeBook

structure MirrorRow extends ReRow where
  direction : Direction
  triggerPrice : Option ℚ
  triggerTime : Option ℚ
  outcome : Option String
  closePrice : Option ℚ
  pnlPts : Option ℚ
  netPnl : Option ℚ

namespace MirrorRow
variable (row : MirrorRow)

def recordLiveExec (mt5Ticket : Option ℤ) (vantageSigId : Option String) (status : String) :
    MirrorRow :=
  { row with toReRow := row.toReRow.updateLiveExec mt5Ticket vantageSigId status }

/-- The ticket of a row that the outcome loop takes for a live one. -/
def liveTicket : Option ℤ :=
  row.mt5Ticket.filter fun ticket =>
    decide (ticket ≠ 0 ∧ row.liveExecStatus = some "executed")

def entryRef : ℚ :=
  match row.triggerPrice with
  | some price => if price = 0 then (row.entryLow + row.entryHigh) / 2 else price
  | none => (row.entryLow + row.entryHigh) / 2

end MirrorRow

/-- `fetch_trade_id_and_strategy_for_signal`. -/
def Db.tradeIdAndStrategyForSignal (db : Db) (signalId : String) : Option (String × Strategy) :=
  (db.trades.rows.find? fun t => decide (t.signalId = signalId)).map fun t =>
    (t.tradeId, t.strategy)

/-- One pass of `_check_outcomes`: what it is given and how its reads end. -/
structure OutcomePass where
  tick : Option Tick
  mid : ℚ
  now : ℚ
  positions : Read Unit
  /-- The lookup of the trade row raises. -/
  lookupRaises : Bool
  deals : Read Unit
  history : ℤ → Read Unit

namespace OutcomePass
variable (p : OutcomePass)

/-- The price of a pass that goes on. -/
def price : Option ℚ :=
  match p.tick with
  | none => none
  | some tick =>
      let price := if p.mid = 0 then tick.bid else p.mid
      if price ≤ 0 then none else some price

/-- `_realistic_fill`, for an entry. -/
def realisticFill (direction : Direction) : ℚ :=
  match p.tick with
  | none => 0
  | some tick =>
      let side := match direction with
        | .buy => tick.ask
        | .sell => tick.bid
      if side = 0 then p.mid else side

/-- Every read of the pass succeeds. -/
structure Complete : Prop where
  price : p.price.isSome = true
  positions : p.positions.Succeeded
  lookup : p.lookupRaises = false
  deals : p.deals.Succeeded
  history : ∀ ticket, (p.history ticket).Succeeded

end OutcomePass

inductive OutcomeDeed where
  | idle
  | expires
  | triggers
  | simulates
  | reconciles (ticket : ℤ)
deriving DecidableEq, Repr

structure LiveMirror where
  row : MirrorRow
  db : Db
  book : TradeBook
  /-- `_live_missing_streak`. -/
  missing : ℤ → ℕ
  balance : ℚ
  /-- How often the signal has been closed. -/
  closings : ℕ

inductive MirrorStep where
  | pass (p : OutcomePass)
  /-- The broker's side moves on. -/
  | market (book : TradeBook)
  /-- `update_live_exec`, as the placement paths call it. -/
  | record (mt5Ticket : Option ℤ) (vantageSigId : Option String) (status : String)
  | store (db : Db)
  | restart

/-- `_LIVE_MISSING_THRESHOLD`. -/
def liveMissingThreshold : ℕ := 3

def orphanSecs : ℚ := 120

/-- The histories of the legs, one after the other; only a failed read of the
signal's own ticket ends the pass. -/
def gatherHistory (ticket : ℤ) (history : ℤ → Read (List Deal)) : List ℤ → Option (List Deal)
  | [] => some []
  | leg :: rest =>
      match (history leg).orEmpty with
      | some deals => (gatherHistory ticket history rest).map (deals ++ ·)
      | none => if leg = ticket then none else gatherHistory ticket history rest

/-- The closing deals, by their entry or else by their side. -/
def closeDeals (direction : Direction) (deals : List Deal) : List Deal :=
  match deals.filter Deal.exits with
  | [] =>
      let openType : ℤ := match direction with
        | .buy => 0
        | .sell => 1
      deals.filter fun d => decide (d.dealType ≠ openType)
  | d :: ds => d :: ds

def outcomeOf (netPnl : ℚ) : String :=
  if 1 / 2 < netPnl then "win" else if netPnl < -(1 / 2) then "loss" else "be"

namespace LiveMirror
variable (simulate : MirrorRow → Tick → MirrorRow) (s : LiveMirror) (p : OutcomePass)

def start (row : MirrorRow) (db : Db) (book : TradeBook) (balance : ℚ) : LiveMirror where
  row := { row with status := .pending }
  db := db
  book := book
  missing _ := 0
  balance := balance
  closings := 0

/-- What the pass does with the row, by the row alone. -/
def deed : OutcomeDeed :=
  match p.price with
  | none => .idle
  | some price =>
      match s.row.status with
      | .pending =>
          if signalMaxAgeSecs < p.now - s.row.createdAt then .expires
          else if s.row.entryLow ≤ price ∧ price ≤ s.row.entryHigh then .triggers
          else .idle
      | .triggered =>
          match s.row.liveTicket with
          | some ticket => .reconciles ticket
          | none => .simulates
      | .closed | .expired => .idle

/-- The trade id under whose comment the pass looks for sibling legs. -/
def templateTrade : Option String :=
  if p.lookupRaises || !s.row.carriesVantageId then none
  else
    (s.row.vantageSignalId.bind s.db.tradeIdAndStrategyForSignal).bind fun found =>
      if found.1 ≠ "" ∧ found.2.isTemplate = true then some found.1 else none

/-- `_template_leg_tickets`, as a list without repetitions in rising order. -/
def templateLegTickets (ticket : ℤ) : List ℤ :=
  let siblings := match s.templateTrade p with
    | none => []
    | some tradeId =>
        findTemplateLegTickets tradeId (p.deals.shows (s.book.dealHistory p.now))
  (ticket :: siblings).dedup.insertionSort (· ≤ ·)

/-- `close_signal`, on the result of the closing deals. -/
def closeFrom (ticket : ℤ) (d : Deal) (ds : List Deal) : LiveMirror :=
  let row := s.row
  let price := (Deal.latest d ds).price
  let netPnl := roundTo 2 ((d :: ds).map Deal.money).sum
  let pnlPts := if price = 0 then 0 else
    roundTo 2 (row.direction.sign * (price - row.entryRef))
  { s with
    row :=
      { row with
        status := .closed
        outcome := some (outcomeOf netPnl)
        closePrice := some (if price = 0 then row.entryRef else price)
        pnlPts := some pnlPts
        netPnl := some netPnl }
    missing := Function.update s.missing ticket 0
    balance := roundTo 4 (s.balance + netPnl)
    closings := s.closings + 1 }

/-- `_reconcile_live_signal`, from the third miss in a row on. -/
def settle (ticket : ℤ) : LiveMirror :=
  match gatherHistory ticket (fun leg => (p.history leg).shows (s.book.positionHistory leg))
      (s.templateLegTickets p ticket) with
  | none => s
  | some deals =>
      match closeDeals s.row.direction deals with
      | [] => s
      | d :: ds => s.closeFrom ticket d ds

def miss (ticket : ℤ) : LiveMirror :=
  { s with missing := Function.update s.missing ticket (s.missing ticket + 1) }

def reconcile (ticket : ℤ) : LiveMirror :=
  match (p.positions.shows s.book.positions).orEmpty with
  | none => s
  | some live =>
      if live.any (fun q => decide (q.ticket ∈ s.templateLegTickets p ticket)) then
        { s with missing := Function.update s.missing ticket 0 }
      else if s.missing ticket + 1 < liveMissingThreshold then s.miss ticket
      else (s.miss ticket).settle p ticket

/-- The orphan watchdog; the pass goes on with the row as it was read. -/
def watchOrphan : MirrorRow :=
  let triggered := s.row.triggerTime.getD 0
  if 0 < triggered ∧ s.row.liveExecStatus.getD "" = "" ∧ orphanSecs < p.now - triggered then
    s.row.recordLiveExec none none "failed:orphaned_no_response"
  else s.row

def pass : LiveMirror :=
  match s.deed p with
  | .idle => s
  | .expires => { s with row := { s.row with status := .expired, outcome := some "expired" } }
  | .triggers =>
      { s with
        row :=
          { s.row with
            status := .triggered
            triggerPrice := some (p.realisticFill s.row.direction)
            triggerTime := some p.now } }
  | .simulates =>
      let row := simulate (s.watchOrphan p) (p.tick.getD ⟨0, 0⟩)
      { s with row := row, closings := s.closings + if row.status = .closed then 1 else 0 }
  | .reconciles ticket => s.reconcile p ticket

def step : MirrorStep → LiveMirror
  | .pass p => s.pass simulate p
  | .market book => { s with book := book }
  | .record mt5Ticket vantageSigId status =>
      { s with row := s.row.recordLiveExec mt5Ticket vantageSigId status }
  | .store db => { s with db := db }
  | .restart => { s with missing := fun _ => 0 }

end LiveMirror

end Forex
