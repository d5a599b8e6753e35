import Forex.Broker.Comments
import Forex.Ledger.TradeRepo
import Mathlib.Data.List.Sort

/-!
`sync_profit` up to its write: which tickets belong to the trade, what the
broker's deals say each of them made, and whether every leg has settled. An
exception of a history read leaves no write at all.
-/

namespace Forex
open Support

/-- What the bridge answers during one `sync_profit`: the week and quarter of
deals, the positions, and the deals of one position. -/
structure SyncView where
  weekDeals : Read (List Deal)
  quarterDeals : Read (List Deal)
  positions : Read (List Position)
  positionHistory : ℤ → Read (List Deal)

structure SyncWrite where
  tradeId : String
  mt5Profit : ℚ
  riskTotal : ℚ
  allSettled : Bool

structure SyncSums where
  total : ℚ
  anyClosed : Bool
  allSettled : Bool
  riskTotal : ℚ

namespace SyncView

/-- `get_position_history(t) or []`, then the quarter's deals of that position. -/
def dealsOf (view : SyncView) (ticket : ℤ) : Option (List Deal) :=
  match (view.positionHistory ticket).orEmpty with
  | none => none
  | some (d :: ds) => some (d :: ds)
  | some [] =>
      (view.quarterDeals.orEmpty).map fun ds =>
        ds.filter fun d => decide (d.positionId = ticket)

/-- `{mt5_ticket}` and, for a template trade, its sibling legs, in order. -/
def ticketSet (view : SyncView) (row : Option Trade) (tradeId : String) (mt5Ticket : ℤ) :
    List ℤ :=
  let legs :=
    if row.any fun t => t.strategy.isTemplate then
      findTemplateLegTickets tradeId view.weekDeals
    else []
  ((mt5Ticket :: legs).dedup).insertionSort (· ≤ ·)

def liveTickets (view : SyncView) (tickets : List ℤ) : List ℤ :=
  if 1 < tickets.length then (view.positions.orEmptyCaught).map Position.ticket else []

end SyncView

def openingRisk (initialSl : Option ℚ) (deals : List Deal) : ℚ :=
  match initialSl with
  | none => 0
  | some sl =>
      if sl = 0 then 0
      else ((deals.filter Deal.opening).map fun d => |d.price - sl| * d.volume * contractSize).sum

def syncTicket (view : SyncView) (initialSl : Option ℚ) (mt5Ticket : ℤ) (live : List ℤ)
    (sums : SyncSums) (ticket : ℤ) : Option SyncSums :=
  match view.dealsOf ticket with
  | none => none
  | some [] =>
      if ticket = mt5Ticket ∨ ticket ∈ live then some { sums with allSettled := false }
      else some sums
  | some deals =>
      if deals.any Deal.closing then
        some
          { sums with
            anyClosed := true
            total := sums.total + (deals.map Deal.money).sum
            riskTotal := sums.riskTotal + openingRisk initialSl deals }
      else some { sums with allSettled := false }

/-- `sync_profit` up to its write. -/
def syncProfit (db : Db) (tradeId : String) (mt5Ticket : ℤ) (view : SyncView) :
    Option SyncWrite :=
  let row := db.getTrade tradeId
  let initialSl := row.bind Trade.initialSl
  let tickets := view.ticketSet row tradeId mt5Ticket
  let live := view.liveTickets tickets
  match tickets.foldlM (syncTicket view initialSl mt5Ticket live) ⟨0, false, true, 0⟩ with
  | none => none
  | some sums =>
      if sums.anyClosed then
        some ⟨tradeId, roundTo 2 sums.total, sums.riskTotal, sums.allSettled⟩
      else none

theorem syncProfit_onGrid {db : Db} {tradeId : String} {mt5Ticket : ℤ} {view : SyncView}
    {w : SyncWrite} (h : syncProfit db tradeId mt5Ticket view = some w) :
    OnGrid 4 w.mt5Profit := by
  simp only [syncProfit] at h
  split at h
  · exact absurd h (by simp)
  · rename_i sums _
    by_cases closed : sums.anyClosed
    · rw [if_pos closed] at h
      rw [← Option.some.inj h]
      exact (roundTo_onGrid 2 sums.total).mono (by omega)
    · rw [if_neg closed] at h
      exact absurd h (by simp)

end Forex
