import Forex.Close.LadderConfirmed
import Mathlib.Algebra.BigOperators.Group.List.Lemmas
import Mathlib.Tactic.Ring

/-!
`close_trade` against a broker that holds positions under trade ids. The code
knows a trade's positions by the row's ticket or by its open ladder legs; the
legs of a grid template other than the row's own are linked to it by their
order comment alone, and nothing on this path looks for them.
-/

namespace Forex
open Support

/-- An open broker position and the trade under whose id it was opened. -/
structure Exposure where
  ticket : ℤ
  tradeId : String
  volume : ℚ
deriving DecidableEq, Repr

/-- What comes of a close order: it is executed, it is refused, or it is
executed and its answer lost. -/
inductive Execution where
  | done (price : ℚ)
  | refused (error : String)
  | lost (error : String)
deriving DecidableEq, Repr

structure Broker where
  book : Table Exposure Exposure.ticket
  execute : ℤ → Execution

namespace Broker
variable (b : Broker)

/-- `_close_position`, as the client hands it on. -/
def replyTo (ticket : ℤ) : Reply :=
  match b.book.find ticket with
  | none => .answered ⟨none, some ("Position " ++ toString ticket ++ " not found"), none, none⟩
  | some _ =>
      match b.execute ticket with
      | .done price => .answered ⟨some true, none, some price, none⟩
      | .refused error | .lost error => .answered ⟨none, some error, none, none⟩

def closes (ticket : ℤ) : Bool :=
  match b.book.find ticket, b.execute ticket with
  | none, _ => false
  | some _, .refused _ => false
  | some _, _ => true

/-- What is left open once the tickets have been asked for. -/
def after (asked : List ℤ) : List Exposure :=
  b.book.rows.filter fun p => !(decide (p.ticket ∈ asked) && b.closes p.ticket)

/-- The volume that has left the book. -/
def closedVolume (asked : List ℤ) : ℚ :=
  b.book.total Exposure.volume - ((b.after asked).map Exposure.volume).sum

/-- The volume a close of this ticket takes off the book. -/
def taken (ticket : ℤ) : ℚ :=
  if b.closes ticket then ((b.book.find ticket).map Exposure.volume).getD 0 else 0

end Broker

section
variable (db : Db) (row : Trade)

def openLegs : List LadderLeg := (getLadderLegs db row.tradeId).filter LadderLeg.isOpen

/-- The tickets that `close_trade` asks the bridge to close. -/
def askedTickets : List ℤ :=
  if (getLadderLegs db row.tradeId).any LadderLeg.isOpen then
    (openLegs db row).filterMap fun leg => linkedTicket leg.mt5Ticket
  else (linkedTicket row.mt5Ticket).toList

/-- The legs are asked one after the other, so of two legs with one ticket the
second finds nothing to close. -/
def Broker.legReply (b : Broker) (leg : LadderLeg) : Reply :=
  let first := (openLegs db row).find? fun other => decide (other.mt5Ticket = leg.mt5Ticket)
  match linkedTicket leg.mt5Ticket with
  | none => .raised
  | some ticket =>
      if first.map LadderLeg.id = some leg.id then b.replyTo ticket
      else .answered ⟨none, some ("Position " ++ toString ticket ++ " not found"), none, none⟩

def Broker.rowReply (b : Broker) : Reply :=
  match linkedTicket row.mt5Ticket with
  | none => .raised
  | some ticket => b.replyTo ticket

/-- The lots that the recorded profit is computed for. Without an entry price
none is computed. -/
def coveredLots (b : Broker) : ℚ :=
  let legs := getLadderLegs db row.tradeId
  if legs.any LadderLeg.isOpen then confirmedLegLots (b.legReply db row) legs
  else if 0 < row.entryPrice then row.remainingLots else 0

/-- When `close_trade` returns, no position opened under the trade's id is open,
and its profit is computed for the volume that was closed. -/
def ClosesWhole (b : Broker) (reason : String) (tick : Read Tick) (now : ℚ) : Prop :=
  ∀ db', closeTrade db row.tradeId reason tick (b.rowReply row) (b.legReply db row) now = .ok db' →
    (∀ p ∈ b.after (askedTickets db row), p.tradeId ≠ row.tradeId) ∧
      coveredLots db row b = b.closedVolume (askedTickets db row)

/-- A single ticket whose close comes back as an error. -/
def Broker.rowErrors (b : Broker) : Bool :=
  !(getLadderLegs db row.tradeId).any LadderLeg.isOpen &&
    match b.rowReply row with
    | .answered r => (linkedTicket row.mt5Ticket).isSome && r.hasError
    | .raised => false

/-- The row or its open legs know every position of the trade, the broker
closes each of them, and as many lots are held as the broker takes off. -/
structure KnowsWhole (b : Broker) : Prop where
  known : ∀ p ∈ b.book.rows, p.tradeId = row.tradeId → p.ticket ∈ askedTickets db row
  closed : ∀ p ∈ b.book.rows, p.tradeId = row.tradeId → b.closes p.ticket = true
  lots : coveredLots db row b = ((askedTickets db row).dedup.map b.taken).sum

end

/-- A total over the rows of one key is the amount of that row. -/
theorem total_of_key {α κ : Type} [DecidableEq κ] {key : α → κ} (t : Table α key) (k : κ)
    (g : α → ℚ) : t.total (fun r => if key r = k then g r else 0) = ((t.find k).map g).getD 0 := by
  have walk : ∀ rows : List α, (rows.map key).Nodup →
      (rows.map fun r => if key r = k then g r else 0).sum =
        ((rows.find? fun r => decide (key r = k)).map g).getD 0 := by
    intro rows unique
    induction rows with
    | nil => rfl
    | cons r rows ih =>
        rw [List.map_cons, List.nodup_cons] at unique
        rw [List.map_cons, List.sum_cons, List.find?_cons]
        by_cases mine : key r = k
        · have others : (rows.map fun r => if key r = k then g r else 0).sum = 0 := by
            rw [ih unique.2, List.find?_eq_none.mpr]
            · rfl
            · intro s mem same
              exact unique.1 (mine.trans (of_decide_eq_true same).symm ▸ List.mem_map_of_mem mem)
          rw [others]
          simp [mine]
        · rw [ih unique.2]
          simp [mine]
  exact walk t.rows t.unique

theorem sum_map_ite_mem {α κ : Type} [DecidableEq κ] (key : α → κ) (g : α → ℚ) (rows : List α)
    {ks : List κ} (unique : ks.Nodup) :
    (ks.map fun k => (rows.map fun r => if key r = k then g r else 0).sum).sum =
      (rows.map fun r => if key r ∈ ks then g r else 0).sum := by
  induction ks with
  | nil => simp
  | cons k ks ih =>
      rw [List.nodup_cons] at unique
      rw [List.map_cons, List.sum_cons, ih unique.2, ← List.sum_map_add]
      refine congrArg List.sum (List.map_congr_left fun r _ => ?_)
      by_cases same : key r = k
      · simp [same, unique.1]
      · simp [same]

namespace Broker
variable (b : Broker)

theorem closedVolume_eq (asked : List ℤ) :
    b.closedVolume asked = (asked.dedup.map b.taken).sum := by
  let off (p : Exposure) : ℚ := if b.closes p.ticket then p.volume else 0
  have split : b.closedVolume asked =
      (b.book.rows.map fun p => if p.ticket ∈ asked.dedup then off p else 0).sum := by
    rw [closedVolume, after, Table.total]
    induction b.book.rows with
    | nil => simp
    | cons p rows ih =>
        rw [List.map_cons, List.sum_cons, List.map_cons, List.sum_cons, List.filter_cons, ← ih]
        by_cases mem : p.ticket ∈ asked <;> cases shut : b.closes p.ticket <;>
          simp only [off, mem, shut, decide_true, decide_false, Bool.not_true, Bool.not_false,
            Bool.and_true, Bool.and_false, Bool.false_eq_true, if_true, if_false, List.mem_dedup,
            List.map_cons, List.sum_cons] <;> ring
  have perKey : ∀ ticket, b.taken ticket =
      (b.book.rows.map fun p => if p.ticket = ticket then off p else 0).sum := by
    intro ticket
    have total := total_of_key b.book ticket off
    rw [Table.total] at total
    rw [total, taken]
    cases found : b.book.find ticket with
    | none => simp
    | some p =>
        have same : p.ticket = ticket := Table.key_of_find found
        simp [off, same]
  rw [split, funext perKey]
  exact (sum_map_ite_mem Exposure.ticket off b.book.rows asked.nodup_dedup).symm

theorem after_of_trade {asked : List ℤ} {tradeId : String} :
    (∀ p ∈ b.after asked, p.tradeId ≠ tradeId) ↔
      ∀ p ∈ b.book.rows, p.tradeId = tradeId → p.ticket ∈ asked ∧ b.closes p.ticket = true := by
  constructor
  · intro gone p mem mine
    by_contra kept
    refine gone p (List.mem_filter.mpr ⟨mem, ?_⟩) mine
    rw [not_and_or] at kept
    simpa using kept
  · intro gone p mem mine
    obtain ⟨held, kept⟩ := List.mem_filter.mp mem
    obtain ⟨listed, shut⟩ := gone p held mine
    simp [listed, shut] at kept

end Broker

theorem Broker.replyTo_answered (b : Broker) (ticket : ℤ) :
    ∃ r, b.replyTo ticket = .answered r ∧ r.refused = false := by
  rw [replyTo]
  split
  · exact ⟨_, rfl, rfl⟩
  · split <;> exact ⟨_, rfl, rfl⟩

section Returns
variable {db : Db} {row : Trade} (b : Broker) (reason : String) (now : ℚ)

theorem closeOpenTrade_returns_iff (tick : Option Tick) :
    (∃ db', closeOpenTrade db row reason tick (b.rowReply row) (b.legReply db row) now = .ok db') ↔
      b.rowErrors db row = false := by
  rw [closeOpenTrade, Broker.rowErrors]
  cases ladder : (getLadderLegs db row.tradeId).any LadderLeg.isOpen with
  | true => simp
  | false =>
      rw [closePriceOf, Broker.rowReply]
      cases linked : linkedTicket row.mt5Ticket with
      | none => simp [Except.map]
      | some ticket =>
          obtain ⟨r, answer, accepted⟩ := b.replyTo_answered ticket
          cases error : r.hasError with
          | true => simp [answer, closeReplyPrice, error, Except.map]
          | false =>
              cases success : r.succeeded <;>
                simp [answer, closeReplyPrice, error, accepted, success, Except.map]

/-- `close_trade` raises when the tick read does, or when the single ticket's
close comes back as an error; otherwise it returns. -/
theorem closeTrade_returns_iff (found : db.getTrade row.tradeId = some row)
    (isOpen : row.isOpen = true) (tick : Read Tick) :
    (∃ db', closeTrade db row.tradeId reason tick (b.rowReply row) (b.legReply db row) now =
      .ok db') ↔ tick ≠ .raised ∧ b.rowErrors db row = false := by
  cases tick with
  | raised => simp [closeTrade, Except.bind]
  | none =>
      simp only [closeTrade, Except.bind, found, isOpen, if_true]
      simpa using closeOpenTrade_returns_iff b reason now none
  | value quote =>
      simp only [closeTrade, Except.bind, found, isOpen, if_true]
      simpa using closeOpenTrade_returns_iff b reason now (some quote)

/-- Closing a trade closes all of it, exactly when the call raises or the row and
its open legs know every position that the broker holds for the trade. -/
theorem close_trade_whole_iff (db : Db) (row : Trade) (b : Broker) (reason : String)
    (tick : Read Tick) (now : ℚ) (found : db.getTrade row.tradeId = some row)
    (isOpen : row.isOpen = true) :
    ClosesWhole db row b reason tick now ↔
      tick = .raised ∨ b.rowErrors db row = true ∨ KnowsWhole db row b := by
  have whole : ((∀ p ∈ b.after (askedTickets db row), p.tradeId ≠ row.tradeId) ∧
      coveredLots db row b = b.closedVolume (askedTickets db row)) ↔ KnowsWhole db row b := by
    rw [b.after_of_trade, b.closedVolume_eq]
    constructor
    · intro h
      exact ⟨fun p mem mine => (h.1 p mem mine).1, fun p mem mine => (h.1 p mem mine).2, h.2⟩
    · intro h
      exact ⟨fun p mem mine => ⟨h.known p mem mine, h.closed p mem mine⟩, h.lots⟩
  have returns := closeTrade_returns_iff b reason now found isOpen tick
  constructor
  · intro covers
    by_cases raises : tick = .raised ∨ b.rowErrors db row = true
    · exact raises.elim .inl fun error => .inr (.inl error)
    · rw [not_or, Bool.not_eq_true] at raises
      obtain ⟨db', returned⟩ := returns.mpr raises
      exact .inr (.inr (whole.mp (covers db' returned)))
  · intro h db' returned
    obtain ⟨looked, clear⟩ := returns.mp ⟨db', returned⟩
    cases h with
    | inl raised => exact absurd raised looked
    | inr h =>
        cases h with
        | inl error => exact absurd (clear.symm.trans error) (by simp)
        | inr knows => exact whole.mpr knows

end Returns

/-- The profit that a single-ticket close records is that of the covered lots. -/
theorem closeOpenTrade_records_covered {db db' : Db} {row : Trade} (b : Broker) (reason : String)
    (tick : Option Tick) (reply : Reply) (now : ℚ) (found : db.getTrade row.tradeId = some row)
    (isOpen : row.isOpen = true)
    (flat : (getLadderLegs db row.tradeId).any LadderLeg.isOpen = false)
    (entered : 0 < row.entryPrice)
    (returned : closeOpenTrade db row reason tick reply (b.legReply db row) now = .ok db') :
    ∃ price, (db'.getTrade row.tradeId).map Trade.netPnl =
      some (roundTo 4 (row.netPnl +
        pnl row.direction row.entryPrice price (coveredLots db row b))) := by
  rw [closeOpenTrade] at returned
  simp only [flat, Bool.false_eq_true, if_false] at returned
  cases priced : closePriceOf row tick reply with
  | error e => simp [priced, Except.map] at returned
  | ok price =>
      simp only [priced, Except.map, Except.ok.injEq] at returned
      have write := recordCloseNow_of_open price reason now found isOpen
      refine ⟨price, ?_⟩
      rw [← returned, write.getTrade_self, found]
      simp [coveredLots, flat, entered, FullWrite.grossPnl, Trade.closeFully]

/-- The row of a grid template after its first leg has filled. -/
def Trade.promotedGrid : Trade :=
  Trade.fresh "t1" "s1" (some 7001) .buy 2000 1 1990 [some 2010] 0 (.template "grid") .ea false
    (some 1990) none

/-- A broker that executes every close at one price. -/
def Broker.obliging (book : Table Exposure Exposure.ticket) : Broker := ⟨book, fun _ => .done 2005⟩

theorem close_trade_whole_iff_oneLot :
    (oneLotBook.getTrade "t1" = some Trade.oneLot ∧ Trade.oneLot.isOpen = true) ∧
      (ClosesWhole oneLotBook Trade.oneLot (Broker.obliging (Table.single ⟨7001, "t1", 1⟩)) "manual"
        (.value ⟨2005, 2006⟩) 10 ↔
      Read.value (⟨2005, 2006⟩ : Tick) = .raised ∨
        (Broker.obliging (Table.single ⟨7001, "t1", 1⟩)).rowErrors oneLotBook Trade.oneLot = true ∨
        KnowsWhole oneLotBook Trade.oneLot (Broker.obliging (Table.single ⟨7001, "t1", 1⟩))) :=
  ⟨⟨by decide +kernel, by decide⟩,
    close_trade_whole_iff oneLotBook Trade.oneLot _ "manual" (.value ⟨2005, 2006⟩) 10
      (by decide +kernel) (by decide)⟩

/-- Two legs of the grid have filled. -/
def Broker.twoLegs : Broker :=
  Broker.obliging ⟨[⟨7001, "t1", 1⟩, ⟨7002, "t1", 1⟩], by decide⟩

/-- The second leg of the grid stays open when the row is closed. -/
theorem sibling_leg_left_open :
    ¬ ClosesWhole (Db.single Trade.promotedGrid Table.empty) Trade.promotedGrid Broker.twoLegs
      "equity_protect" (.value ⟨2005, 2006⟩) 10 := by
  intro covers
  have found : (Db.single Trade.promotedGrid Table.empty).getTrade Trade.promotedGrid.tradeId =
      some Trade.promotedGrid := by decide +kernel
  obtain ⟨db', returned⟩ := (closeTrade_returns_iff Broker.twoLegs "equity_protect" 10 found
    (by decide) (.value ⟨2005, 2006⟩)).mpr ⟨by decide, by decide +kernel⟩
  exact (covers db' returned).1 ⟨7002, "t1", 1⟩ (by decide +kernel) rfl

end Forex
