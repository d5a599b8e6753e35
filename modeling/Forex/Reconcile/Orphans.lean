import Forex.Close.WholeTrade
import Forex.Reconcile.SyncCycle

/-!
One call of `reconcile_orphaned_trades` with `close_trade` as its close
function. The repair asks the broker to close what it has just seen to be gone,
and the broker's error keeps the row open; only a row with open ladder legs is
closed without its own ticket being asked for, and then the balance moves by
what the legs made while the row is given the money of its exit deals.
-/

namespace Forex
open Support

section Orphans
variable (view : PollView) (now : ℚ)

/-- `[d for d in hist if d.get("entry") == 1]` -/
def exitDeals (t : Trade) : List Deal :=
  ((view.positionHistory (t.mt5Ticket.getD 0)).orEmptyCaught).filter fun d => decide (d.entry = 1)

def brokerNet (t : Trade) : ℚ := ((exitDeals view t).map Deal.money).sum

def exitPrice (t : Trade) : ℚ := (((exitDeals view t).getLast?).map Deal.price).getD 0

/-- An open row with a ticket, old enough, whose ticket is not in a position list
that was read and is not empty. -/
def vanished (t : Trade) : Bool :=
  t.isOpen && t.mt5Ticket.any (fun n => decide (0 < n)) &&
    decide (t.openTime < now - orphanMinAge) &&
    match view.positions with
    | .value (p :: ps) => decide (t.mt5Ticket.getD 0 ∉ (p :: ps).map Position.ticket)
    | _ => false

/-- The rows whose history proves the close. -/
def stranded (db : Db) : List Trade :=
  db.trades.rows.filter fun t =>
    vanished view now t && (exitDeals view t).any fun d => decide (0 < d.price)

/-- The rows the call comes to: it looks at the price of the last exit deal. -/
def orphans (db : Db) : List Trade :=
  db.trades.rows.filter fun t => vanished view now t && decide (0 < exitPrice view t)

/-- What the call does for each of them. -/
def orphanClose (t : Trade) : PollAction :=
  .closeTrade t.tradeId "reconciled_broker_closed" (brokerNet view t) (exitPrice view t)

theorem reconcileOrphan_eq (positions : List Position) (t : Trade) :
    reconcileOrphan view positions t =
      if t.mt5Ticket.getD 0 ∉ positions.map Position.ticket ∧ 0 < exitPrice view t then
        [orphanClose view t]
      else [] := by
  rw [reconcileOrphan]
  by_cases seen : t.mt5Ticket.getD 0 ∈ positions.map Position.ticket
  · simp [seen]
  · have exits : ((view.positionHistory (t.mt5Ticket.getD 0)).orEmptyCaught).filter
        (fun d => decide (d.entry = 1)) = exitDeals view t := rfl
    rw [if_neg seen, orphanClose, exitPrice, brokerNet]
    simp only [exits]
    cases last : (exitDeals view t).getLast? with
    | none => simp
    | some d =>
        by_cases priced : d.price ≤ 0
        · simp [priced]
        · simp [priced, seen, not_le.mp priced, exitDeals]

theorem orphans_of_unread (db : Db) (unread : ∀ p ps, view.positions ≠ .value (p :: ps)) :
    orphans view now db = [] := by
  rw [orphans, List.filter_eq_nil_iff]
  intro t _
  rw [vanished]
  split
  · next p ps read => exact absurd read (unread p ps)
  · simp

theorem flatMap_ite_singleton {α β : Type} (rows : List α) (p : α → Prop) [DecidablePred p]
    (f : α → β) :
    (rows.flatMap fun r => if p r then [f r] else []) =
      (rows.filter fun r => decide (p r)).map f := by
  induction rows with
  | nil => rfl
  | cons r rows ih =>
      rw [List.flatMap_cons, List.filter_cons, ih]
      by_cases h : p r <;> simp [h]

theorem reconcileOrphanedTrades_eq (db : Db) :
    reconcileOrphanedTrades db view now = (orphans view now db).map (orphanClose view) := by
  rw [reconcileOrphanedTrades]
  cases read : view.positions with
  | raised =>
      rw [orphans_of_unread view now db (by simp [read])]
      simp [Read.orEmpty]
  | none =>
      rw [orphans_of_unread view now db (by simp [read])]
      simp [Read.orEmpty]
  | value positions =>
      cases positions with
      | nil =>
          rw [orphans_of_unread view now db (by simp [read])]
          simp [Read.orEmpty]
      | cons p ps =>
          have each := flatMap_ite_singleton
            ((fetchReconcilableTrades db).filter fun t => decide (t.openTime < now - orphanMinAge))
            (fun t => t.mt5Ticket.getD 0 ∉ (p :: ps).map Position.ticket ∧ 0 < exitPrice view t)
            (orphanClose view)
          rw [← funext fun t => reconcileOrphan_eq view (p :: ps) t] at each
          simp only [Read.orEmpty, each]
          rw [ite_eq_right_iff.mpr, fetchReconcilableTrades, List.filter_filter, List.filter_filter,
            orphans]
          · congr 2
            funext t
            simp [vanished, read, Bool.and_assoc, Bool.and_comm, Bool.and_left_comm]
          · intro empty
            rw [List.isEmpty_iff.mp empty]
            rfl

end Orphans

section Ladder
variable (row : Trade) (reply : LadderLeg → Reply) (now : ℚ)

theorem confirmedPnl_of_none {legs : List LadderLeg}
    (none : legs.any (fun leg => (legClosed reply leg).isSome) = false) :
    confirmedPnl row reply legs = 0 := by
  rw [confirmedPnl]
  refine List.sum_eq_zero fun x mem => ?_
  obtain ⟨leg, listed, rfl⟩ := List.mem_map.mp mem
  have quiet := List.any_eq_false.mp none leg listed
  rw [Bool.not_eq_true, Option.isSome_eq_false_iff, Option.isNone_iff_eq_none] at quiet
  rw [quiet]
  rfl

/-- The legs closed for one trade are nobody else's. -/
theorem foldl_closeLeg_others {other : String} (legs : List LadderLeg) (sums : LadderSums)
    (apart : ∀ l ∈ sums.db.legs.rows, ∀ leg ∈ legs, l.id = leg.id → l.tradeId ≠ other) :
    (legs.foldl (closeLeg row reply now) sums).db.legs.rows.filter
        (fun l => decide (l.tradeId = other)) =
      sums.db.legs.rows.filter fun l => decide (l.tradeId = other) := by
  induction legs generalizing sums with
  | nil => rfl
  | cons leg legs ih =>
      rw [List.foldl_cons, closeLeg]
      cases answer : legClosed reply leg with
      | none => exact ih sums fun l mem m listed => apart l mem m (List.mem_cons_of_mem leg listed)
      | some r =>
          dsimp only
          rw [ih]
          · rw [closeLadderLeg, Table.update, Table.updateWhere, List.filter_map]
            conv_rhs => rw [← List.map_id (List.filter _ _)]
            have kept : ((fun l : LadderLeg => decide (l.tradeId = other)) ∘ fun l =>
                if decide (l.id = leg.id) then
                  LadderLeg.close (legPrice leg r) (legPnl row leg r) .closedManual now l
                else l) = fun l => decide (l.tradeId = other) := by
              funext l
              by_cases mine : l.id = leg.id <;> simp [mine, LadderLeg.close]
            rw [kept]
            refine List.map_congr_left fun l mem => ?_
            obtain ⟨listed, theirs⟩ := List.mem_filter.mp mem
            have ne : l.id ≠ leg.id := fun same =>
              apart l listed leg List.mem_cons_self same (of_decide_eq_true theirs)
            simp [ne]
          · intro l mem m listed same
            obtain ⟨old, here, shape⟩ := Table.mem_update.mp mem
            have ids : l.id = old.id ∧ l.tradeId = old.tradeId := by
              rw [shape]
              split_ifs <;> exact ⟨rfl, rfl⟩
            rw [ids.2]
            exact apart old here m (List.mem_cons_of_mem leg listed) (ids.1.symm.trans same)

theorem closeAllLadderLegs_others (db : Db) (reason : String) {other : String}
    (ne : other ≠ row.tradeId) :
    let db' := closeAllLadderLegs row reply now db row.tradeId (getLadderLegs db row.tradeId) reason
    db'.getTrade other = db.getTrade other ∧ getLadderLegs db' other = getLadderLegs db other := by
  obtain ⟨last, trades, legs, -, -⟩ := closeAllLadderLegs_spec row reply now db row.tradeId
    (getLadderLegs db row.tradeId) reason
  refine ⟨?_, ?_⟩
  · rw [Db.getTrade, trades]
    exact Table.find_update_of_ne _ _ ne
  · refine congrArg (List.insertionSort fun a b : LadderLeg => a.tier ≤ b.tier) ?_
    rw [legs]
    refine foldl_closeLeg_others row reply now _ _ ?_
    intro l mem leg listed same
    obtain ⟨here, mine⟩ := mem_getLadderLegs.mp listed
    rw [Table.eq_of_mem_of_key mem here same, mine]
    exact ne.symm

end Ladder

/-- The bridge as it answers while the row of a trade is closed. -/
abbrev Bridges := String → PollEnv

section Call
variable (bridges : Bridges) (db : Db) (view : PollView) (now : ℚ)

/-- The call from its selection on: each `close_trade` finds its own bridge. -/
def afterReconcile (actions : List PollAction) : Db :=
  actions.foldl (fun db a =>
    match a with
    | .closeTrade tradeId _ _ _ => applyPollAction (bridges tradeId) db a
    | _ => db) db

def closeOrphans (ts : List Trade) : Db :=
  ts.foldl (fun db t => applyPollAction (bridges t.tradeId) db (orphanClose view t)) db

/-- `close_trade` gets as far as the legs: the tick read does not raise, and a
leg is open. -/
def reachesLegs (t : Trade) : Bool :=
  (getLadderLegs db t.tradeId).any LadderLeg.isOpen &&
    decide ((bridges t.tradeId).tick ≠ .raised)

/-- What the legs make that the broker closes now. -/
def legsMade (t : Trade) : ℚ :=
  confirmedPnl t (bridges t.tradeId).legReply (getLadderLegs db t.tradeId)

variable {bridges db view} {t : Trade}

theorem orphanClose_of_stuck (found : db.getTrade t.tradeId = some t) (isOpen : t.isOpen = true)
    (linked : (linkedTicket t.mt5Ticket).isSome = true)
    (missing : ∃ r, (bridges t.tradeId).reply = .answered r ∧ r.hasError = true)
    (stuck : reachesLegs bridges db t = false) :
    applyPollAction (bridges t.tradeId) db (orphanClose view t) = db := by
  obtain ⟨r, answer, error⟩ := missing
  obtain ⟨ticket, linked⟩ := Option.isSome_iff_exists.mp linked
  have raises : ∀ tick, (getLadderLegs db t.tradeId).any LadderLeg.isOpen = false →
      closeOpenTrade db t "reconciled_broker_closed" tick (bridges t.tradeId).reply
        (bridges t.tradeId).legReply (bridges t.tradeId).now =
          .error (.rejected ticket (r.error.getD "")) := by
    intro tick flat
    simp [closeOpenTrade, flat, closePriceOf, linked, answer, closeReplyPrice, error, Except.map]
  rw [reachesLegs, Bool.and_eq_false_iff] at stuck
  rw [orphanClose, applyPollAction]
  simp only [closeTrade]
  cases tick : (bridges t.tradeId).tick with
  | raised => rfl
  | none =>
      have flat := stuck.resolve_right (by simp [tick])
      simp [Except.bind, found, isOpen, raises none flat]
  | value quote =>
      have flat := stuck.resolve_right (by simp [tick])
      simp [Except.bind, found, isOpen, raises (some quote) flat]

theorem orphanClose_of_legs (found : db.getTrade t.tradeId = some t) (isOpen : t.isOpen = true)
    (legs : reachesLegs bridges db t = true) :
    applyPollAction (bridges t.tradeId) db (orphanClose view t) =
      (closeAllLadderLegs t (bridges t.tradeId).legReply (bridges t.tradeId).now db t.tradeId
          (getLadderLegs db t.tradeId) "reconciled_broker_closed").setTrade t.tradeId
        (Trade.applyBrokerClosePnl (brokerNet view t) (exitPrice view t)) := by
  rw [reachesLegs, Bool.and_eq_true] at legs
  rw [orphanClose, applyPollAction]
  simp only [closeTrade]
  cases tick : (bridges t.tradeId).tick with
  | raised => exact absurd legs.2 (by simp [tick])
  | none => simp [Except.bind, found, isOpen, closeOpenTrade, legs.1]
  | value quote => simp [Except.bind, found, isOpen, closeOpenTrade, legs.1]

/-- What one row's turn does to the book. -/
structure OrphanTurn (bridges : Bridges) (view : PollView) (db db' : Db) (t : Trade) : Prop where
  row : db'.getTrade t.tradeId = some t ∧ reachesLegs bridges db t = false ∨
    reachesLegs bridges db t = true ∧ ∃ t', db'.getTrade t.tradeId = some t' ∧ t'.isOpen = false ∧
      t'.netPnl = brokerNet view t
  balance : db'.balance =
    db.balance + if reachesLegs bridges db t then legsMade bridges db t else 0
  net : db'.totalNetPnl =
    db.totalNetPnl + if reachesLegs bridges db t then brokerNet view t - t.netPnl else 0
  others : ∀ other, other ≠ t.tradeId →
    db'.getTrade other = db.getTrade other ∧ getLadderLegs db' other = getLadderLegs db other

theorem orphanClose_turn (found : db.getTrade t.tradeId = some t) (isOpen : t.isOpen = true)
    (linked : (linkedTicket t.mt5Ticket).isSome = true)
    (missing : ∃ r, (bridges t.tradeId).reply = .answered r ∧ r.hasError = true) :
    OrphanTurn bridges view db
      (applyPollAction (bridges t.tradeId) db (orphanClose view t)) t := by
  cases legs : reachesLegs bridges db t with
  | false =>
      rw [orphanClose_of_stuck found isOpen linked missing legs]
      refine ⟨.inl ⟨found, legs⟩, ?_, ?_, fun _ _ => ⟨rfl, rfl⟩⟩ <;> simp [legs]
  | true =>
      rw [orphanClose_of_legs found isOpen legs]
      obtain ⟨last, trades, -, balance, -⟩ := closeAllLadderLegs_spec t
        (bridges t.tradeId).legReply (bridges t.tradeId).now db t.tradeId
        (getLadderLegs db t.tradeId) "reconciled_broker_closed"
      have others := fun other ne => @closeAllLadderLegs_others t (bridges t.tradeId).legReply
        (bridges t.tradeId).now db "reconciled_broker_closed" other ne
      generalize closeAllLadderLegs t (bridges t.tradeId).legReply (bridges t.tradeId).now db
        t.tradeId (getLadderLegs db t.tradeId) "reconciled_broker_closed" = closed
        at trades balance others
      have written : (closed.setTrade t.tradeId
          (Trade.applyBrokerClosePnl (brokerNet view t) (exitPrice view t))).trades =
            db.trades.update t.tradeId
              ((Trade.applyBrokerClosePnl (brokerNet view t) (exitPrice view t)).comp
                (Trade.closeLadder (bridges t.tradeId).now last (legsMade bridges db t)
                  "reconciled_broker_closed")) := by
        rw [Db.setTrade, trades]
        exact Table.update_update _ _ _ _
      refine ⟨.inr ⟨legs, ?_⟩, ?_, ?_, ?_⟩
      · rw [Db.getTrade, written, Table.find_update_self, ← Db.getTrade, found]
        exact ⟨_, rfl, rfl, rfl⟩
      · rw [if_pos legs]
        change closed.balance = _
        rw [balance, legsMade]
        split
        · rfl
        · next none => rw [confirmedPnl_of_none _ _ (Bool.eq_false_iff.mpr none)]
      · -- the row's net profit is exchanged for the broker's
        have moved := Table.total_update found
          ((Trade.applyBrokerClosePnl (brokerNet view t) (exitPrice view t)).comp
            (Trade.closeLadder (bridges t.tradeId).now last (legsMade bridges db t)
              "reconciled_broker_closed")) Trade.netPnl
        rw [← written] at moved
        change _ = _ + brokerNet view t at moved
        rw [if_pos legs, Db.totalNetPnl, Db.totalNetPnl]
        linarith
      · intro other ne
        obtain ⟨trade, kept⟩ := others other ne
        refine ⟨?_, kept⟩
        rw [← trade]
        exact Table.find_update_of_ne _ _ ne

/-- A row the call comes to, whose own ticket the broker does not hold. -/
structure Strands (bridges : Bridges) (db : Db) (t : Trade) : Prop where
  found : db.getTrade t.tradeId = some t
  isOpen : t.isOpen = true
  linked : (linkedTicket t.mt5Ticket).isSome = true
  missing : ∃ r, (bridges t.tradeId).reply = .answered r ∧ r.hasError = true

/-- The turns of all rows: one leaves the others' rows and legs alone. -/
theorem closeOrphans_spec {ts : List Trade} (unique : (ts.map Trade.tradeId).Nodup)
    (strands : ∀ t ∈ ts, Strands bridges db t) :
    let db' := closeOrphans bridges db view ts
    (∀ t ∈ ts, db'.getTrade t.tradeId = some t ∧ reachesLegs bridges db t = false ∨
        reachesLegs bridges db t = true ∧ ∃ t', db'.getTrade t.tradeId = some t' ∧
          t'.isOpen = false ∧ t'.netPnl = brokerNet view t) ∧
      db'.balance = db.balance +
        (ts.map fun t => if reachesLegs bridges db t then legsMade bridges db t else 0).sum ∧
      db'.totalNetPnl = db.totalNetPnl +
        (ts.map fun t => if reachesLegs bridges db t then brokerNet view t - t.netPnl else 0).sum ∧
      ∀ other, other ∉ ts.map Trade.tradeId → db'.getTrade other = db.getTrade other := by
  induction ts generalizing db with
  | nil => simp [closeOrphans]
  | cons t ts ih =>
      rw [List.map_cons, List.nodup_cons] at unique
      rw [List.forall_mem_cons] at strands
      obtain ⟨first, rest⟩ := strands
      have turn := @orphanClose_turn bridges db view t first.found first.isOpen first.linked
        first.missing
      have apart : ∀ u ∈ ts, u.tradeId ≠ t.tradeId := fun u mem same =>
        unique.1 (same ▸ List.mem_map_of_mem mem)
      have next : closeOrphans bridges db view (t :: ts) = closeOrphans bridges
          (applyPollAction (bridges t.tradeId) db (orphanClose view t)) view ts := rfl
      rw [next]
      generalize applyPollAction (bridges t.tradeId) db (orphanClose view t) = mid at turn ⊢
      have legs : ∀ u ∈ ts, reachesLegs bridges mid u = reachesLegs bridges db u ∧
          legsMade bridges mid u = legsMade bridges db u := by
        intro u mem
        have kept := (turn.others u.tradeId (apart u mem)).2
        rw [reachesLegs, reachesLegs, legsMade, legsMade, kept]
        exact ⟨rfl, rfl⟩
      obtain ⟨rows, balance, net, others⟩ := ih unique.2 fun u mem =>
        ⟨(turn.others u.tradeId (apart u mem)).1.trans (rest u mem).found, (rest u mem).isOpen,
          (rest u mem).linked, (rest u mem).missing⟩
      have mine := others t.tradeId unique.1
      refine ⟨?_, ?_, ?_, ?_⟩
      · intro u mem
        cases List.mem_cons.mp mem with
        | inl same =>
            rw [same, mine]
            exact turn.row
        | inr later =>
            rw [← (legs u later).1]
            exact rows u later
      · rw [balance, turn.balance, List.map_cons, List.sum_cons, add_assoc]
        congr 2
        refine congrArg List.sum (List.map_congr_left fun u mem => ?_)
        rw [(legs u mem).1, (legs u mem).2]
      · rw [net, turn.net, List.map_cons, List.sum_cons, add_assoc]
        congr 2
        refine congrArg List.sum (List.map_congr_left fun u mem => ?_)
        rw [(legs u mem).1]
      · intro other out
        rw [List.map_cons, List.mem_cons, not_or] at out
        exact (others other out.2).trans (turn.others other out.1).1

end Call

/-- Every stranded row ends closed with its exit deals' money, and the balance
moves as the net profits do. -/
def Repairs (view : PollView) (now : ℚ) (db db' : Db) : Prop :=
  (∀ t ∈ stranded view now db, ∃ t', db'.getTrade t.tradeId = some t' ∧ t'.isOpen = false ∧
      t'.netPnl = brokerNet view t) ∧
    db'.balance - db.balance = db'.totalNetPnl - db.totalNetPnl

theorem afterReconcile_orphans (bridges : Bridges) (db : Db) (view : PollView) (ts : List Trade) :
    afterReconcile bridges db (ts.map (orphanClose view)) = closeOrphans bridges db view ts := by
  rw [afterReconcile, List.foldl_map]
  rfl

theorem orphans_eq_filter (view : PollView) (now : ℚ) (db : Db) :
    orphans view now db =
      (stranded view now db).filter fun t => decide (0 < exitPrice view t) := by
  rw [orphans, stranded, List.filter_filter]
  refine List.filter_congr fun t _ => ?_
  by_cases priced : 0 < exitPrice view t
  · -- the last exit deal is the one with a price
    have proved : ((exitDeals view t).any fun d => decide (0 < d.price)) = true := by
      rw [exitPrice] at priced
      cases last : (exitDeals view t).getLast? with
      | none =>
          rw [last] at priced
          exact absurd priced (lt_irrefl 0)
      | some d =>
          rw [last] at priced
          exact List.any_eq_true.mpr ⟨d, List.mem_of_getLast? last, decide_eq_true priced⟩
    rw [proved, decide_eq_true priced, Bool.and_true, Bool.true_and]
  · rw [decide_eq_false priced, Bool.and_false, Bool.false_and]

theorem mem_orphans {view : PollView} {now : ℚ} {db : Db} {t : Trade} :
    t ∈ orphans view now db ↔ t ∈ stranded view now db ∧ 0 < exitPrice view t := by
  rw [orphans_eq_filter, List.mem_filter, decide_eq_true_eq]

theorem strands_of_stranded {bridges : Bridges} {view : PollView} {now : ℚ} {db : Db} {t : Trade}
    (mem : t ∈ stranded view now db)
    (missing : ∃ r, (bridges t.tradeId).reply = .answered r ∧ r.hasError = true) :
    Strands bridges db t := by
  obtain ⟨listed, is⟩ := List.mem_filter.mp mem
  simp only [vanished, Bool.and_eq_true] at is
  obtain ⟨⟨⟨⟨isOpen, ticket⟩, -⟩, -⟩, -⟩ := is
  refine ⟨Table.find_eq_some_iff.mpr ⟨listed, rfl⟩, isOpen, ?_, missing⟩
  cases linked : t.mt5Ticket with
  | none => simp [linked] at ticket
  | some n =>
      have pos : 0 < n := by simpa [linked] using ticket
      simp [linkedTicket, pos.ne']

/-- A call repairs what it detects exactly when every stranded row has an open
ladder leg and a price on its last exit deal, the tick reads answer, and what
those legs make now is by chance the exit deals' money less the net profits
recorded before. -/
theorem stranded_repaired_iff (bridges : Bridges) (db : Db) (view : PollView) (now : ℚ)
    (missing : ∀ t ∈ stranded view now db,
      ∃ r, (bridges t.tradeId).reply = .answered r ∧ r.hasError = true) :
    Repairs view now db (afterReconcile bridges db (reconcileOrphanedTrades db view now)) ↔
      (∀ t ∈ stranded view now db,
        reachesLegs bridges db t = true ∧ 0 < exitPrice view t) ∧
        ((stranded view now db).map (legsMade bridges db)).sum =
          ((stranded view now db).map fun t => brokerNet view t - t.netPnl).sum := by
  have strands : ∀ t ∈ orphans view now db, Strands bridges db t := fun t mem =>
    strands_of_stranded (mem_orphans.mp mem).1 (missing t (mem_orphans.mp mem).1)
  have unique : ((orphans view now db).map Trade.tradeId).Nodup :=
    db.trades.unique.sublist (List.filter_sublist.map Trade.tradeId)
  rw [reconcileOrphanedTrades_eq, afterReconcile_orphans]
  obtain ⟨rows, balance, net, others⟩ := @closeOrphans_spec bridges db view _ unique strands
  generalize closeOrphans bridges db view (orphans view now db) = db' at rows balance net others
  -- when every stranded row is reached, the totals move by all of them
  have sums : (∀ t ∈ stranded view now db,
        reachesLegs bridges db t = true ∧ 0 < exitPrice view t) →
      db'.balance = db.balance + ((stranded view now db).map (legsMade bridges db)).sum ∧
      db'.totalNetPnl = db.totalNetPnl +
        ((stranded view now db).map fun t => brokerNet view t - t.netPnl).sum := by
    intro all
    have same : orphans view now db = stranded view now db := by
      rw [orphans_eq_filter, List.filter_eq_self]
      exact fun t mem => decide_eq_true (all t mem).2
    rw [balance, net, same]
    refine ⟨congrArg (_ + ·) (congrArg List.sum (List.map_congr_left fun t mem => ?_)),
      congrArg (_ + ·) (congrArg List.sum (List.map_congr_left fun t mem => ?_))⟩
    · exact if_pos (all t mem).1
    · exact if_pos (all t mem).1
  constructor
  · rintro ⟨closed, moved⟩
    have all : ∀ t ∈ stranded view now db,
        reachesLegs bridges db t = true ∧ 0 < exitPrice view t := by
      intro t mem
      obtain ⟨t', found, shut, -⟩ := closed t mem
      have here := strands_of_stranded mem (missing t mem)
      have untouched : db'.getTrade t.tradeId ≠ some t := by
        intro still
        rw [still] at found
        rw [← Option.some.inj found, here.isOpen] at shut
        exact absurd shut (by simp)
      by_cases orphan : t ∈ orphans view now db
      · cases rows t orphan with
        | inl stuck => exact absurd stuck.1 untouched
        | inr reached => exact ⟨reached.1, (mem_orphans.mp orphan).2⟩
      · refine absurd ((others t.tradeId ?_).trans here.found) untouched
        intro other
        obtain ⟨u, listed, same⟩ := List.mem_map.mp other
        have eq : u = t := Table.eq_of_mem_of_key (List.mem_filter.mp listed).1
          (List.mem_filter.mp mem).1 same
        exact orphan (eq ▸ listed)
    obtain ⟨moved', net'⟩ := sums all
    refine ⟨all, ?_⟩
    linarith
  · rintro ⟨all, same⟩
    obtain ⟨moved', net'⟩ := sums all
    refine ⟨?_, by linarith⟩
    intro t mem
    cases rows t (mem_orphans.mpr ⟨mem, (all t mem).2⟩) with
    | inl stuck => exact absurd ((all t mem).1.symm.trans stuck.2) (by simp)
    | inr reached => exact reached.2

/-- Ticket 7001 was stopped, and only 7002 is left. -/
def stoppedView : PollView :=
  { PollView.listing [.held 7002 1] with positionHistory := fun _ => .value [slDeal] }

def brokerWithout : Bridges := fun _ =>
  { quietEnv with reply := (Broker.obliging (Table.single ⟨7002, "t2", 1⟩)).replyTo 7001 }

theorem stranded_repaired_iff_stopped :
    Repairs stoppedView 1000 oneLotBook
        (afterReconcile brokerWithout oneLotBook
          (reconcileOrphanedTrades oneLotBook stoppedView 1000)) ↔
      (∀ t ∈ stranded stoppedView 1000 oneLotBook,
        reachesLegs brokerWithout oneLotBook t = true ∧ 0 < exitPrice stoppedView t) ∧
        ((stranded stoppedView 1000 oneLotBook).map (legsMade brokerWithout oneLotBook)).sum =
          ((stranded stoppedView 1000 oneLotBook).map fun t =>
            brokerNet stoppedView t - t.netPnl).sum :=
  stranded_repaired_iff brokerWithout oneLotBook stoppedView 1000 fun _ _ =>
    ⟨_, rfl, by decide⟩

/-- The broker does not find the position it is asked to close, so the row stays
open. -/
theorem stranded_row_stays_open :
    Trade.oneLot ∈ stranded stoppedView 1000 oneLotBook ∧
      ¬ Repairs stoppedView 1000 oneLotBook
        (afterReconcile brokerWithout oneLotBook
          (reconcileOrphanedTrades oneLotBook stoppedView 1000)) := by
  refine ⟨by decide +kernel, ?_⟩
  rintro ⟨closed, -⟩
  obtain ⟨t, found, shut, -⟩ := closed Trade.oneLot (by decide +kernel)
  have still : (afterReconcile brokerWithout oneLotBook
      (reconcileOrphanedTrades oneLotBook stoppedView 1000)).getTrade "t1" =
        some Trade.oneLot := by
    decide +kernel
  have same : Trade.oneLot = t := Option.some.inj (still.symm.trans found)
  rw [← same] at shut
  exact absurd shut (by decide)

end Forex
