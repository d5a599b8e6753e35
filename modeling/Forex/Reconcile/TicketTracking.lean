import Forex.Broker.Dedup
import Forex.Reconcile.SyncCycle

/-!
Which broker tickets the open rows track, over any run of sync cycles. A turn
may move a row to another live ticket, chosen by its volume alone; the end of a
cycle imports every live ticket it takes for unknown. Tickets stay apart as long
as neither picks a ticket that an open row already has a claim on.
-/

namespace Forex
open Support

namespace Db
variable (db : Db)

/-- No two open rows track one broker ticket. -/
def TicketsApart : Prop :=
  ∀ a ∈ db.trades.rows, ∀ b ∈ db.trades.rows, a.isOpen = true → b.isOpen = true →
    (linkedTicket a.mt5Ticket).isSome = true →
      linkedTicket a.mt5Ticket = linkedTicket b.mt5Ticket → a = b

instance : Decidable db.TicketsApart := inferInstanceAs (Decidable (∀ a ∈ db.trades.rows, _))

/-- An open row other than this one tracks the ticket. -/
def tracksElsewhere (tradeId : String) (ticket : ℤ) : Bool :=
  db.trades.rows.any fun t =>
    t.isOpen && decide (t.tradeId ≠ tradeId) && decide (linkedTicket t.mt5Ticket = some ticket)

/-- The position carries the order comment of the trade. -/
def bears (p : Position) (t : Trade) : Bool :=
  (dedupMatches (dedupPrefixes t.tradeId) p.comment).isSome

/-- An open row tracks the ticket, or a live position under it carries an open
row's comment. -/
def claims (positions : List Position) (ticket : ℤ) : Bool :=
  db.trades.rows.any fun t =>
    t.isOpen && (decide (linkedTicket t.mt5Ticket = some ticket) ||
      positions.any fun p => decide (p.ticket = ticket) && bears p t)

/-- One row is rewritten: it is open only if it was, and then under its ticket. -/
def Narrows (db db' : Db) : Prop :=
  ∃ id f, db'.trades = db.trades.update id f ∧
    ∀ t, (f t).isOpen = true → t.isOpen = true ∧ (f t).mt5Ticket = t.mt5Ticket

end Db

section Narrowing
variable {db db' : Db} {id : String} {f : Assign Trade.tradeId} {booked : List PartialClose}
  {moved : ℚ}

theorem Db.Narrows.refl (db : Db) : db.Narrows db :=
  ⟨"", Assign.skip, (db.trades.update_skip "").symm, fun _ isOpen => ⟨isOpen, rfl⟩⟩

theorem LedgerWrite.narrows (write : LedgerWrite db db' id f booked moved)
    (keeps : ∀ t, (f t).isOpen = true → t.isOpen = true ∧ (f t).mt5Ticket = t.mt5Ticket) :
    db.Narrows db' :=
  ⟨id, f, write.trades, keeps⟩

theorem Db.Narrows.apart (h : db.Narrows db') (apart : db.TicketsApart) : db'.TicketsApart := by
  obtain ⟨id, f, trades, keeps⟩ := h
  have before : ∀ r ∈ db'.trades.rows, r.isOpen = true → ∃ old ∈ db.trades.rows,
      old.isOpen = true ∧ r.mt5Ticket = old.mt5Ticket ∧
        r = if old.tradeId = id then f old else old := by
    intro r mem isOpen
    rw [trades] at mem
    obtain ⟨old, mem, same⟩ := Table.mem_update.mp mem
    by_cases mine : old.tradeId = id
    · rw [if_pos mine] at same
      rw [same] at isOpen ⊢
      obtain ⟨was, ticket⟩ := keeps old isOpen
      exact ⟨old, mem, was, ticket, (if_pos mine).symm⟩
    · rw [if_neg mine] at same
      exact ⟨old, mem, same ▸ isOpen, same ▸ rfl, by rw [if_neg mine, same]⟩
  intro a ha b hb openA openB linked shared
  obtain ⟨a0, memA, wasA, ticketA, rfl⟩ := before a ha openA
  obtain ⟨b0, memB, wasB, ticketB, rfl⟩ := before b hb openB
  rw [ticketA] at linked shared
  rw [ticketB] at shared
  rw [apart a0 memA b0 memB wasA wasB linked shared]

theorem Db.Narrows.keys (h : db.Narrows db') :
    db'.trades.rows.map Trade.tradeId = db.trades.rows.map Trade.tradeId := by
  obtain ⟨id, f, trades, -⟩ := h
  rw [trades]
  exact Table.keys_update _ _ _

/-- A partial close rewrites its own row. -/
theorem partialWrite_trades (w : PartialWrite) (db : Db) :
    ∃ f, (w.apply db).trades = db.trades.update w.row.tradeId f ∧
      ∀ t, (f t).isOpen = true → t.isOpen = true ∧ (f t).mt5Ticket = t.mt5Ticket := by
  cases known : db.alreadyRecorded w.booking with
  | true =>
      rw [PartialWrite.apply_of_recorded known]
      exact ⟨Assign.skip, (Table.update_skip _ _).symm, fun _ isOpen => ⟨isOpen, rfl⟩⟩
  | false =>
      refine ⟨_, (PartialWrite.apply_of_new known).trades, ?_⟩
      intro t isOpen
      rw [Trade.afterPartial] at isOpen ⊢
      split_ifs at isOpen ⊢
      · exact absurd isOpen (by simp [Trade.closeAllTpsHit, Trade.isOpen])
      · exact absurd isOpen (by simp [Trade.closeAllTpsHit, Trade.isOpen])
      · exact ⟨isOpen, rfl⟩
      · exact ⟨isOpen, rfl⟩

theorem partialWrite_narrows (w : PartialWrite) (db : Db) : db.Narrows (w.apply db) := by
  obtain ⟨f, trades, keeps⟩ := partialWrite_trades w db
  exact ⟨w.row.tradeId, f, trades, keeps⟩

theorem partialWrite_tracksElsewhere (w : PartialWrite) {db : Db} {ticket : ℤ}
    (free : db.tracksElsewhere w.row.tradeId ticket = false) :
    (w.apply db).tracksElsewhere w.row.tradeId ticket = false := by
  obtain ⟨f, trades, -⟩ := partialWrite_trades w db
  rw [Db.tracksElsewhere, List.any_eq_false] at free ⊢
  intro t mem
  rw [trades] at mem
  obtain ⟨old, mem, same⟩ := Table.mem_update.mp mem
  by_cases mine : old.tradeId = w.row.tradeId
  · rw [if_pos mine] at same
    simp [same, mine]
  · rw [if_neg mine] at same
    exact same ▸ free old mem

theorem recordClose_narrows (db : Db) (tradeId : String) (price : ℚ) (reason : String) (now : ℚ) :
    db.Narrows (recordCloseNow db tradeId price reason now) := by
  cases recordCloseNow_cases db tradeId price reason now with
  | inl same =>
      rw [same]
      exact .refl db
  | inr closed =>
      obtain ⟨row, gross, realised, net, moved, -, -, write⟩ := closed
      refine write.narrows ?_
      intro t isOpen
      exact absurd isOpen (by simp [Trade.closeFully, Trade.isOpen])

theorem syncProfit_narrows (env : PollEnv) (db : Db) (tradeId : String) (ticket : ℤ) :
    db.Narrows (applyPollAction env db (.syncProfit tradeId ticket)) := by
  rw [applyPollAction]
  split
  · exact .refl db
  · refine (applyProfitSync_spec db _ _ _ _).narrows ?_
    intro t isOpen
    rw [Trade.afterSync] at isOpen ⊢
    split_ifs at isOpen ⊢ <;> exact ⟨isOpen, rfl⟩

/-- A row moves to a ticket that no other open row tracks. -/
theorem Db.TicketsApart.reassign {tradeId : String} {ticket : ℤ} (apart : db.TicketsApart)
    (free : db.tracksElsewhere tradeId ticket = false) :
    (db.setTrade tradeId (Trade.reassignMt5Ticket ticket)).TicketsApart := by
  have away : ∀ t ∈ db.trades.rows, t.isOpen = true → t.tradeId ≠ tradeId →
      (linkedTicket (some ticket)).isSome = true →
        linkedTicket t.mt5Ticket ≠ linkedTicket (some ticket) := by
    intro t mem isOpen other linked same
    obtain ⟨n, is⟩ := Option.isSome_iff_exists.mp linked
    have ticket_eq : n = ticket := (Option.some.inj (Option.filter_eq_some_iff.mp is).1).symm
    rw [Db.tracksElsewhere, List.any_eq_false] at free
    refine free t mem ?_
    rw [same, is, ticket_eq, isOpen, decide_eq_true other]
    simp
  intro a ha b hb openA openB linked shared
  obtain ⟨a0, memA, rfl⟩ := Table.mem_update.mp ha
  obtain ⟨b0, memB, rfl⟩ := Table.mem_update.mp hb
  by_cases mineA : a0.tradeId = tradeId
  · by_cases mineB : b0.tradeId = tradeId
    · rw [Table.eq_of_mem_of_key memA memB (mineA.trans mineB.symm)]
    · rw [if_neg mineB] at openB shared
      rw [if_pos mineA] at linked shared
      exact absurd shared.symm (away b0 memB openB mineB linked)
  · rw [if_neg mineA] at openA linked shared
    by_cases mineB : b0.tradeId = tradeId
    · rw [if_pos mineB] at shared
      exact absurd shared (away a0 memA openA mineA (shared ▸ linked))
    · rw [if_neg mineB] at openB shared
      rw [if_neg mineA, if_neg mineB]
      exact apart a0 memA b0 memB openA openB linked shared

end Narrowing

section Importing
variable {env : PollEnv} {db db' : Db} {known : List ℤ} {positions : List Position}

/-- An import adds one open row under the position's ticket. -/
theorem importDirect_rows {p : Position} (imported : importDirectMt5Position db env p = some db') :
    p.sl ≠ 0 ∧ ∃ t, t.mt5Ticket = some p.ticket ∧ db'.trades.rows = db.trades.rows ++ [t] := by
  rw [importDirectMt5Position] at imported
  split at imported
  · exact absurd imported (by simp)
  · next trades inserted =>
      split at imported
      · exact absurd imported (by simp)
      · next stop =>
          rw [← Option.some.inj imported]
          exact ⟨stop, _, rfl, (Table.insert_eq_some inserted).2⟩

/-- The rows an import adds are those of positions it did not know. -/
theorem importUntracked_rows {r : Trade}
    (mem : r ∈ (importUntracked env db known positions).trades.rows) :
    r ∈ db.trades.rows ∨
      ∃ p ∈ positions, p.ticket ∉ known ∧ p.sl ≠ 0 ∧ r.mt5Ticket = some p.ticket := by
  induction positions generalizing db known with
  | nil => exact .inl mem
  | cons p ps ih =>
      rw [importUntracked] at mem
      have later : ∀ {known' : List ℤ}, known ⊆ known' →
          (∃ q ∈ ps, q.ticket ∉ known' ∧ q.sl ≠ 0 ∧ r.mt5Ticket = some q.ticket) →
          ∃ q ∈ p :: ps, q.ticket ∉ known ∧ q.sl ≠ 0 ∧ r.mt5Ticket = some q.ticket := by
        rintro known' sub ⟨q, mem, unknown, rest⟩
        exact ⟨q, List.mem_cons_of_mem p mem, fun h => unknown (sub h), rest⟩
      split at mem
      · exact (ih mem).imp id (later (List.Subset.refl known))
      · next unknown =>
          split at mem
          · next db' imported =>
              obtain ⟨stop, t, ticket, rows⟩ := importDirect_rows imported
              cases ih mem with
              | inr new => exact .inr (later (List.subset_cons_self p.ticket known) new)
              | inl old =>
                  rw [rows, List.mem_append, List.mem_singleton] at old
                  refine old.imp id fun same => ?_
                  exact ⟨p, List.mem_cons_self, unknown, stop, same ▸ ticket⟩
          · exact (ih mem).imp id (later (List.Subset.refl known))

/-- A row is added under a ticket that no open row tracks. -/
theorem Db.TicketsApart.append {t : Trade} (apart : db.TicketsApart)
    (rows : db'.trades.rows = db.trades.rows ++ [t])
    (free : ∀ r ∈ db.trades.rows, r.isOpen = true →
      linkedTicket r.mt5Ticket = linkedTicket t.mt5Ticket → linkedTicket t.mt5Ticket = none) :
    db'.TicketsApart := by
  intro a ha b hb openA openB linked shared
  rw [rows, List.mem_append, List.mem_singleton] at ha hb
  cases ha with
  | inl oldA =>
      cases hb with
      | inl oldB => exact apart a oldA b oldB openA openB linked shared
      | inr newB =>
          rw [newB] at shared
          rw [shared, free a oldA openA shared] at linked
          exact absurd linked (by simp)
  | inr newA =>
      cases hb with
      | inl oldB =>
          rw [newA] at shared linked
          rw [free b oldB openB shared.symm] at linked
          exact absurd linked (by simp)
      | inr newB => rw [newA, newB]

/-- An import of unknown positions none of which an open row tracks. -/
theorem importUntracked_apart (apart : db.TicketsApart)
    (free : ∀ p ∈ positions, p.sl ≠ 0 → p.ticket ∉ known →
      ∀ t ∈ db.trades.rows, t.isOpen = true → linkedTicket t.mt5Ticket ≠ some p.ticket) :
    (importUntracked env db known positions).TicketsApart := by
  induction positions generalizing db known with
  | nil => exact apart
  | cons p ps ih =>
      rw [List.forall_mem_cons] at free
      rw [importUntracked]
      split
      · exact ih apart free.2
      · next unknown =>
          split
          · next db' imported =>
              obtain ⟨stop, t, ticket, rows⟩ := importDirect_rows imported
              have mine : ∀ n, linkedTicket t.mt5Ticket = some n → n = p.ticket := by
                intro n linked
                rw [ticket, linkedTicket, Option.filter_eq_some_iff] at linked
                exact (Option.some.inj linked.1).symm
              refine ih (apart.append rows ?_) ?_
              · intro r old isOpen same
                cases linked : linkedTicket t.mt5Ticket with
                | none => rfl
                | some n =>
                    rw [mine n linked] at linked
                    exact absurd (same.trans linked) (free.1 stop unknown r old isOpen)
              · intro q mem stop' unknown' r listed isOpen
                rw [List.mem_cons, not_or] at unknown'
                rw [rows, List.mem_append, List.mem_singleton] at listed
                cases listed with
                | inl old => exact free.2 q mem stop' unknown'.2 r old isOpen
                | inr new =>
                    intro linked
                    rw [new] at linked
                    exact unknown'.1 (mine _ linked)
          · exact ih apart free.2

end Importing

namespace SyncDesk
variable (threshold : ℕ) (s : SyncDesk)

/-- A row is moved only to a ticket no other open row tracks, and every live
ticket that an open row has a claim on is known at the import. -/
def Unclaimed : SyncStep → Prop
  | .fetch _ => True
  | .visit view _ written =>
      written = .through → ∀ turn ∈ s.due threshold view, PartlyClosed turn.2.1 turn.2.2 →
        ∀ p ∈ continuation turn.1.positions turn.2.1 turn.2.2,
          s.db.tracksElsewhere turn.2.1.tradeId p.ticket = false
  | .finish env =>
      ∀ pass ∈ s.pass, pass.trades = [] → ∀ p ∈ pass.positions, p.sl ≠ 0 →
        s.db.claims pass.positions p.ticket = true → p.ticket ∈ knownTickets env s.db

instance : (a : SyncStep) → Decidable (s.Unclaimed threshold a)
  | .fetch _ => isTrue True.intro
  | .visit _ _ _ => inferInstanceAs (Decidable (_ → _))
  | .finish _ => inferInstanceAs (Decidable (∀ pass ∈ s.pass, _))

/-- A row the step adds is for no live position that carries an open row's
comment. -/
def ImportsStrangers (a : SyncStep) : Prop :=
  ∀ r ∈ (s.step threshold a).db.trades.rows, r.tradeId ∉ s.db.trades.rows.map Trade.tradeId →
    ∀ pass ∈ s.pass, ∀ p ∈ pass.positions, r.mt5Ticket = some p.ticket →
      ∀ t ∈ s.db.trades.rows, t.isOpen = true → Db.bears p t = false

instance (a : SyncStep) : Decidable (s.ImportsStrangers threshold a) :=
  inferInstanceAs (Decidable (∀ r ∈ (s.step threshold a).db.trades.rows, _))

variable {threshold s}

/-- A turn adds no row and keeps the tickets apart. -/
theorem visit_apart {view : PollView} {env : PollEnv} {written : Written}
    (unclaimed : s.Unclaimed threshold (.visit view env written)) :
    (s.db.TicketsApart → (s.visit threshold view env written).db.TicketsApart) ∧
      (s.visit threshold view env written).db.trades.rows.map Trade.tradeId =
        s.db.trades.rows.map Trade.tradeId := by
  cases due : s.due threshold view with
  | none =>
      rw [visit_db, due]
      exact ⟨id, rfl⟩
  | some turn =>
      obtain ⟨pass, trade, deals⟩ := turn
      by_cases refused : written = .refused
      · rw [visit_db, due, refused]
        exact ⟨id, rfl⟩
      · have settled : Settled pass.positions trade deals env written s.db
            (s.visit threshold view env written).db := visit_settled due refused
        revert settled
        generalize (s.visit threshold view env written).db = db'
        intro settled
        cases settled with
        | kept => exact ⟨id, rfl⟩
        | partly w short read isOpen lots =>
            exact ⟨(partialWrite_narrows w s.db).apart, (partialWrite_narrows w s.db).keys⟩
        | moved w p short read isOpen lots found linked =>
            have key : w.row.tradeId = trade.tradeId := Table.key_of_find read
            have free := unclaimed linked (pass, trade, deals) due short p found
            rw [← key] at free ⊢
            refine ⟨?_, ?_⟩
            · intro apart
              exact ((partialWrite_narrows w s.db).apart apart).reassign
                (partialWrite_tracksElsewhere w free)
            · rw [← (partialWrite_narrows w s.db).keys]
              exact Table.keys_update _ _ _
        | fully price reason whole =>
            have closed := recordClose_narrows s.db trade.tradeId price reason env.now
            have synced := syncProfit_narrows env
              (recordCloseNow s.db trade.tradeId price reason env.now) trade.tradeId
              (trade.mt5Ticket.getD 0)
            exact ⟨fun apart => synced.apart (closed.apart apart), synced.keys.trans closed.keys⟩

theorem finish_apart {env : PollEnv} (unclaimed : s.Unclaimed threshold (.finish env))
    (apart : s.db.TicketsApart) : (s.finish env).db.TicketsApart := by
  rw [finish]
  split
  · next positions week tick pass =>
      refine importUntracked_apart apart ?_
      intro p mem stop unknown t listed isOpen linked
      refine unknown (unclaimed _ pass rfl p mem stop ?_)
      exact List.any_eq_true.mpr ⟨t, listed, by simp [isOpen, linked]⟩
  · exact apart

theorem finish_importsStrangers {env : PollEnv}
    (unclaimed : s.Unclaimed threshold (.finish env)) :
    s.ImportsStrangers threshold (.finish env) := by
  intro r mem new pass under p listed ticket t row isOpen
  have old : r ∉ s.db.trades.rows := fun h => new (List.mem_map_of_mem h)
  rw [step, finish] at mem
  split at mem
  · next positions week tick pass' =>
      rw [pass'] at under
      rw [← Option.some.inj under] at listed
      cases importUntracked_rows mem with
      | inl known => exact absurd known old
      | inr imported =>
          obtain ⟨q, at_, unknown, stop, same⟩ := imported
          have shared : p.ticket = q.ticket := Option.some.inj (ticket.symm.trans same)
          rw [Bool.eq_false_iff]
          intro bears
          refine unknown (unclaimed _ pass' rfl q at_ stop (List.any_eq_true.mpr ⟨t, row, ?_⟩))
          have found : positions.any (fun p => decide (p.ticket = q.ticket) && Db.bears p t) =
              true := List.any_eq_true.mpr ⟨p, listed, by simp [shared, bears]⟩
          simp only [isOpen, found, Bool.or_true, Bool.and_self]
  · exact absurd mem old

theorem step_apart (apart : s.db.TicketsApart) (a : SyncStep)
    (unclaimed : s.Unclaimed threshold a) : (s.step threshold a).db.TicketsApart := by
  cases a with
  | fetch view =>
      rw [step, fetch_db]
      exact apart
  | visit view env written => exact (visit_apart unclaimed).1 apart
  | finish env => exact finish_apart unclaimed apart

theorem step_importsStrangers (a : SyncStep) (unclaimed : s.Unclaimed threshold a) :
    s.ImportsStrangers threshold a := by
  cases a with
  | fetch view =>
      intro r mem new
      rw [step, fetch_db] at mem
      exact absurd (List.mem_map_of_mem mem) new
  | visit view env written =>
      intro r mem new
      have keys := (visit_apart unclaimed).2
      exact absurd (keys ▸ List.mem_map_of_mem mem) new
  | finish env => exact finish_importsStrangers unclaimed

/-- Over any run of sync cycles that moves no row to another row's ticket and
knows every claimed ticket when it imports, no two open rows ever track one
ticket, and no position that carries an open row's comment is imported. -/
theorem tickets_stay_apart (threshold : ℕ) (db : Db) (streak : String → ℕ) (run : List SyncStep)
    (apart : db.TicketsApart)
    (unclaimed : Meets (SyncDesk.step threshold) (Unclaimed threshold) ⟨db, streak, none⟩ run) :
    (∀ s ∈ states (SyncDesk.step threshold) ⟨db, streak, none⟩ run, s.db.TicketsApart) ∧
      Meets (SyncDesk.step threshold) (ImportsStrangers threshold) ⟨db, streak, none⟩ run :=
  ⟨states_invariant (I := fun s => s.db.TicketsApart)
      (fun _ a apart unclaimed => step_apart apart a unclaimed) apart unclaimed,
    meets_of_invariant (I := fun s => s.db.TicketsApart)
      (fun _ a apart unclaimed => step_apart apart a unclaimed)
      (fun _ a _ unclaimed => step_importsStrangers a unclaimed) apart unclaimed⟩

/-- A whole cycle for so many trades, against these positions and this history. -/
def cycle (env : PollEnv) (trades : ℕ) (positions : List Position) (history : List Deal) :
    List SyncStep :=
  let view := { PollView.listing positions with positionHistory := fun _ => .value history }
  .fetch view :: List.replicate trades (.visit view env .through) ++ [.finish env]

/-- A stranger is imported, and the row goes on under the ticket of its rest. -/
theorem tickets_stay_apart_moved :
    let run := cycle quietEnv 1 [.held 7001 1, .held 7009 1] [] ++
      cycle quietEnv 2 [.held 7009 1] [] ++
      cycle quietEnv 2 [.held 7009 1, .held 7003 (7 / 10)] [tpDeal]
    (∀ s ∈ states (SyncDesk.step 2) ⟨oneLotBook, fun _ => 0, none⟩ run, s.db.TicketsApart) ∧
      Meets (SyncDesk.step 2) (ImportsStrangers 2) ⟨oneLotBook, fun _ => 0, none⟩ run :=
  tickets_stay_apart 2 oneLotBook _ _ (by decide) (by decide +kernel)

end SyncDesk

/-- A trade of 0.7 lots beside the one of one lot. -/
def Trade.sevenTenths : Trade :=
  { Trade.oneLot with tradeId := "t2", mt5Ticket := some 7002, lotSize := 7 / 10,
                      remainingLots := 7 / 10 }

def sevenTenthsBook : Db :=
  { oneLotBook with trades := ⟨[Trade.oneLot, Trade.sevenTenths], by decide⟩ }

/-- A grid whose first leg is its row's ticket. -/
def gridBook : Db :=
  { oneLotBook with
    trades := ⟨[Trade.oneLot, { Trade.oneLot with
      tradeId := "g1", mt5Ticket := some 7002, managedBy := .ea, strategy := .template "grid" }],
      by decide⟩ }

/-- When the query for the known tickets fails, a tracked ticket is imported
again; a row moves to another trade's ticket of the same volume; and the second
leg of a grid is imported as a trade. -/
theorem claimed_tickets_taken :
    (¬ ∀ s ∈ states (SyncDesk.step 2) ⟨oneLotBook, fun _ => 0, none⟩
        (SyncDesk.cycle { quietEnv with knownReadable := false } 1 [.held 7001 1] []),
      s.db.TicketsApart) ∧
    (¬ ∀ s ∈ states (SyncDesk.step 2) ⟨sevenTenthsBook, fun _ => 0, none⟩
        (SyncDesk.cycle quietEnv 2 [.held 7002 (7 / 10)] [tpDeal] ++
          SyncDesk.cycle quietEnv 2 [.held 7002 (7 / 10)] [tpDeal]),
      s.db.TicketsApart) ∧
    ¬ Meets (SyncDesk.step 2) (SyncDesk.ImportsStrangers 2) ⟨gridBook, fun _ => 0, none⟩
      (SyncDesk.cycle quietEnv 1
        [.held 7001 1, .held 7002 1, { Position.held 7003 1 with comment := "ea:g1" }] []) := by
  refine ⟨?_, ?_, ?_⟩ <;> decide +kernel

end Forex
