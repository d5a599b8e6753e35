import Forex.Reconcile.SyncCycle

/-!
The miss streak of one trade over any run of sync cycles, with whatever the
other services do to the database in between. Next to the machine stands the
history of the position reads that succeeded, newest first, each by whether it
lacked the trade's ticket.
-/

namespace Forex
open Support

/-- The row's ticket is not among the positions. -/
def Db.ticketMissing (db : Db) (tradeId : String) (positions : List Position) : Bool :=
  (db.getTrade tradeId).all fun t => decide (t.mt5Ticket.getD 0 ∉ positions.map Position.ticket)

structure MissWatch where
  desk : SyncDesk
  /-- Whether each successful read lacked the ticket, newest first. -/
  missed : List Bool

inductive MissStep where
  | sync (a : SyncStep)
  /-- Another service writes. -/
  | other (db : Db)

namespace MissWatch
variable (threshold : ℕ) (tradeId : String) (s : MissWatch)

def start (db : Db) : MissWatch := ⟨⟨db, fun _ => 0, none⟩, []⟩

/-- The read a fetch makes, if its cycle makes one that succeeds. -/
def reads (view : PollView) : Option (List Position) :=
  match s.desk.pass with
  | none => readPositions s.desk.db view
  | some _ => none

def noted : SyncStep → List Bool
  | .fetch view =>
      match s.reads view with
      | some positions => s.desk.db.ticketMissing tradeId positions :: s.missed
      | none => s.missed
  | _ => s.missed

def step : MissStep → MissWatch
  | .sync a => ⟨s.desk.step threshold a, s.noted tradeId a⟩
  | .other db => { s with desk := { s.desk with db := db } }

/-- The trade is the next of the cycle's loop. -/
def onTurn : Option (SyncPass × Trade) :=
  match s.desk.pass with
  | some ⟨trade :: rest, positions, week, tick⟩ =>
      if trade.tradeId = tradeId then some (⟨trade :: rest, positions, week, tick⟩, trade) else none
  | _ => none

/-- The step books the trade partly or fully closed. -/
def books : MissStep → Bool
  | .sync (.visit view _ _) =>
      (s.onTurn tradeId).any fun turn =>
        (s.desk.settle threshold turn.1 view turn.2).1.actions.any PollAction.closes
  | _ => false

/-- How many reads in a row, counted from the last, lacked the ticket. -/
def missesInARow : ℕ := (s.missed.takeWhile id).length

/-- A booking is made only when this cycle's read and as many before it as the
threshold asks for all lacked the ticket. -/
def Patient (a : MissStep) : Prop :=
  s.books threshold tradeId a = true → 1 ≤ s.missesInARow ∧ threshold ≤ s.missesInARow

instance (a : MissStep) : Decidable (s.Patient threshold tradeId a) :=
  inferInstanceAs (Decidable (_ → _))

/-- The cycle's read shows the trade's ticket, and its loop will not come to
the trade: the trade is not among those fetched, a read before the loop raises,
or the loop is left at an earlier trade. -/
def passedBy : MissStep → Bool
  | .sync (.fetch view) =>
      (s.reads view).any fun positions =>
        !s.desk.db.ticketMissing tradeId positions &&
          !((readDeals view).isSome &&
            (fetchPythonManagedOpenTrades s.desk.db).any fun t => decide (t.tradeId = tradeId))
  | .sync (.visit view _ _) =>
      match s.desk.pass with
      | some ⟨trade :: rest, positions, week, tick⟩ =>
          (s.missed.head? == some false) &&
            rest.any (fun t => decide (t.tradeId = tradeId)) &&
            !(s.desk.settle threshold ⟨trade :: rest, positions, week, tick⟩ view trade).2
      | _ => false
  | _ => false

/-- No cycle that reads the ticket as present passes by a trade that has a
streak. -/
def Attended (a : MissStep) : Prop :=
  s.passedBy threshold tradeId a = true → s.desk.streak tradeId = 0

instance (a : MissStep) : Decidable (s.Attended threshold tradeId a) :=
  inferInstanceAs (Decidable (_ → _))

/-- A trade whose turn is still to come in this cycle has a streak of the reads
before this one's; any other has a streak of the reads so far. -/
structure Counted (tradeId : String) (s : MissWatch) : Prop where
  unique : ∀ pass ∈ s.desk.pass, (pass.trades.map Trade.tradeId).Nodup
  waiting : ∀ pass ∈ s.desk.pass, ∀ trade ∈ pass.trades, trade.tradeId = tradeId →
    ∃ before, s.missed =
        decide (trade.mt5Ticket.getD 0 ∉ pass.positions.map Position.ticket) :: before ∧
      s.desk.streak tradeId ≤ (before.takeWhile id).length
  settled : (∀ pass ∈ s.desk.pass, ∀ trade ∈ pass.trades, trade.tradeId ≠ tradeId) →
    s.desk.streak tradeId ≤ s.missesInARow

variable {threshold tradeId s}

theorem Counted.start (db : Db) : Counted tradeId (start db) where
  unique := by simp [MissWatch.start]
  waiting := by simp [MissWatch.start]
  settled _ := Nat.zero_le _

/-- A read that lacks the ticket lengthens the row of misses; one that shows it
ends the row. -/
theorem streak_le_noted {missing : Bool} {missed : List Bool} {n : ℕ}
    (le : n ≤ (missed.takeWhile id).length) (shown : missing = false → n = 0) :
    n ≤ ((missing :: missed).takeWhile id).length := by
  cases missing with
  | true =>
      rw [List.takeWhile_cons]
      exact le.trans (Nat.le_succ _)
  | false =>
      rw [shown rfl]
      exact Nat.zero_le _

theorem ticketMissing_of_fetched {db : Db} {trade : Trade} (positions : List Position)
    (fetched : trade ∈ fetchPythonManagedOpenTrades db) :
    db.ticketMissing trade.tradeId positions =
      decide (trade.mt5Ticket.getD 0 ∉ positions.map Position.ticket) := by
  have found : db.getTrade trade.tradeId = some trade :=
    Table.find_eq_some_iff.mpr ⟨(List.mem_filter.mp fetched).1, rfl⟩
  rw [Db.ticketMissing, found]
  rfl

theorem Counted.fetch (h : Counted tradeId s) {view : PollView}
    (attended : s.Attended threshold tradeId (.sync (.fetch view))) :
    Counted tradeId (s.step threshold tradeId (.sync (.fetch view))) := by
  rw [Attended, passedBy] at attended
  simp only [step, SyncDesk.step, SyncDesk.fetch, noted]
  cases pass : s.desk.pass with
  | some p =>
      have unread : s.reads view = none := by simp only [reads, pass]
      simp only [unread]
      exact h
  | none =>
      have read : s.reads view = readPositions s.desk.db view := by simp only [reads, pass]
      rw [read] at attended ⊢
      cases seen : readPositions s.desk.db view with
      | none => exact h
      | some positions =>
          rw [seen, Option.any_some, Bool.and_eq_true] at attended
          have old : s.desk.streak tradeId ≤ (s.missed.takeWhile id).length :=
            h.settled (by simp [pass])
          cases deals : readDeals view with
          | none =>
              refine ⟨by simp [pass], by simp [pass], fun _ => streak_le_noted old ?_⟩
              intro shown
              exact attended ⟨by simp [shown], by simp [deals]⟩
          | some read =>
              refine ⟨?_, ?_, ?_⟩
              · intro p mem
                rw [← Option.some.inj mem]
                exact s.desk.db.trades.unique.sublist (List.filter_sublist.map Trade.tradeId)
              · intro p mem trade fetched mine
                rw [← Option.some.inj mem] at fetched ⊢
                subst mine
                have noted := ticketMissing_of_fetched positions fetched
                exact ⟨s.missed, congrArg (· :: s.missed) noted, old⟩
              · intro absent
                refine streak_le_noted old ?_
                intro shown
                refine attended ⟨by simp [shown], ?_⟩
                have unlisted := absent _ rfl
                simpa [deals] using unlisted

/-- On the trade's own turn a missing ticket adds this read to the row. -/
theorem Counted.ownTurn (h : Counted tradeId s) {trade : Trade} {rest : List Trade}
    {positions : List Position} {week : List Deal} {tick : Option Tick}
    (pass : s.desk.pass = some ⟨trade :: rest, positions, week, tick⟩)
    (turn : trade.tradeId = tradeId) (view : PollView) (env : PollEnv) (written : Written) :
    (s.desk.visit threshold view env written).streak tradeId ≤ s.missesInARow := by
  subst turn
  obtain ⟨-, seen, grows, -⟩ := @SyncDesk.visit_streak threshold _ _ _ _ _ _ pass view env written
  obtain ⟨before, noted, le⟩ := h.waiting _ pass trade List.mem_cons_self rfl
  rw [missesInARow, noted]
  by_cases shown : trade.mt5Ticket.getD 0 ∈ positions.map Position.ticket
  · rw [seen shown]
    exact Nat.zero_le _
  · rw [decide_eq_true shown, List.takeWhile_cons]
    exact grows.trans (Nat.succ_le_succ le)

/-- A loop left before the trade's turn has not counted this read. -/
theorem Counted.leftOut (h : Counted tradeId s) {trade other : Trade} {rest : List Trade}
    {positions : List Position} {week : List Deal} {tick : Option Tick}
    (pass : s.desk.pass = some ⟨trade :: rest, positions, week, tick⟩)
    (listed : other ∈ rest) (mine : other.tradeId = tradeId)
    (shown : s.missed.head? = some false → s.desk.streak tradeId = 0) :
    s.desk.streak tradeId ≤ s.missesInARow := by
  obtain ⟨before, noted, le⟩ := h.waiting _ pass other (List.mem_cons_of_mem trade listed) mine
  rw [missesInARow, noted]
  refine streak_le_noted le fun present => shown ?_
  rw [noted, present]
  rfl

theorem Counted.visit (h : Counted tradeId s) {view : PollView} {env : PollEnv} {written : Written}
    (attended : s.Attended threshold tradeId (.sync (.visit view env written))) :
    Counted tradeId (s.step threshold tradeId (.sync (.visit view env written))) := by
  rw [Attended, passedBy] at attended
  cases pass : s.desk.pass with
  | none =>
      simp only [step, SyncDesk.step, SyncDesk.visit, noted, pass]
      exact h
  | some p =>
      obtain ⟨trades, positions, week, tick⟩ := p
      cases trades with
      | nil =>
          simp only [step, SyncDesk.step, SyncDesk.visit, noted, pass]
          exact h
      | cons trade rest =>
          simp only [pass, Bool.and_eq_true, beq_iff_eq] at attended
          obtain ⟨others, seen, grows, next⟩ := SyncDesk.visit_streak pass view env written
          have unique := h.unique _ pass
          rw [List.map_cons, List.nodup_cons] at unique
          have shorter : ∀ q ∈ (s.desk.visit threshold view env written).pass,
              q = ⟨rest, positions, week, tick⟩ := by
            intro q mem
            rw [next] at mem
            split at mem
            · exact (Option.some.inj mem).symm
            · exact absurd mem (by simp)
          refine ⟨?_, ?_, ?_⟩
          · intro q mem
            rw [shorter q mem]
            exact unique.2
          · intro q mem other listed mine
            rw [shorter q mem] at listed ⊢
            have ne : tradeId ≠ trade.tradeId := by
              intro same
              exact unique.1 (same ▸ mine ▸ List.mem_map_of_mem listed)
            obtain ⟨before, noted, le⟩ :=
              h.waiting _ pass other (List.mem_cons_of_mem trade listed) mine
            exact ⟨before, noted, (others tradeId ne).trans_le le⟩
          · intro absent
            change (s.desk.visit threshold view env written).streak tradeId ≤ s.missesInARow
            by_cases turn : trade.tradeId = tradeId
            · exact h.ownTurn pass turn view env written
            · rw [others tradeId (Ne.symm turn)]
              by_cases later : ∃ other ∈ rest, other.tradeId = tradeId
              · obtain ⟨other, listed, mine⟩ := later
                refine h.leftOut pass listed mine fun present => attended ⟨⟨present, ?_⟩, ?_⟩
                · exact List.any_eq_true.mpr ⟨other, listed, decide_eq_true mine⟩
                · -- were the loop to go on, the trade would still be waiting
                  rw [Bool.not_eq_true']
                  by_contra goes
                  rw [Bool.not_eq_false] at goes
                  exact absent _ (next.trans (if_pos goes)) other listed mine
              · refine h.settled ?_
                intro q mem other listed mine
                rw [pass] at mem
                rw [← Option.some.inj mem] at listed
                cases List.mem_cons.mp listed with
                | inl same => exact turn (same ▸ mine)
                | inr listed => exact later ⟨other, listed, mine⟩

theorem Counted.finish (h : Counted tradeId s) {env : PollEnv} :
    Counted tradeId (s.step threshold tradeId (.sync (.finish env))) := by
  simp only [step, SyncDesk.step, SyncDesk.finish, noted]
  split
  · next positions week tick pass =>
      refine ⟨by simp, by simp, fun _ => h.settled ?_⟩
      intro p mem trade listed
      rw [pass] at mem
      rw [← Option.some.inj mem] at listed
      exact absurd listed (by simp)
  · exact h

theorem Counted.step (h : Counted tradeId s) (a : MissStep)
    (attended : s.Attended threshold tradeId a) : Counted tradeId (s.step threshold tradeId a) := by
  cases a with
  | other db => exact ⟨h.unique, h.waiting, h.settled⟩
  | sync a =>
      cases a with
      | fetch view => exact h.fetch attended
      | visit view env written => exact h.visit attended
      | finish env => exact h.finish

theorem Counted.patient (h : Counted tradeId s) (a : MissStep) :
    s.Patient threshold tradeId a := by
  intro booked
  cases a with
  | other db => exact absurd booked (by simp [books])
  | sync a =>
      cases a with
      | fetch view => exact absurd booked (by simp [books])
      | finish env => exact absurd booked (by simp [books])
      | visit view env written =>
          rw [books, onTurn] at booked
          split at booked
          · next trade rest positions week tick pass =>
              by_cases turn : trade.tradeId = tradeId
              · rw [if_pos turn, Option.any_some] at booked
                obtain ⟨-, -, -, reached⟩ := syncOne_spec view positions week tick threshold
                  ⟨s.desk.streak, []⟩ trade
                obtain ⟨before, noted, le⟩ := h.waiting _ pass trade List.mem_cons_self turn
                cases reached with
                | inl quiet =>
                    have none : (s.desk.settle threshold ⟨trade :: rest, positions, week, tick⟩ view
                        trade).1.actions = [] := quiet
                    simp [none] at booked
                | inr due =>
                    have row : s.missesInARow = (before.takeWhile id).length + 1 := by
                      rw [missesInARow, noted, decide_eq_true due.1]
                      rfl
                    rw [turn] at due
                    have le' : threshold ≤ s.desk.streak tradeId + 1 := due.2
                    omega
              · rw [if_neg turn] at booked
                exact absurd booked (by simp)
          · exact absurd booked (by simp)

/-- Over any run of cycles and of writes of other services, a trade is booked
closed only after as many successful reads in a row without its ticket as the
threshold says, as long as no cycle that reads the ticket as present leaves the
trade's streak standing. -/
theorem booked_only_after_misses (threshold : ℕ) (tradeId : String) (db : Db)
    (run : List MissStep)
    (attended : Meets (step threshold tradeId) (Attended threshold tradeId)
      (MissWatch.start db) run) :
    Meets (step threshold tradeId) (Patient threshold tradeId) (MissWatch.start db) run :=
  meets_of_invariant (I := Counted tradeId) (fun _ a h attended => h.step a attended)
    (fun _ a h _ => h.patient a) (Counted.start db) attended

end MissWatch

/-- `reopen_residual_trade` -/
def reopenResidualTrade (db : Db) (tradeId : String) (residualVol : ℚ) : Db :=
  db.setTrade tradeId
    ⟨fun t => { t with
        status := .opened
        closeTime := none
        exitReason := none
        remainingLots := residualVol }, fun _ => rfl⟩

def twoTickets : Db :=
  { oneLotBook with
    trades := ⟨[Trade.oneLot, { Trade.oneLot with tradeId := "t2", mt5Ticket := some 7002 }],
      by decide⟩ }

/-- The book after the last lots of `t1` are booked, and with the row opened again. -/
def residualBook (residualVol : ℚ) : Db × Db :=
  let closed := ((partialCloseTrade twoTickets "t1" 1 2010 "TP1" 9).map
    (PartialWrite.apply · twoTickets)).getD twoTickets
  (closed, reopenResidualTrade closed "t1" residualVol)

namespace MissWatch

/-- A whole cycle for so many trades. -/
def cycle (trades : ℕ) (positions : List Position) : List MissStep :=
  .sync (.fetch (.listing positions)) ::
    List.replicate trades (.sync (.visit (.listing positions) quietEnv .through)) ++
      [.sync (.finish quietEnv)]

theorem booked_only_after_misses_twoMisses :
    Meets (step 2 "t1") (Attended 2 "t1") (MissWatch.start oneLotBook)
        (cycle 1 [.held 7001 1] ++ cycle 1 [] ++ cycle 1 []) ∧
      Meets (step 2 "t1") (Patient 2 "t1") (MissWatch.start oneLotBook)
        (cycle 1 [.held 7001 1] ++ cycle 1 [] ++ cycle 1 []) := by
  have attended : Meets (step 2 "t1") (Attended 2 "t1") (MissWatch.start oneLotBook)
      (cycle 1 [.held 7001 1] ++ cycle 1 [] ++ cycle 1 []) := by
    decide
  exact ⟨attended, booked_only_after_misses 2 "t1" oneLotBook _ attended⟩

/-- The take-profit handler closes the trade's last lots between the two misses,
a cycle for another trade reads the ticket with a residual, and the row is opened
again for it: the streak of the first miss still stands, and the trade is closed
on a single one. -/
theorem unattended_read_leaves_streak :
    ¬ Meets (step 2 "t1") (Patient 2 "t1") (MissWatch.start twoTickets)
      (cycle 2 [.held 7002 1] ++ [.other (residualBook (1 / 100)).1] ++
        cycle 1 [.held 7001 (1 / 100), .held 7002 1] ++ [.other (residualBook (1 / 100)).2] ++
        cycle 2 [.held 7002 1]) := by
  decide +kernel

end MissWatch

end Forex
