import Forex.Reconcile.FailedReads
import Forex.Support.Run

/-!
Cycles of `sync_closed_mt5_positions`, trade by trade. A cycle reads the open
trades and the broker's positions once, then settles one trade after the other
and awaits in between, and last imports what it does not know. The map of miss
streaks outlives the cycle, which an exception may leave at any trade.
-/

namespace Forex
open Support

/-- A cycle under way: the rows as they were read, and what the broker said. -/
structure SyncPass where
  trades : List Trade
  positions : List Position
  week : List Deal
  tick : Option Tick

/-- How the writes of a booking go: through, not at all, or all but the new
ticket of a continued position. -/
inductive Written where
  | through
  | refused
  | unlinked
deriving DecidableEq, Repr

structure SyncDesk where
  db : Db
  streak : String → ℕ
  pass : Option SyncPass

/-- The positions of a cycle that goes on past its health check. -/
def readPositions (db : Db) (view : PollView) : Option (List Position) :=
  if !view.configured || (fetchPythonManagedOpenTrades db).isEmpty then none
  else
    match view.positions with
    | .raised => none
    | .none => none
    | .value [] =>
        match view.connected with
        | .value true => some []
        | _ => none
    | .value (p :: ps) => some (p :: ps)

/-- The two reads before the loop, neither of which is caught. -/
def readDeals (view : PollView) : Option (List Deal × Option Tick) :=
  match view.weekDeals.orEmpty, view.tick with
  | none, _ => none
  | some _, .raised => none
  | some week, .none => some (week, none)
  | some week, .value tick => some (week, some tick)

def PollAction.unlinked : PollAction → PollAction
  | .partialClose tradeId lots price reason _ => .partialClose tradeId lots price reason none
  | a => a

def Written.apply (written : Written) (env : PollEnv) (db : Db) (actions : List PollAction) : Db :=
  match written with
  | .through => afterPoll env db actions
  | .refused => db
  | .unlinked => afterPoll env db (actions.map PollAction.unlinked)

/-- An exception while a partial close is booked: its streak is left as it is. -/
def Written.raises (written : Written) (env : PollEnv) (db : Db) : List PollAction → Bool
  | [.partialClose tradeId lots price reason continued] =>
      match written with
      | .through => (partialCloseTrade db tradeId lots price reason env.now).isNone
      | .refused => true
      | .unlinked =>
          (partialCloseTrade db tradeId lots price reason env.now).isNone || continued.isSome
  | _ => false

inductive SyncStep where
  | fetch (view : PollView)
  | visit (view : PollView) (env : PollEnv) (written : Written)
  | finish (env : PollEnv)

namespace SyncDesk
variable (threshold : ℕ) (s : SyncDesk)

/-- A cycle as far as its loop; the next one begins when it is over. -/
def fetch (view : PollView) : SyncDesk :=
  match s.pass, readPositions s.db view, readDeals view with
  | none, some positions, some (week, tick) =>
      { s with pass := some ⟨fetchPythonManagedOpenTrades s.db, positions, week, tick⟩ }
  | _, _, _ => s

def settle (pass : SyncPass) (view : PollView) (trade : Trade) : SyncPoll × Bool :=
  syncOne view pass.positions pass.week pass.tick threshold ⟨s.streak, []⟩ trade

def visit (view : PollView) (env : PollEnv) (written : Written) : SyncDesk :=
  match s.pass with
  | some ⟨trade :: rest, positions, week, tick⟩ =>
      let out := s.settle threshold ⟨trade :: rest, positions, week, tick⟩ view trade
      let streak := if written.raises env s.db out.1.actions then
          (SyncPoll.setStreak ⟨s.streak, []⟩ trade.tradeId (s.streak trade.tradeId + 1)).streak
        else out.1.streak
      { db := written.apply env s.db out.1.actions
        streak := streak
        pass := if out.2 then some ⟨rest, positions, week, tick⟩ else none }
  | _ => s

/-- The trade on its turn and the deals it is settled from: its ticket is missing
past its streak and its history answered. -/
def due (view : PollView) : Option (SyncPass × Trade × List Deal) :=
  match s.pass with
  | some ⟨trade :: rest, positions, week, tick⟩ =>
      let ticket := trade.mt5Ticket.getD 0
      if ticket ∈ positions.map Position.ticket ∨ s.streak trade.tradeId + 1 < threshold then none
      else (dealsOfTicket view week ticket).map
        fun deals => (⟨trade :: rest, positions, week, tick⟩, trade, deals)
  | _ => none

def finish (env : PollEnv) : SyncDesk :=
  match s.pass with
  | some ⟨[], positions, _, _⟩ =>
      { s with
        db := applyPollAction env s.db (.importUntracked positions)
        pass := none }
  | _ => s

def step : SyncStep → SyncDesk
  | .fetch view => s.fetch view
  | .visit view env written => s.visit threshold view env written
  | .finish env => s.finish env

end SyncDesk

section Settled
variable (view : PollView) (positions : List Position) (week : List Deal) (tick : Option Tick)
  (threshold : ℕ) (s : SyncPoll) (trade : Trade)

/-- What one trade's turn does to its streak and when it books: the streak is
cleared by a ticket that is seen, and otherwise grows by one at most; a booking
takes a missing ticket and a streak that has reached the threshold. -/
theorem syncOne_spec :
    let out := (syncOne view positions week tick threshold s trade).1
    (∀ other, other ≠ trade.tradeId → out.streak other = s.streak other) ∧
      (trade.mt5Ticket.getD 0 ∈ positions.map Position.ticket →
        out.streak trade.tradeId = 0 ∧ out.actions = s.actions) ∧
      out.streak trade.tradeId ≤ s.streak trade.tradeId + 1 ∧
      (out.actions = s.actions ∨ trade.mt5Ticket.getD 0 ∉ positions.map Position.ticket ∧
        threshold ≤ s.streak trade.tradeId + 1) := by
  dsimp only
  rw [syncOne]
  by_cases seen : trade.mt5Ticket.getD 0 ∈ positions.map Position.ticket
  · rw [if_pos seen]
    refine ⟨?_, ?_, ?_, .inl rfl⟩
    · intro other ne
      simp [SyncPoll.setStreak, ne]
    · intro _
      exact ⟨by simp [SyncPoll.setStreak], rfl⟩
    · simp [SyncPoll.setStreak]
  · rw [if_neg seen]
    by_cases early : s.streak trade.tradeId + 1 < threshold
    · rw [if_pos early]
      refine ⟨?_, fun now => absurd now seen, ?_, .inl rfl⟩
      · intro other ne
        simp [SyncPoll.setStreak, ne]
      · simp [SyncPoll.setStreak]
    · rw [if_neg early]
      split
      · refine ⟨?_, fun now => absurd now seen, ?_, .inl rfl⟩
        · intro other ne
          simp [SyncPoll.setStreak, ne]
        · simp [SyncPoll.setStreak]
      · refine ⟨?_, fun now => absurd now seen, ?_, .inr ⟨seen, not_lt.mp early⟩⟩
        · intro other ne
          simp [SyncPoll.setStreak, ne]
        · simp [SyncPoll.setStreak]

end Settled

section Bookings
variable (positions : List Position) (tick : Option Tick) (trade : Trade) (deals : List Deal)

def closedVolume : ℚ := roundTo 4 ((closingDeals trade.direction deals).map Deal.volume).sum

/-- The deals close fewer lots than the row tracks. -/
def PartlyClosed : Prop :=
  closingDeals trade.direction deals ≠ [] ∧
    closedVolume trade deals < roundTo 4 trade.remainingLots - 1 / 1000

instance : Decidable (PartlyClosed trade deals) := inferInstanceAs (Decidable (_ ∧ _))

/-- The position that is taken for the rest of a partly closed one. -/
def continuation : Option Position :=
  positions.find? fun p =>
    decide (|roundTo 4 p.volume -
        roundTo 4 (roundTo 4 trade.remainingLots - closedVolume trade deals)| < 1 / 1000 ∧
      p.ticket ≠ trade.mt5Ticket.getD 0)

/-- What settling a missing ticket leaves of the database. -/
inductive Settled (env : PollEnv) (written : Written) (db : Db) : Db → Prop where
  | kept : Settled env written db db
  | partly (w : PartialWrite) (short : PartlyClosed trade deals)
      (read : db.getTrade trade.tradeId = some w.row) (isOpen : w.row.isOpen = true)
      (lots : w.requested = closedVolume trade deals) : Settled env written db (w.apply db)
  | moved (w : PartialWrite) (p : Position) (short : PartlyClosed trade deals)
      (read : db.getTrade trade.tradeId = some w.row) (isOpen : w.row.isOpen = true)
      (lots : w.requested = closedVolume trade deals)
      (found : continuation positions trade deals = some p) (linked : written = .through) :
      Settled env written db
        ((w.apply db).setTrade trade.tradeId (Trade.reassignMt5Ticket p.ticket))
  | fully (price : ℚ) (reason : String) (whole : ¬ PartlyClosed trade deals) :
      Settled env written db
        (applyPollAction env (recordCloseNow db trade.tradeId price reason env.now)
          (.syncProfit trade.tradeId (trade.mt5Ticket.getD 0)))

variable {positions tick trade deals}

theorem settled_of_settleMissing (env : PollEnv) (db : Db) (written : Written)
    (go : written ≠ .refused) :
    Settled positions trade deals env written db
      (written.apply env db
        (settleMissing positions tick trade (trade.mt5Ticket.getD 0) deals)) := by
  by_cases short : PartlyClosed trade deals
  · have one : ∃ price reason,
        settleMissing positions tick trade (trade.mt5Ticket.getD 0) deals =
          [.partialClose trade.tradeId (closedVolume trade deals) price reason
            ((continuation positions trade deals).map Position.ticket)] :=
      ⟨_, _, if_pos short⟩
    obtain ⟨price, reason, one⟩ := one
    rw [one]
    have shape : ∃ continued,
        (continued = none ∨ written = .through ∧
          continued = (continuation positions trade deals).map Position.ticket) ∧
        written.apply env db [.partialClose trade.tradeId (closedVolume trade deals) price reason
            ((continuation positions trade deals).map Position.ticket)] =
          applyPollAction env db
            (.partialClose trade.tradeId (closedVolume trade deals) price reason continued) := by
      cases written with
      | refused => exact absurd rfl go
      | through => exact ⟨_, .inr ⟨rfl, rfl⟩, rfl⟩
      | unlinked => exact ⟨none, .inl rfl, rfl⟩
    obtain ⟨continued, told, shape⟩ := shape
    rw [shape]
    cases write : partialCloseTrade db trade.tradeId (closedVolume trade deals) price reason
        env.now with
    | none =>
        simp only [applyPollAction, write]
        exact .kept
    | some w =>
        obtain ⟨read, isOpen, lots⟩ := partialCloseTrade_eq_some write
        simp only [applyPollAction, write]
        cases continued with
        | none => exact .partly w short read isOpen lots
        | some n =>
            cases told with
            | inl none => exact absurd none (by simp)
            | inr found =>
                obtain ⟨p, taken, rfl⟩ := Option.map_eq_some_iff.mp found.2.symm
                exact .moved w p short read isOpen lots taken found.1
  · have two : ∃ price reason,
        settleMissing positions tick trade (trade.mt5Ticket.getD 0) deals =
          [.fullClose trade.tradeId price reason,
            .syncProfit trade.tradeId (trade.mt5Ticket.getD 0)] :=
      ⟨_, _, if_neg short⟩
    obtain ⟨price, reason, two⟩ := two
    rw [two]
    cases written with
    | refused => exact absurd rfl go
    | through => exact .fully price reason short
    | unlinked => exact .fully price reason short

end Bookings

theorem Written.raises_nil (written : Written) (env : PollEnv) (db : Db) :
    written.raises env db [] = false := rfl

namespace SyncDesk
variable {threshold : ℕ} {s : SyncDesk} {trade : Trade} {rest : List Trade}
  {positions : List Position} {week : List Deal} {tick : Option Tick}

/-- One turn of the loop, seen from the streaks. -/
theorem visit_streak (pass : s.pass = some ⟨trade :: rest, positions, week, tick⟩)
    (view : PollView) (env : PollEnv) (written : Written) :
    let s' := s.visit threshold view env written
    (∀ other, other ≠ trade.tradeId → s'.streak other = s.streak other) ∧
      (trade.mt5Ticket.getD 0 ∈ positions.map Position.ticket → s'.streak trade.tradeId = 0) ∧
      s'.streak trade.tradeId ≤ s.streak trade.tradeId + 1 ∧
      s'.pass = if (s.settle threshold ⟨trade :: rest, positions, week, tick⟩ view trade).2
        then some ⟨rest, positions, week, tick⟩ else none := by
  obtain ⟨others, seen, grows, -⟩ := syncOne_spec view positions week tick threshold
    ⟨s.streak, []⟩ trade
  simp only [visit, pass]
  refine ⟨?_, ?_, ?_, trivial⟩
  · intro other ne
    split
    · simp [SyncPoll.setStreak, ne]
    · exact others other ne
  · intro mem
    obtain ⟨cleared, quiet⟩ := seen mem
    have still : (s.settle threshold ⟨trade :: rest, positions, week, tick⟩ view trade).1.actions =
        [] := quiet
    rw [still, Written.raises_nil]
    exact cleared
  · split
    · simp [SyncPoll.setStreak]
    · exact grows

theorem fetch_db (view : PollView) : (s.fetch view).db = s.db := by
  rw [fetch]
  split <;> rfl

theorem fetch_pass {view : PollView} {q : SyncPass} (left : q ∈ (s.fetch view).pass) :
    q ∈ s.pass ∨ q.trades = fetchPythonManagedOpenTrades s.db := by
  rw [fetch] at left
  split at left
  · rw [← Option.some.inj left]
    exact .inr rfl
  · exact .inl left

theorem finish_pass {env : PollEnv} {q : SyncPass} (left : q ∈ (s.finish env).pass) :
    q ∈ s.pass := by
  rw [finish] at left
  split at left
  · exact absurd left (by simp)
  · exact left

theorem due_pass {view : PollView} {pass : SyncPass} {deals : List Deal}
    (due : s.due threshold view = some (pass, trade, deals)) :
    s.pass = some pass ∧ trade ∈ pass.trades := by
  rw [SyncDesk.due] at due
  split at due
  · next first rest positions week tick under =>
      dsimp only at due
      split at due
      · exact absurd due (by simp)
      · obtain ⟨found, -, same⟩ := Option.map_eq_some_iff.mp due
        rw [Prod.mk.injEq, Prod.mk.injEq] at same
        obtain ⟨rfl, rfl, -⟩ := same
        exact ⟨under, List.mem_cons_self⟩
  · exact absurd due (by simp)

theorem visit_db (view : PollView) (env : PollEnv) (written : Written) :
    (s.visit threshold view env written).db =
      match s.due threshold view with
      | none => s.db
      | some (pass, trade, deals) =>
          written.apply env s.db
            (settleMissing pass.positions pass.tick trade (trade.mt5Ticket.getD 0) deals) := by
  have idle : written.apply env s.db [] = s.db := by cases written <;> rfl
  rw [visit, due]
  split
  · next trade rest positions week tick pass =>
      dsimp only [settle]
      rw [syncOne]
      by_cases seen : trade.mt5Ticket.getD 0 ∈ positions.map Position.ticket
      · rw [if_pos seen, if_pos (.inl seen)]
        exact idle
      · by_cases early : s.streak trade.tradeId + 1 < threshold
        · rw [if_neg seen, if_pos early, if_pos (.inr early)]
          exact idle
        · rw [if_neg seen, if_neg early, if_neg (not_or.mpr ⟨seen, early⟩)]
          cases dealsOfTicket view week (trade.mt5Ticket.getD 0) with
          | none => exact idle
          | some deals => rfl
  · rfl

/-- A turn settles the trade that is due, unless its writes are refused. -/
theorem visit_settled {view : PollView} {env : PollEnv} {written : Written} {pass : SyncPass}
    {deals : List Deal} (due : s.due threshold view = some (pass, trade, deals))
    (go : written ≠ .refused) :
    Settled pass.positions trade deals env written s.db
      (s.visit threshold view env written).db := by
  rw [visit_db, due]
  exact settled_of_settleMissing env s.db written go

/-- What is left of a cycle after a turn. -/
theorem visit_pass {view : PollView} {env : PollEnv} {written : Written} {q : SyncPass}
    (left : q ∈ (s.visit threshold view env written).pass) :
    ∃ p ∈ s.pass, q.trades ⊆ p.trades ∧ q.positions = p.positions := by
  cases pass : s.pass with
  | none =>
      rw [visit, pass] at left
      exact absurd (pass.symm.trans left) (by simp)
  | some p =>
      obtain ⟨trades, positions, week, tick⟩ := p
      cases trades with
      | nil =>
          simp only [visit, pass] at left
          exact ⟨_, rfl, (Option.some.inj left) ▸ List.Subset.refl _, (Option.some.inj left) ▸ rfl⟩
      | cons trade rest =>
          obtain ⟨-, -, -, next⟩ :=
            @visit_streak threshold s trade rest positions week tick pass view env written
          rw [next] at left
          split at left
          · rw [← Option.some.inj left]
            exact ⟨_, rfl, List.subset_cons_self trade rest, rfl⟩
          · exact absurd left (by simp)

end SyncDesk

def Position.held (ticket : ℤ) (volume : ℚ) : Position :=
  ⟨ticket, .buy, volume, 2000, 2001, 1990, 2010, 0, 0, ""⟩

/-- A bridge that lists these positions and has no deals. -/
def PollView.listing (positions : List Position) : PollView where
  configured := true
  positions := .value positions
  connected := .value true
  weekDeals := .value []
  positionHistory := fun _ => .value []
  tick := .value ⟨2000, 2001⟩

/-- A take profit of 0.3 lots on ticket 7001, and a stop for the other 0.7. -/
def tpDeal : Deal := ⟨501, 501, 7001, 1, 1, 3 / 10, 2010, 300, 0, 0, 10, "[tp 2010]"⟩
def slDeal : Deal := ⟨502, 502, 7001, 1, 1, 7 / 10, 1990, -700, 0, 0, 20, "[sl 1990]"⟩

end Forex
