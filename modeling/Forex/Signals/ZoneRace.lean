import Forex.Signals.Resting
import Forex.Signals.Watcher
import Mathlib.Tactic.Linarith

/-!
The pending watcher beside the revalidation sweep. The watcher reads its list
once and then opens at market what it finds in its zone; the sweep reads the
resting orders once and then withdraws, expires or re-arms them; the EA's
reports are written by handlers that have fetched the row before. Each step
ends where the code awaits, so the three interleave freely.
-/

namespace Forex
open Support

/-- Resting at the broker, or withdrawn with time left to go back. -/
def PendingOrder.Rearmable (o : PendingOrder) (clock : ℚ) : Prop :=
  o.status = .working ∨ o.status = .withdrawn ∧ 0 < o.minutesLeft clock

instance (o : PendingOrder) (clock : ℚ) : Decidable (o.Rearmable clock) :=
  inferInstanceAs (Decidable (_ ∨ _))

structure ZoneRace where
  clock : ℚ
  watch : Lifecycle
  /-- The signal the watcher has claimed and is opening. -/
  opening : Option String
  /-- What is left of the rows the sweep has read. -/
  sweep : List PendingOrder
  /-- The order of the sweep's first row is sent back and not yet answered. -/
  placing : Bool
  handler : HandlerPhase

/-- What the watcher does with the next signal of its list. -/
inductive Look where
  | aged
  | held
  | atCap
  | refused (message : String)
  | goesAhead

inductive ZoneStep where
  | wait (secs : ℚ)
  | sweepReads
  | sweepLeaves
  | withdraw (written : Bool)
  | expire (written : Bool)
  | sendPlace
  | rearm (ticket : Option ℤ) (written : Bool)
  | fillReported (tradeId : String) (ticket : ℤ) (fillPrice : ℚ)
  | cancelReported (tradeId : String)
  | handlerWrites
  | readQueue
  | look (l : Look)
  | openEnds (outcome : OpenOutcome)
  | handleFailure

namespace ZoneRace
variable (cap : ℕ) (s : ZoneRace)

def db : Db := s.watch.db

def withDb (db : Db) : ZoneRace := { s with watch := s.watch.withDb db }

def start (db : Db) (clock : ℚ) : ZoneRace where
  clock := clock
  watch := ⟨db, [], fun _ => 0, none⟩
  opening := none
  sweep := []
  placing := false
  handler := .idle

/-- `fetch_revalidatable_pending_orders`, once the sweep before is over. -/
def sweepReads : ZoneRace :=
  match s.sweep with
  | [] =>
      { s with
        sweep := s.db.orders.rows.filter fun o =>
          decide (o.status = .working ∨ o.status = .withdrawn)
        placing := false }
  | _ => s

/-- The sweep goes to its next row: the gates have nothing to say, the cancel
is refused, or the place is refused or not answered in time. -/
def sweepLeaves : ZoneRace := { s with sweep := s.sweep.tail, placing := false }

/-- `_mark` on the first row of the sweep. -/
def mark (o : PendingOrder) (written : Bool) (f : Assign PendingOrder.tradeId) : ZoneRace :=
  (if written then s.withDb (s.db.setOrder o.tradeId f) else s).sweepLeaves

def withdraw (written : Bool) : ZoneRace :=
  match s.sweep with
  | o :: _ =>
      if o.status = .working ∧ 0 < o.eaTicket.getD 0 then s.mark o written PendingOrder.withdraw
      else s
  | [] => s

def expire (written : Bool) : ZoneRace :=
  match s.sweep with
  | o :: _ =>
      if o.status = .withdrawn ∧ s.placing = false ∧ o.minutesLeft s.clock ≤ 0 then
        s.mark o written (PendingOrder.resolve .expired s.clock)
      else s
  | [] => s

/-- `_rearm`, up to the wait for the acknowledgement. -/
def sendPlace : ZoneRace :=
  match s.sweep with
  | o :: _ =>
      if o.status = .withdrawn ∧ 0 < o.minutesLeft s.clock then { s with placing := true } else s
  | [] => s

def rearm (ticket : Option ℤ) (written : Bool) : ZoneRace :=
  match s.sweep with
  | o :: _ => if s.placing then s.mark o written (PendingOrder.rearm ticket) else s
  | [] => s

/-- `_on_pending_order_filled`, up to the row it fetches. -/
def fillReported (tradeId : String) (ticket : ℤ) (fillPrice : ℚ) : ZoneRace :=
  match s.handler, s.db.orders.find tradeId with
  | .idle, some o => { s with handler := .filling o ticket fillPrice }
  | _, _ => s

/-- `_on_pending_order_cancelled`; a withdrawn row takes it for its own echo. -/
def cancelReported (tradeId : String) : ZoneRace :=
  match s.handler, s.db.orders.find tradeId with
  | .idle, some o => if o.status = .withdrawn then s else { s with handler := .cancelling o }
  | _, _ => s

def handlerWrites : ZoneRace :=
  match s.handler with
  | .idle => s
  | .filling o ticket fillPrice =>
      { s.withDb ((s.db.applyPendingFill o (some ticket) fillPrice s.clock).getD s.db) with
        handler := .idle }
  | .cancelling o => { s.withDb (s.db.applyPendingCancelled o s.clock) with handler := .idle }

/-- `get_pending_signals_awaiting_zone_fill`, at the start of a pass. -/
def readQueue : ZoneRace :=
  match s.opening, s.watch.raised with
  | none, none => { s with watch := s.watch.step cap .readQueue }
  | _, _ => s

/-- One signal of the watcher's list, as far as the broker call. -/
def lookAt (signalId : String) : Look → ZoneRace
  | .aged => { s with watch := s.watch.visit cap signalId .aged }
  | .held => s
  | .atCap => { s with watch := s.watch.visit cap signalId .atCap }
  | .refused message =>
      { s with watch := s.watch.visit cap signalId (.attempt s.clock (.refused message)) }
  | .goesAhead =>
      if s.db.hasOpenTradeForSignal signalId then s.withDb (s.db.markSignalActivated signalId)
      else
        match s.db.claimSignalActivation cap signalId s.clock with
        | none =>
            { s with
              watch :=
                { s.watch with
                  raised := some (signalId, s.db.explainFailedClaim cap signalId) } }
        | some claimed => { s.withDb claimed with opening := some signalId }

def look (l : Look) : ZoneRace :=
  match s.opening, s.watch.raised, s.watch.queue with
  | none, none, signalId :: rest =>
      lookAt cap { s with watch := { s.watch with queue := rest } } signalId l
  | _, _, _ => s

def fails (signalId message : String) (unanswered : Bool) : ZoneRace :=
  { s with
    watch :=
      { s.watch with
        db := routeFailedOpen s.db signalId unanswered
        raised := some (signalId, message) }
    opening := none }

/-- The rest of `open_trade_from_signal`, past the claim. -/
def openEnds (outcome : OpenOutcome) : ZoneRace :=
  match s.opening, outcome with
  | some signalId, .opened t =>
      match insertTradeAndActivateSignal s.db { t with signalId := signalId } with
      | some db => { s with watch := (s.watch.withDb db).forget signalId, opening := none }
      | none => s.fails signalId "UNIQUE constraint failed" false
  | some signalId, .rejected message => s.fails signalId message false
  | some signalId, .unanswered message => s.fails signalId message true
  | _, _ => s

def step : ZoneStep → ZoneRace
  | .wait secs => { s with clock := s.clock + |secs| }
  | .sweepReads => s.sweepReads
  | .sweepLeaves => s.sweepLeaves
  | .withdraw written => s.withdraw written
  | .expire written => s.expire written
  | .sendPlace => s.sendPlace
  | .rearm ticket written => s.rearm ticket written
  | .fillReported tradeId ticket fillPrice => s.fillReported tradeId ticket fillPrice
  | .cancelReported tradeId => s.cancelReported tradeId
  | .handlerWrites => s.handlerWrites
  | .readQueue => s.readQueue cap
  | .look l => s.look cap l
  | .openEnds outcome => s.openEnds outcome
  | .handleFailure => { s with watch := s.watch.step cap .handleFailure }

/-- Nothing is opened at market for a signal whose order rests or may go back. -/
def NoDoubleExposure : Prop :=
  ∀ signalId ∈ s.opening, ∀ o ∈ s.db.orders.rows, o.signalId = signalId → ¬ o.Rearmable s.clock

instance : Decidable s.NoDoubleExposure :=
  inferInstanceAs (Decidable (∀ signalId ∈ s.opening, _))

/-- No pending signal has an order that is withdrawn with time left, or that
is just being sent back. -/
def NoneWithdrawn : Prop :=
  ∀ sig ∈ s.db.signals.rows, sig.status = .pending →
    (∀ o ∈ s.db.orders.rows, o.signalId = sig.signalId → o.status = .withdrawn →
      o.minutesLeft s.clock ≤ 0) ∧
    (s.placing = true → ∀ o ∈ s.sweep.head?, o.signalId ≠ sig.signalId)

instance : Decidable s.NoneWithdrawn :=
  inferInstanceAs (Decidable (∀ sig ∈ s.db.signals.rows, _))

/-- The watcher reads its list only while no pending signal has a withdrawn
order. -/
def clearRead : ZoneStep → Prop
  | .readQueue => s.NoneWithdrawn
  | _ => True

instance : ∀ a, Decidable (s.clearRead a)
  | .readQueue => inferInstanceAs (Decidable s.NoneWithdrawn)
  | .wait _ | .sweepReads | .sweepLeaves | .withdraw _ | .expire _ | .sendPlace | .rearm _ _
  | .fillReported _ _ _ | .cancelReported _ | .handlerWrites | .look _ | .openEnds _
  | .handleFailure => isTrue True.intro

end ZoneRace

/-- The signal can be neither read by the watcher nor in its hands. -/
def Db.QuietSignal (db : Db) (signalId : String) : Prop :=
  ∀ sig, db.signals.find signalId = some sig → sig.status ≠ .pending

theorem Db.QuietSignal.setStatus {db : Db} {signalId : String} (quiet : db.QuietSignal signalId)
    (other : String) {status : SignalStatus} (settles : status ≠ .pending) :
    (db.setSignalStatus other status).QuietSignal signalId := by
  intro sig found
  by_cases same : signalId = other
  · subst same
    rw [Db.setSignalStatus, Table.find_update_self] at found
    obtain ⟨old, _, rfl⟩ := Option.map_eq_some_iff.mp found
    exact settles
  · rw [Db.setSignalStatus, Table.find_update_of_ne _ _ same] at found
    exact quiet sig found

theorem Db.quietSignal_setStatus_self (db : Db) (signalId : String) {status : SignalStatus}
    (settles : status ≠ .pending) : (db.setSignalStatus signalId status).QuietSignal signalId := by
  intro sig found
  rw [Db.setSignalStatus, Table.find_update_self] at found
  obtain ⟨old, _, rfl⟩ := Option.map_eq_some_iff.mp found
  exact settles

theorem Db.QuietSignal.congr {db db' : Db} {signalId : String} (quiet : db.QuietSignal signalId)
    (same : db'.signals.find signalId = db.signals.find signalId) :
    db'.QuietSignal signalId := by
  intro sig found
  rw [same] at found
  exact quiet sig found

/-- The row as it was read is still a row of the table, under the same signal. -/
def Db.HasRow (db : Db) (o : PendingOrder) (said : OrderStatus → Prop) : Prop :=
  ∃ now, db.orders.find o.tradeId = some now ∧ now.signalId = o.signalId ∧
    now.createdAt = o.createdAt ∧ said now.status

/-- The statements of the sweep and of the handlers write neither column. -/
structure PendingOrder.Marks (f : Assign PendingOrder.tradeId) : Prop where
  signalId : ∀ o, (f o).signalId = o.signalId
  createdAt : ∀ o, (f o).createdAt = o.createdAt

theorem PendingOrder.marks_withdraw : Marks withdraw := ⟨fun _ => rfl, fun _ => rfl⟩

theorem PendingOrder.marks_rearm (ticket : Option ℤ) : Marks (rearm ticket) :=
  ⟨fun _ => rfl, fun _ => rfl⟩

theorem PendingOrder.marks_resolve (status : OrderStatus) (now : ℚ) : Marks (resolve status now) :=
  ⟨fun _ => rfl, fun _ => rfl⟩

namespace Db
variable {db : Db} {o : PendingOrder} {said said' : OrderStatus → Prop}

theorem HasRow.imp (h : db.HasRow o said) (weaker : ∀ status, said status → said' status) :
    db.HasRow o said' := by
  obtain ⟨now, found, signal, created, told⟩ := h
  exact ⟨now, found, signal, created, weaker now.status told⟩

theorem HasRow.congr {db' : Db} (h : db.HasRow o said) (same : db'.orders = db.orders) :
    db'.HasRow o said := by
  rw [HasRow, same]
  exact h

theorem HasRow.setOrder (h : db.HasRow o said) {f : Assign PendingOrder.tradeId}
    (marks : PendingOrder.Marks f) (tradeId : String)
    (mine : o.tradeId = tradeId → ∀ row, said' (f row).status)
    (other : o.tradeId ≠ tradeId → ∀ status, said status → said' status) :
    (db.setOrder tradeId f).HasRow o said' := by
  obtain ⟨now, found, signal, created, told⟩ := h
  by_cases same : o.tradeId = tradeId
  · refine ⟨f now, ?_, (marks.signalId now).trans signal, (marks.createdAt now).trans created,
      mine same now⟩
    subst same
    rw [Db.setOrder, Table.find_update_self, found, Option.map_some]
  · refine ⟨now, ?_, signal, created, other same now.status told⟩
    rw [Db.setOrder, Table.find_update_of_ne _ _ same, found]

end Db

namespace PendingOrder
variable {o : PendingOrder} {clock later : ℚ}

theorem minutesLeft_anti (o : PendingOrder) (h : clock ≤ later) :
    o.minutesLeft later ≤ o.minutesLeft clock := by
  dsimp only [minutesLeft]
  linarith

/-- Withdrawn, and past the life it was placed with. -/
def Lapsed (o : PendingOrder) (clock : ℚ) : Prop :=
  o.status = .withdrawn ∧ o.minutesLeft clock ≤ 0

theorem Lapsed.mono (h : o.Lapsed clock) (le : clock ≤ later) : o.Lapsed later :=
  ⟨h.1, (o.minutesLeft_anti le).trans h.2⟩

theorem Rearmable.anti (h : o.Rearmable later) (le : clock ≤ later) : o.Rearmable clock := by
  cases h with
  | inl working => exact .inl working
  | inr withdrawn => exact .inr ⟨withdrawn.1, withdrawn.2.trans_le (o.minutesLeft_anti le)⟩

end PendingOrder

/-- The row a handler has fetched. -/
def HandlerPhase.row : HandlerPhase → Option PendingOrder
  | .idle => none
  | .filling o _ _ => some o
  | .cancelling o => some o

namespace ZoneRace
variable {cap : ℕ} {s s' : ZoneRace}

/-- On the watcher's list, or being opened by it. -/
def Watched (s : ZoneRace) (signalId : String) : Prop :=
  signalId ∈ s.watch.queue ∨ s.opening = some signalId

/-- What the sweep has read of a row that is no longer so: its signal is out of
the watcher's reach, or the order can no longer go back. -/
structure Apart (s : ZoneRace) : Prop where
  unique : (s.sweep.map PendingOrder.tradeId).Nodup
  alive : ∀ o ∈ s.sweep, o.status = .working ∨ o.status = .withdrawn
  read : ∀ o ∈ s.sweep, s.db.HasRow o fun status =>
    status = o.status ∨ s.db.QuietSignal o.signalId ∨ o.Lapsed s.clock
  handled : ∀ o ∈ s.handler.row, s.db.HasRow o fun _ => True
  rows : ∀ signalId, s.Watched signalId → ∀ o ∈ s.db.orders.rows, o.signalId = signalId →
    ¬ o.Rearmable s.clock
  swept : ∀ signalId, s.Watched signalId → ∀ o ∈ s.sweep, o.signalId = signalId →
    o.Lapsed s.clock
  placing : s.placing = true → ∀ o ∈ s.sweep.head?, ¬ s.Watched o.signalId

theorem Apart.noDoubleExposure (h : s.Apart) : s.NoDoubleExposure := by
  intro signalId opening o mem mine
  exact h.rows signalId (.inr opening) o mem mine

theorem apart_start (db : Db) (clock : ℚ) : (start db clock).Apart where
  unique := List.nodup_nil
  alive := by simp [start]
  read := by simp [start]
  handled := by simp [start, HandlerPhase.row]
  rows := by simp [start, Watched]
  swept := by simp [start]
  placing := by simp [start]

/-- A step of the watcher writes no order, and puts no signal within its own
reach that it did not have on its list. -/
theorem Apart.watcher (h : s.Apart) (clock : s'.clock = s.clock) (sweep : s'.sweep = s.sweep)
    (placing : s'.placing = s.placing) (handler : s'.handler = s.handler)
    (orders : s'.db.orders = s.db.orders)
    (watched : ∀ signalId, s'.Watched signalId → s.Watched signalId)
    (quiet : ∀ signalId, ¬ s.Watched signalId → s.db.QuietSignal signalId →
      s'.db.QuietSignal signalId) : s'.Apart where
  unique := sweep ▸ h.unique
  alive := sweep ▸ h.alive
  read := by
    intro o mem
    rw [sweep] at mem
    rw [clock]
    refine ((h.read o mem).congr orders).imp fun status told => ?_
    by_cases near : s.Watched o.signalId
    · exact .inr (.inr (h.swept o.signalId near o mem rfl))
    · exact told.imp_right (Or.imp_left (quiet o.signalId near))
  handled := by
    intro o mem
    rw [handler] at mem
    exact (h.handled o mem).congr orders
  rows := by
    intro signalId near o mem mine
    rw [clock]
    rw [orders] at mem
    exact h.rows signalId (watched signalId near) o mem mine
  swept := by
    intro signalId near o mem mine
    rw [clock]
    rw [sweep] at mem
    exact h.swept signalId (watched signalId near) o mem mine
  placing := by
    intro sent o head near
    rw [placing] at sent
    rw [sweep] at head
    exact h.placing sent o head (watched o.signalId near)

theorem Apart.wait (h : s.Apart) (secs : ℚ) : { s with clock := s.clock + |secs| }.Apart := by
  have le : s.clock ≤ s.clock + |secs| := le_add_of_nonneg_right (abs_nonneg secs)
  refine ⟨h.unique, h.alive, ?_, h.handled, ?_, ?_, h.placing⟩
  · intro o mem
    exact (h.read o mem).imp fun _ => Or.imp_right (Or.imp_right fun old => old.mono le)
  · intro signalId near o mem mine armed
    exact h.rows signalId near o mem mine (armed.anti le)
  · intro signalId near o mem mine
    exact (h.swept signalId near o mem mine).mono le

theorem Apart.sweepLeaves (h : s.Apart) : s.sweepLeaves.Apart where
  unique := by
    rw [ZoneRace.sweepLeaves, List.map_tail]
    exact h.unique.tail
  alive o mem := h.alive o (List.mem_of_mem_tail mem)
  read o mem := h.read o (List.mem_of_mem_tail mem)
  handled := h.handled
  rows := h.rows
  swept signalId near o mem := h.swept signalId near o (List.mem_of_mem_tail mem)
  placing := by simp [ZoneRace.sweepLeaves]

theorem Apart.sweepReads (h : s.Apart) : s.sweepReads.Apart := by
  rw [ZoneRace.sweepReads]
  cases done : s.sweep with
  | cons o rest => exact h
  | nil =>
      refine ⟨?_, ?_, ?_, h.handled, h.rows, ?_, ?_⟩
      · exact s.db.orders.unique.sublist (List.filter_sublist.map PendingOrder.tradeId)
      · intro o mem
        exact of_decide_eq_true (List.mem_filter.mp mem).2
      · intro o mem
        have found := Table.find_eq_some_iff.mpr ⟨(List.mem_filter.mp mem).1, rfl⟩
        exact ⟨o, found, rfl, rfl, .inl rfl⟩
      · intro signalId near o mem mine
        -- a row of a watched signal is not rearmable, so it is read as lapsed
        have lost := h.rows signalId near o (List.mem_filter.mp mem).1 mine
        have live := of_decide_eq_true (List.mem_filter.mp mem).2
        cases live with
        | inl working => exact absurd (.inl working) lost
        | inr withdrawn =>
            refine ⟨withdrawn, ?_⟩
            by_contra left
            exact lost (.inr ⟨withdrawn, not_le.mp left⟩)
      · simp

/-- A write to one row of the orders, with whatever it settles of signals. -/
theorem Apart.setOrder (h : s.Apart) {db' : Db} {tradeId : String}
    {f : Assign PendingOrder.tradeId} (marks : PendingOrder.Marks f)
    (orders : db'.orders = s.db.orders.update tradeId f)
    (quiet : ∀ signalId, s.db.QuietSignal signalId → db'.QuietSignal signalId)
    (mine : ∀ o ∈ s.sweep, o.tradeId = tradeId → db'.QuietSignal o.signalId)
    (rows : ∀ row, s.db.orders.find tradeId = some row →
      (f row).Rearmable s.clock → ¬ s.Watched row.signalId) : (s.withDb db').Apart := by
  have written : db'.orders = (s.db.setOrder tradeId f).orders := orders
  refine ⟨h.unique, h.alive, ?_, ?_, ?_, h.swept, h.placing⟩
  · intro o mem
    refine (Db.HasRow.setOrder (h.read o mem) marks tradeId ?_ ?_).congr written
    · intro same row
      exact .inr (.inl (mine o mem same))
    · intro _ status told
      exact told.imp_right (Or.imp_left (quiet o.signalId))
  · intro o mem
    exact (Db.HasRow.setOrder (h.handled o mem) marks tradeId (fun _ _ => trivial)
      fun _ _ _ => trivial).congr written
  · intro signalId near o mem own
    change o ∈ db'.orders.rows at mem
    rw [orders] at mem
    revert own
    refine Table.forall_update (P := fun o => o.signalId = signalId → ¬ o.Rearmable s.clock)
      ?_ ?_ o mem
    · intro row old _ own
      exact h.rows signalId near row old own
    · intro row found own armed
      rw [marks.signalId] at own
      exact rows row found armed (own ▸ near)

theorem Apart.mark (h : s.Apart) {o : PendingOrder} {rest : List PendingOrder}
    (first : s.sweep = o :: rest) (written : Bool) {f : Assign PendingOrder.tradeId}
    (marks : PendingOrder.Marks f)
    (rows : ∀ row, (f row).Rearmable s.clock → ¬ s.Watched o.signalId) :
    (s.mark o written f).Apart := by
  cases written with
  | false => exact h.sweepLeaves
  | true =>
      refine h.sweepLeaves.setOrder marks rfl
        (fun _ quiet => quiet.congr rfl) ?_ ?_
      · intro other mem same
        have unique := h.unique
        rw [first, List.map_cons, List.nodup_cons] at unique
        have later : other ∈ rest := by simpa [ZoneRace.sweepLeaves, first] using mem
        exact absurd (same ▸ List.mem_map_of_mem later) unique.1
      · intro row found armed near
        obtain ⟨now, same, signal, -, -⟩ := h.read o (by simp [first])
        have row_eq : row = now := Option.some.inj (found.symm.trans same)
        rw [row_eq, signal] at near
        exact rows row armed near

theorem Apart.withdraw (h : s.Apart) (written : Bool) : (s.withdraw written).Apart := by
  rw [ZoneRace.withdraw]
  split
  · next o rest first =>
      split
      · next due =>
          refine h.mark first written PendingOrder.marks_withdraw ?_
          intro row _ near
          have lapsed := h.swept o.signalId near o (by simp [first]) rfl
          exact absurd (due.1.symm.trans lapsed.1) (by simp)
      · exact h
  · exact h

theorem Apart.expire (h : s.Apart) (written : Bool) : (s.expire written).Apart := by
  rw [ZoneRace.expire]
  split
  · next o rest first =>
      split
      · refine h.mark first written (PendingOrder.marks_resolve _ _) ?_
        intro row armed
        exact absurd armed (by simp [PendingOrder.Rearmable, PendingOrder.resolve])
      · exact h
  · exact h

theorem Apart.sendPlace (h : s.Apart) : s.sendPlace.Apart := by
  rw [ZoneRace.sendPlace]
  split
  · next o rest first =>
      split
      · next due =>
          refine ⟨h.unique, h.alive, h.read, h.handled, h.rows, h.swept, ?_⟩
          intro _ head mem near
          have same : head = o := by simpa [first] using mem.symm
          subst same
          have lapsed := h.swept head.signalId near head (by simp [first]) rfl
          exact absurd lapsed.2 (not_le.mpr due.2)
      · exact h
  · exact h

theorem Apart.rearm (h : s.Apart) (ticket : Option ℤ) (written : Bool) :
    (s.rearm ticket written).Apart := by
  rw [ZoneRace.rearm]
  split
  · next o rest first =>
      split
      · next sent =>
          refine h.mark first written (PendingOrder.marks_rearm ticket) ?_
          intro _ _
          exact h.placing sent o (by simp [first])
      · exact h
  · exact h

theorem Apart.handler (h : s.Apart) {phase : HandlerPhase}
    (fetched : ∀ o ∈ phase.row, s.db.orders.find o.tradeId = some o) :
    { s with handler := phase }.Apart := by
  refine ⟨h.unique, h.alive, h.read, ?_, h.rows, h.swept, h.placing⟩
  intro o mem
  exact ⟨o, fetched o mem, rfl, rfl, trivial⟩

theorem Apart.fillReported (h : s.Apart) (tradeId : String) (ticket : ℤ) (fillPrice : ℚ) :
    (s.fillReported tradeId ticket fillPrice).Apart := by
  rw [ZoneRace.fillReported]
  split
  · next o _ found =>
      refine h.handler ?_
      intro row mem
      rw [← Option.some.inj mem, Table.key_of_find found, found]
  · exact h

theorem Apart.cancelReported (h : s.Apart) (tradeId : String) :
    (s.cancelReported tradeId).Apart := by
  rw [ZoneRace.cancelReported]
  split
  · next o _ found =>
      split
      · exact h
      · refine h.handler ?_
        intro row mem
        rw [← Option.some.inj mem, Table.key_of_find found, found]
  · exact h

/-- A report is final: the order is resolved and its signal leaves `pending`. -/
theorem Apart.resolved (h : s.Apart) {o : PendingOrder} (fetched : o ∈ s.handler.row) {db' : Db}
    {status : OrderStatus} {signal : SignalStatus}
    (orders : db'.orders = s.db.orders.update o.tradeId (PendingOrder.resolve status s.clock))
    (signals : db'.signals = (s.db.setSignalStatus o.signalId signal).signals)
    (final : status ≠ .working ∧ status ≠ .withdrawn) (settles : signal ≠ .pending) :
    { s.withDb db' with handler := .idle }.Apart := by
  have written : (s.withDb db').Apart := by
    refine h.setOrder (PendingOrder.marks_resolve status s.clock) orders ?_ ?_ ?_
    · intro signalId quiet
      exact (quiet.setStatus o.signalId settles).congr (by rw [signals])
    · intro other mem same
      obtain ⟨now, found, signal_eq, -, -⟩ := h.read other mem
      obtain ⟨now', found', signal_eq', -, -⟩ := h.handled o fetched
      rw [same, found'] at found
      have one : other.signalId = o.signalId := by
        rw [← signal_eq, ← signal_eq', Option.some.inj found]
      rw [one]
      exact (s.db.quietSignal_setStatus_self o.signalId settles).congr (by rw [signals])
    · intro row _ armed
      exact absurd armed (by simp [PendingOrder.Rearmable, PendingOrder.resolve, final])
  exact written.handler (by simp [HandlerPhase.row])

theorem Apart.handlerWrites (h : s.Apart) : s.handlerWrites.Apart := by
  rw [ZoneRace.handlerWrites]
  split
  · exact h
  · next o ticket fillPrice phase =>
      have fetched : o ∈ s.handler.row := by simp [phase, HandlerPhase.row]
      cases filled : s.db.applyPendingFill o (some ticket) fillPrice s.clock with
      | none => exact h.handler (by simp [HandlerPhase.row])
      | some db' =>
          obtain ⟨opened, inserted, rfl⟩ := Option.map_eq_some_iff.mp filled
          obtain ⟨trades, _, rfl⟩ := Option.map_eq_some_iff.mp inserted
          exact h.resolved fetched rfl rfl (by simp)
            (by simp)
  · next o phase =>
      have fetched : o ∈ s.handler.row := by simp [phase, HandlerPhase.row]
      exact h.resolved fetched rfl rfl (by simp)
        (by simp)

theorem mem_pendingSignalsAwaitingZoneFill {db : Db} {sig : Signal}
    (h : sig ∈ db.pendingSignalsAwaitingZoneFill) :
    sig ∈ db.signals.rows ∧ sig.status = .pending ∧
      ∀ o ∈ db.orders.rows, o.signalId = sig.signalId → o.status ≠ .working := by
  rw [Db.pendingSignalsAwaitingZoneFill, List.mem_insertionSort] at h
  obtain ⟨mem, chosen⟩ := List.mem_filter.mp h
  rw [Bool.and_eq_true] at chosen
  refine ⟨mem, of_decide_eq_true chosen.1, ?_⟩
  intro o row mine working
  have unworked := List.any_eq_false.mp (Bool.not_eq_true' _ ▸ chosen.2) o row
  simp [PendingOrder.isWorking, working, mine] at unworked

theorem Apart.readQueue (h : s.Apart) (clear : s.NoneWithdrawn) : (s.readQueue cap).Apart := by
  rw [ZoneRace.readQueue]
  split
  · next opening raised =>
      -- what is on the new list is pending, and none of its orders can go back
      have queued : ∀ signalId, signalId ∈ s.db.pendingSignalsAwaitingZoneFill.map Signal.signalId ∨
          s.opening = some signalId → ∃ sig ∈ s.db.pendingSignalsAwaitingZoneFill,
            sig.signalId = signalId := by
        intro signalId near
        rw [opening] at near
        exact List.mem_map.mp (near.resolve_right (by simp))
      refine ⟨h.unique, h.alive, h.read, h.handled, ?_, ?_, ?_⟩
      · intro signalId near o mem mine armed
        obtain ⟨sig, listed, rfl⟩ := queued signalId near
        obtain ⟨row, pending, unworked⟩ := mem_pendingSignalsAwaitingZoneFill listed
        cases armed with
        | inl working => exact unworked o mem mine working
        | inr withdrawn =>
            have lapsed := (clear sig row pending).1 o mem mine withdrawn.1
            exact absurd lapsed (not_le.mpr withdrawn.2)
      · intro signalId near o mem mine
        obtain ⟨sig, listed, rfl⟩ := queued signalId near
        obtain ⟨row, pending, unworked⟩ := mem_pendingSignalsAwaitingZoneFill listed
        obtain ⟨now, found, signal, created, told⟩ := h.read o mem
        have now_mem := Table.find_mem found
        have now_mine := signal.trans mine
        cases told with
        | inl same =>
            have withdrawn : o.status = .withdrawn :=
              (h.alive o mem).resolve_left fun working =>
                unworked now now_mem now_mine (same.trans working)
            refine ⟨withdrawn, ?_⟩
            have lapsed := (clear sig row pending).1 now now_mem now_mine (same.trans withdrawn)
            rw [PendingOrder.minutesLeft, created] at lapsed
            exact lapsed
        | inr told =>
            cases told with
            | inl quiet =>
                rw [mine] at quiet
                exact absurd pending (quiet sig (Table.find_eq_some_iff.mpr ⟨row, rfl⟩))
            | inr lapsed => exact lapsed
      · intro sent o first near
        obtain ⟨sig, listed, same⟩ := queued o.signalId near
        obtain ⟨row, pending, -⟩ := mem_pendingSignalsAwaitingZoneFill listed
        exact (clear sig row pending).2 sent o first same.symm
  · exact h

/-- A write to a watched signal, whatever it says. -/
theorem quiet_of_unwatched {db db' : Db} {signalId other : String}
    {p : Signal → Bool} {f : Assign Signal.signalId}
    (signals : db'.signals = db.signals.updateWhere p f)
    (own : ∀ sig, p sig = true → sig.signalId = signalId) (ne : other ≠ signalId)
    (quiet : db.QuietSignal other) : db'.QuietSignal other := by
  refine quiet.congr ?_
  rw [signals, Table.find_updateWhere]
  cases found : db.signals.find other with
  | none => rfl
  | some sig =>
      have skipped : p sig = false := by
        by_contra chosen
        exact ne ((Table.key_of_find found).symm.trans (own sig (by simpa using chosen)))
      rw [Option.map_some, skipped]
      rfl

theorem Apart.settleSignal (h : s.Apart) (signalId : String) {status : SignalStatus}
    (settles : status ≠ .pending) : (s.withDb (s.db.setSignalStatus signalId status)).Apart :=
  h.watcher rfl rfl rfl rfl rfl (fun _ near => near) fun _ _ quiet =>
    quiet.setStatus signalId settles

/-- A pass of the watcher that claims nothing keeps or shortens its list, and
writes at most a final status. -/
theorem Apart.watch (h : s.Apart) {watch : Lifecycle} (orders : watch.db.orders = s.db.orders)
    (queue : ∀ signalId ∈ watch.queue, signalId ∈ s.watch.queue)
    (quiet : ∀ signalId, s.db.QuietSignal signalId → watch.db.QuietSignal signalId) :
    { s with watch := watch }.Apart :=
  h.watcher rfl rfl rfl rfl orders (fun signalId near => near.imp_left (queue signalId))
    fun signalId _ => quiet signalId

theorem Apart.lookAt (h : s.Apart) {signalId : String} (near : s.Watched signalId)
    {rest : List String} (shorter : ∀ other ∈ rest, other ∈ s.watch.queue) (l : Look) :
    (lookAt cap { s with watch := { s.watch with queue := rest } } signalId l).Apart := by
  have popped : { s with watch := { s.watch with queue := rest } }.Apart :=
    h.watch rfl shorter fun _ quiet => quiet
  cases l with
  | aged => exact popped.watch rfl (fun _ mem => mem) fun _ quiet => quiet.setStatus _ (by simp)
  | held => exact popped
  | atCap => exact popped.watch rfl (by simp [Lifecycle.visit]) fun _ quiet => quiet
  | refused message =>
      simp only [ZoneRace.lookAt, Lifecycle.visit, openTradeFromSignal]
      split
      · exact popped.settleSignal signalId (by simp)
      · exact popped.watch rfl (fun _ mem => mem) fun _ quiet => quiet
  | goesAhead =>
      simp only [ZoneRace.lookAt]
      split
      · exact popped.settleSignal signalId (by simp)
      · split
        · exact popped.watch rfl (fun _ mem => mem) fun _ quiet => quiet
        · next claimed won =>
            have claimed_eq : claimed =
                { s.db with signals := s.db.signals.update signalId (Signal.claim s.clock) } := by
              rw [Db.claimSignalActivation] at won
              split at won
              · exact (Option.some.inj won).symm
              · exact absurd won (by simp)
            subst claimed_eq
            refine h.watcher rfl rfl rfl rfl rfl ?_ ?_
            · intro other held
              cases held with
              | inl queued => exact .inl (shorter other queued)
              | inr claimed =>
                  have same : signalId = other := Option.some.inj claimed
                  exact same ▸ near
            · intro other far quiet
              have ne : other ≠ signalId := by
                rintro rfl
                exact far near
              exact quiet.congr (Table.find_update_of_ne _ _ ne)

theorem Apart.look (h : s.Apart) (l : Look) : (s.look cap l).Apart := by
  rw [ZoneRace.look]
  split
  · next signalId rest _ _ queue =>
      refine h.lookAt (.inl ?_) ?_ l
      · rw [queue]
        exact List.mem_cons_self
      · intro other mem
        rw [queue]
        exact List.mem_cons_of_mem signalId mem
  · exact h

theorem routeFailedOpen_orders (db : Db) (signalId : String) (unanswered : Bool) :
    (routeFailedOpen db signalId unanswered).orders = db.orders := by
  cases unanswered <;> rfl

theorem routeFailedOpen_quiet {db : Db} {signalId other : String} (unanswered : Bool)
    (ne : other ≠ signalId) (quiet : db.QuietSignal other) :
    (routeFailedOpen db signalId unanswered).QuietSignal other := by
  cases unanswered with
  | false =>
      refine quiet_of_unwatched rfl (fun sig chosen => ?_) ne quiet
      rw [Bool.and_eq_true] at chosen
      exact of_decide_eq_true chosen.1
  | true => exact quiet_of_unwatched rfl (fun sig chosen => (of_decide_eq_true chosen).1) ne quiet

theorem Apart.fails (h : s.Apart) {signalId : String} (opening : s.opening = some signalId)
    (message : String) (unanswered : Bool) : (s.fails signalId message unanswered).Apart := by
  refine h.watcher rfl rfl rfl rfl (routeFailedOpen_orders s.db signalId unanswered) ?_ ?_
  · intro other near
    exact .inl (near.resolve_right (by simp [ZoneRace.fails]))
  · intro other far quiet
    have ne : other ≠ signalId := by
      rintro rfl
      exact far (.inr opening)
    exact routeFailedOpen_quiet unanswered ne quiet

theorem Apart.openEnds (h : s.Apart) (outcome : OpenOutcome) : (s.openEnds outcome).Apart := by
  rw [ZoneRace.openEnds.eq_def]
  split
  · next signalId t opening =>
      split
      · next db' inserted =>
          obtain ⟨trades, _, rfl⟩ := Option.map_eq_some_iff.mp inserted
          refine h.watcher rfl rfl rfl rfl rfl ?_ ?_
          · intro other near
            exact .inl (near.resolve_right (by simp))
          · intro other _ quiet
            exact Db.QuietSignal.setStatus (quiet.congr rfl) signalId (by simp)
      · exact h.fails opening _ false
  · next signalId message opening => exact h.fails opening message false
  · next signalId message opening => exact h.fails opening message true
  · exact h

theorem Apart.handleFailure (h : s.Apart) :
    { s with watch := s.watch.step cap .handleFailure }.Apart := by
  simp only [Lifecycle.step]
  split
  · next signalId message _ =>
      simp only [Lifecycle.handleFailure]
      split_ifs
      · exact h.watch rfl (fun _ mem => mem) fun _ quiet => quiet
      · exact h.watch rfl (fun _ mem => mem) fun _ quiet => quiet
      · exact h.watch rfl (fun _ mem => mem) fun _ quiet => quiet.setStatus _ (by simp)
  · exact h

theorem Apart.step (h : s.Apart) (a : ZoneStep) (clear : s.clearRead a) : (s.step cap a).Apart := by
  cases a with
  | wait secs => exact h.wait secs
  | sweepReads => exact h.sweepReads
  | sweepLeaves => exact h.sweepLeaves
  | withdraw written => exact h.withdraw written
  | expire written => exact h.expire written
  | sendPlace => exact h.sendPlace
  | rearm ticket written => exact h.rearm ticket written
  | fillReported tradeId ticket fillPrice => exact h.fillReported tradeId ticket fillPrice
  | cancelReported tradeId => exact h.cancelReported tradeId
  | handlerWrites => exact h.handlerWrites
  | readQueue => exact h.readQueue clear
  | look l => exact h.look l
  | openEnds outcome => exact h.openEnds outcome
  | handleFailure => exact h.handleFailure

/-- Whatever the order of withdrawals, re-arms, fills and passes of the watcher,
no signal is opened at market beside its own order, as long as the watcher does
not read its list while the order of a pending signal is withdrawn. -/
theorem watcher_opens_beside_no_order (cap : ℕ) (db : Db) (clock : ℚ) (run : List ZoneStep)
    (clear : Meets (step cap) clearRead (start db clock) run) :
    ∀ s ∈ states (step cap) (start db clock) run, s.NoDoubleExposure := by
  intro s visited
  have kept : s.Apart :=
    states_invariant (I := Apart) (fun s a h => h.step a) (apart_start db clock) clear s visited
  exact kept.noDoubleExposure

def restingBook : Db where
  trades := Table.empty
  partials := []
  legs := Table.empty
  signals := Table.single ⟨"s1", .pending, 0, none⟩
  orders := Table.single (PendingOrder.resting "o1" "s1")
  balance := 1000
  moveSlToBeAfterTp1 := true

/-- The order is withdrawn past its life, and the signal then opened. -/
theorem watcher_opens_beside_no_order_lapsed :
    Meets (step 1) clearRead (start restingBook 0)
      [.sweepReads, .withdraw true, .wait 3600, .readQueue, .look .goesAhead] ∧
    ∀ s ∈ states (step 1) (start restingBook 0)
      [.sweepReads, .withdraw true, .wait 3600, .readQueue, .look .goesAhead],
      s.NoDoubleExposure := by
  have clear : Meets (step 1) clearRead (start restingBook 0)
      [.sweepReads, .withdraw true, .wait 3600, .readQueue, .look .goesAhead] := by
    decide +kernel
  exact ⟨clear, watcher_opens_beside_no_order 1 restingBook 0 _ clear⟩

/-- The sweep withdraws the order, the watcher's next list has its signal, and
the signal is opened while the order may still go back. -/
theorem withdrawn_order_opened_at_market :
    ¬ ∀ s ∈ states (step 1) (start restingBook 0)
      [.sweepReads, .withdraw true, .readQueue, .look .goesAhead], s.NoDoubleExposure := by
  decide +kernel

end ZoneRace

end Forex
