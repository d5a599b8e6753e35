import Forex.Signals.RestingBook

/-!
The app's side of the invariant of a resting order: whatever stands at the
broker is named by the row or has a message on its way that will settle it.
With the broker's side it is kept by every guarded step, and it says enough in
every state in which nothing is on its way.
-/

namespace Forex
open Support

namespace RestingSetup

section Invariant
variable (tradeId : String) (s : RestingSetup)

/-- How the app accounts for a resting order: the row names it, its cancel is on
its way, or its acknowledgement is. -/
def Known (t : ℤ) : Prop :=
  (∀ row ∈ s.row tradeId, row.status = .working ∧ row.eaTicket = some t) ∨
    .cancel t ∈ s.commands ∨ .placed t ∈ s.events ∧ s.sweep = .placing ∨ s.sweep = .placed t

/-- The report of a fill is on its way: yet to be noticed, to be read, or to be
written. -/
def Reported (t : ℤ) : Prop :=
  t ∈ s.tracked ∨ (∃ fillPrice, .filled t fillPrice ∈ s.events) ∨
    ∃ row fillPrice, s.handler = .filling row t fillPrice

/-- How it accounts for a position: the row is filled, or the report of the fill
is on its way to a database that has no trade yet. -/
def Taken (t : ℤ) : Prop :=
  (∀ row ∈ s.row tradeId, row.status = .filled) ∨
    s.db.trades.find tradeId = none ∧ s.Reported t

/-- The row and what the sweep and the handler hold of it. -/
structure InRow : Prop where
  present : (s.row tradeId).isSome = true
  known : ∀ t ∈ s.resting, s.Known tradeId t
  taken : ∀ t ∈ s.positions, s.Taken tradeId t
  unbooked : s.positions = [] → s.db.trades.find tradeId = none
  seen : ∀ old, s.sweep = .seen old → ∀ row ∈ s.row tradeId,
    row.eaTicket = old.eaTicket ∧ (old.status = .withdrawn → row.status ≠ .working)
  pulled : s.sweep = .pulled → ∀ t ∈ s.resting, .cancel t ∈ s.commands
  handled : ∀ row, s.handler = .cancelling row ∨ (∃ t p, s.handler = .filling row t p) →
    row.tradeId = tradeId

structure Kept : Prop where
  broker : s.AtBroker
  app : s.InRow tradeId

end Invariant

variable {tradeId : String} {s : RestingSetup}

/-- The report goes on its way. -/
theorem Taken.imp {s' : RestingSetup} {t : ℤ} (taken : s.Taken tradeId t) (same : s'.db = s.db)
    (report : s.Reported t → s'.Reported t) : s'.Taken tradeId t := by
  rcases taken with filled | ⟨unbooked, told⟩
  · refine .inl fun row found => filled row ?_
    rwa [RestingSetup.row, same] at found
  · refine .inr ⟨?_, report told⟩
    rwa [same]

theorem find_setOrder (db : Db) (tradeId : String) (f : Assign PendingOrder.tradeId) :
    (db.setOrder tradeId f).orders.find tradeId = (db.orders.find tradeId).map f :=
  Table.find_update_self db.orders tradeId f

theorem not_rowFilled (h : s.rowFilled tradeId = false) :
    ∀ row ∈ s.row tradeId, row.status ≠ .filled := by
  intro row found filled
  rw [rowFilled, Option.mem_def.mp found, Option.any_some, filled] at h
  cases h

namespace InRow

/-- The sweep goes on, and may have sent a command; it was not waiting for an
acknowledgement that a resting order depends on. -/
theorem resweep (inv : s.InRow tradeId) {p : SweepPhase} {commands : List EaCommand}
    (more : ∀ c ∈ s.commands, c ∈ commands)
    (free : ∀ t ∈ s.resting, ¬ (.placed t ∈ s.events ∧ s.sweep = .placing) ∧ s.sweep ≠ .placed t)
    (seen : ∀ old, p = .seen old → ∀ row ∈ s.row tradeId,
      row.eaTicket = old.eaTicket ∧ (old.status = .withdrawn → row.status ≠ .working))
    (pulled : p = .pulled → ∀ t ∈ s.resting, .cancel t ∈ commands) :
    ({ s with sweep := p, commands := commands } : RestingSetup).InRow tradeId where
  present := inv.present
  known t mem := by
    rcases inv.known t mem with row | sent | waits | placed
    · exact .inl row
    · exact .inr (.inl (more _ sent))
    · exact absurd waits (free t mem).1
    · exact absurd placed (free t mem).2
  taken := inv.taken
  unbooked := inv.unbooked
  seen := seen
  pulled := pulled
  handled := inv.handled

/-- A write of the sweep on a row that is not filled. -/
theorem mark (inv : s.InRow tradeId) {written : Bool} {f : Assign PendingOrder.tradeId}
    (open_ : written = true → s.rowFilled tradeId = false)
    (known : ∀ t ∈ s.resting, .cancel t ∈ s.commands ∨
      written = true ∧ ∀ row, (f row).status = .working ∧ (f row).eaTicket = some t) :
    (s.mark tradeId written f).InRow tradeId := by
  cases written with
  | false =>
      refine ⟨inv.present, fun t mem => ?_, inv.taken, inv.unbooked, by simp [RestingSetup.mark],
        by simp [RestingSetup.mark], inv.handled⟩
      exact (known t mem).elim (fun sent => .inr (.inl sent)) fun h => by cases h.1
  | true =>
      have row_ : (s.mark tradeId true f).row tradeId = (s.row tradeId).map f :=
        find_setOrder s.db tradeId f
      refine ⟨?_, fun t mem => ?_, fun t mem => ?_, inv.unbooked, by simp [RestingSetup.mark],
        by simp [RestingSetup.mark], inv.handled⟩
      · rw [row_, Option.isSome_map]
        exact inv.present
      · rcases known t mem with sent | ⟨_, working⟩
        · exact .inr (.inl sent)
        · refine .inl fun row found => ?_
          rw [row_] at found
          obtain ⟨old, _, rfl⟩ := Option.map_eq_some_iff.mp found
          exact working old
      · cases inv.taken t mem with
        | inl filled =>
            obtain ⟨row, found⟩ := Option.isSome_iff_exists.mp inv.present
            exact absurd (filled row found) (not_rowFilled (open_ rfl) row found)
        | inr report => exact .inr report

theorem readRow (inv : s.InRow tradeId) : (s.readRow tradeId).InRow tradeId := by
  rw [RestingSetup.readRow]
  split
  · next row idle found =>
      split
      · refine inv.resweep (fun _ h => h) (fun t _ => by simp [idle]) (fun old same now here => ?_)
          (by simp)
        injection same with same
        rw [found] at here
        rw [← same, ← Option.some.inj here]
        exact ⟨rfl, fun withdrawn => by simp [withdrawn]⟩
      · exact inv
  · exact inv

theorem leaveAsIs (inv : s.InRow tradeId) : s.leaveAsIs.InRow tradeId := by
  rw [RestingSetup.leaveAsIs]
  split
  · next seen =>
      exact inv.resweep (fun _ h => h) (fun t _ => by simp [seen]) (by simp) (by simp)
  · exact inv

theorem sendCancel (inv : s.InRow tradeId) {reported delivered : Bool}
    (ok : s.guarded tradeId (.sendCancel reported delivered) = true) :
    (s.sendCancel reported delivered).InRow tradeId := by
  rw [RestingSetup.sendCancel]
  split
  · next old seen =>
      have free : ∀ t ∈ s.resting,
          ¬ (.placed t ∈ s.events ∧ s.sweep = .placing) ∧ s.sweep ≠ .placed t := fun t _ => by
        simp [seen]
      split
      · dsimp only
        split
        · exact inv.resweep (fun _ h => h) free (by simp) (by simp)
        · refine inv.resweep (fun c mem => ?_) free (fun row same => ?_) fun pulled t mem => ?_
          · cases delivered with
            | true => exact List.mem_append_left _ mem
            | false => exact mem
          · cases reported <;> cases same
          · have reported_ : reported = true := by
              by_contra h
              simp [h] at pulled
            cases delivered with
            | false =>
                simp only [guarded, reported_, Bool.not_true, Bool.or_self, Bool.false_or,
                  List.isEmpty_iff] at ok
                rw [ok] at mem
                cases mem
            | true =>
                rcases inv.known t mem with row | sent | waits | placed
                · -- the ticket the sweep has read is still the row's
                  obtain ⟨now, found⟩ := Option.isSome_iff_exists.mp inv.present
                  have ticket := (inv.seen old seen now found).1.symm.trans (row now found).2
                  simp [ticket]
                · exact List.mem_append_left _ sent
                · exact absurd waits (free t mem).1
                · exact absurd placed (free t mem).2
      · exact inv
  · exact inv

theorem sendPlace (inv : s.InRow tradeId) (now : ℚ) (reported delivered : Bool) :
    (s.sendPlace now reported delivered).InRow tradeId := by
  rw [RestingSetup.sendPlace]
  split
  · next old seen =>
      split
      · refine inv.resweep (fun c mem => ?_) (fun t _ => by simp [seen]) (fun row same => ?_)
          fun same => ?_
        · cases delivered with
          | true => exact List.mem_append_left _ mem
          | false => exact mem
        · cases reported <;> cases same
        · cases reported <;> cases same
      · exact inv
  · exact inv

theorem timeout (inv : s.InRow tradeId) (ok : s.guarded tradeId .timeout = true) :
    s.timeout.InRow tradeId := by
  simp only [guarded, Bool.and_eq_true, List.all_eq_true] at ok
  rw [RestingSetup.timeout]
  split
  · next waits =>
      refine inv.resweep (fun _ h => h) (fun t _ => ⟨fun h => ?_, by simp [waits]⟩) (by simp)
        (by simp)
      exact absurd (ok.2 _ h.1) (by simp)
  · exact inv

theorem markWithdrawn (inv : s.InRow tradeId) {written : Bool}
    (ok : s.guarded tradeId (.markWithdrawn written) = true) :
    (s.markWithdrawn tradeId written).InRow tradeId := by
  rw [RestingSetup.markWithdrawn]
  split
  · next pulled =>
      refine inv.mark (fun h => ?_) fun t mem => .inl (inv.pulled pulled t mem)
      simpa [guarded, h] using ok
  · exact inv

theorem expire (inv : s.InRow tradeId) {now : ℚ} {written : Bool}
    (ok : s.guarded tradeId (.expire now written) = true) :
    (s.expire tradeId now written).InRow tradeId := by
  rw [RestingSetup.expire]
  split
  · next old seen =>
      split
      · next ended =>
          refine inv.mark (fun h => by simpa [guarded, h] using ok) fun t mem => .inl ?_
          rcases inv.known t mem with row | sent | waits | placed
          · obtain ⟨now, found⟩ := Option.isSome_iff_exists.mp inv.present
            exact absurd (row now found).1 ((inv.seen old seen now found).2 ended.1)
          · exact sent
          · exact absurd waits.2 (by simp [seen])
          · exact absurd placed (by simp [seen])
      · exact inv
  · exact inv

theorem markRearmed (inv : s.InRow tradeId) (broker : s.AtBroker) {written : Bool}
    (ok : s.guarded tradeId (.markRearmed written) = true) :
    (s.markRearmed tradeId written).InRow tradeId := by
  rw [RestingSetup.markRearmed]
  split
  · next ticket placed =>
      refine inv.mark (fun h => by simpa [guarded, h] using ok) fun t mem => .inr ?_
      have mine : t = ticket := broker.acked ticket (.inr placed) t mem
      cases written with
      | true => exact ⟨rfl, fun row => ⟨rfl, by rw [mine]; rfl⟩⟩
      | false =>
          simp only [guarded, Bool.false_eq_true, if_false, List.isEmpty_iff] at ok
          rw [ok] at mem
          cases mem
  · exact inv

theorem eaReads (inv : s.InRow tradeId) (broker : s.AtBroker) {accepted : Bool}
    (ok : s.guarded tradeId (.eaReads accepted) = true) : (s.eaReads accepted).InRow tradeId := by
  rw [RestingSetup.eaReads]
  split
  · exact inv
  · next ticket rest sent =>
      split
      · next deleted =>
          obtain ⟨resting, positions, _⟩ := broker.positions_of_resting deleted.2
          simp only [resting, List.erase_cons_head]
          exact ⟨inv.present, by simp, by simp [positions], inv.unbooked, inv.seen, by simp,
            inv.handled⟩
      · next kept =>
          have off : ticket ∉ s.resting := by
            intro live
            simp only [guarded, sent, Bool.or_eq_true, decide_eq_true_eq] at ok
            exact ok.elim (fun accepts => kept ⟨accepts, live⟩) fun gone => gone live
          have later : ∀ t ∈ s.resting, .cancel t ∈ s.commands → .cancel t ∈ rest := by
            intro t live mem
            rw [sent] at mem
            cases List.mem_cons.mp mem with
            | inl same =>
                injection same with same
                exact absurd (same ▸ live) off
            | inr mem => exact mem
          refine ⟨inv.present, fun t mem => ?_, inv.taken, inv.unbooked, inv.seen,
            fun pulled t mem => later t mem (inv.pulled pulled t mem), inv.handled⟩
          rcases inv.known t mem with row | cancel | ack
          · exact .inl row
          · exact .inr (.inl (later t mem cancel))
          · exact .inr (.inr ack)
  · next rest sent =>
      obtain ⟨tracked, events, handler, waits⟩ := broker.asked (by simp [sent])
      obtain ⟨resting, positions, _⟩ := broker.of_place sent
      split
      · refine ⟨inv.present, fun t mem => ?_, by simp [positions], inv.unbooked, inv.seen,
          by simp [waits], inv.handled⟩
        have new : t = s.nextTicket := by simpa [resting] using mem
        exact .inr (.inr (.inl ⟨by simp [new], waits⟩))
      · exact ⟨inv.present, by simp [resting], by simp [positions], inv.unbooked, inv.seen,
          by simp [resting], inv.handled⟩

theorem fill (inv : s.InRow tradeId) (broker : s.AtBroker) (ticket : ℤ) :
    (s.fill ticket).InRow tradeId := by
  rw [RestingSetup.fill]
  split
  · next live =>
      obtain ⟨resting, positions, _⟩ := broker.positions_of_resting live
      have tracked := broker.tracked ticket live
      simp only [resting, positions, List.erase_cons_head, List.nil_append]
      refine ⟨inv.present, by simp, fun t mem => .inr ⟨inv.unbooked positions, .inl ?_⟩, by simp,
        inv.seen, by simp, inv.handled⟩
      rw [tracked]
      exact mem
  · exact inv

theorem drop (inv : s.InRow tradeId) (ticket : ℤ) : (s.drop ticket).InRow tradeId :=
  ⟨inv.present, fun t mem => inv.known t (List.mem_of_mem_erase mem), inv.taken, inv.unbooked,
    inv.seen, fun pulled t mem => inv.pulled pulled t (List.mem_of_mem_erase mem), inv.handled⟩

theorem eaNotices (inv : s.InRow tradeId) (ticket : ℤ) (fillPrice : ℚ) :
    (s.eaNotices ticket fillPrice).InRow tradeId := by
  rw [RestingSetup.eaNotices]
  split
  · refine ⟨inv.present, fun t mem => ?_, fun t mem => ?_, inv.unbooked, inv.seen, inv.pulled,
      inv.handled⟩
    · exact (inv.known t mem).imp_right fun h => h.imp_right fun h => h.imp_left fun ack =>
        ⟨List.mem_append_left _ ack.1, ack.2⟩
    · refine (inv.taken t mem).imp rfl fun report => ?_
      rcases report with unnoticed | ⟨p, sent⟩ | handling
      · by_cases same : t = ticket
        · refine .inr (.inl ⟨fillPrice, ?_⟩)
          rw [← same, if_pos mem]
          exact List.mem_append_right _ (List.mem_singleton.mpr rfl)
        · exact .inl ((List.mem_erase_of_ne same).mpr unnoticed)
      · exact .inr (.inl ⟨p, List.mem_append_left _ sent⟩)
      · exact .inr (.inr handling)
  · exact inv

/-- A resting order is still known once the handler has taken an event of another. -/
theorem known_later {e : EaEvent} {rest : List EaEvent} (inv : s.InRow tradeId)
    (first : s.events = e :: rest) {t : ℤ} (mem : t ∈ s.resting) (other : e ≠ .placed t) :
    ({ s with events := rest } : RestingSetup).Known tradeId t := by
  refine (inv.known t mem).imp_right fun h => h.imp_right fun h => h.imp_left fun ack =>
    ⟨?_, ack.2⟩
  have sent := ack.1
  rw [first] at sent
  exact (List.mem_cons.mp sent).resolve_left fun same => other same.symm

theorem taken_later {e : EaEvent} {rest : List EaEvent} (inv : s.InRow tradeId)
    (first : s.events = e :: rest) {t : ℤ} (mem : t ∈ s.positions)
    (other : ∀ p, e ≠ .filled t p) :
    ({ s with events := rest } : RestingSetup).Taken tradeId t := by
  refine (inv.taken t mem).imp rfl fun report => ?_
  rcases report with unnoticed | ⟨p, sent⟩ | handling
  · exact .inl unnoticed
  · rw [first] at sent
    exact .inr (.inl ⟨p, (List.mem_cons.mp sent).resolve_left fun same => other p same.symm⟩)
  · exact .inr (.inr handling)

theorem handle {e : EaEvent} {rest : List EaEvent} (inv : s.InRow tradeId) (broker : s.AtBroker)
    (first : s.events = e :: rest) (idle : s.handler = .idle) :
    (({ s with events := rest } : RestingSetup).handle tradeId e).InRow tradeId := by
  have taken : ∀ t ∈ s.positions, (∀ p, e ≠ .filled t p) →
      ({ s with events := rest } : RestingSetup).Taken tradeId t :=
    fun t mem other => inv.taken_later first mem other
  obtain ⟨row, found⟩ := Option.isSome_iff_exists.mp inv.present
  have key : row.tradeId = tradeId := Table.key_of_find found
  have found' : ({ s with events := rest } : RestingSetup).row tradeId = some row := found
  cases e with
  | placed ticket =>
      simp only [RestingSetup.handle]
      split
      · next waits =>
          refine ⟨inv.present, fun t mem => ?_, fun t mem => taken t mem (by simp), inv.unbooked,
            by simp, by simp, inv.handled⟩
          have mine := broker.acked ticket (.inl (by simp [first])) t mem
          exact .inr (.inr (.inr (by rw [mine])))
      · next other =>
          refine ⟨inv.present, fun t mem => ?_, fun t mem => taken t mem (by simp), inv.unbooked,
            inv.seen, inv.pulled, inv.handled⟩
          exact (inv.known t mem).imp_right fun h => h.imp_right fun h => h.imp_left fun ack =>
            absurd ack.2 other
  | openFailed =>
      have resting := broker.refused (by simp [first])
      simp only [RestingSetup.handle]
      split
      · exact ⟨inv.present, by simp [resting], fun t mem => taken t mem (by simp), inv.unbooked,
          by simp, by simp, inv.handled⟩
      · exact ⟨inv.present, by simp [resting], fun t mem => taken t mem (by simp), inv.unbooked,
          inv.seen, inv.pulled, inv.handled⟩
  | filled ticket fillPrice =>
      simp only [RestingSetup.handle, found']
      refine ⟨inv.present, fun t mem => inv.known_later first mem (by simp), fun t mem => ?_,
        inv.unbooked, inv.seen, inv.pulled, fun row' same => ?_⟩
      · by_cases mine : t = ticket
        · exact (inv.taken t mem).imp rfl fun _ => .inr (.inr ⟨row, fillPrice, by rw [mine]⟩)
        · have other : ∀ p, EaEvent.filled ticket fillPrice ≠ .filled t p := by
            intro p same
            injection same with same
            exact mine same.symm
          refine (taken t mem other).imp rfl fun report => ?_
          rcases report with unnoticed | sent | ⟨_, _, handling⟩
          · exact .inl unnoticed
          · exact .inr (.inl sent)
          · rw [show s.handler = _ from handling] at idle
            cases idle
      · rcases same with same | ⟨t, p, same⟩
        · cases same
        · injection same with same
          rw [← same]
          exact key
  | cancelled =>
      have nothing := broker.gone (.inl (by simp [first]))
      simp only [RestingSetup.handle, found']
      split
      · exact ⟨inv.present, by simp [nothing.1], by simp [nothing.2], inv.unbooked, inv.seen,
          inv.pulled, inv.handled⟩
      · refine ⟨inv.present, by simp [nothing.1], by simp [nothing.2], inv.unbooked, inv.seen,
          inv.pulled, fun row' same => ?_⟩
        rcases same with same | ⟨t, p, same⟩
        · injection same with same
          rw [← same]
          exact key
        · cases same

end InRow

/-- A fill is booked unless the trade is there already. -/
theorem applyPendingFill_spec (db : Db) {o : PendingOrder} (mine : o.tradeId = tradeId)
    (ticket : Option ℤ) (fillPrice now : ℚ) :
    (db.applyPendingFill o ticket fillPrice now = none ∧ db.trades.find tradeId ≠ none) ∨
      ∃ db', db.applyPendingFill o ticket fillPrice now = some db' ∧
        db'.orders.find tradeId =
          (db.orders.find tradeId).map (PendingOrder.resolve .filled now) := by
  cases inserted : db.trades.insert (o.filledTrade ticket fillPrice now) with
  | none =>
      left
      refine ⟨by rw [Db.applyPendingFill, insertTradeAndActivateSignal, inserted]; rfl, ?_⟩
      intro missing
      have key : (o.filledTrade ticket fillPrice now).tradeId = tradeId := mine
      have fresh : (o.filledTrade ticket fillPrice now).tradeId ∉
          db.trades.rows.map Trade.tradeId := by
        rwa [← Table.find_eq_none_iff, key]
      obtain ⟨trades, done, _⟩ := Table.insert_of_fresh fresh
      rw [inserted] at done
      cases done
  | some trades =>
      right
      refine ⟨_, by rw [Db.applyPendingFill, insertTradeAndActivateSignal, inserted]; rfl, ?_⟩
      rw [mine, find_setOrder]
      rfl

theorem InRow.applyEvent (inv : s.InRow tradeId) (broker : s.AtBroker) (now : ℚ) :
    (s.applyEvent now).InRow tradeId := by
  rw [RestingSetup.applyEvent]
  split
  · exact inv
  · next o ticket fillPrice handling =>
      have mine := inv.handled o (.inr ⟨ticket, fillPrice, handling⟩)
      have filled := broker.filling o ticket fillPrice handling
      have resting := broker.resting_of_position filled
      rcases applyPendingFill_spec s.db mine (some ticket) fillPrice now with
        ⟨refused, booked⟩ | ⟨db, done, row⟩
      · rw [refused, Option.getD_none]
        refine ⟨inv.present, by simp [resting], fun t mem => ?_, inv.unbooked, inv.seen,
          inv.pulled, by simp⟩
        exact (inv.taken t mem).imp_right fun h => absurd h.1 booked
      · rw [done, Option.getD_some]
        have row_ : ∀ now_ ∈ db.orders.find tradeId, ∃ old ∈ s.row tradeId,
            now_ = PendingOrder.resolve .filled now old := by
          intro now_ found
          rw [row] at found
          obtain ⟨old, was, rfl⟩ := Option.map_eq_some_iff.mp found
          exact ⟨old, was, rfl⟩
        refine ⟨?_, by simp [resting], fun t mem => .inl fun now_ found => ?_, ?_,
          fun old seen now_ found => ?_, by simp [resting], by simp⟩
        · rw [RestingSetup.row, row, Option.isSome_map]
          exact inv.present
        · obtain ⟨old, _, rfl⟩ := row_ now_ found
          rfl
        · intro empty
          rw [show s.positions = [] from empty] at filled
          cases filled
        · obtain ⟨before, was, rfl⟩ := row_ now_ found
          exact ⟨(inv.seen old seen before was).1, fun _ => by simp [PendingOrder.resolve]⟩
  · next o handling =>
      have mine := inv.handled o (.inl handling)
      have nothing := broker.gone (.inr ⟨o, handling⟩)
      have row : (s.db.applyPendingCancelled o now).orders.find tradeId =
          (s.row tradeId).map (PendingOrder.resolve .cancelled now) := by
        rw [← mine]
        exact find_setOrder s.db o.tradeId _
      refine ⟨?_, by simp [nothing.1], by simp [nothing.2], inv.unbooked,
        fun old seen now_ found => ?_, by simp [nothing.1], by simp⟩
      · rw [RestingSetup.row, row, Option.isSome_map]
        exact inv.present
      · rw [RestingSetup.row, row] at found
        obtain ⟨before, was, rfl⟩ := Option.map_eq_some_iff.mp found
        exact ⟨(inv.seen old seen before was).1, fun _ => by simp [PendingOrder.resolve]⟩

theorem Kept.step (tradeId : String) (s : RestingSetup) (a : RestingStep) (inv : s.Kept tradeId)
    (ok : s.guarded tradeId a = true) : (s.step tradeId a).Kept tradeId := by
  refine ⟨inv.broker.step a ok, ?_⟩
  have app := inv.app
  cases a with
  | readRow => exact app.readRow
  | leaveAsIs => exact app.leaveAsIs
  | sendCancel reported delivered => exact app.sendCancel ok
  | markWithdrawn written => exact app.markWithdrawn ok
  | expire now written => exact app.expire ok
  | sendPlace now reported delivered => exact app.sendPlace now reported delivered
  | timeout => exact app.timeout ok
  | markRearmed written => exact app.markRearmed inv.broker ok
  | eaReads accepted => exact app.eaReads inv.broker ok
  | fill ticket => exact app.fill inv.broker ticket
  | drop ticket => exact app.drop ticket
  | eaNotices ticket fillPrice => exact app.eaNotices ticket fillPrice
  | appReads =>
      simp only [RestingSetup.step, RestingSetup.appReads]
      split
      · next idle first => exact app.handle inv.broker first idle
      · exact app
  | applyEvent now => exact app.applyEvent inv.broker now

/-- Once nothing is on its way, only the row can account for what is there. -/
theorem Kept.safe (inv : s.Kept tradeId) : s.RestingSafe tradeId where
  one := by
    have one := inv.broker.one
    omega
  live still t mem row found := by
    rcases inv.app.known t mem with known | sent | waits | placed
    · exact known row found
    · rw [still.commands] at sent
      cases sent
    · rw [still.events] at waits
      cases waits.1
    · rcases still.sweep with idle | ⟨old, seen⟩
      · rw [idle] at placed
        cases placed
      · rw [seen] at placed
        cases placed
  filled still some_ row found := by
    obtain ⟨t, mem⟩ := List.exists_mem_of_ne_nil _ some_
    rcases inv.app.taken t mem with filled | ⟨_, unnoticed | ⟨p, sent⟩ | ⟨o, p, handling⟩⟩
    · exact filled row found
    · have live := still.tracked t unnoticed
      rw [inv.broker.resting_of_position mem] at live
      cases live
    · rw [still.events] at sent
      cases sent
    · rw [still.handler] at handling
      cases handling

theorem kept_of_placed {ticket : ℤ} (start : s.Placed tradeId ticket) : s.Kept tradeId := by
  obtain ⟨row, found, working, mine⟩ := start.row
  constructor
  · refine ⟨?_, ?_, ?_, ?_, ?_, ?_, ?_, ?_, ?_⟩ <;>
      simp [start.resting, start.positions, start.tracked, start.commands, start.events,
        start.sweep, start.handler]
  · refine ⟨by simp [found], fun t mem => .inl fun now here => ?_, by simp [start.positions],
      fun _ => start.unbooked, by simp [start.sweep], by simp [start.sweep],
      by simp [start.handler]⟩
    rw [found] at here
    rw [start.resting, List.mem_singleton] at mem
    rw [← Option.some.inj here, mem]
    exact ⟨working, mine⟩

/-- In every run in which a withdrawal is confirmed before the order goes back,
no write of the sweep falls on a filled row, and no message or write is lost on
which a resting order depends, the setup never stands twice at the broker, and
its row never ends up saying otherwise. -/
theorem resting_order_safe (tradeId : String) (ticket : ℤ) (s : RestingSetup)
    (steps : List RestingStep) (start : s.Placed tradeId ticket)
    (run : Meets (RestingSetup.step tradeId) (fun s a => s.guarded tradeId a = true) s steps) :
    ∀ t ∈ states (RestingSetup.step tradeId) s steps, t.RestingSafe tradeId := by
  intro t mem
  exact (states_invariant (Kept.step tradeId) (kept_of_placed start) run t mem).safe

/-- One order, just placed under ticket 7001. -/
def justPlaced : RestingSetup where
  db :=
    { oneLotBook with
      trades := Table.empty
      signals := Table.empty
      orders := Table.single (PendingOrder.resting "o1" "s1") }
  resting := [7001]
  positions := []
  nextTicket := 7002
  tracked := [7001]
  commands := []
  events := []
  sweep := .idle
  handler := .idle

theorem justPlaced_placed : justPlaced.Placed "o1" 7001 :=
  ⟨⟨PendingOrder.resting "o1" "s1", by decide +kernel, rfl, rfl⟩, rfl, rfl, rfl, rfl, rfl, rfl, rfl,
    rfl⟩

/-- Withdrawn, re-armed under the next ticket, and filled. -/
theorem resting_order_safe_rearmed :
    justPlaced.Placed "o1" 7001 ∧
      ∀ t ∈ states (RestingSetup.step "o1") justPlaced
        [.readRow, .sendCancel true true, .markWithdrawn true, .eaReads true, .appReads, .readRow,
          .sendPlace 10 true true, .eaReads true, .appReads, .markRearmed true, .fill 7002,
          .eaNotices 7002 2000, .appReads, .applyEvent 20],
        t.RestingSafe "o1" :=
  ⟨justPlaced_placed,
    resting_order_safe "o1" 7001 justPlaced _ justPlaced_placed (by decide +kernel)⟩

/-- The acknowledgement of a re-armed order comes too late, and the next sweep
places the order again. -/
def lostAck : List RestingStep :=
  [.readRow, .sendCancel true true, .markWithdrawn true, .eaReads true, .appReads, .readRow,
    .sendPlace 10 true true, .timeout, .eaReads true, .readRow, .sendPlace 20 true true,
    .eaReads true]

theorem lost_ack_places_twice :
    ¬ ∀ t ∈ states (RestingSetup.step "o1") justPlaced lostAck, t.RestingSafe "o1" := by
  intro safe
  have one := (safe _ (foldl_mem_states _ justPlaced lostAck)).one
  exact absurd one (by decide +kernel)

end RestingSetup

end Forex
