import Forex.Signals.Resting

/-!
The broker's side of the invariant of a resting order: its book, the list the
EA watches, and what is on its way between the EA and the app. Nothing here
reads the database.
-/

namespace Forex
open Support

namespace RestingSetup
variable (s : RestingSetup)

/-- The broker's book, the EA's list and the messages between them. -/
structure AtBroker : Prop where
  one : s.resting.length + s.positions.length + s.commands.count .place ≤ 1
  asked : .place ∈ s.commands →
    s.tracked = [] ∧ s.events = [] ∧ s.handler = .idle ∧ s.sweep = .placing
  tracked : ∀ t ∈ s.resting, s.tracked = [t]
  follows : ∀ t ∈ s.positions, ∀ k ∈ s.tracked, k = t
  reported : ∀ t fillPrice, .filled t fillPrice ∈ s.events → t ∈ s.positions
  filling : ∀ row t fillPrice, s.handler = .filling row t fillPrice → t ∈ s.positions
  gone : .cancelled ∈ s.events ∨ (∃ row, s.handler = .cancelling row) →
    s.resting = [] ∧ s.positions = []
  refused : .openFailed ∈ s.events → s.resting = []
  acked : ∀ t, .placed t ∈ s.events ∨ s.sweep = .placed t → ∀ k ∈ s.resting, k = t

variable {tradeId : String} {s : RestingSetup}

namespace AtBroker

theorem no_place (inv : s.AtBroker) (h : s.sweep ≠ .placing) : .place ∉ s.commands :=
  fun mem => h (inv.asked mem).2.2.2

theorem resting_of_position (inv : s.AtBroker) {t : ℤ} (mem : t ∈ s.positions) :
    s.resting = [] := by
  have one := inv.one
  have here := List.length_pos_of_mem mem
  rw [← List.length_eq_zero_iff]
  omega

theorem positions_of_resting (inv : s.AtBroker) {t : ℤ} (mem : t ∈ s.resting) :
    s.resting = [t] ∧ s.positions = [] ∧ .place ∉ s.commands := by
  have one := inv.one
  have here := List.length_pos_of_mem mem
  have single : s.resting.length = 1 := by omega
  obtain ⟨k, only⟩ := List.length_eq_one_iff.mp single
  rw [only, List.mem_singleton] at mem
  refine ⟨by rw [only, mem], ?_, ?_⟩
  · rw [← List.length_eq_zero_iff]
    omega
  · rw [← List.count_eq_zero]
    omega

/-- A place is sent once, when nothing of the setup is left. -/
theorem of_place (inv : s.AtBroker) {rest : List EaCommand} (sent : s.commands = .place :: rest) :
    s.resting = [] ∧ s.positions = [] ∧ .place ∉ rest := by
  have one := inv.one
  rw [sent, List.count_cons_self] at one
  refine ⟨?_, ?_, ?_⟩
  · exact List.length_eq_zero_iff.mp (by omega)
  · exact List.length_eq_zero_iff.mp (by omega)
  · rw [← List.count_eq_zero]
    omega

/-- The broker's side does not see the database, and of the sweep only its wait
for an acknowledgement. -/
theorem resweep (inv : s.AtBroker) (db : Db) {p : SweepPhase}
    (asked : .place ∈ s.commands → p = .placing)
    (acked : ∀ t, p = .placed t → ∀ k ∈ s.resting, k = t) :
    ({ s with db := db, sweep := p } : RestingSetup).AtBroker where
  one := inv.one
  asked mem := ⟨(inv.asked mem).1, (inv.asked mem).2.1, (inv.asked mem).2.2.1, asked mem⟩
  tracked := inv.tracked
  follows := inv.follows
  reported := inv.reported
  filling := inv.filling
  gone := inv.gone
  refused := inv.refused
  acked t h := h.elim (fun mem => inv.acked t (.inl mem)) (acked t)

theorem readRow (inv : s.AtBroker) : (s.readRow tradeId).AtBroker := by
  rw [RestingSetup.readRow]
  split
  · next idle _ =>
      split
      · exact inv.resweep s.db (fun mem => absurd mem (inv.no_place (by simp [idle]))) (by simp)
      · exact inv
  · exact inv

theorem leaveAsIs (inv : s.AtBroker) : s.leaveAsIs.AtBroker := by
  rw [RestingSetup.leaveAsIs]
  split
  · next seen =>
      exact inv.resweep s.db (fun mem => absurd mem (inv.no_place (by simp [seen]))) (by simp)
  · exact inv

theorem sendCancel (inv : s.AtBroker) (reported delivered : Bool) :
    (s.sendCancel reported delivered).AtBroker := by
  rw [RestingSetup.sendCancel]
  split
  · next old seen =>
      have none_ := inv.no_place (by simp [seen])
      split
      · dsimp only
        split
        · exact inv.resweep s.db (fun mem => absurd mem none_) (by simp)
        · have quiet : ∀ t, (if reported then SweepPhase.pulled else .idle) ≠ .placed t := by
            intro t
            cases reported <;> simp
          have base := inv.resweep s.db (p := if reported then .pulled else .idle)
            (fun mem => absurd mem none_) fun t same => absurd same (quiet t)
          cases delivered with
          | false => exact base
          | true =>
              refine ⟨?_, fun mem => ?_, base.tracked, base.follows, base.reported, base.filling,
                base.gone, base.refused, base.acked⟩
              · have one := base.one
                simpa using one
              · exact absurd (by simpa using mem) none_
      · exact inv
  · exact inv

theorem mark (inv : s.AtBroker) (h : s.sweep ≠ .placing) (written : Bool)
    (f : Assign PendingOrder.tradeId) : (s.mark tradeId written f).AtBroker :=
  inv.resweep _ (fun mem => absurd mem (inv.no_place h)) (by simp)

theorem sendPlace (inv : s.AtBroker) {now : ℚ} {reported delivered : Bool}
    (ok : s.guarded tradeId (.sendPlace now reported delivered) = true) :
    (s.sendPlace now reported delivered).AtBroker := by
  rw [RestingSetup.sendPlace]
  split
  · next old seen =>
      split
      · have none_ := inv.no_place (by simp [seen])
        have quiet : ∀ t, (if reported then SweepPhase.placing else .idle) ≠ .placed t := by
          intro t
          cases reported <;> simp
        cases delivered with
        | false =>
            exact inv.resweep s.db (fun mem => absurd mem none_) fun t same =>
              absurd same (quiet t)
        | true =>
            simp only [guarded, Bool.not_true, Bool.false_or, Bool.and_eq_true, confirmedGone,
              List.isEmpty_iff, decide_eq_true_eq] at ok
            obtain ⟨rfl, ⟨⟨⟨⟨resting, positions⟩, tracked⟩, commands⟩, events⟩, handler⟩ := ok
            refine ⟨?_, fun _ => ⟨tracked, events, handler, rfl⟩, inv.tracked, inv.follows,
              inv.reported, inv.filling, inv.gone, inv.refused, fun t h k mem => ?_⟩
            · simp [resting, positions, commands]
            · rw [resting] at mem
              cases mem
      · exact inv
  · exact inv

theorem timeout (inv : s.AtBroker) (ok : s.guarded tradeId .timeout = true) :
    s.timeout.AtBroker := by
  simp only [guarded, Bool.and_eq_true, decide_eq_true_eq] at ok
  rw [RestingSetup.timeout]
  split
  · exact inv.resweep s.db (fun mem => absurd mem ok.1) (by simp)
  · exact inv

theorem eaReads (inv : s.AtBroker) (accepted : Bool) : (s.eaReads accepted).AtBroker := by
  rw [RestingSetup.eaReads]
  split
  · exact inv
  · next ticket rest sent =>
      have count : s.commands.count .place = rest.count .place := by
        rw [sent, List.count_cons_of_ne (by simp)]
      have one := inv.one
      have later : .place ∈ rest → .place ∈ s.commands := fun mem =>
        sent ▸ List.mem_cons_of_mem _ mem
      split
      · next deleted =>
          obtain ⟨resting, positions, none_⟩ := inv.positions_of_resting deleted.2
          have tracked := inv.tracked ticket deleted.2
          simp only [resting, tracked, List.erase_cons_head]
          refine ⟨?_, fun mem => absurd (later mem) none_, by simp, by simp, fun t p mem => ?_,
            inv.filling, fun _ => ⟨rfl, positions⟩, by simp, by simp⟩
          · rw [count] at one
            simp only [List.length_nil]
            omega
          · exact inv.reported t p (by simpa using mem)
      · refine ⟨?_, fun mem => inv.asked (later mem), inv.tracked, inv.follows, inv.reported,
          inv.filling, inv.gone, inv.refused, inv.acked⟩
        rw [count] at one
        exact one
  · next rest sent =>
      obtain ⟨tracked, events, handler, waits⟩ := inv.asked (by simp [sent])
      obtain ⟨resting, positions, last⟩ := inv.of_place sent
      split
      · simp only [resting, tracked, events, List.nil_append]
        refine ⟨?_, fun mem => absurd mem last, by simp, by simp [positions], by simp, ?_, ?_,
          by simp, ?_⟩
        · simp [positions, List.count_eq_zero.mpr last]
        · simp [handler]
        · simp [handler]
        · simp [waits]
      · simp only [events, List.nil_append]
        refine ⟨?_, fun mem => absurd mem last, by simp [resting], by simp [positions], by simp,
          ?_, ?_, fun _ => resting, by simp [resting]⟩
        · simp [resting, positions, List.count_eq_zero.mpr last]
        · simp [handler]
        · simp [handler]

theorem fill (inv : s.AtBroker) (ticket : ℤ) : (s.fill ticket).AtBroker := by
  rw [RestingSetup.fill]
  split
  · next live =>
      obtain ⟨resting, positions, none_⟩ := inv.positions_of_resting live
      have tracked := inv.tracked ticket live
      simp only [resting, positions, List.erase_cons_head, List.nil_append]
      refine ⟨by simp [List.count_eq_zero.mpr none_], fun mem => absurd mem none_, by simp,
        by simp [tracked], fun t p mem => ?_, fun row t p same => ?_, fun cancelled => ?_,
        fun _ => rfl, by simp⟩
      · exact absurd (inv.reported t p mem) (by simp [positions])
      · exact absurd (inv.filling row t p same) (by simp [positions])
      · exact absurd (inv.gone cancelled).1 (by simp [resting])
  · exact inv

theorem drop (inv : s.AtBroker) (ticket : ℤ) : (s.drop ticket).AtBroker := by
  by_cases live : ticket ∈ s.resting
  · obtain ⟨resting, positions, none_⟩ := inv.positions_of_resting live
    have empty : s.resting.erase ticket = [] := by rw [resting, List.erase_cons_head]
    simp only [RestingSetup.drop, empty]
    exact ⟨by simp [positions, List.count_eq_zero.mpr none_], fun mem => absurd mem none_, by simp,
      inv.follows, inv.reported, inv.filling, fun h => ⟨rfl, (inv.gone h).2⟩, fun _ => rfl,
      by simp⟩
  · rw [RestingSetup.drop, List.erase_of_not_mem live]
    exact inv

theorem eaNotices (inv : s.AtBroker) (ticket : ℤ) (fillPrice : ℚ) :
    (s.eaNotices ticket fillPrice).AtBroker := by
  rw [RestingSetup.eaNotices]
  split
  · next noticed =>
      obtain ⟨tracked, off⟩ := noticed
      have resting : s.resting = [] := by
        refine List.eq_nil_iff_forall_not_mem.mpr fun k mem => off ?_
        rw [inv.tracked k mem, List.mem_singleton] at tracked
        rwa [tracked]
      have none_ : .place ∉ s.commands := by
        intro mem
        rw [(inv.asked mem).1] at tracked
        cases tracked
      refine ⟨inv.one, fun mem => absurd mem none_, by simp [resting], fun t mem k gone => ?_,
        fun t p mem => ?_, inv.filling, fun cancelled => ⟨resting, ?_⟩, fun _ => resting,
        by simp [resting]⟩
      · exact inv.follows t mem k (List.mem_of_mem_erase gone)
      · cases List.mem_append.mp mem with
        | inl mem => exact inv.reported t p mem
        | inr mem =>
            by_cases filled : ticket ∈ s.positions
            · rw [if_pos filled, List.mem_singleton] at mem
              injection mem with same _
              rwa [same]
            · simp [filled] at mem
      · by_cases filled : ticket ∈ s.positions
        · refine (inv.gone (cancelled.imp_left fun mem => ?_)).2
          simpa [filled] using mem
        · refine List.eq_nil_iff_forall_not_mem.mpr fun k mem => filled ?_
          rwa [inv.follows k mem ticket tracked]
  · exact inv

theorem handle {e : EaEvent} {rest : List EaEvent} (inv : s.AtBroker)
    (first : s.events = e :: rest) :
    (({ s with events := rest } : RestingSetup).handle tradeId e).AtBroker := by
  have none_ : .place ∉ s.commands := by
    intro mem
    rw [(inv.asked mem).2.1] at first
    cases first
  have later : ∀ e' ∈ rest, e' ∈ s.events := fun e' mem => first ▸ List.mem_cons_of_mem e mem
  have popped : ({ s with events := rest } : RestingSetup).AtBroker :=
    ⟨inv.one, fun mem => absurd mem none_, inv.tracked, inv.follows,
      fun t p mem => inv.reported t p (later _ mem), inv.filling,
      fun h => inv.gone (h.imp_left (later _)), fun mem => inv.refused (later _ mem),
      fun t h => inv.acked t (h.imp_left (later _))⟩
  cases e with
  | placed ticket =>
      simp only [RestingSetup.handle]
      split
      · refine popped.resweep s.db (fun mem => absurd mem none_) fun t same => ?_
        injection same with same
        rw [← same]
        exact inv.acked ticket (.inl (by simp [first]))
      · exact popped
  | openFailed =>
      simp only [RestingSetup.handle]
      split
      · exact popped.resweep s.db (fun mem => absurd mem none_) (by simp)
      · exact popped
  | filled ticket fillPrice =>
      simp only [RestingSetup.handle]
      split
      · refine ⟨popped.one, fun mem => absurd mem none_, popped.tracked, popped.follows,
          popped.reported, fun row t p same => ?_, fun h => ?_, popped.refused, popped.acked⟩
        · injection same with _ same _
          rw [← same]
          exact inv.reported ticket fillPrice (by simp [first])
        · exact popped.gone (h.imp_right (by simp))
      · exact popped
  | cancelled =>
      have nothing := inv.gone (.inl (by simp [first]))
      simp only [RestingSetup.handle]
      split
      · split
        · exact popped
        · exact ⟨popped.one, fun mem => absurd mem none_, popped.tracked, popped.follows,
            popped.reported, by simp, fun _ => nothing, popped.refused, popped.acked⟩
      · exact popped

theorem applyEvent (inv : s.AtBroker) (now : ℚ) : (s.applyEvent now).AtBroker := by
  have quiet : ∀ db, ({ s with db := db, handler := .idle } : RestingSetup).AtBroker := fun db =>
    ⟨inv.one, fun mem => ⟨(inv.asked mem).1, (inv.asked mem).2.1, rfl, (inv.asked mem).2.2.2⟩,
      inv.tracked, inv.follows, inv.reported, by simp,
      fun h => inv.gone (h.imp_right (by simp)), inv.refused, inv.acked⟩
  rw [RestingSetup.applyEvent]
  split
  · exact inv
  · exact quiet _
  · exact quiet _

theorem step (inv : s.AtBroker) (a : RestingStep) (ok : s.guarded tradeId a = true) :
    (s.step tradeId a).AtBroker := by
  cases a with
  | readRow => exact inv.readRow
  | leaveAsIs => exact inv.leaveAsIs
  | sendCancel reported delivered => exact inv.sendCancel reported delivered
  | sendPlace now reported delivered => exact inv.sendPlace ok
  | timeout => exact inv.timeout ok
  | eaReads accepted => exact inv.eaReads accepted
  | fill ticket => exact inv.fill ticket
  | drop ticket => exact inv.drop ticket
  | eaNotices ticket fillPrice => exact inv.eaNotices ticket fillPrice
  | applyEvent now => exact inv.applyEvent now
  | markWithdrawn written =>
      simp only [RestingSetup.step, RestingSetup.markWithdrawn]
      split
      · next pulled => exact inv.mark (by simp [pulled]) written _
      · exact inv
  | expire now written =>
      simp only [RestingSetup.step, RestingSetup.expire]
      split
      · next seen =>
          split
          · exact inv.mark (by simp [seen]) written _
          · exact inv
      · exact inv
  | markRearmed written =>
      simp only [RestingSetup.step, RestingSetup.markRearmed]
      split
      · next placed => exact inv.mark (by simp [placed]) written _
      · exact inv
  | appReads =>
      simp only [RestingSetup.step, RestingSetup.appReads]
      split
      · next first => exact inv.handle first
      · exact inv

end AtBroker

end RestingSetup

end Forex
