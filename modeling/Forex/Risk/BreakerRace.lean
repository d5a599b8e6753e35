import Forex.Risk.Basket
import Mathlib.Data.List.Count

/-!
Calls of `score_close` and of the breaker's other writers and readers, run by
several threads. A call is cut where another thread can come between: taking the
registry lock, the two halves of a settings read that misses the cache, the
write of the row and the dropping of the cache after it. Only a leg scored on
its own keeps the registry lock while it does all this.
-/

namespace Forex
open Support

inductive BreakerEvent where
  | win
  | loss
  | reset
deriving DecidableEq, Repr

/-- What a settings read is for. -/
inductive SettingsUse where
  | outcome (won : Bool)
  | before (u : BreakerUpdate)
  | after
  | state
deriving DecidableEq, Repr

inductive BreakerPhase where
  | entry
  | get (use : SettingsUse)
  | fill (use : SettingsUse) (rs : BreakerSettings)
  | commit (u : BreakerUpdate)
  | drop
  | finished
deriving DecidableEq, Repr

/-- A call under way; the event is known once the registry has been asked. -/
structure BreakerCall where
  ticket : ℤ
  won : Bool
  phase : BreakerPhase
  event : Option BreakerEvent
  holdsLock : Bool
deriving DecidableEq, Repr

inductive RaceStep where
  | scoreClose (ticket : ℤ) (won : Bool)
  | resetCircuitBreaker
  | getRiskSettings
  | register (basketId : String) (net : ℚ) (tickets : List (Option ℤ))
  | run (i : ℕ) (now : ℚ)
  | expire

/-- The log lists the events in the order their writes were committed. -/
structure Race where
  row : BreakerSettings
  cache : Option BreakerSettings
  reg : Registry
  calls : List BreakerCall
  trips : ℕ
  log : List BreakerEvent

def SettingsUse.pending : SettingsUse → Bool
  | .outcome _ => true
  | .before _ => true
  | .after => false
  | .state => false

/-- The event of the call has not been written yet. -/
def BreakerPhase.pending : BreakerPhase → Bool
  | .entry => true
  | .get use => use.pending
  | .fill use _ => use.pending
  | .commit _ => true
  | .drop => false
  | .finished => false

namespace BreakerCall
variable (c : BreakerCall)

def decided (scoring : Scoring) : BreakerCall :=
  match scoring with
  | .alone =>
      { c with
        phase := .get (.outcome c.won)
        event := some (if c.won then .win else .loss)
        holdsLock := true }
  | .basketWin _ => { c with phase := .get (.outcome true), event := some .win }
  | .quiet => { c with phase := .get .state }

/-- The call goes on with the settings it asked for. -/
def receive (use : SettingsUse) (rs : BreakerSettings) (now : ℚ) : BreakerCall :=
  match use with
  | .outcome won =>
      if rs.enabled then { c with phase := .get (.before (rs.outcomeUpdate won now)) }
      else { c with phase := .get .state }
  | .before u => { c with phase := .commit u }
  | .after => if c.event = some .reset then { c with phase := .finished }
      else { c with phase := .get .state }
  | .state => { c with phase := .finished, holdsLock := false }

def trippedBy (u : BreakerUpdate) : Bool :=
  decide (c.event = some .loss) && u.activeUntil.isSome

/-- The call holds on to settings it has read: a row for the cache, or the new
count of a loss. -/
def inHand : Bool :=
  match c.phase with
  | .fill _ _ => true
  | .get (.before _) => decide (c.event = some .loss)
  | .commit _ => decide (c.event = some .loss)
  | _ => false

def logged (e : BreakerEvent) : Bool := decide (c.event = some e) && !c.phase.pending

end BreakerCall

namespace Race
variable (s : Race)

def start (rs : BreakerSettings) : Race := ⟨rs, none, Registry.forgotten, [], 0, []⟩

def locked : Bool := s.calls.any BreakerCall.holdsLock

def begin (ticket : ℤ) (won : Bool) (phase : BreakerPhase) (event : Option BreakerEvent) : Race :=
  { s with calls := s.calls ++ [⟨ticket, won, phase, event, false⟩] }

def setCall (i : ℕ) (c : BreakerCall) : Race := { s with calls := s.calls.set i c }

def advance (i : ℕ) (c : BreakerCall) (now : ℚ) : Race :=
  match c.phase with
  | .entry =>
      if s.locked then s
      else
        let settled := s.reg.settle c.ticket
        { s.setCall i (c.decided settled.2) with reg := settled.1 }
  | .get use =>
      match s.cache with
      | some rs => s.setCall i (c.receive use rs now)
      | none => s.setCall i { c with phase := .fill use s.row }
  | .fill use rs => { s.setCall i (c.receive use rs now) with cache := some rs }
  | .commit u =>
      { s.setCall i { c with phase := .drop } with
        row := u.apply s.row
        trips := if c.trippedBy u then s.trips + 1 else s.trips
        log := s.log ++ c.event.toList }
  | .drop => { s.setCall i { c with phase := .get .after } with cache := none }
  | .finished => s

def step : RaceStep → Race
  | .scoreClose ticket won => s.begin ticket won .entry none
  | .resetCircuitBreaker => s.begin 0 false (.get (.before ⟨0, some 0⟩)) (some .reset)
  | .getRiskSettings => s.begin 0 false (.get .state) none
  | .register basketId net tickets =>
      if s.locked then s else { s with reg := s.reg.register basketId net tickets }
  | .run i now =>
      match s.calls[i]? with
      | some c => s.advance i c now
      | none => s
  | .expire => { s with cache := none }

/-- No write lands while another call holds settings it has read, and a loss
does not start from a cache older than the row. -/
def undisturbed : RaceStep → Bool
  | .run i _ =>
      match (s.calls[i]?).map BreakerCall.phase with
      | some (.commit _) => s.calls.zipIdx.all fun p => decide (p.2 = i) || !p.1.inHand
      | some (.get (.outcome false)) => s.cache.all fun rs => decide (rs = s.row)
      | _ => true
  | _ => true

def Quiet : Prop := ∀ c ∈ s.calls, c.phase = .finished

instance : Decidable s.Quiet := inferInstanceAs (Decidable (∀ c ∈ s.calls, c.phase = .finished))

/-- What the calls have scored or reset. -/
def scored : List BreakerEvent := s.calls.filterMap BreakerCall.event

end Race

/-- The breaker at threshold `k` over events taken one after another: the count
of consecutive losses since the last win, trip or reset, and the trips. -/
def tallyStep (k : ℤ) : ℤ × ℕ → BreakerEvent → ℤ × ℕ
  | (consec, trips), .loss => if k ≤ consec + 1 then (0, trips + 1) else (consec + 1, trips)
  | (_, trips), .win => (0, trips)
  | (_, trips), .reset => (0, trips)

def tally (k consec : ℤ) (events : List BreakerEvent) : ℤ × ℕ :=
  events.foldl (tallyStep k) (consec, 0)

/-- The counter and the trips are those of the scored events in some order. -/
def Race.Sequential (s : Race) (k consec : ℤ) : Prop :=
  ∃ order : List BreakerEvent, order.Perm s.scored ∧
    (s.row.consecLosses, s.trips) = tally k consec order

theorem tally_append (k consec : ℤ) (events : List BreakerEvent) (e : BreakerEvent) :
    tally k consec (events ++ [e]) = tallyStep k (tally k consec events) e := by
  simp [tally]

section Fits
variable {row : BreakerSettings}

/-- The write a call is about to make: of a loss, the count after the row's. -/
def PendingWrite (row : BreakerSettings) (u : BreakerUpdate) : Option BreakerEvent → Prop
  | some .loss => ∃ now, u = row.outcomeUpdate false now
  | some .win => u = ⟨0, none⟩
  | some .reset => u = ⟨0, some 0⟩
  | none => False

def SettingsUse.Fits (row : BreakerSettings) (event : Option BreakerEvent) : SettingsUse → Prop
  | .outcome won => event = some (if won then .win else .loss)
  | .before u => PendingWrite row u event
  | .after => True
  | .state => True

/-- What a call carries agrees with the row. -/
def BreakerCall.Fits (row : BreakerSettings) (c : BreakerCall) : Prop :=
  match c.phase with
  | .entry => c.event = none
  | .get use => use.Fits row c.event
  | .fill use rs => rs = row ∧ use.Fits row c.event
  | .commit u => PendingWrite row u c.event
  | .drop => True
  | .finished => True

theorem PendingWrite.of_not_loss {row' : BreakerSettings} {u : BreakerUpdate}
    {event : Option BreakerEvent} (fits : PendingWrite row u event) (ne : event ≠ some .loss) :
    PendingWrite row' u event := by
  cases event with
  | none => exact fits
  | some e =>
      cases e with
      | loss => exact absurd rfl ne
      | win => exact fits
      | reset => exact fits

/-- A call with empty hands does not see the row change. -/
theorem BreakerCall.Fits.of_row {row' : BreakerSettings} {c : BreakerCall} (fits : c.Fits row)
    (free : c.inHand = false) : c.Fits row' := by
  rw [BreakerCall.Fits] at fits ⊢
  rw [BreakerCall.inHand] at free
  cases phase : c.phase with
  | entry => simpa only [phase] using fits
  | drop | finished => exact trivial
  | fill use rs => simp [phase] at free
  | commit u =>
      simp only [phase, decide_eq_false_iff_not] at fits free ⊢
      exact fits.of_not_loss free
  | get use =>
      cases use with
      | outcome _ | after | state =>
          simp only [phase] at fits ⊢
          exact fits
      | before u =>
          simp only [phase, decide_eq_false_iff_not] at fits free ⊢
          exact PendingWrite.of_not_loss (u := u) fits free

theorem BreakerCall.decided_fits (c : BreakerCall) (scoring : Scoring) :
    (c.decided scoring).Fits row := by
  cases scoring with
  | alone => rfl
  | basketWin _ => rfl
  | quiet => exact trivial

theorem BreakerCall.decided_logged (c : BreakerCall) (fresh : c.event = none) (scoring : Scoring)
    (e : BreakerEvent) : (c.decided scoring).logged e = c.logged e := by
  cases scoring with
  | alone | basketWin _ | quiet =>
      simp [decided, logged, fresh, BreakerPhase.pending, SettingsUse.pending]

/-- A loss goes on with the row itself; the other uses of a read look at nothing
but the switch. -/
theorem BreakerCall.receive_fits {c : BreakerCall} {use : SettingsUse} {rs : BreakerSettings}
    (now : ℚ) (fits : use.Fits row c.event) (enabled : rs.enabled = true)
    (fresh : use = .outcome false → rs = row) : (c.receive use rs now).Fits row := by
  cases use with
  | after =>
      rw [receive]
      split
      · exact trivial
      · exact trivial
  | state => exact trivial
  | before u => exact fits
  | outcome won =>
      rw [receive, if_pos enabled]
      cases won with
      | true =>
          change PendingWrite row (rs.outcomeUpdate true now) c.event
          rw [show c.event = some .win from fits]
          rfl
      | false =>
          change PendingWrite row (rs.outcomeUpdate false now) c.event
          rw [show c.event = some .loss from fits, fresh rfl]
          exact ⟨now, rfl⟩

theorem BreakerCall.receive_event (c : BreakerCall) (use : SettingsUse) (rs : BreakerSettings)
    (now : ℚ) : (c.receive use rs now).event = c.event := by
  cases use with
  | after | outcome _ =>
      rw [receive]
      split <;> rfl
  | before _ | state => rfl

theorem BreakerCall.receive_pending (c : BreakerCall) (use : SettingsUse) {rs : BreakerSettings}
    (now : ℚ) (enabled : rs.enabled = true) :
    (c.receive use rs now).phase.pending = use.pending := by
  cases use with
  | after =>
      rw [receive]
      split <;> rfl
  | outcome _ =>
      rw [receive, if_pos enabled]
      rfl
  | before _ | state => rfl

theorem BreakerCall.receive_logged {c : BreakerCall} {use : SettingsUse} {rs : BreakerSettings}
    (now : ℚ) (enabled : rs.enabled = true) (pending : c.phase.pending = use.pending)
    (e : BreakerEvent) : (c.receive use rs now).logged e = c.logged e := by
  rw [logged, logged, receive_event, receive_pending c use now enabled, pending]

end Fits

namespace Race

/-- The counter follows the log, the log holds what the calls have written, and
the cache is the row except while some call is about to drop it. -/
structure Good (k consec : ℤ) (s : Race) : Prop where
  enabled : s.row.enabled = true
  threshold : s.row.threshold = k
  fits : ∀ (j : ℕ) (c : BreakerCall), s.calls[j]? = some c → c.Fits s.row
  cached : ∀ rs, s.cache = some rs → rs.enabled = true ∧
    (rs = s.row ∨ ∃ (j : ℕ) (c : BreakerCall), s.calls[j]? = some c ∧ c.phase = .drop)
  tallied : (s.row.consecLosses, s.trips) = tally k consec s.log
  logged : ∀ e, s.log.count e = s.calls.countP fun c => c.logged e

theorem good_start {rs : BreakerSettings} {k : ℤ} (enabled : rs.enabled = true)
    (threshold : rs.threshold = k) : Good k rs.consecLosses (start rs) := by
  refine ⟨enabled, threshold, ?_, ?_, rfl, ?_⟩ <;> simp [start]

section Steps
variable {k consec : ℤ} {s : Race} {i : ℕ} {c c' : BreakerCall}

theorem countP_setCall (found : s.calls[i]? = some c) (p : BreakerCall → Bool)
    (same : p c' = p c) : (s.calls.set i c').countP p = s.calls.countP p := by
  obtain ⟨inside, own⟩ := List.getElem?_eq_some_iff.mp found
  have enough : (if p c then 1 else 0) ≤ s.calls.countP p := by
    rw [← own]
    exact List.boole_getElem_le_countP inside
  rw [List.countP_set inside, own, same]
  exact Nat.sub_add_cancel enough

theorem countP_setCall_new (found : s.calls[i]? = some c) (p : BreakerCall → Bool)
    (old : p c = false) :
    (s.calls.set i c').countP p = s.calls.countP p + if p c' then 1 else 0 := by
  obtain ⟨inside, own⟩ := List.getElem?_eq_some_iff.mp found
  rw [List.countP_set inside, own, old]
  rfl

/-- A call moved on without writing the row. -/
theorem Good.set (good : s.Good k consec) (found : s.calls[i]? = some c) (fits : c'.Fits s.row)
    (logged : ∀ e, c'.logged e = c.logged e) (cache : Option BreakerSettings) (reg : Registry)
    (cached : ∀ rs, cache = some rs → rs.enabled = true ∧
      (rs = s.row ∨
        ∃ (j : ℕ) (d : BreakerCall), (s.calls.set i c')[j]? = some d ∧ d.phase = .drop)) :
    Good k consec { s with calls := s.calls.set i c', cache := cache, reg := reg } where
  enabled := good.enabled
  threshold := good.threshold
  fits j d at_ := by
    rw [List.getElem?_set] at at_
    split_ifs at at_ with own inside
    · cases at_
      exact fits
    · exact good.fits j d at_
  cached := cached
  tallied := good.tallied
  logged e := by
    rw [countP_setCall found _ (logged e)]
    exact good.logged e

theorem Good.cached_of_other (good : s.Good k consec) (found : s.calls[i]? = some c)
    (busy : c.phase ≠ .drop) (rs : BreakerSettings) (h : s.cache = some rs) :
    rs.enabled = true ∧
      (rs = s.row ∨
        ∃ (j : ℕ) (d : BreakerCall), (s.calls.set i c')[j]? = some d ∧ d.phase = .drop) := by
  obtain ⟨enabled, fresh⟩ := good.cached rs h
  refine ⟨enabled, fresh.imp_right fun ⟨j, d, at_, dropping⟩ => ⟨j, d, ?_, dropping⟩⟩
  rw [List.getElem?_set]
  split_ifs with own inside
  · rw [← own, found] at at_
    cases at_
    exact absurd dropping busy
  · rw [← own, found] at at_
    cases at_
    exact absurd dropping busy
  · exact at_

theorem Good.entry (good : s.Good k consec) (found : s.calls[i]? = some c)
    (phase : c.phase = .entry) (now : ℚ) : (s.advance i c now).Good k consec := by
  have event : c.event = none := by
    have fits := good.fits i c found
    rwa [BreakerCall.Fits, phase] at fits
  rw [advance, phase]
  dsimp only
  split
  · exact good
  · exact good.set found (c.decided_fits _) (c.decided_logged event _) s.cache _
      (good.cached_of_other found (by simp [phase]))

theorem Good.get (good : s.Good k consec) (found : s.calls[i]? = some c) {use : SettingsUse}
    (phase : c.phase = .get use) (now : ℚ)
    (fresh : use = .outcome false → ∀ rs, s.cache = some rs → rs = s.row) :
    (s.advance i c now).Good k consec := by
  have fits : use.Fits s.row c.event := by
    have fits := good.fits i c found
    rwa [BreakerCall.Fits, phase] at fits
  rw [advance, phase]
  dsimp only
  cases cache : s.cache with
  | none =>
      apply good.set found _ _ s.cache s.reg
      · exact good.cached_of_other found (by simp [phase])
      · rw [BreakerCall.Fits]
        exact ⟨rfl, fits⟩
      · intro e
        simp [BreakerCall.logged, phase, BreakerPhase.pending]
  | some rs =>
      obtain ⟨enabled, -⟩ := good.cached rs cache
      apply good.set found _ _ s.cache s.reg
      · exact good.cached_of_other found (by simp [phase])
      · apply BreakerCall.receive_fits now fits enabled
        exact fun loss => fresh loss rs cache
      · exact BreakerCall.receive_logged now enabled (by simp [phase, BreakerPhase.pending])

theorem Good.fill (good : s.Good k consec) (found : s.calls[i]? = some c) {use : SettingsUse}
    {rs : BreakerSettings} (phase : c.phase = .fill use rs) (now : ℚ) :
    (s.advance i c now).Good k consec := by
  obtain ⟨same, fits⟩ : rs = s.row ∧ use.Fits s.row c.event := by
    have fits := good.fits i c found
    rwa [BreakerCall.Fits, phase] at fits
  subst same
  rw [advance, phase]
  apply good.set found _ _ (some s.row) s.reg
  · intro rs h
    cases h
    exact ⟨good.enabled, .inl rfl⟩
  · exact BreakerCall.receive_fits now fits good.enabled fun _ => rfl
  · exact BreakerCall.receive_logged now good.enabled (by simp [phase, BreakerPhase.pending])

theorem Good.drop (good : s.Good k consec) (found : s.calls[i]? = some c)
    (phase : c.phase = .drop) (now : ℚ) : (s.advance i c now).Good k consec := by
  rw [advance, phase]
  apply good.set found _ _ none s.reg
  · simp
  · exact trivial
  · intro e
    simp [BreakerCall.logged, phase, BreakerPhase.pending, SettingsUse.pending]

theorem apply_losing {rs : BreakerSettings} {now : ℚ} (threshold : rs.threshold = k)
    (positive : 0 < k) (trips : ℕ) :
    ((BreakerUpdate.apply (rs.outcomeUpdate false now) rs).consecLosses,
        if (rs.outcomeUpdate false now).activeUntil.isSome then trips + 1 else trips) =
      tallyStep k (rs.consecLosses, trips) .loss := by
  rw [BreakerSettings.outcomeUpdate, if_neg Bool.false_ne_true, tallyStep]
  dsimp only
  rw [threshold]
  by_cases reached : k ≤ rs.consecLosses + 1
  · simp [reached, positive, BreakerUpdate.apply]
  · simp [reached, BreakerUpdate.apply]

/-- The write of an event counts it. -/
theorem counts_of_pending {row : BreakerSettings} {u : BreakerUpdate} {e : BreakerEvent}
    (fits : PendingWrite row u c.event) (event : c.event = some e) (threshold : row.threshold = k)
    (positive : 0 < k) (trips : ℕ) :
    ((u.apply row).consecLosses, if c.trippedBy u then trips + 1 else trips) =
      tallyStep k (row.consecLosses, trips) e := by
  rw [event] at fits
  rw [BreakerCall.trippedBy, event]
  cases e with
  | win =>
      rw [show u = ⟨0, none⟩ from fits]
      rfl
  | reset =>
      rw [show u = ⟨0, some 0⟩ from fits]
      rfl
  | loss =>
      obtain ⟨now, rfl⟩ : ∃ now, u = row.outcomeUpdate false now := fits
      simpa using apply_losing threshold positive trips

theorem Good.commit (good : s.Good k consec) (positive : 0 < k) (found : s.calls[i]? = some c)
    {u : BreakerUpdate} (phase : c.phase = .commit u) (now : ℚ)
    (alone : ∀ p ∈ s.calls.zipIdx, p.2 ≠ i → p.1.inHand = false) :
    (s.advance i c now).Good k consec := by
  have fits : PendingWrite s.row u c.event := by
    have fits := good.fits i c found
    rwa [BreakerCall.Fits, phase] at fits
  obtain ⟨e, event⟩ : ∃ e, c.event = some e := by
    cases event : c.event with
    | none =>
        rw [event] at fits
        exact absurd fits id
    | some e => exact ⟨e, rfl⟩
  have inside : i < s.calls.length := (List.getElem?_eq_some_iff.mp found).1
  rw [advance, phase]
  constructor
  · exact good.enabled
  · exact good.threshold
  · intro j d at_
    rw [setCall, List.getElem?_set] at at_
    split_ifs at at_ with own
    · cases at_
      exact trivial
    · apply (good.fits j d at_).of_row
      exact alone (d, j) (List.mem_zipIdx_iff_getElem?.mpr at_) (Ne.symm own)
  · intro rs h
    refine ⟨(good.cached rs h).1, .inr ⟨i, _, List.getElem?_set_self inside, rfl⟩⟩
  · dsimp only
    rw [event, Option.toList_some, tally_append, ← good.tallied]
    exact counts_of_pending fits event good.threshold positive s.trips
  · intro e'
    dsimp only [setCall]
    rw [countP_setCall_new found _ (by simp [BreakerCall.logged, phase, BreakerPhase.pending]),
      List.count_append, good.logged e', event]
    by_cases same : e = e' <;>
      simp [BreakerCall.logged, BreakerPhase.pending, same]

theorem Good.begin (good : s.Good k consec) (ticket : ℤ) (won : Bool) {phase : BreakerPhase}
    {event : Option BreakerEvent} (fits : BreakerCall.Fits s.row ⟨ticket, won, phase, event, false⟩)
    (fresh : ∀ e, BreakerCall.logged ⟨ticket, won, phase, event, false⟩ e = false) :
    (s.begin ticket won phase event).Good k consec where
  enabled := good.enabled
  threshold := good.threshold
  fits j d at_ := by
    rw [Race.begin, List.getElem?_append] at at_
    split_ifs at at_ with old
    · exact good.fits j d at_
    · obtain ⟨-, rfl⟩ := List.getElem?_eq_some_iff.mp at_
      rw [List.getElem_singleton]
      exact fits
  cached rs h := by
    refine ⟨(good.cached rs h).1, (good.cached rs h).2.imp_right ?_⟩
    intro ⟨j, d, at_, dropping⟩
    have inside : j < s.calls.length := (List.getElem?_eq_some_iff.mp at_).1
    exact ⟨j, d, by rw [Race.begin, List.getElem?_append_left inside, at_], dropping⟩
  tallied := good.tallied
  logged e := by
    rw [Race.begin, List.countP_append, List.countP_singleton, fresh e]
    exact good.logged e

theorem step_keeps (positive : 0 < k) (good : s.Good k consec) {a : RaceStep}
    (ok : s.undisturbed a = true) : (s.step a).Good k consec := by
  cases a with
  | scoreClose ticket won => exact good.begin ticket won rfl fun _ => rfl
  | resetCircuitBreaker => exact good.begin 0 false rfl fun e => by cases e <;> rfl
  | getRiskSettings => exact good.begin 0 false trivial fun _ => rfl
  | register basketId net tickets =>
      rw [step]
      split
      · exact good
      · exact ⟨good.enabled, good.threshold, good.fits, good.cached, good.tallied, good.logged⟩
  | expire =>
      refine ⟨good.enabled, good.threshold, good.fits, ?_, good.tallied, good.logged⟩
      simp [step]
  | run i now =>
      rw [step]
      rw [undisturbed] at ok
      cases found : s.calls[i]? with
      | none => exact good
      | some c =>
          rw [found] at ok
          dsimp only
          cases phase : c.phase with
          | entry => exact good.entry found phase now
          | get use =>
              apply good.get found phase now
              intro loss rs cache
              simpa [phase, loss, cache] using ok
          | fill use rs => exact good.fill found phase now
          | commit u =>
              apply good.commit positive found phase now
              intro p mem other
              have free := List.all_eq_true.mp (by simpa only [Option.map_some, phase] using ok)
                p mem
              simpa [other] using free
          | drop => exact good.drop found phase now
          | finished =>
              rw [advance, phase]
              exact good

/-- Once no call is under way the log holds every event, each once. -/
theorem Good.sequential (good : s.Good k consec) (quiet : s.Quiet) : s.Sequential k consec := by
  refine ⟨s.log, List.perm_iff_count.mpr fun e => ?_, good.tallied⟩
  rw [good.logged e, scored, List.count_filterMap]
  apply List.countP_congr
  intro c mem
  simp [BreakerCall.logged, quiet c mem, BreakerPhase.pending]

end Steps

end Race

/-- While no write lands between another call's read of the settings and its use
of them, the breaker ends where the scored events leave it one after another. -/
theorem breaker_counts_every_outcome (rs : BreakerSettings) (k : ℤ) (enabled : rs.enabled = true)
    (threshold : rs.threshold = k) (positive : 0 < k) (steps : List RaceStep)
    (run : Meets Race.step (fun s a => s.undisturbed a = true) (Race.start rs) steps) :
    ∀ s ∈ states Race.step (Race.start rs) steps, s.Quiet → s.Sequential k rs.consecLosses := by
  intro s mem quiet
  have keep : ∀ (s : Race) (a : RaceStep), s.Good k rs.consecLosses →
      s.undisturbed a = true → (s.step a).Good k rs.consecLosses :=
    fun _ _ good ok => Race.step_keeps positive good ok
  exact (states_invariant keep (Race.good_start enabled threshold) run s mem).sequential quiet

def oneLossSoFar : BreakerSettings := ⟨true, 3, 60, 0, 1⟩

/-- A leg on its own and a leg of a basket, the second after the first. -/
def oneAfterTheOther : List RaceStep :=
  [.register "bh-gold-t" 107 [some 21], .scoreClose 13 false, .scoreClose 21 false] ++
    List.replicate 12 (.run 0 0) ++ List.replicate 12 (.run 1 0)

theorem breaker_counts_one_after_the_other :
    (oneAfterTheOther.foldl Race.step (Race.start oneLossSoFar)).Sequential 3 1 :=
  breaker_counts_every_outcome oneLossSoFar 3 rfl rfl (by decide) oneAfterTheOther (by decide) _
    (foldl_mem_states ..) (by decide)

/-- The basket's leg has left the registry lock, and writes its win after the
other leg has read the count and before that leg writes its own. -/
def winBetween : List RaceStep :=
  [.register "bh-gold-t" 107 [some 21], .scoreClose 13 false, .scoreClose 21 false, .run 1 0] ++
    List.replicate 4 (.run 0 0) ++ List.replicate 12 (.run 1 0) ++ List.replicate 12 (.run 0 0)

/-- The count stays at two, which neither order of a loss and a win gives. -/
theorem breaker_loses_win_between :
    ¬ ∀ s ∈ states Race.step (Race.start oneLossSoFar) winBetween,
      s.Quiet → s.Sequential 3 1 := by
  intro counts
  have last := foldl_mem_states Race.step (Race.start oneLossSoFar) winBetween
  obtain ⟨order, perm, same⟩ := counts _ last (by decide)
  have events : (winBetween.foldl Race.step (Race.start oneLossSoFar)).scored = [.loss, .win] := by
    decide
  have two : tally 3 1 order = (2, 0) := by
    rw [← same]
    decide
  rw [events] at perm
  obtain ⟨x, y, rfl⟩ := List.length_eq_two.mp perm.length_eq
  cases x <;> cases y <;> revert perm two <;> decide

end Forex
