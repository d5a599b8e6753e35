import Forex.Support.Run
import Mathlib.Data.List.Basic
import Mathlib.Logic.Function.Basic

/-!
The request-and-acknowledge calls of one `SyncClient`. A kind of request has one
event and one box for its acknowledgement, whichever call asks. The number of
the call that a message or an acknowledgement belongs to is a history variable:
the protocol carries none and no transition reads it. Messages travel in order
and are lost with their connection.
-/

namespace Forex
open Support

inductive AckKind where
  | standDown
  | marketOrder
  | signalOrder
  | signalFollowup
deriving DecidableEq, Repr

/-- `sending` has cleared the event and is in `ws.send`; `woken` has left the
wait and has not yet read the box. -/
inductive AckPhase where
  | sending
  | waiting
  | woken
  | returned (ack : Option ℕ)
  | failed
deriving DecidableEq, Repr

structure AckCall where
  kind : AckKind
  phase : AckPhase
deriving DecidableEq, Repr

/-- A message or an acknowledgement of call `id`. -/
structure AckMsg where
  kind : AckKind
  id : ℕ
deriving DecidableEq, Repr

structure AckClient where
  connected : Bool
  event : AckKind → Bool
  lastAck : AckKind → Option ℕ
  calls : List AckCall
  toVps : List AckMsg
  toMac : List AckMsg

inductive AckStep where
  | link (up : Bool)
  | call (kind : AckKind)
  | sent (n : ℕ)
  | sendFails (n : ℕ)
  | vpsHandles
  | dispatch
  | resume (n : ℕ)
  | timeout (n : ℕ)
deriving DecidableEq, Repr

def AckPhase.active : AckPhase → Bool
  | .sending => true
  | .waiting => true
  | .woken => true
  | .returned _ => false
  | .failed => false

/-- Setting the event wakes every call that waits for it. -/
def AckCall.wake (kind : AckKind) (c : AckCall) : AckCall :=
  if c.kind = kind ∧ c.phase = .waiting then { c with phase := .woken } else c

namespace AckClient
variable (s : AckClient)

def fresh : AckClient := ⟨true, fun _ => false, fun _ => none, [], [], []⟩

def setPhase (n : ℕ) (c : AckCall) (phase : AckPhase) : AckClient :=
  { s with calls := s.calls.set n { c with phase := phase } }

def step : AckStep → AckClient
  | .link up => { s with connected := up, toVps := [], toMac := [] }
  | .call kind =>
      if s.connected then
        { s with
          event := Function.update s.event kind false
          calls := s.calls ++ [⟨kind, .sending⟩]
          toVps := s.toVps ++ [⟨kind, s.calls.length⟩] }
      else { s with calls := s.calls ++ [⟨kind, .failed⟩] }
  | .sent n =>
      match s.calls[n]? with
      | some c =>
          if c.phase = .sending then
            s.setPhase n c (if s.event c.kind then .woken else .waiting)
          else s
      | none => s
  | .sendFails n =>
      match s.calls[n]? with
      | some c => if c.phase = .sending then s.setPhase n c .failed else s
      | none => s
  | .vpsHandles =>
      match s.toVps with
      | m :: rest => { s with toVps := rest, toMac := s.toMac ++ [m] }
      | [] => s
  | .dispatch =>
      match s.toMac with
      | m :: rest =>
          { s with
            toMac := rest
            event := Function.update s.event m.kind true
            lastAck := Function.update s.lastAck m.kind (some m.id)
            calls := s.calls.map (AckCall.wake m.kind) }
      | [] => s
  | .resume n =>
      match s.calls[n]? with
      | some c =>
          if c.phase = .woken then s.setPhase n c (.returned (s.lastAck c.kind)) else s
      | none => s
  | .timeout n =>
      match s.calls[n]? with
      | some c => if c.phase = .waiting then s.setPhase n c .failed else s
      | none => s

/-- A call that returns has its own acknowledgement. -/
def OwnAcks : Prop :=
  ∀ (n : ℕ) (kind : AckKind) (ack : Option ℕ),
    s.calls[n]? = some ⟨kind, .returned ack⟩ → ack = some n

/-- Nothing of the kind is under way: no call, no message and no late ack. -/
def quiet (kind : AckKind) : Bool :=
  s.calls.all (fun c => decide (c.kind ≠ kind) || !c.phase.active) &&
    (s.toVps ++ s.toMac).all fun m => decide (m.kind ≠ kind)

/-- A call begins only when its kind is quiet. -/
def oneAtATime : AckStep → Bool
  | .call kind => s.quiet kind
  | _ => true

/-- A call under way is the only one of its kind, what travels of the kind is
its own, and the event is set only with its own acknowledgement in the box. -/
structure Matched : Prop where
  own : s.OwnAcks
  alone : ∀ (n : ℕ) (c : AckCall), s.calls[n]? = some c → c.phase.active = true →
    ∀ (j : ℕ) (d : AckCall), s.calls[j]? = some d → d.phase.active = true → d.kind = c.kind → j = n
  travels : ∀ (n : ℕ) (c : AckCall), s.calls[n]? = some c → c.phase.active = true →
    ∀ m ∈ s.toVps ++ s.toMac, m.kind = c.kind → m.id = n
  answered : ∀ (n : ℕ) (c : AckCall), s.calls[n]? = some c → c.phase.active = true →
    s.event c.kind = true → s.lastAck c.kind = some n
  woken : ∀ (n : ℕ) (c : AckCall), s.calls[n]? = some c → c.phase = .woken → s.event c.kind = true

theorem matched_fresh : fresh.Matched := by
  constructor <;> simp [fresh, OwnAcks]

section Steps
variable {s : AckClient} {n : ℕ} {c : AckCall} {phase : AckPhase}

theorem getElem?_setPhase {j : ℕ} {d : AckCall} (found : s.calls[n]? = some c)
    (h : (s.setPhase n c phase).calls[j]? = some d) :
    (j = n ∧ d = { c with phase := phase }) ∨ s.calls[j]? = some d := by
  have inside : n < s.calls.length := (List.getElem?_eq_some_iff.mp found).1
  rw [setPhase, List.getElem?_set] at h
  split_ifs at h with same
  · exact .inl ⟨same.symm, (Option.some.inj h).symm⟩
  · exact .inr h

/-- A call under way is moved on or ended. -/
theorem Matched.setPhase (good : s.Matched) (found : s.calls[n]? = some c)
    (was : c.phase.active = true) (wakes : phase = .woken → s.event c.kind = true)
    (returns : ∀ ack, phase = .returned ack → ack = some n) :
    (s.setPhase n c phase).Matched := by
  have before : ∀ {j : ℕ} {d : AckCall}, (s.setPhase n c phase).calls[j]? = some d →
      d.phase.active = true →
      ∃ e, s.calls[j]? = some e ∧ e.phase.active = true ∧ e.kind = d.kind := by
    intro j d h active
    cases getElem?_setPhase found h with
    | inl moved =>
        obtain ⟨rfl, rfl⟩ := moved
        exact ⟨c, found, was, rfl⟩
    | inr old => exact ⟨d, old, active, rfl⟩
  constructor
  · intro j kind ack h
    cases getElem?_setPhase found h with
    | inl moved =>
        obtain ⟨rfl, same⟩ := moved
        exact returns ack (congrArg AckCall.phase same).symm
    | inr old => exact good.own j kind ack old
  · intro j d h active k e h' active' same
    obtain ⟨d', old, oldActive, kind⟩ := before h active
    obtain ⟨e', old', oldActive', kind'⟩ := before h' active'
    exact good.alone j d' old oldActive k e' old' oldActive' (by rw [kind', kind, same])
  · intro j d h active m mem same
    obtain ⟨d', old, oldActive, kind⟩ := before h active
    exact good.travels j d' old oldActive m mem (by rw [kind, same])
  · intro j d h active set
    obtain ⟨d', old, oldActive, kind⟩ := before h active
    rw [← kind] at set ⊢
    exact good.answered j d' old oldActive set
  · intro j d h woke
    cases getElem?_setPhase found h with
    | inl moved =>
        obtain ⟨rfl, rfl⟩ := moved
        exact wakes woke
    | inr old => exact good.woken j d old woke

/-- The turn of one call, if it is in the phase that the step is for. -/
theorem Matched.turn (good : s.Matched) {next : AckCall → AckPhase} (active : phase.active = true)
    (wakes : ∀ c, next c = .woken → s.event c.kind = true)
    (returns : ∀ c ack, s.calls[n]? = some c → c.phase = phase → next c = .returned ack →
      ack = some n) :
    Matched (match s.calls[n]? with
      | some c => if c.phase = phase then s.setPhase n c (next c) else s
      | none => s) := by
  cases found : s.calls[n]? with
  | none => exact good
  | some c =>
      dsimp only
      split
      · next here =>
          exact good.setPhase found (here ▸ active) (wakes c) fun ack => returns c ack found here
      · exact good

/-- The messages under way only move, or are lost. -/
theorem Matched.moved (good : s.Matched) {toVps toMac : List AckMsg} (up : Bool)
    (sub : ∀ m ∈ toVps ++ toMac, m ∈ s.toVps ++ s.toMac) :
    Matched { s with connected := up, toVps := toVps, toMac := toMac } where
  own := good.own
  alone := good.alone
  travels n c found active m mem same := good.travels n c found active m (sub m mem) same
  answered := good.answered
  woken := good.woken

@[simp] theorem wake_kind (kind : AckKind) (c : AckCall) : (c.wake kind).kind = c.kind := by
  rw [AckCall.wake]
  split <;> rfl

@[simp] theorem wake_active (kind : AckKind) (c : AckCall) :
    (c.wake kind).phase.active = c.phase.active := by
  rw [AckCall.wake]
  split
  · next h => rw [h.2]; rfl
  · rfl

theorem wake_woken {kind : AckKind} (woke : (c.wake kind).phase = .woken) :
    c.phase = .woken ∨ c.kind = kind := by
  rw [AckCall.wake] at woke
  split at woke
  · next h => exact .inr h.1
  · exact .inl woke

theorem wake_returned {kind kind' : AckKind} {ack : Option ℕ}
    (h : c.wake kind = ⟨kind', .returned ack⟩) : c = ⟨kind', .returned ack⟩ := by
  rw [AckCall.wake] at h
  split at h
  · cases congrArg AckCall.phase h
  · exact h

theorem Matched.dispatch (good : s.Matched) {m : AckMsg} {rest : List AckMsg}
    (head : s.toMac = m :: rest) : (s.step .dispatch).Matched := by
  have mem : m ∈ s.toVps ++ s.toMac := by simp [head]
  simp only [step, head]
  constructor
  · intro n kind ack h
    simp only [List.getElem?_map, Option.map_eq_some_iff] at h
    obtain ⟨c, found, same⟩ := h
    exact good.own n kind ack (by rw [found, wake_returned same])
  · intro n c' h active j d' h' active' same
    simp only [List.getElem?_map, Option.map_eq_some_iff] at h h'
    obtain ⟨c, found, rfl⟩ := h
    obtain ⟨d, found', rfl⟩ := h'
    rw [wake_active] at active active'
    rw [wake_kind, wake_kind] at same
    exact good.alone n c found active j d found' active' same
  · intro n c' h active other mem' same
    simp only [List.getElem?_map, Option.map_eq_some_iff] at h
    obtain ⟨c, found, rfl⟩ := h
    rw [wake_active] at active
    rw [wake_kind] at same
    apply good.travels n c found active other _ same
    cases List.mem_append.mp mem' with
    | inl vps => exact List.mem_append_left _ vps
    | inr mac => exact List.mem_append_right _ (by rw [head]; exact List.mem_cons_of_mem m mac)
  · intro n c' h active set
    simp only [List.getElem?_map, Option.map_eq_some_iff] at h
    obtain ⟨c, found, rfl⟩ := h
    rw [wake_active] at active
    rw [wake_kind] at set ⊢
    dsimp only at set ⊢
    by_cases mine : c.kind = m.kind
    · rw [mine, Function.update_self]
      rw [good.travels n c found active m mem mine.symm]
    · rw [Function.update_of_ne mine] at set ⊢
      exact good.answered n c found active set
  · intro n c' h woke
    simp only [List.getElem?_map, Option.map_eq_some_iff] at h
    obtain ⟨c, found, rfl⟩ := h
    rw [wake_kind]
    dsimp only
    by_cases mine : c.kind = m.kind
    · rw [mine, Function.update_self]
    · rw [Function.update_of_ne mine]
      exact good.woken n c found ((wake_woken woke).resolve_right mine)

theorem getElem?_concat {α : Type} {l : List α} {a b : α} {j : ℕ} (h : (l ++ [a])[j]? = some b) :
    (j = l.length ∧ b = a) ∨ l[j]? = some b := by
  rw [List.getElem?_append] at h
  split_ifs at h with old
  · exact .inr h
  · obtain ⟨last, rfl⟩ := List.getElem?_eq_some_iff.mp h
    have here : j - l.length = 0 := by simpa using last
    exact .inl ⟨by omega, by simp⟩

theorem quiet_calls {kind : AckKind} (quiet : s.quiet kind = true) (found : s.calls[n]? = some c)
    (active : c.phase.active = true) : c.kind ≠ kind := by
  have all := (Bool.and_eq_true_iff.mp quiet).1
  have free := List.all_eq_true.mp all c (List.mem_of_getElem? found)
  simpa [active] using free

theorem quiet_messages {kind : AckKind} (quiet : s.quiet kind = true) {m : AckMsg}
    (mem : m ∈ s.toVps ++ s.toMac) : m.kind ≠ kind := by
  have all := (Bool.and_eq_true_iff.mp quiet).2
  exact of_decide_eq_true (List.all_eq_true.mp all m mem)

/-- A call that begins while its kind is quiet. -/
theorem Matched.call (good : s.Matched) {kind : AckKind} (quiet : s.quiet kind = true) :
    Matched { s with
      event := Function.update s.event kind false
      calls := s.calls ++ [⟨kind, .sending⟩]
      toVps := s.toVps ++ [⟨kind, s.calls.length⟩] } := by
  constructor
  · intro n kind' ack h
    cases getElem?_concat h with
    | inl new => cases congrArg AckCall.phase new.2
    | inr old => exact good.own n kind' ack old
  · intro n c h active j d h' active' same
    cases getElem?_concat h with
    | inl new =>
        obtain ⟨rfl, rfl⟩ := new
        cases getElem?_concat h' with
        | inl new' => exact new'.1
        | inr old' => exact absurd same (quiet_calls quiet old' active')
    | inr old =>
        cases getElem?_concat h' with
        | inl new' =>
            obtain ⟨rfl, rfl⟩ := new'
            exact absurd same.symm (quiet_calls quiet old active)
        | inr old' => exact good.alone n c old active j d old' active' same
  · intro n c h active m mem same
    have travelled : m ∈ s.toVps ++ s.toMac ∨ m = ⟨kind, s.calls.length⟩ := by
      simp only [List.mem_append, List.mem_singleton] at mem ⊢
      tauto
    cases getElem?_concat h with
    | inl new =>
        obtain ⟨rfl, rfl⟩ := new
        cases travelled with
        | inl before => exact absurd same (quiet_messages quiet before)
        | inr own => rw [own]
    | inr old =>
        cases travelled with
        | inl before => exact good.travels n c old active m before same
        | inr own =>
            rw [own] at same
            exact absurd same.symm (quiet_calls quiet old active)
  · intro n c h active set
    dsimp only at set ⊢
    cases getElem?_concat h with
    | inl new =>
        obtain ⟨rfl, rfl⟩ := new
        rw [Function.update_self] at set
        cases set
    | inr old =>
        rw [Function.update_of_ne (quiet_calls quiet old active)] at set
        exact good.answered n c old active set
  · intro n c h woke
    dsimp only
    cases getElem?_concat h with
    | inl new =>
        obtain ⟨rfl, rfl⟩ := new
        cases woke
    | inr old =>
        rw [Function.update_of_ne (quiet_calls quiet old (by rw [woke]; rfl))]
        exact good.woken n c old woke

theorem Matched.refused (good : s.Matched) (kind : AckKind) :
    Matched { s with calls := s.calls ++ [⟨kind, .failed⟩] } := by
  have before : ∀ {j : ℕ} {d : AckCall}, (s.calls ++ [⟨kind, .failed⟩])[j]? = some d →
      d.phase ≠ .failed → s.calls[j]? = some d := by
    intro j d h ended
    cases getElem?_concat h with
    | inl new => exact absurd (congrArg AckCall.phase new.2) ended
    | inr old => exact old
  have live : ∀ {d : AckCall}, d.phase.active = true → d.phase ≠ .failed := by
    intro d active failed
    rw [failed] at active
    cases active
  constructor
  · intro n kind' ack h
    exact good.own n kind' ack (before h (by simp))
  · intro n c h active j d h' active' same
    exact good.alone n c (before h (live active)) active j d (before h' (live active')) active' same
  · intro n c h active
    exact good.travels n c (before h (live active)) active
  · intro n c h active
    exact good.answered n c (before h (live active)) active
  · intro n c h woke
    exact good.woken n c (before h (by rw [woke]; simp)) woke

theorem step_keeps (good : s.Matched) {a : AckStep} (ok : s.oneAtATime a = true) :
    (s.step a).Matched := by
  cases a with
  | link up => exact good.moved up (by simp)
  | call kind =>
      rw [step]
      split
      · exact good.call ok
      · exact good.refused kind
  | sent n =>
      refine good.turn rfl (fun c woke => ?_) (fun c ack _ _ returned => ?_)
      · split at woke
        · next set => exact set
        · cases woke
      · split at returned <;> cases returned
  | sendFails n => exact good.turn rfl (by simp) (by simp)
  | vpsHandles =>
      rw [step]
      split
      · next m rest head =>
          apply good.moved s.connected
          intro other mem
          rw [head]
          simp only [List.mem_append, List.mem_cons] at mem ⊢
          tauto
      · exact good
  | dispatch =>
      cases head : s.toMac with
      | nil =>
          simp only [step, head]
          exact good
      | cons m rest => exact good.dispatch head
  | resume n =>
      refine good.turn rfl (by simp) (fun c ack found woke returned => ?_)
      cases returned
      exact good.answered n c found (by rw [woke]; rfl) (good.woken n c found woke)
  | timeout n => exact good.turn rfl (by simp) (by simp)

end Steps

end AckClient

/-- While a kind of request is made one at a time, with no acknowledgement still
on its way, every call that returns has its own acknowledgement. -/
theorem acks_answer_their_calls (steps : List AckStep)
    (run : Meets AckClient.step (fun s a => s.oneAtATime a = true) AckClient.fresh steps) :
    ∀ s ∈ states AckClient.step AckClient.fresh steps, s.OwnAcks := by
  intro s mem
  have keep : ∀ (s : AckClient) (a : AckStep), s.Matched → s.oneAtATime a = true →
      (s.step a).Matched := fun _ _ good ok => AckClient.step_keeps good ok
  exact (states_invariant keep AckClient.matched_fresh run s mem).own

def twoOrdersInTurn : List AckStep :=
  [.call .signalOrder, .sent 0, .vpsHandles, .dispatch, .resume 0, .call .signalOrder, .sent 1,
    .vpsHandles, .dispatch, .resume 1]

theorem acks_answer_two_orders_in_turn :
    let last := twoOrdersInTurn.foldl AckClient.step AckClient.fresh
    last.calls = [⟨.signalOrder, .returned (some 0)⟩, ⟨.signalOrder, .returned (some 1)⟩] ∧
      last.OwnAcks :=
  ⟨by decide, acks_answer_their_calls twoOrdersInTurn (by decide) _ (foldl_mem_states _ _ _)⟩

/-- The first order is answered after its caller has given up, while the second
is waiting. -/
def lateAck : List AckStep :=
  [.call .signalOrder, .sent 0, .timeout 0, .call .signalOrder, .sent 1, .vpsHandles, .dispatch,
    .resume 1]

theorem late_ack_answers_next_order :
    ¬ ∀ s ∈ states AckClient.step AckClient.fresh lateAck, s.OwnAcks := by
  intro own
  have last := own _ (foldl_mem_states AckClient.step AckClient.fresh lateAck)
  exact absurd (last 1 .signalOrder (some 0) (by decide)) (by decide)

end Forex
