import Forex.Support.Run
import Mathlib.Tactic.Common

/-!
The Local/Remote handover between the Mac and the VPS: the toggle of each open
page, the two flags, and the messages in flight, delivered in any order, lost,
or overtaken by a timeout. Acknowledgements carry no identity in the protocol;
the count of handled RESUMEs attached to them here is a history variable that
no transition reads. Starting and stopping of the sub-engines is left out: the
gates of `open_trade` do not consult it.
-/

namespace Forex
open Support

inductive ActiveTrader where
  | thisMac
  | remoteVps
deriving DecidableEq, Repr

inductive MacMsg where
  | standDown
  | resume
deriving DecidableEq, Repr

inductive VpsMsg where
  | standDownAck (resumes : ℕ)
  | resumeAck
deriving DecidableEq, Repr

/-- Where the toggle handler of a page stands. `stoodDown` has been woken by an
acknowledgement and has not yet written the setting. -/
inductive TogglePhase where
  | idle
  | awaitStandDown
  | stoodDown (resumes : ℕ)
  | awaitResume
  | resumed
deriving DecidableEq, Repr

structure Handover where
  mac : ActiveTrader
  /-- The `active_trader` setting on the VPS; `thisMac` means standing down. -/
  vps : ActiveTrader
  connected : Bool
  pages : ℕ → TogglePhase
  toVps : List MacMsg
  toMac : List VpsMsg
  resumes : ℕ

inductive HandoverStep where
  | link (up : Bool)
  | toggle (page : ℕ)
  | toggleSendFails (page : ℕ)
  | deliverToVps (i : ℕ)
  | loseToVps (i : ℕ)
  | deliverToMac (i : ℕ)
  | loseToMac (i : ℕ)
  | timeout (page : ℕ)
  | finish (page : ℕ)
deriving DecidableEq, Repr

namespace Handover

def macAdmits (s : Handover) : Prop := s.mac = .thisMac

/-- `is_standing_down()` on the VPS, negated. -/
def vpsAdmits (s : Handover) : Prop := s.vps ≠ .thisMac

instance (s : Handover) : Decidable s.macAdmits := inferInstanceAs (Decidable (_ = _))

instance (s : Handover) : Decidable s.vpsAdmits := inferInstanceAs (Decidable (_ ≠ _))

def setPage (s : Handover) (page : ℕ) (phase : TogglePhase) : Handover :=
  { s with pages := fun p => if p = page then phase else s.pages p }

def vpsHandles (s : Handover) : MacMsg → Handover
  | .standDown => { s with vps := .thisMac, toMac := s.toMac ++ [.standDownAck s.resumes] }
  | .resume =>
      { s with vps := .remoteVps, resumes := s.resumes + 1, toMac := s.toMac ++ [.resumeAck] }

/-- What an acknowledgement does to a page: setting the event wakes every
handler that waits for this kind, whichever request it answers. -/
def wake (m : VpsMsg) (phase : TogglePhase) : TogglePhase :=
  match m, phase with
  | .standDownAck n, .awaitStandDown => .stoodDown n
  | .resumeAck, .awaitResume => .resumed
  | _, _ => phase

def macHandles (s : Handover) (m : VpsMsg) : Handover :=
  { s with pages := fun p => wake m (s.pages p) }

def step (s : Handover) : HandoverStep → Handover
  | .link up => { s with connected := up }
  | .toggle page =>
      if s.connected && decide (s.pages page = .idle) then
        match s.mac with
        | .remoteVps =>
            { s.setPage page .awaitStandDown with toVps := s.toVps ++ [.standDown] }
        | .thisMac => { s.setPage page .awaitResume with toVps := s.toVps ++ [.resume] }
      else s
  | .toggleSendFails page =>
      if s.connected && decide (s.pages page = .idle) then
        match s.mac with
        | .remoteVps => s
        | .thisMac => { s with mac := .remoteVps }
      else s
  | .deliverToVps i =>
      match s.toVps[i]? with
      | none => s
      | some m => vpsHandles { s with toVps := s.toVps.eraseIdx i } m
  | .loseToVps i => { s with toVps := s.toVps.eraseIdx i }
  | .deliverToMac i =>
      match s.toMac[i]? with
      | none => s
      | some m => macHandles { s with toMac := s.toMac.eraseIdx i } m
  | .loseToMac i => { s with toMac := s.toMac.eraseIdx i }
  | .timeout page =>
      match s.pages page with
      | .awaitStandDown => s.setPage page .idle
      | .awaitResume => { s.setPage page .idle with mac := .remoteVps }
      | _ => s
  | .finish page =>
      match s.pages page with
      | .stoodDown _ => { s.setPage page .idle with mac := .thisMac }
      | .resumed => { s.setPage page .idle with mac := .remoteVps }
      | _ => s

/-- The VPS handles a RESUME only after the Mac has given up control, and a
page takes control only on an acknowledgement sent after the last RESUME the
VPS handled. -/
def orderly (s : Handover) : HandoverStep → Bool
  | .deliverToVps i => decide (s.toVps[i]? = some .resume → s.mac ≠ .thisMac)
  | .finish page =>
      match s.pages page with
      | .stoodDown n => decide (n = s.resumes)
      | _ => true
  | _ => true

def Settled (s : Handover) : Prop :=
  ¬ (s.macAdmits ∧ s.vpsAdmits) ∧ s.toMac = [] ∧ ∀ page, s.pages page = .idle

/-- An acknowledgement that no handled RESUME has overtaken speaks the truth. -/
def Attests (s : Handover) (n : ℕ) : Prop :=
  n ≤ s.resumes ∧ (n = s.resumes → s.vps = .thisMac)

structure Exclusive (s : Handover) : Prop where
  one : ¬ (s.macAdmits ∧ s.vpsAdmits)
  acks : ∀ n, .standDownAck n ∈ s.toMac → s.Attests n
  woken : ∀ page n, s.pages page = .stoodDown n → s.Attests n

theorem exclusive_of_settled {s : Handover} (h : s.Settled) : s.Exclusive := by
  obtain ⟨one, quiet, idle⟩ := h
  refine ⟨one, ?_, ?_⟩
  · intro n hn
    rw [quiet] at hn
    exact absurd hn List.not_mem_nil
  · intro page n hp
    rw [idle page] at hp
    exact absurd hp (by simp)

theorem setPage_stoodDown {s : Handover} {page q n : ℕ} {phase : TogglePhase}
    (quiet : ∀ m, phase ≠ .stoodDown m) (h : (s.setPage page phase).pages q = .stoodDown n) :
    s.pages q = .stoodDown n := by
  simp only [setPage] at h
  by_cases same : q = page
  · rw [if_pos same] at h
    exact absurd h (quiet n)
  · rwa [if_neg same] at h

/-- What the Mac does by itself: the VPS keeps its flag, no acknowledgement
appears, and the Mac takes control only from a VPS that stands down. -/
theorem Exclusive.frame {s t : Handover} (inv : s.Exclusive) (vps : t.vps = s.vps)
    (resumes : t.resumes = s.resumes)
    (acks : ∀ n, .standDownAck n ∈ t.toMac → .standDownAck n ∈ s.toMac)
    (woken : ∀ page n, t.pages page = .stoodDown n → s.pages page = .stoodDown n)
    (mac : t.mac = .thisMac → s.mac = .thisMac ∨ s.vps = .thisMac) : t.Exclusive := by
  have attests : ∀ n, s.Attests n → t.Attests n := by
    intro n h
    rw [Attests] at h ⊢
    rw [vps, resumes]
    exact h
  refine ⟨?_, ?_, ?_⟩
  · intro both
    obtain ⟨here, there⟩ := both
    rw [vpsAdmits] at there
    rw [vps] at there
    cases mac here with
    | inl h => exact inv.one ⟨h, there⟩
    | inr h => exact there h
  · intro n hn
    exact attests n (inv.acks n (acks n hn))
  · intro page n hp
    exact attests n (inv.woken page n (woken page n hp))

theorem Exclusive.vpsHandles {s : Handover} (inv : s.Exclusive) (m : MacMsg)
    (late : m = .resume → s.mac ≠ .thisMac) : (s.vpsHandles m).Exclusive := by
  cases m with
  | standDown =>
      have attests : ∀ n, s.Attests n → (s.vpsHandles .standDown).Attests n := by
        intro n h
        exact ⟨h.1, fun _ => rfl⟩
      refine ⟨?_, ?_, ?_⟩
      · intro both
        exact both.2 rfl
      · intro n hn
        cases List.mem_append.mp hn with
        | inl h => exact attests n (inv.acks n h)
        | inr h =>
            have same : n = s.resumes := by simpa using h
            rw [same]
            exact ⟨Nat.le_refl _, fun _ => rfl⟩
      · intro page n hp
        exact attests n (inv.woken page n hp)
  | resume =>
      -- every acknowledgement under way is now older than a handled RESUME
      have attests : ∀ n, s.Attests n → (s.vpsHandles .resume).Attests n := by
        intro n h
        refine ⟨Nat.le_succ_of_le h.1, ?_⟩
        intro same
        have older := h.1
        change n = s.resumes + 1 at same
        omega
      refine ⟨?_, ?_, ?_⟩
      · intro both
        exact late rfl both.1
      · intro n hn
        cases List.mem_append.mp hn with
        | inl h => exact attests n (inv.acks n h)
        | inr h => exact absurd h (by simp)
      · intro page n hp
        exact attests n (inv.woken page n hp)

theorem Exclusive.macHandles {s : Handover} (inv : s.Exclusive) {m : VpsMsg}
    (attests : ∀ n, m = .standDownAck n → s.Attests n) : (s.macHandles m).Exclusive := by
  refine ⟨inv.one, inv.acks, ?_⟩
  intro page n hp
  change wake m (s.pages page) = .stoodDown n at hp
  cases phase : s.pages page with
  | awaitStandDown =>
      rw [phase] at hp
      cases m with
      | standDownAck k =>
          have same : k = n := by simpa [wake] using hp
          exact attests n (by rw [same])
      | resumeAck => exact absurd hp (by simp [wake])
  | stoodDown k =>
      rw [phase] at hp
      have same : k = n := by
        cases m with
        | standDownAck _ => simpa [wake] using hp
        | resumeAck => simpa [wake] using hp
      exact inv.woken page n (by rw [phase, same])
  | idle =>
      rw [phase] at hp
      cases m <;> simp [wake] at hp
  | awaitResume =>
      rw [phase] at hp
      cases m <;> simp [wake] at hp
  | resumed =>
      rw [phase] at hp
      cases m <;> simp [wake] at hp

theorem Exclusive.toggled {s : Handover} (inv : s.Exclusive) (page : ℕ) :
    (s.step (.toggle page)).Exclusive ∧ (s.step (.toggleSendFails page)).Exclusive := by
  simp only [Handover.step]
  split_ifs with ready
  · cases mac : s.mac with
    | remoteVps =>
        refine ⟨?_, inv⟩
        exact inv.frame rfl rfl (fun _ h => h) (fun _ _ => setPage_stoodDown (by simp)) .inl
    | thisMac =>
        refine ⟨?_, ?_⟩
        · exact inv.frame rfl rfl (fun _ h => h) (fun _ _ => setPage_stoodDown (by simp)) .inl
        · exact inv.frame rfl rfl (fun _ h => h) (fun _ _ h => h) (fun h => absurd h (by simp))
  · exact ⟨inv, inv⟩

theorem Exclusive.step (s : Handover) (a : HandoverStep) (inv : s.Exclusive)
    (ok : s.orderly a = true) : (s.step a).Exclusive := by
  cases a with
  | link up => exact ⟨inv.one, inv.acks, inv.woken⟩
  | toggle page => exact (inv.toggled page).1
  | toggleSendFails page => exact (inv.toggled page).2
  | loseToVps i => exact ⟨inv.one, inv.acks, inv.woken⟩
  | loseToMac i =>
      exact inv.frame rfl rfl (fun _ h => List.mem_of_mem_eraseIdx h) (fun _ _ h => h) .inl
  | deliverToVps i =>
      simp only [Handover.step]
      cases atI : s.toVps[i]? with
      | none => exact inv
      | some m =>
          have dropped : ({ s with toVps := s.toVps.eraseIdx i } : Handover).Exclusive :=
            ⟨inv.one, inv.acks, inv.woken⟩
          apply dropped.vpsHandles
          intro resume
          simpa [orderly, atI, resume] using ok
  | deliverToMac i =>
      simp only [Handover.step]
      cases atI : s.toMac[i]? with
      | none => exact inv
      | some m =>
          have dropped : ({ s with toMac := s.toMac.eraseIdx i } : Handover).Exclusive :=
            inv.frame rfl rfl (fun _ h => List.mem_of_mem_eraseIdx h) (fun _ _ h => h) .inl
          apply dropped.macHandles
          intro n same
          exact inv.acks n (same ▸ List.mem_of_getElem? atI)
  | timeout page =>
      simp only [Handover.step]
      cases phase : s.pages page with
      | awaitStandDown =>
          exact inv.frame rfl rfl (fun _ h => h) (fun _ _ => setPage_stoodDown (by simp)) .inl
      | awaitResume =>
          exact inv.frame rfl rfl (fun _ h => h) (fun _ _ => setPage_stoodDown (by simp))
            (fun h => absurd h (by simp))
      | idle => exact inv
      | stoodDown n => exact inv
      | resumed => exact inv
  | finish page =>
      simp only [Handover.step]
      cases phase : s.pages page with
      | stoodDown n =>
          have current : n = s.resumes := by simpa [orderly, phase] using ok
          have down : s.vps = .thisMac := (inv.woken page n phase).2 current
          exact inv.frame rfl rfl (fun _ h => h) (fun _ _ => setPage_stoodDown (by simp))
            (fun _ => .inr down)
      | resumed =>
          exact inv.frame rfl rfl (fun _ h => h) (fun _ _ => setPage_stoodDown (by simp))
            (fun h => absurd h (by simp))
      | idle => exact inv
      | awaitStandDown => exact inv
      | awaitResume => exact inv

/-- In every run in which the VPS handles each RESUME after the Mac gave up
control, and no page takes control on an acknowledgement older than a handled
RESUME, never do both nodes admit a new order. -/
theorem handover_exclusive (s : Handover) (steps : List HandoverStep) (start : s.Settled)
    (run : Meets Handover.step (fun s a => s.orderly a = true) s steps) :
    ∀ t ∈ states Handover.step s steps, ¬ (t.macAdmits ∧ t.vpsAdmits) := by
  intro t ht
  exact (states_invariant Exclusive.step (exclusive_of_settled start) run t ht).one

def macInControl : Handover where
  mac := .thisMac
  vps := .thisMac
  connected := true
  pages := fun _ => .idle
  toVps := []
  toMac := []
  resumes := 0

theorem macInControl_settled : macInControl.Settled :=
  ⟨by decide, rfl, fun _ => rfl⟩

theorem handover_exclusive_macInControl :
    macInControl.Settled ∧ ∀ t ∈ states Handover.step macInControl
      [.toggle 0, .timeout 0, .deliverToVps 0, .toggle 0, .deliverToVps 0, .deliverToMac 1,
        .finish 0],
      ¬ (t.macAdmits ∧ t.vpsAdmits) :=
  ⟨macInControl_settled, handover_exclusive macInControl _ macInControl_settled (by decide)⟩

/-- An ordinary hand-back: the VPS resumes before the Mac hears of it. -/
theorem handover_both_admit :
    ¬ ∀ (s : Handover) (steps : List HandoverStep), s.Settled →
      ∀ t ∈ states Handover.step s steps, ¬ (t.macAdmits ∧ t.vpsAdmits) := by
  intro claim
  have one := claim macInControl [.toggle 0, .deliverToVps 0] macInControl_settled
    ([HandoverStep.toggle 0, .deliverToVps 0].foldl Handover.step macInControl)
    (foldl_mem_states _ _ _)
  exact one (by decide)

end Handover
end Forex
