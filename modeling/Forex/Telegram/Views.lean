import Forex.Telegram.Channels

/-!
What the writes about one message do to the view of another. As long as no
message waits for a second one, nothing: so the writes about two messages
commute, and a write that says what is written already changes no view.
-/

namespace Forex
open Support

/-- The write is not about a hold. -/
def InboxWrite.holdFree : InboxWrite → Bool
  | .insertHold | .resolveHold | .attachLevels _ => false
  | _ => true

/-- The write changes nothing, as far as the view of its message tells. -/
def InboxWrite.redundant (v : InboxView) : InboxWrite → Bool
  | .claim t => v.claimed t
  | .claimStop => v.stopClaimed
  | .noteUnrecognised => true
  | _ => false

/-- No message waits for a second one. -/
def Inbox.Unheld (s : Inbox) : Prop := s.holds.rows = []

def everywhere : ℕ → Bool := fun _ => true

section Tables
variable {own : ℕ → Bool} {s t u : Inbox} {now : ℚ} {ch : ChannelConfig} {m n : Message}

theorem Agree.symm (st : Agree own s t) : Agree own t s where
  rows i h := (st.rows i h).symm
  triggers i k h := (st.triggers i k h).symm
  stops i h := (st.stops i h).symm
  aiChecked i text h := (st.aiChecked i text h).symm
  holds := st.holds.symm

theorem Agree.trans (st : Agree own s t) (tu : Agree own t u) : Agree own s u where
  rows i h := (st.rows i h).trans (tu.rows i h)
  triggers i k h := (st.triggers i k h).trans (tu.triggers i k h)
  stops i h := (st.stops i h).trans (tu.stops i h)
  aiChecked i text h := (st.aiChecked i text h).trans (tu.aiChecked i text h)
  holds := st.holds.trans tu.holds

theorem Agree.holds_eq (st : Agree everywhere s t) : s.holds.rows = t.holds.rows := by
  have same := st.holds
  simpa only [everywhere, List.filter_true] using same

theorem Agree.unheld (st : Agree everywhere s t) (unheld : t.Unheld) : s.Unheld :=
  st.holds_eq.trans unheld

theorem Agree.restrict (st : Agree everywhere s t) (own : ℕ → Bool) : Agree own s t where
  rows i _ := st.rows i rfl
  triggers i k _ := st.triggers i k rfl
  stops i _ := st.stops i rfl
  aiChecked i text _ := st.aiChecked i text rfl
  holds := by rw [st.holds_eq]

theorem unheld_apply {w : InboxWrite} (unheld : s.Unheld) (free : w.holdFree = true) :
    (s.apply now ch m w).Unheld := by
  cases w with
  | insertHold | resolveHold | attachLevels => cases free
  | _ => exact unheld

theorem unheld_applyAll {writes : List InboxWrite} (unheld : s.Unheld)
    (free : ∀ w ∈ writes, w.holdFree = true) : (s.applyAll now ch m writes).Unheld := by
  induction writes generalizing s with
  | nil => exact unheld
  | cons w writes ih =>
      exact ih (unheld_apply unheld (free w List.mem_cons_self)) fun v mem =>
        free v (List.mem_cons_of_mem w mem)

theorem Inbox.Unheld.owned (unheld : s.Unheld) (own : ℕ → Bool) (mine : String → Bool) :
    HoldsOwned own mine s := by
  intro h mem
  rw [unheld] at mem
  cases mem

/-- Without holds the writes about a message concern no other. -/
theorem applyAll_other (unheld : s.Unheld) (other : own m.id = false) (writes : List InboxWrite) :
    Agree own (s.applyAll now ch m writes) s := by
  have owned : HoldsOwned own (fun _ => false) s := unheld.owned own _
  exact applyAll_frame other rfl now writes (Agree.refl own s) owned

theorem applyAll_own (unheldS : s.Unheld) (unheldT : t.Unheld) (st : Agree own s t)
    (hid : own m.id = true) (writes : List InboxWrite) :
    Agree own (s.applyAll now ch m writes) (t.applyAll now ch m writes) := by
  have owned : HoldsOwned own (fun _ => true) s := unheldS.owned own _
  exact applyAll_agree hid rfl now writes st owned (unheldT.owned own _)

theorem view_own (unheldS : s.Unheld) (unheldT : t.Unheld) (st : Agree own s t)
    (hid : own m.id = true) : s.view ch m = t.view ch m := by
  have owned : HoldsOwned own (fun _ => true) s := unheldS.owned own _
  exact view_agree st owned (unheldT.owned own _) hid rfl

theorem view_everywhere (st : Agree everywhere s t) (ch : ChannelConfig) (m : Message) :
    s.view ch m = t.view ch m := by
  have owned : HoldsOwned everywhere (fun _ => true) s := fun _ _ => rfl
  exact view_agree st owned (fun _ _ => rfl) rfl rfl

/-- What inboxes without holds agree on everywhere but at one id, and
everywhere but at another, they agree on everywhere. -/
theorem agree_everywhere (unheldS : s.Unheld) (unheldT : t.Unheld) {i j : ℕ} (ne : i ≠ j)
    (hi : Agree (fun k => decide (k ≠ i)) s t) (hj : Agree (fun k => decide (k ≠ j)) s t) :
    Agree everywhere s t := by
  have either : ∀ k, decide (k ≠ i) = true ∨ decide (k ≠ j) = true := by
    intro k
    simp only [decide_eq_true_eq]
    by_contra h
    rw [not_or, not_not, not_not] at h
    exact ne (h.1.symm.trans h.2)
  refine ⟨fun k _ => ?_, fun k t _ => ?_, fun k _ => ?_, fun k text _ => ?_, ?_⟩
  · exact (either k).elim (hi.rows k) (hj.rows k)
  · exact (either k).elim (hi.triggers k t) (hj.triggers k t)
  · exact (either k).elim (hi.stops k) (hj.stops k)
  · exact (either k).elim (hi.aiChecked k text) (hj.aiChecked k text)
  · rw [unheldS, unheldT]

/-- The writes about two messages commute. -/
theorem applyAll_comm (unheld : s.Unheld) (ne : m.id ≠ n.id) {chm chn : ChannelConfig}
    {ms ns : List InboxWrite} (freeM : ∀ w ∈ ms, w.holdFree = true)
    (freeN : ∀ w ∈ ns, w.holdFree = true) :
    Agree everywhere ((s.applyAll now chm m ms).applyAll now chn n ns)
      ((s.applyAll now chn n ns).applyAll now chm m ms) := by
  have heldM : (s.applyAll now chm m ms).Unheld := unheld_applyAll unheld freeM
  have heldN : (s.applyAll now chn n ns).Unheld := unheld_applyAll unheld freeN
  refine agree_everywhere (unheld_applyAll heldM freeN) (unheld_applyAll heldN freeM) ne ?_ ?_
  -- away from one message, only the writes about the other matter
  · have before : Agree (fun k => decide (k ≠ m.id)) (s.applyAll now chm m ms) s :=
      applyAll_other unheld (by simp) ms
    exact (applyAll_own heldM unheld before (by simpa using ne.symm) ns).trans
      (applyAll_other heldN (by simp) ms).symm
  · have before : Agree (fun k => decide (k ≠ n.id)) (s.applyAll now chn n ns) s :=
      applyAll_other unheld (by simp) ns
    exact (applyAll_other heldM (by simp) ns).trans
      (applyAll_own heldN unheld before (by simpa using ne) ms).symm

theorem apply_redundant {w : InboxWrite} (h : w.redundant (s.view ch m) = true) :
    Agree everywhere (s.apply now ch m w) s := by
  cases w with
  | claim t =>
      have claimed : (m.id, t) ∈ s.triggers := of_decide_eq_true h
      refine ⟨fun _ _ => rfl, fun i k _ => ?_, fun _ _ => Iff.rfl, fun _ _ _ => Iff.rfl, rfl⟩
      rw [Inbox.apply, List.mem_insert_iff]
      exact or_iff_right_of_imp fun same => same ▸ claimed
  | claimStop =>
      have claimed : m.id ∈ s.stops := of_decide_eq_true h
      refine ⟨fun _ _ => rfl, fun _ _ _ => Iff.rfl, fun i _ => ?_, fun _ _ _ => Iff.rfl, rfl⟩
      rw [Inbox.apply, List.mem_insert_iff]
      exact or_iff_right_of_imp fun same => same ▸ claimed
  | noteUnrecognised =>
      exact ⟨fun _ _ => rfl, fun _ _ _ => Iff.rfl, fun _ _ => Iff.rfl, fun _ _ _ => Iff.rfl, rfl⟩
  | _ => cases h

theorem applyAll_redundant {writes : List InboxWrite}
    (h : ∀ w ∈ writes, w.redundant (s.view ch m) = true) :
    Agree everywhere (s.applyAll now ch m writes) s := by
  induction writes generalizing s with
  | nil => exact Agree.refl everywhere s
  | cons w writes ih =>
      have same : Agree everywhere (s.apply now ch m w) s :=
        apply_redundant (h w List.mem_cons_self)
      have seen : (s.apply now ch m w).view ch m = s.view ch m :=
        view_everywhere same ch m
      refine (ih fun v mem => ?_).trans same
      rw [seen]
      exact h v (List.mem_cons_of_mem w mem)

end Tables

end Forex
