import Forex.Telegram.Inbox

/-!
What one group's messages can change in the reading of another's. The tables
that remember messages are keyed by the message id alone, and a hold is matched
by the channel's name. Two runs, with and without the other groups' messages,
agree on everything a message of the first group is read from, as long as no id
and no name is shared.
-/

namespace Forex
open Support

/-- One message read, and what the trading half then writes back about it. -/
structure ScanStep where
  env : ScanEnv
  message : Message
  answers : List InboxWrite

namespace ScanStep

def ofGroup (group : String) (l : ScanStep) : Bool := decide (l.message.groupId = group)

def channel (l : ScanStep) : Option ChannelConfig := l.env.channelOf l.message.groupId

end ScanStep

namespace Inbox

def step (s : Inbox) (l : ScanStep) : Inbox :=
  match l.channel with
  | none => s
  | some ch => (s.read l.env l.message).1.applyAll l.env.now ch l.message l.answers

/-- How the messages of a group are classified along a run. -/
def classified (group : String) : Inbox → List ScanStep → List Verdict
  | _, [] => []
  | s, l :: run =>
      if l.ofGroup group then (s.read l.env l.message).2 :: classified group (s.step l) run
      else classified group (s.step l) run

end Inbox

/-- The first group's messages are classified as if the others' were absent. -/
def Undisturbed (group : String) (run : List ScanStep) : Prop :=
  Inbox.empty.classified group run =
    Inbox.empty.classified group (run.filter (ScanStep.ofGroup group))

instance decidableUndisturbed (group : String) (run : List ScanStep) :
    Decidable (Undisturbed group run) :=
  inferInstanceAs (Decidable (_ = _))

/-- No message of another group has the id of one of the first group's, and no
other group has its name. -/
def Apart (group : String) (run : List ScanStep) : Prop :=
  ∀ l ∈ run, ∀ other ∈ run, l.message.groupId = group → other.message.groupId ≠ group →
    l.message.id ≠ other.message.id ∧
      ∀ ch ∈ l.channel, ∀ foreign ∈ other.channel, ch.name ≠ foreign.name

/-- Two inboxes agree on the messages of one group: those with an id of its own,
and those held under a name of its own. -/
structure Agree (own : ℕ → Bool) (s t : Inbox) : Prop where
  rows : ∀ i, own i = true → s.rows.find i = t.rows.find i
  triggers : ∀ i k, own i = true → ((i, k) ∈ s.triggers ↔ (i, k) ∈ t.triggers)
  stops : ∀ i, own i = true → (i ∈ s.stops ↔ i ∈ t.stops)
  aiChecked : ∀ i text, own i = true → ((i, text) ∈ s.aiChecked ↔ (i, text) ∈ t.aiChecked)
  holds : s.holds.rows.filter (fun h => own h.tgMessageId) =
    t.holds.rows.filter fun h => own h.tgMessageId

/-- A hold has an own id exactly when it has an own name. -/
def HoldsOwned (own : ℕ → Bool) (mine : String → Bool) (s : Inbox) : Prop :=
  ∀ h ∈ s.holds.rows, own h.tgMessageId = mine h.channel

section Agree
variable {own : ℕ → Bool} {mine : String → Bool} {s t : Inbox}

theorem Agree.refl (own : ℕ → Bool) (s : Inbox) : Agree own s s :=
  ⟨fun _ _ => rfl, fun _ _ _ => Iff.rfl, fun _ _ => Iff.rfl, fun _ _ _ => Iff.rfl, rfl⟩

theorem find_eq_find_filter (holds : Table Hold Hold.tgMessageId) {id : ℕ} (h : own id = true) :
    holds.find id =
      (holds.rows.filter fun h => own h.tgMessageId).find?
        fun h => decide (h.tgMessageId = id) := by
  rw [List.find?_filter, Table.find]
  congr 1
  funext hold
  by_cases same : hold.tgMessageId = id
  · simp [same, h]
  · simp [same]

theorem waiting_eq_filter (owned : HoldsOwned own mine s) {channel : String}
    (h : mine channel = true) :
    s.holds.rows.filter (Hold.waitsOn channel) =
      (s.holds.rows.filter fun h => own h.tgMessageId).filter (Hold.waitsOn channel) := by
  rw [List.filter_filter]
  refine List.filter_congr fun hold mem => ?_
  by_cases same : hold.channel = channel
  · simp [owned hold mem, same, h]
  · simp [Hold.waitsOn, same]

theorem newestWaiting_agree (agree : Agree own s t) (ownedS : HoldsOwned own mine s)
    (ownedT : HoldsOwned own mine t) {channel : String} (h : mine channel = true) :
    s.newestWaiting channel = t.newestWaiting channel := by
  rw [Inbox.newestWaiting, Inbox.newestWaiting, waiting_eq_filter ownedS h,
    waiting_eq_filter ownedT h, agree.holds]

theorem view_agree (agree : Agree own s t) (ownedS : HoldsOwned own mine s)
    (ownedT : HoldsOwned own mine t) {ch : ChannelConfig} {m : Message}
    (hid : own m.id = true) (hname : mine ch.name = true) : s.view ch m = t.view ch m := by
  have hold : s.holds.find m.id = t.holds.find m.id := by
    rw [find_eq_find_filter s.holds hid, find_eq_find_filter t.holds hid, agree.holds]
  have claimed : (fun k => decide ((m.id, k) ∈ s.triggers)) =
      fun k => decide ((m.id, k) ∈ t.triggers) := by
    funext k
    exact decide_eq_decide.mpr (agree.triggers m.id k hid)
  have stops : decide (m.id ∈ s.stops) = decide (m.id ∈ t.stops) :=
    decide_eq_decide.mpr (agree.stops m.id hid)
  have ai : decide ((m.id, m.body) ∈ s.aiChecked) = decide ((m.id, m.body) ∈ t.aiChecked) :=
    decide_eq_decide.mpr (agree.aiChecked m.id m.body hid)
  simp only [Inbox.view, agree.rows m.id hid, claimed, stops, hold, ai,
    newestWaiting_agree agree ownedS ownedT hname]

theorem newestWaiting_mem {channel : String} {h : Hold} (found : s.newestWaiting channel = some h) :
    h ∈ s.holds.rows ∧ h.channel = channel := by
  obtain ⟨mem, waits⟩ := List.mem_filter.mp (newest_mem _ found)
  simp only [Hold.waitsOn, Bool.and_eq_true, decide_eq_true_eq] at waits
  exact ⟨mem, waits.1.1⟩

/-- A write about a message that both inboxes agree on keeps them agreeing. -/
theorem apply_agree (agree : Agree own s t) (ownedS : HoldsOwned own mine s)
    (ownedT : HoldsOwned own mine t) {ch : ChannelConfig} {m : Message}
    (hid : own m.id = true) (hname : mine ch.name = true) (now : ℚ) (w : InboxWrite) :
    Agree own (s.apply now ch m w) (t.apply now ch m w) := by
  have updated : ∀ f : Assign TgRow.tgMessageId,
      Agree own (s.updateRow m.id f) (t.updateRow m.id f) := by
    intro f
    refine { agree with rows := fun i hi => ?_ }
    by_cases same : i = m.id
    · subst same
      rw [Inbox.updateRow, Inbox.updateRow, Table.find_update_self, Table.find_update_self,
        agree.rows m.id hid]
    · rw [Inbox.updateRow, Inbox.updateRow, Table.find_update_of_ne _ f same,
        Table.find_update_of_ne _ f same, agree.rows i hi]
  cases w with
  | insertRow rawText direction levels status =>
      refine { agree with rows := fun i hi => ?_ }
      simp only [Inbox.apply, Table.find_insertOrIgnore, agree.rows i hi]
  | setRawText => exact updated _
  | correctDirection => exact updated _
  | updateReparsed => exact updated _
  | applyCorrection => exact updated _
  | mark => exact updated _
  | claim k =>
      refine { agree with triggers := fun i j hi => ?_ }
      simp only [Inbox.apply, List.mem_insert_iff, agree.triggers i j hi]
  | claimStop =>
      refine { agree with stops := fun i hi => ?_ }
      simp only [Inbox.apply, List.mem_insert_iff, agree.stops i hi]
  | noteAi text =>
      refine { agree with aiChecked := fun i body hi => ?_ }
      simp only [Inbox.apply, List.mem_insert_iff, agree.aiChecked i body hi]
  | noteUnrecognised => exact { agree with }
  | insertHold =>
      refine { agree with holds := ?_ }
      simp only [Inbox.apply, Table.filter_insertOrIgnore, agree.holds,
        find_eq_find_filter s.holds hid, find_eq_find_filter t.holds hid]
  | resolveHold =>
      refine { agree with holds := ?_ }
      simp only [Inbox.apply, Table.filter_update, agree.holds]
  | attachLevels levels =>
      simp only [Inbox.apply, newestWaiting_agree agree ownedS ownedT hname]
      cases t.newestWaiting ch.name with
      | none => exact agree
      | some h =>
          refine { agree with holds := ?_ }
          simp only [Table.filter_update, agree.holds]

/-- A write about another group's message leaves the agreement as it is. -/
theorem apply_frame (agree : Agree own s t) (owned : HoldsOwned own mine s)
    {ch : ChannelConfig} {m : Message} (hid : own m.id = false) (hname : mine ch.name = false)
    (now : ℚ) (w : InboxWrite) : Agree own (s.apply now ch m w) t := by
  have other : ∀ i, own i = true → i ≠ m.id := by
    rintro i hi rfl
    rw [hid] at hi
    exact Bool.false_ne_true hi
  have updated : ∀ f : Assign TgRow.tgMessageId, Agree own (s.updateRow m.id f) t := by
    intro f
    refine { agree with rows := fun i hi => ?_ }
    rw [Inbox.updateRow, Table.find_update_of_ne _ f (other i hi), agree.rows i hi]
  cases w with
  | insertRow rawText direction levels status =>
      refine { agree with rows := fun i hi => ?_ }
      simp only [Inbox.apply, Table.find_insertOrIgnore, agree.rows i hi,
        if_neg (other i hi).symm, Option.or_none]
  | setRawText => exact updated _
  | correctDirection => exact updated _
  | updateReparsed => exact updated _
  | applyCorrection => exact updated _
  | mark => exact updated _
  | claim k =>
      refine { agree with triggers := fun i j hi => ?_ }
      simp only [Inbox.apply, List.mem_insert_iff, Prod.mk.injEq, other i hi, false_and, false_or,
        agree.triggers i j hi]
  | claimStop =>
      refine { agree with stops := fun i hi => ?_ }
      simp only [Inbox.apply, List.mem_insert_iff, other i hi, false_or, agree.stops i hi]
  | noteAi text =>
      refine { agree with aiChecked := fun i body hi => ?_ }
      simp only [Inbox.apply, List.mem_insert_iff, Prod.mk.injEq, other i hi, false_and, false_or,
        agree.aiChecked i body hi]
  | noteUnrecognised => exact { agree with }
  | insertHold =>
      refine { agree with holds := ?_ }
      simp only [Inbox.apply, Table.filter_insertOrIgnore, hid, agree.holds]
      split <;> simp
  | resolveHold =>
      refine { agree with holds := ?_ }
      simp only [Inbox.apply, Table.filter_update_of_not hid, agree.holds]
  | attachLevels levels =>
      rw [Inbox.apply]
      cases found : s.newestWaiting ch.name with
      | none => exact agree
      | some h =>
          obtain ⟨mem, name⟩ := newestWaiting_mem found
          have foreign : own h.tgMessageId = false := by rw [owned h mem, name, hname]
          refine { agree with holds := ?_ }
          simp only [Table.filter_update_of_not foreign, agree.holds]

theorem HoldsOwned.apply (owned : HoldsOwned own mine s) {ch : ChannelConfig} {m : Message}
    (same : own m.id = mine ch.name) (now : ℚ) (w : InboxWrite) :
    HoldsOwned own mine (s.apply now ch m w) := by
  have updated : ∀ (k : ℕ) (f : Assign Hold.tgMessageId), (∀ h, (f h).channel = h.channel) →
      ∀ h ∈ (s.holds.update k f).rows, own h.tgMessageId = mine h.channel := by
    intro k f keeps h mem
    obtain ⟨old, present, rfl⟩ := Table.mem_update.mp mem
    split
    · rw [f.keeps, keeps, owned old present]
    · exact owned old present
  cases w with
  | insertHold =>
      intro h mem
      simp only [Inbox.apply, Table.rows_insertOrIgnore] at mem
      split at mem
      · exact owned h mem
      · cases List.mem_append.mp mem with
        | inl mem => exact owned h mem
        | inr mem =>
            rw [List.mem_singleton.mp mem, same]
  | resolveHold => exact updated _ _ fun _ => rfl
  | attachLevels levels =>
      rw [Inbox.apply]
      cases s.newestWaiting ch.name with
      | none => exact owned
      | some h => exact updated _ _ fun _ => rfl
  | _ => exact owned

theorem applyAll_agree {ch : ChannelConfig} {m : Message} (hid : own m.id = true)
    (hname : mine ch.name = true) (now : ℚ) (writes : List InboxWrite) {s t : Inbox}
    (agree : Agree own s t) (ownedS : HoldsOwned own mine s) (ownedT : HoldsOwned own mine t) :
    Agree own (s.applyAll now ch m writes) (t.applyAll now ch m writes) := by
  have same : own m.id = mine ch.name := hid.trans hname.symm
  induction writes generalizing s t with
  | nil => exact agree
  | cons w writes ih =>
      exact ih (apply_agree agree ownedS ownedT hid hname now w) (ownedS.apply same now w)
        (ownedT.apply same now w)

theorem applyAll_frame {ch : ChannelConfig} {m : Message} (hid : own m.id = false)
    (hname : mine ch.name = false) (now : ℚ) (writes : List InboxWrite) {s : Inbox}
    (agree : Agree own s t) (owned : HoldsOwned own mine s) :
    Agree own (s.applyAll now ch m writes) t := by
  induction writes generalizing s with
  | nil => exact agree
  | cons w writes ih =>
      exact ih (apply_frame agree owned hid hname now w)
        (owned.apply (hid.trans hname.symm) now w)

theorem HoldsOwned.applyAll {ch : ChannelConfig} {m : Message} (same : own m.id = mine ch.name)
    (now : ℚ) (writes : List InboxWrite) {s : Inbox} (owned : HoldsOwned own mine s) :
    HoldsOwned own mine (s.applyAll now ch m writes) := by
  induction writes generalizing s with
  | nil => exact owned
  | cons w writes ih => exact ih (owned.apply same now w)

end Agree

/-- The own ids and names are those of the group's messages. -/
structure Fits (own : ℕ → Bool) (mine : String → Bool) (group : String) (l : ScanStep) :
    Prop where
  id : own l.message.id = l.ofGroup group
  name : ∀ ch ∈ l.channel, mine ch.name = l.ofGroup group

section Run
variable {own : ℕ → Bool} {mine : String → Bool} {group : String}

/-- What a step writes: what the reading writes, then the answers. -/
theorem step_eq_applyAll {l : ScanStep} {ch : ChannelConfig} (found : l.channel = some ch)
    (s : Inbox) :
    s.step l = s.applyAll l.env.now ch l.message
      ((l.env.readOn ch l.message (s.view ch l.message)).writes ++ l.answers) := by
  have watched : l.env.channelOf l.message.groupId = some ch := found
  simp only [Inbox.step, found, Inbox.read, watched, Inbox.applyAll, List.foldl_append]

theorem HoldsOwned.step {l : ScanStep} (fits : Fits own mine group l) {s : Inbox}
    (owned : HoldsOwned own mine s) : HoldsOwned own mine (s.step l) := by
  cases found : l.channel with
  | none => simpa only [Inbox.step, found] using owned
  | some ch =>
      rw [step_eq_applyAll found]
      exact owned.applyAll (fits.id.trans (fits.name ch found).symm) _ _

theorem step_agree {l : ScanStep} (fits : Fits own mine group l) (hers : l.ofGroup group = true)
    {s t : Inbox} (agree : Agree own s t) (ownedS : HoldsOwned own mine s)
    (ownedT : HoldsOwned own mine t) :
    Agree own (s.step l) (t.step l) ∧
      (s.read l.env l.message).2 = (t.read l.env l.message).2 := by
  cases found : l.channel with
  | none =>
      have unwatched : l.env.channelOf l.message.groupId = none := found
      simp only [Inbox.step, found, Inbox.read, unwatched]
      exact ⟨agree, trivial⟩
  | some ch =>
      have watched : l.env.channelOf l.message.groupId = some ch := found
      have hid : own l.message.id = true := fits.id.trans hers
      have hname : mine ch.name = true := (fits.name ch found).trans hers
      have view := view_agree agree ownedS ownedT hid hname
      rw [step_eq_applyAll found, step_eq_applyAll found, view]
      refine ⟨applyAll_agree hid hname _ _ agree ownedS ownedT, ?_⟩
      simp only [Inbox.read, watched, view]

theorem step_frame {l : ScanStep} (fits : Fits own mine group l) (other : l.ofGroup group = false)
    {s t : Inbox} (agree : Agree own s t) (owned : HoldsOwned own mine s) :
    Agree own (s.step l) t := by
  cases found : l.channel with
  | none => simpa only [Inbox.step, found] using agree
  | some ch =>
      rw [step_eq_applyAll found]
      exact applyAll_frame (fits.id.trans other) ((fits.name ch found).trans other) _ _ agree owned

/-- The run with the other groups' messages and the run without classify the
group's messages alike. -/
theorem classified_agree {run : List ScanStep} (fits : ∀ l ∈ run, Fits own mine group l)
    {s t : Inbox} (agree : Agree own s t) (ownedS : HoldsOwned own mine s)
    (ownedT : HoldsOwned own mine t) :
    s.classified group run = t.classified group (run.filter (ScanStep.ofGroup group)) := by
  induction run generalizing s t with
  | nil => rfl
  | cons l run ih =>
      have here := fits l List.mem_cons_self
      have later : ∀ l ∈ run, Fits own mine group l := fun l mem =>
        fits l (List.mem_cons_of_mem _ mem)
      cases hers : l.ofGroup group with
      | true =>
          obtain ⟨agree', verdict⟩ := step_agree here hers agree ownedS ownedT
          rw [List.filter_cons_of_pos hers, Inbox.classified, Inbox.classified, if_pos hers,
            if_pos hers, verdict, ih later agree' (ownedS.step here) (ownedT.step here)]
      | false =>
          have absent : ¬ l.ofGroup group = true := by rw [hers]; exact Bool.false_ne_true
          rw [List.filter_cons_of_neg absent, Inbox.classified, if_neg absent,
            ih later (step_frame here hers agree ownedS) (ownedS.step here) ownedT]

end Run

/-- The ids and the names that a group's messages carry along a run. -/
def ownIds (group : String) (run : List ScanStep) (id : ℕ) : Bool :=
  run.any fun l => l.ofGroup group && decide (l.message.id = id)

def ownNames (group : String) (run : List ScanStep) (name : String) : Bool :=
  run.any fun l => l.ofGroup group && l.channel.any fun ch => decide (ch.name = name)

theorem fits_of_apart {group : String} {run : List ScanStep} (apart : Apart group run) :
    ∀ l ∈ run, Fits (ownIds group run) (ownNames group run) group l := by
  intro l mem
  cases hers : l.ofGroup group with
  | true =>
      refine ⟨?_, fun ch found => ?_⟩
      · rw [hers]
        exact List.any_eq_true.mpr ⟨l, mem, by simp [hers]⟩
      · rw [hers]
        exact List.any_eq_true.mpr ⟨l, mem, by simp [hers, Option.mem_def.mp found]⟩
  | false =>
      have other : l.message.groupId ≠ group := by simpa [ScanStep.ofGroup] using hers
      refine ⟨?_, fun ch found => ?_⟩
      · rw [hers]
        refine List.any_eq_false.mpr fun first present => ?_
        simp only [ScanStep.ofGroup, Bool.and_eq_true, decide_eq_true_eq, not_and]
        exact fun same => (apart first present l mem same other).1
      · rw [hers]
        refine List.any_eq_false.mpr fun first present => ?_
        simp only [ScanStep.ofGroup, Bool.and_eq_true, decide_eq_true_eq, Option.any_eq_true,
          not_and, not_exists]
        exact fun same mine has => (apart first present l mem same other).2 mine has ch found

/-- A channel closes its newest trade. -/
def closeAllOn (group : String) (id : ℕ) : ScanStep where
  env := ScanEnv.shipped Parsers.silent 60
  message := ⟨id, group, "CLOSE ALL", .posted 30, false, false⟩
  answers := []

def sameIdTwice : List ScanStep := [closeAllOn "B" 41, closeAllOn "A" 41]

end Forex
