import Forex.Telegram.Rescan

/-!
A message once scanned. What the writes of a scan leave in the tables is read
off the list of writes, and with it the second reading is found to do nothing:
from its first scan on, a message is quiet that opened no hold and was stored
trimmed.
-/

namespace Forex
open Support

/-- The write leaves the text of the row, or gives a new row this one. -/
def InboxWrite.keepsText (body : String) : InboxWrite → Bool
  | .insertRow rawText _ _ _ => decide (rawText = body)
  | .setRawText _ | .correctDirection _ _ | .updateReparsed _ _ | .applyCorrection _ _ _ => false
  | _ => true

/-- A signal, of which alone the text is stored as it came. -/
def Verdict.isSignal : Verdict → Bool
  | .signal _ _ => true
  | _ => false

/-- If the message has a row, the row holds its trimmed text. -/
def Inbox.Stored (s : Inbox) (m : Message) : Prop :=
  ∀ row, s.rows.find m.id = some row → row.rawText = m.body

section After
variable {s : Inbox} {now : ℚ} {ch : ChannelConfig} {m : Message} {writes : List InboxWrite}

theorem stored_apply {w : InboxWrite} (keeps : w.keepsText m.body = true) (stored : s.Stored m) :
    (s.apply now ch m w).Stored m := by
  intro row found
  cases old : s.rows.find m.id with
  | some before =>
      rw [find_apply_self old] at found
      rw [← Option.some.inj found]
      cases w with
      | setRawText | correctDirection | updateReparsed | applyCorrection => cases keeps
      | _ => exact stored before old
  | none =>
      cases w with
      | setRawText | correctDirection | updateReparsed | applyCorrection => cases keeps
      | insertRow rawText direction levels status =>
          rw [Inbox.apply, Table.find_insertOrIgnore, old, if_pos rfl] at found
          rw [← Option.some.inj found]
          exact of_decide_eq_true keeps
      | mark status signalId =>
          rw [Inbox.apply, Inbox.updateRow, Table.find_update_self, old] at found
          cases found
      | attachLevels levels =>
          rw [Inbox.apply] at found
          split at found <;> exact stored row found
      | _ => exact stored row found

theorem stored_applyAll (keeps : ∀ w ∈ writes, w.keepsText m.body = true) (stored : s.Stored m) :
    (s.applyAll now ch m writes).Stored m := by
  induction writes generalizing s with
  | nil => exact stored
  | cons w writes ih =>
      exact ih (fun v mem => keeps v (List.mem_cons_of_mem w mem))
        (stored_apply (keeps w List.mem_cons_self) stored)

/-- What exactly the writes of one kind bring about is there afterwards if it
was there before or one of them was made. -/
theorem applyAll_iff {P : Inbox → Prop} {q : InboxWrite → Prop}
    (one : ∀ s w, P (s.apply now ch m w) ↔ P s ∨ q w) :
    P (s.applyAll now ch m writes) ↔ P s ∨ ∃ w ∈ writes, q w := by
  induction writes generalizing s with
  | nil => simp [Inbox.applyAll]
  | cons w writes ih =>
      have first : (∃ v ∈ w :: writes, q v) ↔ q w ∨ ∃ v ∈ writes, q v := by
        simp
      rw [first, ← or_assoc, ← one s w]
      exact ih

theorem row_applyAll_iff :
    ((s.applyAll now ch m writes).rows.find m.id).isSome = true ↔
      (s.rows.find m.id).isSome = true ∨ ∃ w ∈ writes, ∃ rawText direction levels status,
        w = .insertRow rawText direction levels status := by
  refine applyAll_iff (P := fun s => (s.rows.find m.id).isSome = true) fun s w => ?_
  cases old : s.rows.find m.id with
  | some row => simp [find_apply_self old]
  | none =>
      cases w with
      | insertRow => simp [Inbox.apply, Table.find_insertOrIgnore]
      | setRawText | correctDirection | updateReparsed | applyCorrection | mark =>
          simp [Inbox.apply, Inbox.updateRow, Table.find_update_self, old]
      | attachLevels levels =>
          rw [Inbox.apply]
          split <;> simp [old]
      | _ => simp [Inbox.apply, old]

theorem claimed_applyAll_iff (t : Trigger) :
    (m.id, t) ∈ (s.applyAll now ch m writes).triggers ↔
      (m.id, t) ∈ s.triggers ∨ ∃ w ∈ writes, .claim t = w := by
  refine applyAll_iff (P := fun s => (m.id, t) ∈ s.triggers) fun s w => ?_
  cases w with
  | claim k => simp [Inbox.apply, List.mem_insert_iff, or_comm]
  | attachLevels levels =>
      rw [Inbox.apply]
      split <;> simp
  | _ => simp [Inbox.apply, Inbox.updateRow]

theorem stop_applyAll_iff :
    m.id ∈ (s.applyAll now ch m writes).stops ↔
      m.id ∈ s.stops ∨ ∃ w ∈ writes, .claimStop = w := by
  refine applyAll_iff (P := fun s => m.id ∈ s.stops) fun s w => ?_
  cases w with
  | claimStop => simp [Inbox.apply]
  | attachLevels levels =>
      rw [Inbox.apply]
      split <;> simp
  | _ => simp [Inbox.apply, Inbox.updateRow]

theorem ai_applyAll_iff (text : String) :
    (m.id, text) ∈ (s.applyAll now ch m writes).aiChecked ↔
      (m.id, text) ∈ s.aiChecked ∨ ∃ w ∈ writes, .noteAi text = w := by
  refine applyAll_iff (P := fun s => (m.id, text) ∈ s.aiChecked) fun s w => ?_
  cases w with
  | noteAi noted => simp [Inbox.apply, List.mem_insert_iff, or_comm]
  | attachLevels levels =>
      rw [Inbox.apply]
      split <;> simp
  | _ => simp [Inbox.apply, Inbox.updateRow]

end After

section Lookings
variable {env : ScanEnv} {ch : ChannelConfig} {m : Message} {v : InboxView}

theorem keepsText_of_byNew {second : Bool} {w : InboxWrite} (h : w.byNew second m.body = true) :
    w.keepsText m.body = true := by
  cases w with
  | insertRow => exact h
  | setRawText | correctDirection | updateReparsed | applyCorrection => cases h
  | _ => rfl

theorem keepsText_of_answers {w : InboxWrite} (h : w.answers = true) (body : String) :
    w.keepsText body = true := by
  cases w with
  | claimStop | mark => rfl
  | _ => cases h

theorem holdFree_of_answers {w : InboxWrite} (h : w.answers = true) : w.holdFree = true := by
  cases w with
  | claimStop | mark => rfl
  | _ => cases h

end Lookings

/-- Nothing is known of the message. -/
def Inbox.Unseen (s : Inbox) (m : Message) : Prop :=
  Agree (fun i => decide (i = m.id)) s Inbox.empty

/-- Scanning the message does nothing and writes nothing new. -/
def Inbox.Quiet (s : Inbox) (env : ScanEnv) (m : Message) : Prop :=
  ∀ ch, env.channelOf m.groupId = some ch → (env.lookOn ch m (s.view ch m)).Quiet (s.view ch m)

section Quiet
variable {env : ScanEnv} {ch : ChannelConfig} {m : Message} {s t : Inbox}

theorem Inbox.Quiet.frame (quiet : s.Quiet env m) (unheldS : s.Unheld) (unheldT : t.Unheld)
    (ts : Agree (fun i => decide (i = m.id)) t s) : t.Quiet env m := by
  intro ch watched
  rw [view_own unheldT unheldS ts (decide_eq_true rfl)]
  exact quiet ch watched

theorem view_unseen (unheld : s.Unheld) (unseen : s.Unseen m) (ch : ChannelConfig) :
    s.view ch m = Inbox.empty.view ch m :=
  view_own unheld rfl unseen (by simp)

theorem view_hold (unheld : s.Unheld) (ch : ChannelConfig) (m : Message) :
    (s.view ch m).hold = none ∧ (s.view ch m).channelWaits = false := by
  have missing : s.holds.find m.id = none := by
    rw [Table.find_eq_none_iff, unheld]
    exact List.not_mem_nil
  constructor
  · simp [Inbox.view, missing]
  · simp [Inbox.view, Inbox.newestWaiting, newest, show s.holds.rows = [] from unheld]

/-- The writes of the first reading of a message that opens no hold. -/
theorem readOn_byNew (unheld : s.Unheld) (unseen : s.Unseen m)
    (trimmed : (env.readOn ch m (s.view ch m)).verdict.isSignal = true → m.text = m.body)
    (free : (env.readOn ch m (s.view ch m)).verdict ≠ .held) {w : InboxWrite}
    (mem : w ∈ (env.readOn ch m (s.view ch m)).writes) :
    w.byNew false m.body = true ∨ ∃ t, w = .claim t := by
  have blank : (s.view ch m).row = none := by
    rw [view_unseen unheld unseen]
    rfl
  rw [ScanEnv.readOn, ScanEnv.finish] at trimmed free mem
  cases reach : env.reachesRow ch m with
  | false =>
      rcases lookOn_filtered reach with ignored | ⟨t, trigger⟩
      · rw [ignored] at mem
        cases mem
      · rw [trigger] at mem
        exact .inr ⟨t, List.mem_singleton.mp mem⟩
  | true =>
      rw [lookOn_of_new blank reach] at trimmed free mem
      left
      cases stage : (env.readNew ch m (s.view ch m)).stage with
      | settled verdict =>
          rw [stage] at free mem
          refine readNew_byNew_unheld env ch m (view_hold unheld ch m).1 (view_hold unheld ch m).2
            ?_ w mem
          rw [stage]
          exact fun same => free (Stage.settled.inj same)
      | parsed p =>
          rw [stage] at trimmed mem
          cases List.mem_append.mp mem with
          | inl mem =>
              exact readNew_byNew_unheld env ch m (view_hold unheld ch m).1
                (view_hold unheld ch m).2 (by simp [stage]) w mem
          | inr mem =>
              rw [List.mem_singleton.mp mem, InboxWrite.byNew, trimmed rfl]
              exact decide_eq_true rfl

theorem mem_finish {r : Progress} {w : InboxWrite} (mem : w ∈ r.writes) :
    w ∈ (env.finish ch m r).writes := by
  rw [ScanEnv.finish]
  split
  · exact mem
  · exact List.mem_append_left _ mem

/-- A reading that gives a row writes it. -/
theorem finish_keepsRow {r : Progress} (keeps : r.KeepsRow m) :
    ∃ w ∈ (env.finish ch m r).writes, ∃ rawText direction levels status,
      w = .insertRow rawText direction levels status := by
  rcases keeps with ⟨p, parsed⟩ | ⟨direction, levels, status, mem⟩
  · rw [ScanEnv.finish, parsed]
    exact ⟨_, List.mem_append_right _ (List.mem_singleton.mpr rfl), _, _, _, _, rfl⟩
  · exact ⟨_, mem_finish mem, _, _, _, _, rfl⟩

theorem finish_held {r : Progress} (free : (env.finish ch m r).verdict ≠ .held) :
    r.stage ≠ .settled .held := by
  intro held
  rw [ScanEnv.finish, held] at free
  exact free rfl

theorem unseen_row (unseen : s.Unseen m) : s.rows.find m.id = none :=
  unseen.rows m.id (by simp)

/-- What the finish of a reading adds is a row alone. -/
theorem noteAi_finish {r : Progress} {text : String}
    (mem : .noteAi text ∈ (env.finish ch m r).writes) : .noteAi text ∈ r.writes := by
  rw [ScanEnv.finish] at mem
  split at mem
  · exact mem
  · exact (List.mem_append.mp mem).resolve_right (by simp [ScanEnv.record])

end Quiet

/-- The inbox after a scan with these answers of the trading half. -/
def Inbox.scanned (s : Inbox) (env : ScanEnv) (ch : ChannelConfig) (m : Message)
    (answers : List InboxWrite) : Inbox :=
  s.applyAll env.now ch m ((env.readOn ch m (s.view ch m)).writes ++ answers)

section Scanned
variable {env : ScanEnv} {ch : ChannelConfig} {m : Message} {s : Inbox} {answers : List InboxWrite}

theorem scanned_writes (unheld : s.Unheld) (unseen : s.Unseen m)
    (trimmed : (env.readOn ch m (s.view ch m)).verdict.isSignal = true → m.text = m.body)
    (free : (env.readOn ch m (s.view ch m)).verdict ≠ .held)
    (answering : ∀ w ∈ answers, w.answers = true) {w : InboxWrite}
    (mem : w ∈ (env.readOn ch m (s.view ch m)).writes ++ answers) :
    w.holdFree = true ∧ w.keepsText m.body = true := by
  cases List.mem_append.mp mem with
  | inl mem =>
      rcases readOn_byNew unheld unseen trimmed free mem with new | ⟨t, rfl⟩
      · exact ⟨InboxWrite.holdFree_of_byNew new, keepsText_of_byNew new⟩
      · exact ⟨rfl, rfl⟩
  | inr mem =>
      exact ⟨holdFree_of_answers (answering w mem), keepsText_of_answers (answering w mem) _⟩

theorem scanned_unheld (unheld : s.Unheld) (unseen : s.Unseen m)
    (trimmed : (env.readOn ch m (s.view ch m)).verdict.isSignal = true → m.text = m.body)
    (free : (env.readOn ch m (s.view ch m)).verdict ≠ .held)
    (answering : ∀ w ∈ answers, w.answers = true) : (s.scanned env ch m answers).Unheld :=
  unheld_applyAll unheld fun _ mem => (scanned_writes unheld unseen trimmed free answering mem).1

theorem scanned_stored (unheld : s.Unheld) (unseen : s.Unseen m)
    (trimmed : (env.readOn ch m (s.view ch m)).verdict.isSignal = true → m.text = m.body)
    (free : (env.readOn ch m (s.view ch m)).verdict ≠ .held)
    (answering : ∀ w ∈ answers, w.answers = true) : (s.scanned env ch m answers).Stored m := by
  have before : s.Stored m := by
    intro row found
    rw [unseen_row unseen] at found
    cases found
  exact stored_applyAll
    (fun _ mem => (scanned_writes unheld unseen trimmed free answering mem).2) before

/-- A first scan by the pipeline for new messages leaves its notes. -/
theorem noted_scanned (unheld : s.Unheld) (unseen : s.Unseen m)
    (reach : env.reachesRow ch m = true) (answering : ∀ w ∈ answers, w.answers = true)
    (after : (s.scanned env ch m answers).Unheld) :
    Noted m (env.readNew ch m (s.view ch m)).writes (s.view ch m)
      ((s.scanned env ch m answers).view ch m) := by
  have blank : (s.view ch m).aiChecked = false := by
    rw [view_unseen unheld unseen]
    rfl
  have reading : env.readOn ch m (s.view ch m) =
      env.finish ch m (env.readNew ch m (s.view ch m)) := by
    rw [ScanEnv.readOn, lookOn_of_new (unseen_row unseen) reach]
  have wrote : ∀ w ∈ (env.readNew ch m (s.view ch m)).writes,
      w ∈ (env.readOn ch m (s.view ch m)).writes ++ answers := by
    intro w mem
    rw [reading]
    exact List.mem_append_left _ (mem_finish mem)
  have silent : .noteAi m.body ∈ (env.readOn ch m (s.view ch m)).writes ++ answers →
      .noteAi m.body ∈ (env.readNew ch m (s.view ch m)).writes := by
    intro mem
    cases List.mem_append.mp mem with
    | inl mem =>
        rw [reading] at mem
        exact noteAi_finish mem
    | inr mem => exact absurd (answering _ mem) (by simp [InboxWrite.answers])
  refine ⟨(view_hold after ch m).1, (view_hold after ch m).2, ?_, fun mem => ?_⟩
  · by_cases noted : .noteAi m.body ∈ (env.readNew ch m (s.view ch m)).writes
    · exact .inl (decide_eq_true ((ai_applyAll_iff m.body).mpr (.inr ⟨_, wrote _ noted, rfl⟩)))
    · refine .inr ⟨?_, noted⟩
      rw [blank]
      refine decide_eq_false fun mem => ?_
      rcases (ai_applyAll_iff m.body).mp mem with before | ⟨w, mem, rfl⟩
      · exact of_decide_eq_false blank before
      · exact noted (silent mem)
  · exact decide_eq_true (stop_applyAll_iff.mpr (.inr ⟨_, wrote _ mem, rfl⟩))

theorem quiet_of_filtered (reach : env.reachesRow ch m = false) :
    (env.lookOn ch m ((s.scanned env ch m answers).view ch m)).Quiet
      ((s.scanned env ch m answers).view ch m) := by
  rcases lookOn_filtered reach with ignored | ⟨t, trigger⟩
  · rw [ignored]
    exact quiet_nil _ rfl
  · have claims : .claim t ∈ (env.readOn ch m (s.view ch m)).writes ++ answers := by
      rw [ScanEnv.readOn, trigger]
      exact List.mem_append_left _ (mem_finish (List.mem_singleton.mpr rfl))
    have claimed : ((s.scanned env ch m answers).view ch m).claimed t = true :=
      decide_eq_true ((claimed_applyAll_iff t).mpr (.inr ⟨_, claims, rfl⟩))
    rw [trigger, claimed]
    refine ⟨_, rfl, rfl, fun w mem => ?_⟩
    rw [List.mem_singleton.mp mem]
    exact claimed

/-- A message without a row after its scan is read again without effect. -/
theorem quiet_of_no_row (unheld : s.Unheld) (unseen : s.Unseen m)
    (free : (env.readOn ch m (s.view ch m)).verdict ≠ .held)
    (reach : env.reachesRow ch m = true) (answering : ∀ w ∈ answers, w.answers = true)
    (after : (s.scanned env ch m answers).Unheld)
    (row : ((s.scanned env ch m answers).view ch m).row = none) :
    (env.readNew ch m ((s.scanned env ch m answers).view ch m)).Quiet
      ((s.scanned env ch m answers).view ch m) := by
  have first : env.lookOn ch m (s.view ch m) = env.readNew ch m (s.view ch m) :=
    lookOn_of_new (unseen_row unseen) reach
  rw [ScanEnv.readOn, first] at free
  refine (readNew_resettles env ch m _ _ (view_hold unheld ch m).1 (view_hold unheld ch m).2
    (noted_scanned unheld unseen reach answering after) (finish_held free)).resolve_left
      fun keeps => ?_
  obtain ⟨w, mem, inserts⟩ : ∃ w ∈ (env.finish ch m (env.readNew ch m (s.view ch m))).writes,
      ∃ rawText direction levels status, w = .insertRow rawText direction levels status :=
    finish_keepsRow keeps
  have wrote : w ∈ (env.readOn ch m (s.view ch m)).writes ++ answers := by
    rw [ScanEnv.readOn, first]
    exact List.mem_append_left answers mem
  have inserted : ((s.scanned env ch m answers).view ch m).row.isSome = true :=
    row_applyAll_iff.mpr (.inr ⟨w, wrote, inserts⟩)
  rw [row] at inserted
  cases inserted

/-- From its first scan on a message is quiet. -/
theorem quiet_scanned (watched : env.channelOf m.groupId = some ch) (unheld : s.Unheld)
    (unseen : s.Unseen m)
    (trimmed : (env.readOn ch m (s.view ch m)).verdict.isSignal = true → m.text = m.body)
    (free : (env.readOn ch m (s.view ch m)).verdict ≠ .held)
    (answering : ∀ w ∈ answers, w.answers = true) : (s.scanned env ch m answers).Quiet env m := by
  intro other same
  obtain rfl := Option.some.inj (watched.symm.trans same)
  have after := scanned_unheld unheld unseen trimmed free answering
  cases reach : env.reachesRow ch m with
  | false => exact quiet_of_filtered reach
  | true =>
      cases row : ((s.scanned env ch m answers).view ch m).row with
      | some kept =>
          have same : m.body = kept.rawText :=
            (scanned_stored unheld unseen trimmed free answering kept row).symm
          rw [lookOn_of_row row reach, ScanEnv.handleSignalEdit, if_pos same]
          exact quiet_nil _ rfl
      | none =>
          rw [lookOn_of_new row reach]
          exact quiet_of_no_row unheld unseen free reach answering after row

end Scanned

end Forex
