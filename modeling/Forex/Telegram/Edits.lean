import Forex.Telegram.Channels
import Forex.Telegram.FollowUp

/-!
What scanning a message again does to its row. The handler of edits compares
the trimmed text with the stored one, parses by its own choice of parser, and
writes what it parsed; the first scan stores the text as it came and writes
what the overrides leave. The row after a re-scan is computed from the writes
alone, and compared with the row a first scan would have made.
-/

namespace Forex
open Support

/-- What a write does to the row the message has. -/
def InboxWrite.onRow : InboxWrite → TgRow → TgRow
  | .setRawText rawText => TgRow.setRawText rawText
  | .correctDirection direction rawText => TgRow.correctDirection direction rawText
  | .updateReparsed rawText levels => TgRow.updateReparsed rawText levels
  | .applyCorrection direction levels rawText => TgRow.applyCorrection direction levels rawText
  | .mark status signalId => TgRow.mark status signalId
  | _ => id

/-- The writes of the pipeline for a message not seen before, whose rows hold
the text it compares. -/
def InboxWrite.byNew (second : Bool) (body : String) : InboxWrite → Bool
  | .insertRow rawText _ _ _ => decide (rawText = body)
  | .claimStop | .noteAi _ | .noteUnrecognised => true
  | .insertHold | .resolveHold | .attachLevels _ => second
  | _ => false

theorem InboxWrite.onRow_of_byNew {second : Bool} {body : String} {w : InboxWrite}
    (h : w.byNew second body = true) (row : TgRow) : w.onRow row = row := by
  cases w with
  | setRawText | correctDirection | updateReparsed | applyCorrection | mark => cases h
  | _ => rfl

section Rows
variable {s : Inbox} {now : ℚ} {ch : ChannelConfig} {m : Message} {row : TgRow}

theorem find_apply_self (found : s.rows.find m.id = some row) (w : InboxWrite) :
    (s.apply now ch m w).rows.find m.id = some (w.onRow row) := by
  have updated : ∀ f : Assign TgRow.tgMessageId,
      (s.updateRow m.id f).rows.find m.id = some (f row) := by
    intro f
    rw [Inbox.updateRow, Table.find_update_self, found, Option.map_some]
  cases w with
  | insertRow rawText direction levels status =>
      simp only [Inbox.apply, Table.find_insertOrIgnore, found, Option.some_or]
      rfl
  | setRawText | correctDirection | updateReparsed | applyCorrection | mark => exact updated _
  | attachLevels levels =>
      simp only [Inbox.apply]
      split <;> exact found
  | _ => exact found

theorem find_apply_of_ne {i : ℕ} (ne : i ≠ m.id) (w : InboxWrite) :
    (s.apply now ch m w).rows.find i = s.rows.find i := by
  cases w with
  | insertRow rawText direction levels status =>
      simp only [Inbox.apply, Table.find_insertOrIgnore, if_neg ne.symm, Option.or_none]
  | setRawText | correctDirection | updateReparsed | applyCorrection | mark =>
      exact Table.find_update_of_ne _ _ ne
  | attachLevels levels =>
      simp only [Inbox.apply]
      split <;> rfl
  | _ => rfl

theorem find_applyAll_self (found : s.rows.find m.id = some row) (writes : List InboxWrite) :
    (s.applyAll now ch m writes).rows.find m.id =
      some (writes.foldl (fun row w => w.onRow row) row) := by
  induction writes generalizing s row with
  | nil => exact found
  | cons w writes ih => exact ih (find_apply_self found w)

theorem find_applyAll_of_ne {i : ℕ} (ne : i ≠ m.id) (writes : List InboxWrite) :
    (s.applyAll now ch m writes).rows.find i = s.rows.find i := by
  induction writes generalizing s with
  | nil => rfl
  | cons w writes ih => exact ih.trans (find_apply_of_ne ne w)

theorem foldl_onRow_of_byNew {second : Bool} {body : String} {writes : List InboxWrite}
    (h : ∀ w ∈ writes, w.byNew second body = true) (row : TgRow) :
    writes.foldl (fun row w => w.onRow row) row = row := by
  induction writes with
  | nil => rfl
  | cons w writes ih =>
      rw [List.foldl_cons, InboxWrite.onRow_of_byNew (h w List.mem_cons_self)]
      exact ih fun v mem => h v (List.mem_cons_of_mem w mem)

end Rows

section ByNew
variable (env : ScanEnv) (ch : ChannelConfig) (m : Message) (view : InboxView)

/-- Every write is one of the pipeline for new messages. -/
def Progress.ByNew (m : Message) (second : Bool) (r : Progress) : Prop :=
  ∀ w ∈ r.writes, w.byNew second m.body = true

theorem byNew_nil (second : Bool) (stage : Stage) : Progress.ByNew m second ⟨stage, []⟩ := by
  intro w mem
  cases mem

variable {m} in
theorem byNew_single {second : Bool} {w : InboxWrite} (h : w.byNew second m.body = true)
    (stage : Stage) : Progress.ByNew m second ⟨stage, [w]⟩ := by
  intro v mem
  rw [List.mem_singleton.mp mem]
  exact h

theorem askAi_byNew (second : Bool) :
    ∀ w ∈ (env.askAi m view).2, w.byNew second m.body = true := by
  rw [ScanEnv.askAi]
  split
  · simp
  · split <;> simp [InboxWrite.byNew]

theorem lastResort_byNew (second looksLikeSignal : Bool) :
    (env.lastResort m view looksLikeSignal).ByNew m second := by
  have asked : ∀ w ∈ (if env.settings.lexicons.candidates = [] ||
      textMatchesAny m.body env.settings.lexicons.candidates then env.askAi m view
      else (.unavailable, [])).2, w.byNew second m.body = true := by
    split
    · exact askAi_byNew env m view second
    · simp
  rw [ScanEnv.lastResort]
  split
  · next h =>
      rw [h] at asked
      exact asked
  · next h =>
      rw [h] at asked
      intro w mem
      cases List.mem_append.mp mem with
      | inl mem => exact asked w mem
      | inr mem =>
          split at mem
          · rw [List.mem_singleton.mp mem]
            rfl
          · cases mem
  · next h =>
      rw [h] at asked
      split
      · intro w mem
        cases List.mem_append.mp mem with
        | inl mem => exact asked w mem
        | inr mem =>
            rw [List.mem_singleton.mp mem]
            rfl
      · exact asked

theorem readPartial_byNew (second : Bool) : (env.readPartial ch m view).ByNew m second := by
  rw [ScanEnv.readPartial]
  split
  · exact byNew_nil m _ _
  · exact byNew_single (by simp [InboxWrite.byNew]) _
  · split
    · exact byNew_nil m _ _
    · exact byNew_nil m _ _
    · exact lastResort_byNew env m view second _

theorem readPlain_byNew (second : Bool) : (env.readPlain ch m view).ByNew m second := by
  rw [ScanEnv.readPlain]
  split
  · exact byNew_nil m _ _
  · exact byNew_nil m _ _
  · split
    · exact byNew_single (by simp [InboxWrite.byNew]) _
    · split
      · exact byNew_nil m _ _
      · exact byNew_nil m _ _
      · exact readPartial_byNew env ch m view second

theorem readSecondMessage_byNew : (env.readSecondMessage ch m view).ByNew m true := by
  have held : ∀ p, (env.holdOrResolve view p).ByNew m true := by
    intro p
    rw [ScanEnv.holdOrResolve]
    split
    · exact byNew_single rfl _
    · split
      · exact byNew_single rfl _
      · split
        · exact byNew_single rfl _
        · exact byNew_nil m _ _
  rw [ScanEnv.readSecondMessage]
  split
  · exact byNew_nil m _ _
  · split
    · exact byNew_single rfl _
    · split
      · exact byNew_nil m _ _
      · exact held _
      · exact readPlain_byNew env ch m view true

theorem readSignal_byNew : (env.readSignal ch m view).ByNew m env.settings.secondMessage := by
  rw [ScanEnv.readSignal]
  split
  · exact byNew_single rfl _
  · split
    · exact byNew_nil m _ _
    · rw [ScanEnv.classify]
      split
      · exact byNew_nil m _ _
      · cases second : env.settings.secondMessage with
        | true => exact readSecondMessage_byNew env ch m view
        | false => exact readPlain_byNew env ch m view false

theorem readNew_byNew : (env.readNew ch m view).ByNew m env.settings.secondMessage := by
  rw [ScanEnv.readNew]
  split
  · split
    · exact byNew_nil m _ _
    · exact byNew_single (by simp [InboxWrite.byNew]) _
    · exact readSignal_byNew env ch m view
  · exact readSignal_byNew env ch m view

end ByNew

/-- The row after a list of writes about its message. -/
def rowAfter (writes : List InboxWrite) (row : TgRow) : TgRow :=
  writes.foldl (fun row w => w.onRow row) row

namespace ScanEnv
variable (env : ScanEnv) (ch : ChannelConfig) (m : Message) (view : InboxView) (row : TgRow)

/-- The bare trigger it looks for, on the row of an instant entry. -/
def editTrigger : Parse (Direction × Option ℚ) :=
  if isInstant row.status then env.instantFix ch m else .ok none

/-- The handler finds something in the text that it writes into the row. -/
def rewrites : Bool :=
  match env.reparse ch m with
  | .error _ => false
  | .ok (some _) => true
  | .ok none =>
      match env.editTrigger ch m row with
      | .error _ => false
      | .ok (some _) => true
      | .ok none => (env.editParse ch m view).isSome

/-- The row a parsed edit leaves. -/
def correctedRow (p : Parsed) : TgRow :=
  if row.direction = some p.direction then TgRow.updateReparsed m.body p.levels row
  else if row.status = .new then TgRow.applyCorrection p.direction p.levels m.body row
  else TgRow.setRawText m.body row

end ScanEnv

section Handler
variable {env : ScanEnv} {ch : ChannelConfig} {m : Message} {view : InboxView} {row : TgRow}

theorem rowAfter_askAi (env : ScanEnv) (m : Message) (view : InboxView) (row : TgRow)
    (rest : List InboxWrite) :
    rowAfter ((env.askAi m view).2 ++ rest) row = rowAfter rest row := by
  rw [rowAfter, List.foldl_append, foldl_onRow_of_byNew (askAi_byNew env m view false)]
  rfl

theorem rowAfter_applyEdit (p : Parsed) :
    rowAfter (env.applyEdit ch m view row p).writes row = ScanEnv.correctedRow m row p := by
  rw [ScanEnv.applyEdit, ScanEnv.correctedRow]
  dsimp only
  by_cases same : row.direction = some p.direction
  · rw [if_pos same, if_pos same]
    split
    · exact foldl_onRow_of_byNew (readNew_byNew env ch m view) _
    · split <;> rfl
  · rw [if_neg same, if_neg same]
    split <;> rfl

theorem rowAfter_editByAi :
    rowAfter (env.editByAi ch m view row).writes row =
      match (env.askAi m view).1 with
      | .signal p => ScanEnv.correctedRow m row p
      | _ => row := by
  have silent := rowAfter_askAi env m view row []
  rw [List.append_nil] at silent
  rw [ScanEnv.editByAi]
  rcases answer : env.askAi m view with ⟨said, writes⟩
  rw [answer] at silent
  cases said with
  | signal p =>
      have spoken := rowAfter_askAi env m view row
        (env.applyEdit ch m view row p).writes
      rw [answer] at spoken
      exact spoken.trans (rowAfter_applyEdit p)
  | unavailable => exact silent
  | chatter => exact silent
  | stop newStop => exact silent

theorem correctedRow_rawText (p : Parsed) :
    (ScanEnv.correctedRow m row p).rawText = m.body := by
  rw [ScanEnv.correctedRow]
  split
  · rfl
  · split <;> rfl

/-- The row after the handler, by what it found. -/
theorem rowAfter_handleSignalEdit (edited : m.body ≠ row.rawText) :
    rowAfter (env.handleSignalEdit ch m view row).writes row =
      match env.reparse ch m with
      | .error _ => row
      | .ok (some p) => ScanEnv.correctedRow m row p
      | .ok none =>
          match env.editTrigger ch m row with
          | .error _ => row
          | .ok (some (d, _)) =>
              if row.direction = some d then TgRow.setRawText m.body row
              else TgRow.correctDirection d m.body row
          | .ok none =>
              match (env.askAi m view).1 with
              | .signal p => ScanEnv.correctedRow m row p
              | _ => row := by
  rw [ScanEnv.handleSignalEdit, if_neg edited, ScanEnv.editTrigger]
  cases env.reparse ch m with
  | error => rfl
  | ok found =>
      cases found with
      | some p => exact rowAfter_applyEdit p
      | none =>
          dsimp only
          cases ScanEnv.isInstant row.status with
          | false => exact rowAfter_editByAi
          | true =>
              simp only [if_true]
              cases env.instantFix ch m with
              | error => rfl
              | ok fix =>
                  cases fix with
                  | none => exact rowAfter_editByAi
                  | some pair =>
                      dsimp only
                      split <;> rfl

theorem rewrites_rawText (edited : m.body ≠ row.rawText)
    (h : env.rewrites ch m view row = true) :
    (rowAfter (env.handleSignalEdit ch m view row).writes row).rawText = m.body := by
  rw [rowAfter_handleSignalEdit edited]
  rw [ScanEnv.rewrites, ScanEnv.editParse] at h
  cases parse : env.reparse ch m with
  | error => simp [parse] at h
  | ok found =>
      cases found with
      | some p => exact correctedRow_rawText p
      | none =>
          simp only [parse] at h
          dsimp only
          cases fix : env.editTrigger ch m row with
          | error => simp [fix] at h
          | ok found =>
              cases found with
              | some pair =>
                  dsimp only
                  split <;> rfl
              | none =>
                  simp only [fix] at h
                  dsimp only
                  cases said : (env.askAi m view).1 with
                  | signal p => exact correctedRow_rawText p
                  | _ => simp [said] at h

/-- With nothing found, the row stays and no follow-up is asked for. -/
theorem handleSignalEdit_of_not_rewrites
    (h : m.body = row.rawText ∨ env.rewrites ch m view row = false) :
    rowAfter (env.handleSignalEdit ch m view row).writes row = row ∧
      ∀ p, (env.handleSignalEdit ch m view row).stage ≠ .settled (.edited (.followUp p)) := by
  by_cases same : m.body = row.rawText
  · rw [ScanEnv.handleSignalEdit, if_pos same]
    exact ⟨rfl, fun p => by simp⟩
  · have silent := h.resolve_left same
    have spoken : ∀ p, (env.askAi m view).1 = .signal p → env.reparse ch m = .ok none →
        env.editTrigger ch m row ≠ .ok none := by
      intro p said parse fix
      simp [ScanEnv.rewrites, ScanEnv.editParse, parse, fix, said] at silent
    have asked : env.reparse ch m = .ok none → env.editTrigger ch m row = .ok none →
        rowAfter (env.editByAi ch m view row).writes row = row ∧
          ∀ p, (env.editByAi ch m view row).stage ≠ .settled (.edited (.followUp p)) := by
      intro parse fix
      refine ⟨?_, ?_⟩
      · rw [rowAfter_editByAi]
        split
        · next p said => exact absurd fix (spoken p said parse)
        · rfl
      · intro p
        rw [ScanEnv.editByAi]
        split
        · next q _ said => exact absurd fix (spoken q (by rw [said]) parse)
        · simp
        · simp
    rw [ScanEnv.handleSignalEdit, if_neg same]
    rw [ScanEnv.rewrites] at silent
    cases parse : env.reparse ch m with
    | error => exact ⟨rfl, fun p => by simp⟩
    | ok found =>
        cases found with
        | some p => simp [parse] at silent
        | none =>
            simp only [parse] at silent
            cases instant : ScanEnv.isInstant row.status with
            | false =>
                exact asked parse (by rw [ScanEnv.editTrigger, instant]; rfl)
            | true =>
                have trigger : env.editTrigger ch m row = env.instantFix ch m := by
                  rw [ScanEnv.editTrigger, instant]
                  rfl
                rw [trigger] at silent
                cases fix : env.instantFix ch m with
                | error => exact ⟨rfl, fun p => by simp⟩
                | ok found =>
                    cases found with
                    | some pair => simp [fix] at silent
                    | none => exact asked parse (trigger.trans fix)

/-- Short of its row, no write of a message concerns it. -/
theorem lookOn_of_not_reachesRow (reach : env.reachesRow ch m = false) (view : InboxView) :
    ((env.lookOn ch m view).stage = .settled .ignored ∨
        ∃ t first, (env.lookOn ch m view).stage = .settled (.trigger t first)) ∧
      ∀ row, rowAfter (env.lookOn ch m view).writes row = row := by
  rcases lookOn_filtered reach with ignored | ⟨t, trigger⟩
  · rw [ignored]
    exact ⟨.inl rfl, fun _ => rfl⟩
  · rw [trigger]
    exact ⟨.inr ⟨t, _, rfl⟩, fun _ => rfl⟩

theorem rowAfter_finish (progress : Progress) :
    rowAfter (env.finish ch m progress).writes row = rowAfter progress.writes row := by
  rw [ScanEnv.finish]
  split
  · rfl
  · rw [rowAfter, List.foldl_append]
    rfl

end Handler

/-- The row was made from the text the message still has. -/
def Unedited (row : TgRow) (m : Message) : Prop := row.rawText = m.text ∨ row.rawText = m.body

/-- What the tables would show of the message had it never been scanned. -/
def Inbox.firstView (s : Inbox) (ch : ChannelConfig) (m : Message) : InboxView :=
  { s.view ch m with
    row := none
    claimed := fun _ => false
    stopClaimed := false
    hold := none
    aiChecked := false }

section Sound
variable (env : ScanEnv) (s : Inbox) (m : Message)

/-- The signal that a first scan would record. -/
def firstScan (ch : ChannelConfig) : Option Parsed :=
  match (env.lookOn ch m (s.firstView ch m)).stage with
  | .parsed q => some (overridden env ch q)
  | .settled _ => none

/-- The signal of an edit that the handler writes into the row. -/
def editTaken (ch : ChannelConfig) (row : TgRow) : Option Parsed :=
  (env.editParse ch m (s.view ch m)).filter fun q =>
    decide (row.direction = some q.direction ∨ row.status = .new)

/-- An unedited message changes nothing when it is scanned again, and an edited
one leaves the row that its first scan would have made. -/
structure EditSound : Prop where
  unedited : ∀ ch row, env.channelOf m.groupId = some ch → s.rows.find m.id = some row →
    Unedited row m →
      (∀ i, (s.read env m).1.rows.find i = s.rows.find i) ∧
        ∀ p, (s.read env m).2 ≠ .edited (.followUp p)
  edited : ∀ ch row p, env.channelOf m.groupId = some ch → s.rows.find m.id = some row →
    ¬ Unedited row m → row.status = .new ∨ row.status = .pendingFollowup →
      firstScan env s m ch = some p →
        ∃ after, (s.read env m).1.rows.find m.id = some after ∧
          after.direction = some p.direction ∧ after.levels = p.levels

/-- An unedited message was stored trimmed, or its text says nothing to the
handler of edits; and of an edited one the handler takes what the first scan
would record, or leaves a row that says so already. -/
structure EditsAgree : Prop where
  unedited : ∀ ch row, env.channelOf m.groupId = some ch → s.rows.find m.id = some row →
    Unedited row m → env.reachesRow ch m = true →
      m.body = row.rawText ∨ env.rewrites ch m (s.view ch m) row = false
  edited : ∀ ch row p, env.channelOf m.groupId = some ch → s.rows.find m.id = some row →
    ¬ Unedited row m → row.status = .new ∨ row.status = .pendingFollowup →
      firstScan env s m ch = some p →
        match editTaken env s m ch row with
        | some q => q.direction = p.direction ∧ q.levels = p.levels
        | none => row.direction = some p.direction ∧ row.levels = p.levels

variable {env s m} {ch : ChannelConfig} {row : TgRow}

theorem find_read_self (watched : env.channelOf m.groupId = some ch)
    (found : s.rows.find m.id = some row) :
    (s.read env m).1.rows.find m.id =
      some (rowAfter (env.lookOn ch m (s.view ch m)).writes row) := by
  rw [Inbox.read, watched]
  dsimp only
  rw [find_applyAll_self found, ScanEnv.readOn]
  exact congrArg some (rowAfter_finish _)

theorem find_read_of_ne (watched : env.channelOf m.groupId = some ch) {i : ℕ} (ne : i ≠ m.id) :
    (s.read env m).1.rows.find i = s.rows.find i := by
  rw [Inbox.read, watched]
  exact find_applyAll_of_ne ne _

theorem read_followUp_iff (watched : env.channelOf m.groupId = some ch) (p : Parsed) :
    (s.read env m).2 = .edited (.followUp p) ↔
      (env.lookOn ch m (s.view ch m)).stage = .settled (.edited (.followUp p)) := by
  rw [Inbox.read, watched]
  dsimp only [ScanEnv.readOn, ScanEnv.finish]
  cases (env.lookOn ch m (s.view ch m)).stage with
  | settled v => simp
  | parsed q => simp [ScanEnv.record]

/-- A re-scan is without effect exactly when the handler is not reached, or
finds the text as stored, or finds nothing in it. -/
theorem rescan_inert_iff (watched : env.channelOf m.groupId = some ch)
    (found : s.rows.find m.id = some row) :
    ((∀ i, (s.read env m).1.rows.find i = s.rows.find i) ∧
        ∀ p, (s.read env m).2 ≠ .edited (.followUp p)) ↔
      (env.reachesRow ch m = true →
        m.body = row.rawText ∨ env.rewrites ch m (s.view ch m) row = false) := by
  have seen : (s.view ch m).row = some row := found
  constructor
  · rintro ⟨same, _⟩ reach
    by_contra h
    obtain ⟨edited, writes⟩ := not_or.mp h
    rw [Bool.not_eq_false] at writes
    have kept := (find_read_self watched found).symm.trans ((same m.id).trans found)
    rw [lookOn_of_row seen reach] at kept
    have stored := rewrites_rawText edited writes
    rw [Option.some.inj kept] at stored
    exact edited stored.symm
  · intro h
    have still : rowAfter (env.lookOn ch m (s.view ch m)).writes row = row ∧
        ∀ p, (env.lookOn ch m (s.view ch m)).stage ≠ .settled (.edited (.followUp p)) := by
      cases reach : env.reachesRow ch m with
      | true =>
          rw [lookOn_of_row seen reach]
          exact handleSignalEdit_of_not_rewrites (h reach)
      | false =>
          obtain ⟨ignored | ⟨t, first, trigger⟩, kept⟩ :=
            lookOn_of_not_reachesRow reach (s.view ch m)
          · exact ⟨kept row, fun p => by simp [ignored]⟩
          · exact ⟨kept row, fun p => by simp [trigger]⟩
    refine ⟨fun i => ?_, fun p => ?_⟩
    · by_cases here : i = m.id
      · rw [here, find_read_self watched found, still.1, found]
      · exact find_read_of_ne watched here
    · rw [ne_eq, read_followUp_iff watched]
      exact still.2 p

theorem reachesRow_of_firstScan {p : Parsed} (first : firstScan env s m ch = some p) :
    env.reachesRow ch m = true := by
  by_contra h
  rw [Bool.not_eq_true] at h
  rw [firstScan] at first
  obtain ⟨ignored | ⟨t, b, trigger⟩, _⟩ := lookOn_of_not_reachesRow h (s.firstView ch m)
  · simp [ignored] at first
  · simp [trigger] at first

/-- The row after an edit of a signal not yet executed. -/
theorem rowAfter_edit (edited : ¬ Unedited row m)
    (status : row.status = .new ∨ row.status = .pendingFollowup) (view : InboxView) :
    rowAfter (env.handleSignalEdit ch m view row).writes row =
      match env.editParse ch m view with
      | some q => ScanEnv.correctedRow m row q
      | none => row := by
  have differs : m.body ≠ row.rawText := fun same => edited (.inr same.symm)
  have plain : env.editTrigger ch m row = .ok none := by
    rcases status with h | h <;> rw [ScanEnv.editTrigger, h] <;> rfl
  rw [rowAfter_handleSignalEdit differs, plain, ScanEnv.editParse]
  cases env.reparse ch m with
  | error => rfl
  | ok found =>
      cases found with
      | some p => rfl
      | none =>
          dsimp only
          cases (env.askAi m view).1 <;> rfl

theorem correctedRow_levels_iff {p q : Parsed} :
    ((ScanEnv.correctedRow m row q).direction = some p.direction ∧
        (ScanEnv.correctedRow m row q).levels = p.levels) ↔
      match (some q).filter fun q : Parsed =>
          decide (row.direction = some q.direction ∨ row.status = .new) with
      | some q => q.direction = p.direction ∧ q.levels = p.levels
      | none => row.direction = some p.direction ∧ row.levels = p.levels := by
  rw [ScanEnv.correctedRow]
  by_cases same : row.direction = some q.direction
  · simp [same, TgRow.updateReparsed, Option.filter_some]
  · by_cases fresh : row.status = .new
    · simp [same, fresh, TgRow.applyCorrection, Option.filter_some]
    · simp [same, fresh, TgRow.setRawText, Option.filter_some]

end Sound

/-- A signal posted with a line break at its end. -/
def trailingBreak : Message := ⟨9, "G", limitLayout ++ "\n", .posted 800, false, false⟩

def trailingBreakEnv : ScanEnv :=
  ScanEnv.shipped
    { Parsers.silent with
      limitOrderSignal := fun text =>
        if text = limitLayout then .ok (some limitLayoutParsed) else .ok none
      gd2Signal := fun text =>
        if text = limitLayout then .ok (some { limitLayoutParsed with tpOpen := none })
        else .ok none }
    810

def afterFirstScan : Inbox := (Inbox.empty.read trailingBreakEnv trailingBreak).1

end Forex
