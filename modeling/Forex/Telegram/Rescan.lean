import Forex.Telegram.Edits
import Forex.Telegram.Views

/-!
A message read a second time. Every pass walks the whole buffer again, so a
message is read many times, and its row, its claims and its notes are there to
make every reading but the first do nothing. Here the two readings are compared
stage by stage, for a message that the first one gave no row and no hold.
-/

namespace Forex
open Support

/-- The verdict has the trading half do something. -/
def Verdict.acts : Verdict → Bool
  | .trigger _ first => first
  | .edited request => decide (request ≠ .nothing)
  | .instant _ _ stale => !stale
  | .adjustStop _ first => first
  | .signal _ fresh => fresh
  | _ => false

theorem act_of_not_acts {v : Verdict} (h : v.acts = false) (env : ScanEnv) (mk : Market) (b : Book)
    (ch : ChannelConfig) (m : Message) (view : InboxView) :
    act env mk b ch m view v = Outcome.idle b := by
  cases v with
  | trigger t first =>
      rw [show first = false from h]
      rfl
  | edited request =>
      rw [show request = .nothing by simpa [Verdict.acts] using h]
      rfl
  | instant direction price stale =>
      rw [show stale = true by simpa [Verdict.acts] using h]
      rfl
  | adjustStop newStop first =>
      rw [show first = false from h]
      rfl
  | signal p fresh =>
      rw [show fresh = false from h]
      rfl
  | _ => rfl

/-- What a later view still shows of the writes of a reading. -/
structure Noted (m : Message) (writes : List InboxWrite) (v v' : InboxView) : Prop where
  hold : v'.hold = none
  channelWaits : v'.channelWaits = false
  ai : v'.aiChecked = true ∨ v'.aiChecked = v.aiChecked ∧ .noteAi m.body ∉ writes
  stop : .claimStop ∈ writes → v'.stopClaimed = true

namespace Progress

/-- The message is given a row. -/
def KeepsRow (m : Message) (r : Progress) : Prop :=
  (∃ p, r.stage = .parsed p) ∨
    ∃ direction levels status, .insertRow m.body direction levels status ∈ r.writes

/-- Nothing is to be done, and nothing new is written. -/
def Quiet (v : InboxView) (r : Progress) : Prop :=
  ∃ verdict, r.stage = .settled verdict ∧ verdict.acts = false ∧
    ∀ w ∈ r.writes, w.redundant v = true

/-- A message that the first reading gave no row and no hold finds the second
reading quiet. -/
def Resettles (m : Message) (v v' : InboxView) (r r' : Progress) : Prop :=
  Noted m r.writes v v' → r.stage ≠ .settled .held → r.KeepsRow m ∨ r'.Quiet v'

end Progress

section Again
variable (env : ScanEnv) (ch : ChannelConfig) (m : Message) (v v' : InboxView)

theorem quiet_nil {verdict : Verdict} (h : verdict.acts = false) :
    Progress.Quiet v' ⟨.settled verdict, []⟩ :=
  ⟨verdict, rfl, h, fun _ mem => nomatch mem⟩

theorem resettles_nil {verdict : Verdict} (h : verdict.acts = false) :
    Progress.Resettles m v v' ⟨.settled verdict, []⟩ ⟨.settled verdict, []⟩ :=
  fun _ _ => .inr (quiet_nil v' h)

theorem resettles_parsed (p : Parsed) (writes writes' : List InboxWrite) (stage : Stage) :
    Progress.Resettles m v v' ⟨.parsed p, writes⟩ ⟨stage, writes'⟩ :=
  fun _ _ => .inl (.inl ⟨p, rfl⟩)

theorem resettles_row (stage stage' : Stage) (direction : Option Direction) (levels : RowLevels)
    (status : TgStatus) (writes' : List InboxWrite) :
    Progress.Resettles m v v' ⟨stage, [.insertRow m.body direction levels status]⟩
      ⟨stage', writes'⟩ :=
  fun _ _ => .inl (.inr ⟨direction, levels, status, List.mem_singleton.mpr rfl⟩)

/-- The AI is not asked about a text twice, and says nothing that leaves no note. -/
theorem askAi_again
    (noted : v'.aiChecked = true ∨
      v'.aiChecked = v.aiChecked ∧ .noteAi m.body ∉ (env.askAi m v).2) :
    env.askAi m v' = (.unavailable, []) := by
  rcases noted with checked | ⟨same, silent⟩
  · simp [ScanEnv.askAi, checked]
  · rw [ScanEnv.askAi] at silent ⊢
    rw [same]
    split
    · rfl
    · next unasked =>
        rw [if_neg unasked] at silent
        cases said : env.ai m with
        | unavailable => rfl
        | _ => simp [said] at silent

/-- The gate of the lexicons in front of the AI. -/
theorem mem_lastResort {looksLikeSignal : Bool} {w : InboxWrite}
    (asks : (decide (env.settings.lexicons.candidates = []) ||
      textMatchesAny m.body env.settings.lexicons.candidates) = true)
    (mem : w ∈ (env.askAi m v).2) : w ∈ (env.lastResort m v looksLikeSignal).writes := by
  rw [ScanEnv.lastResort, if_pos asks]
  rcases answer : env.askAi m v with ⟨said, writes⟩
  rw [answer] at mem
  cases said with
  | signal p => exact mem
  | stop newStopLoss => exact List.mem_append_left _ mem
  | unavailable | chatter =>
      cases looksLikeSignal with
      | true => exact List.mem_append_left _ mem
      | false => exact mem

theorem lastResort_resettles (looksLikeSignal : Bool) :
    Progress.Resettles m v v' (env.lastResort m v looksLikeSignal)
      (env.lastResort m v' looksLikeSignal) := by
  intro noted _
  right
  have answer : (if decide (env.settings.lexicons.candidates = []) ||
      textMatchesAny m.body env.settings.lexicons.candidates then env.askAi m v'
      else (.unavailable, [])) = (AiAnswer.unavailable, ([] : List InboxWrite)) := by
    split
    · next asks =>
        refine askAi_again env m v v' (noted.ai.imp_right fun ⟨same, silent⟩ => ⟨same, ?_⟩)
        exact fun mem => silent (mem_lastResort env m v asks mem)
    · rfl
  rw [ScanEnv.lastResort, answer]
  cases looksLikeSignal with
  | true => exact ⟨.unrecognised, rfl, rfl, fun w mem => by rw [List.mem_singleton.mp mem]; rfl⟩
  | false => exact quiet_nil v' rfl

theorem readPartial_resettles :
    Progress.Resettles m v v' (env.readPartial ch m v) (env.readPartial ch m v') := by
  simp only [ScanEnv.readPartial]
  cases (env.parsers.gd2Partial m.body).orElse (env.parsers.formatAbPartial m.body) with
  | error => exact resettles_nil m v v' rfl
  | ok found =>
      cases found with
      | some partialSignal => exact resettles_row m v v' _ _ _ _ _ _
      | none =>
          dsimp only
          cases (env.parsers.gd2InstantEntry m.body).orElse
              (env.parsers.lexiconDirectionTrigger m.body) with
          | error => exact resettles_nil m v v' rfl
          | ok bare =>
              cases bare with
              | some trigger => exact resettles_nil m v v' rfl
              | none => exact lastResort_resettles env m v v' _

theorem readPlain_resettles :
    Progress.Resettles m v v' (env.readPlain ch m v) (env.readPlain ch m v') := by
  simp only [ScanEnv.readPlain]
  cases env.parsers.limitOrderSignal m.body with
  | error => exact resettles_nil m v v' rfl
  | ok limit =>
      cases limit with
      | some p => exact resettles_parsed m v v' p _ _ _
      | none =>
          dsimp only
          split
          · exact resettles_row m v v' _ _ _ _ _ _
          · cases env.gatedSignal ch m with
            | error => exact resettles_nil m v v' rfl
            | ok gated =>
                cases gated with
                | some p => exact resettles_parsed m v v' p _ _ _
                | none => exact readPartial_resettles env ch m v v'

/-- Without a hold of its own or of its channel, a message is held, or read as
it would be with the second-message rule off. -/
theorem readSecondMessage_unheld (hold : v.hold = none) (waits : v.channelWaits = false) :
    env.readSecondMessage ch m v =
      match env.parsers.tpSlOnly m.body with
      | .error _ => ⟨.settled .abandoned, []⟩
      | .ok _ =>
          match env.parsers.partialAnyFormat m.body with
          | .error _ => ⟨.settled .abandoned, []⟩
          | .ok (some _) => ⟨.settled .held, [.insertHold]⟩
          | .ok none => env.readPlain ch m v := by
  rw [ScanEnv.readSecondMessage, waits]
  cases env.parsers.tpSlOnly m.body with
  | error => rfl
  | ok levels =>
      cases env.parsers.partialAnyFormat m.body with
      | error => cases levels <;> rfl
      | ok found =>
          cases found with
          | some p => cases levels <;> simp only [ScanEnv.holdOrResolve, hold]
          | none => cases levels <;> rfl

theorem classify_resettles (hold : v.hold = none) (waits : v.channelWaits = false) :
    Progress.Resettles m v v' (env.classify ch m v) (env.classify ch m v') := by
  intro noted
  revert noted
  simp only [ScanEnv.classify]
  cases env.parsers.learnedRules ch.name m.body with
  | some p => exact resettles_parsed m v v' p _ _ _
  | none =>
      dsimp only
      split
      · intro noted
        rw [readSecondMessage_unheld env ch m v hold waits] at noted ⊢
        rw [readSecondMessage_unheld env ch m v' noted.hold noted.channelWaits]
        revert noted
        cases env.parsers.tpSlOnly m.body with
        | error => exact resettles_nil m v v' rfl
        | ok levels =>
            dsimp only
            cases env.parsers.partialAnyFormat m.body with
            | error => exact resettles_nil m v v' rfl
            | ok found =>
                cases found with
                | some p => exact fun _ unheld => absurd rfl unheld
                | none => exact readPlain_resettles env ch m v v'
      · exact readPlain_resettles env ch m v v'

theorem readSignal_resettles (hold : v.hold = none) (waits : v.channelWaits = false) :
    Progress.Resettles m v v' (env.readSignal ch m v) (env.readSignal ch m v') := by
  simp only [ScanEnv.readSignal]
  cases env.parsers.slAdjustmentRules ch.name m.body with
  | some newStopLoss =>
      intro noted _
      have claimed : v'.stopClaimed = true := noted.stop (List.mem_singleton.mpr rfl)
      refine .inr ⟨_, rfl, by simp [Verdict.acts, claimed], fun w mem => ?_⟩
      rw [List.mem_singleton.mp mem]
      exact claimed
  | none =>
      dsimp only
      split
      · exact resettles_nil m v v' rfl
      · exact classify_resettles env ch m v v' hold waits

theorem readNew_resettles (hold : v.hold = none) (waits : v.channelWaits = false) :
    Progress.Resettles m v v' (env.readNew ch m v) (env.readNew ch m v') := by
  simp only [ScanEnv.readNew]
  split
  · cases env.instantTrigger m with
    | error => exact resettles_nil m v v' rfl
    | ok found =>
        cases found with
        | some trigger => exact resettles_row m v v' _ _ _ _ _ _
        | none => exact readSignal_resettles env ch m v v' hold waits
  · exact readSignal_resettles env ch m v v' hold waits

end Again

section HoldFree
variable (env : ScanEnv) (ch : ChannelConfig) (m : Message) {v : InboxView}

theorem InboxWrite.holdFree_of_byNew {body : String} {w : InboxWrite}
    (h : w.byNew false body = true) :
    w.holdFree = true := by
  cases w with
  | insertHold | resolveHold | attachLevels => cases h
  | _ => rfl

theorem readSecondMessage_byNew_unheld (hold : v.hold = none) (waits : v.channelWaits = false)
    (unheld : (env.readSecondMessage ch m v).stage ≠ .settled .held) :
    (env.readSecondMessage ch m v).ByNew m false := by
  rw [readSecondMessage_unheld env ch m v hold waits] at unheld ⊢
  cases levels : env.parsers.tpSlOnly m.body with
  | error => exact byNew_nil m _ _
  | ok _ =>
      rw [levels] at unheld
      cases first : env.parsers.partialAnyFormat m.body with
      | error => exact byNew_nil m _ _
      | ok found =>
          rw [first] at unheld
          cases found with
          | some p => exact absurd rfl unheld
          | none => exact readPlain_byNew env ch m v false

theorem classify_byNew_unheld (hold : v.hold = none) (waits : v.channelWaits = false)
    (unheld : (env.classify ch m v).stage ≠ .settled .held) :
    (env.classify ch m v).ByNew m false := by
  rw [ScanEnv.classify] at unheld ⊢
  cases learned : env.parsers.learnedRules ch.name m.body with
  | some p => exact byNew_nil m _ _
  | none =>
      rw [learned] at unheld
      dsimp only at unheld ⊢
      split
      · next second =>
          rw [if_pos second] at unheld
          exact readSecondMessage_byNew_unheld env ch m hold waits unheld
      · exact readPlain_byNew env ch m v false

theorem readSignal_byNew_unheld (hold : v.hold = none) (waits : v.channelWaits = false)
    (unheld : (env.readSignal ch m v).stage ≠ .settled .held) :
    (env.readSignal ch m v).ByNew m false := by
  rw [ScanEnv.readSignal] at unheld ⊢
  cases rules : env.parsers.slAdjustmentRules ch.name m.body with
  | some newStopLoss => exact byNew_single rfl _
  | none =>
      rw [rules] at unheld
      dsimp only at unheld ⊢
      split
      · exact byNew_nil m _ _
      · next included =>
          rw [if_neg included] at unheld
          exact classify_byNew_unheld env ch m hold waits unheld

theorem readNew_byNew_unheld (hold : v.hold = none) (waits : v.channelWaits = false)
    (unheld : (env.readNew ch m v).stage ≠ .settled .held) :
    (env.readNew ch m v).ByNew m false := by
  rw [ScanEnv.readNew] at unheld ⊢
  split
  · next immediate =>
      rw [if_pos immediate] at unheld
      split
      · exact byNew_nil m _ _
      · exact byNew_single (by simp [InboxWrite.byNew]) _
      · next none_ =>
          rw [none_] at unheld
          exact readSignal_byNew_unheld env ch m hold waits unheld
  · next immediate =>
      rw [if_neg immediate] at unheld
      exact readSignal_byNew_unheld env ch m hold waits unheld

end HoldFree

/-- What the trading half writes back about a message. -/
def InboxWrite.answers : InboxWrite → Bool
  | .claimStop | .mark _ _ => true
  | _ => false

section Answers
variable (env : ScanEnv) (mk : Market) (b : Book) (ch : ChannelConfig) (m : Message)

theorem perform_answers (c : Decision) :
    ∀ w ∈ (perform env mk b ch m c).writes, w.answers = true := by
  intro w mem
  cases c with
  | nothing => cases mem
  | send site tpOpen r =>
      simp only [perform, send] at mem
      split at mem
      · rw [List.mem_singleton.mp mem]
        rfl
      · cases mem
  | queue p r =>
      simp only [perform] at mem
      split at mem
      · cases mem
      · rw [List.mem_singleton.mp mem]
        rfl
  | queueClosed p =>
      simp only [perform] at mem
      split at mem <;> cases mem

theorem absorb_answers (t : Trade) (p : Parsed) :
    ∀ w ∈ (absorb mk b ch t p).writes, w.answers = true := by
  intro w mem
  simp only [absorb, applyFollowup] at mem
  split at mem
  · rw [List.mem_singleton.mp mem]
    rfl
  · split at mem
    · cases mem
    · simp only [updateLevels] at mem
      split at mem <;>
        (rw [List.mem_singleton.mp mem]; rfl)

theorem applySlAdjustment_answers (newStop : ℚ) :
    (applySlAdjustment env mk b ch newStop).writes = [] := by
  rw [applySlAdjustment]
  split
  · rfl
  · split
    · rfl
    · split <;> rfl

theorem act_answers (view : InboxView) (v : Verdict) :
    ∀ w ∈ (act env mk b ch m view v).writes, w.answers = true := by
  intro w mem
  simp only [act] at mem
  split at mem
  · simp only [actTrigger] at mem
    split at mem
    · cases mem
    · split at mem
      · cases mem
      · split at mem
        · cases mem
        · split at mem
          · cases mem
          · dsimp only at mem
            rw [applySlAdjustment_answers] at mem
            rw [List.mem_singleton.mp mem]
            rfl
  · next request =>
      cases request with
      | nothing => cases mem
      | flatten recorded =>
          simp only [actEdit] at mem
          split at mem
          · cases mem
          · split at mem <;> cases mem
      | followUp p =>
          simp only [actEdit] at mem
          split at mem
          · exact absorb_answers mk b ch _ p w mem
          · cases mem
  · exact perform_answers env mk b ch m _ w mem
  · rw [applySlAdjustment_answers] at mem
    cases mem
  · next p =>
      simp only [actSignal] at mem
      split at mem
      · cases mem
      · split at mem
        · exact perform_answers env mk b ch m _ w mem
        · split at mem
          · exact absorb_answers mk b ch _ p w mem
          · exact perform_answers env mk b ch m _ w mem
  · cases mem

end Answers

end Forex
