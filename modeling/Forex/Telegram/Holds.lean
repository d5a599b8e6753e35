import Forex.Telegram.Settled

/-!
What reading a message may do to the holds: nothing, begin one, resolve the one
of the message, or hand its levels to the newest hold of the channel that still
waits for some. Every stage of the pipeline in front of the second-message block
only adds writes that name no hold.
-/

namespace Forex
open Support

def holdWrites (writes : List InboxWrite) : List InboxWrite := writes.filter fun w => !w.holdFree

theorem holdWrites_nil {writes : List InboxWrite} (free : ∀ w ∈ writes, w.holdFree = true) :
    holdWrites writes = [] :=
  List.filter_eq_nil_iff.mpr fun w mem => by rw [free w mem]; exact Bool.false_ne_true

theorem holdWrites_append (ws vs : List InboxWrite) :
    holdWrites (ws ++ vs) = holdWrites ws ++ holdWrites vs :=
  List.filter_append ..

/-- What a reading does to the holds, by the hold of its message and by whether
one of its channel waits for levels. -/
inductive Progress.Moves (env : ScanEnv) (m : Message) (view : InboxView) (r : Progress) : Prop
  | idle (writes : holdWrites r.writes = [])
  | opens (fresh : view.hold = none) (writes : holdWrites r.writes = [.insertHold])
  | leaves (p : Parsed) (hold : Hold) (own : view.hold = some hold)
      (reads : env.parsers.partialAnyFormat m.body = .ok (some p))
      (due : hold.levels = none → env.settings.matchWindowSec ≤ env.now - hold.firstSeenAt)
      (stage : r.stage = .parsed (hold.levels.elim p (ScanEnv.mergeLevels p)))
      (writes : holdWrites r.writes = [.resolveHold])
  | attaches (levels : FollowUpLevels) (waits : view.channelWaits = true)
      (reads : env.parsers.tpSlOnly m.body = .ok (some levels))
      (writes : holdWrites r.writes = [.attachLevels levels])

section Moves
variable {env : ScanEnv} {ch : ChannelConfig} {m : Message} {view : InboxView}

theorem moves_of_byNew {r : Progress} (new : r.ByNew m false) : r.Moves env m view :=
  .idle (holdWrites_nil fun w mem => InboxWrite.holdFree_of_byNew (new w mem))

/-- Writes that name no hold may come first. -/
theorem Progress.Moves.after {r : Progress} (h : r.Moves env m view) {writes : List InboxWrite}
    (free : ∀ w ∈ writes, w.holdFree = true) :
    Progress.Moves env m view ⟨r.stage, writes ++ r.writes⟩ := by
  have same : holdWrites (writes ++ r.writes) = holdWrites r.writes := by
    rw [holdWrites_append, holdWrites_nil free, List.nil_append]
  cases h with
  | idle moved => exact .idle (same.trans moved)
  | opens fresh moved => exact .opens fresh (same.trans moved)
  | leaves p hold own reads due stage moved =>
      exact .leaves p hold own reads due stage (same.trans moved)
  | attaches levels waits reads moved => exact .attaches levels waits reads (same.trans moved)

theorem holdOrResolve_moves {p : Parsed}
    (reads : env.parsers.partialAnyFormat m.body = .ok (some p)) :
    (env.holdOrResolve view p).Moves env m view := by
  rw [ScanEnv.holdOrResolve]
  cases own : view.hold with
  | none => exact .opens own rfl
  | some hold =>
      dsimp only
      cases levels : hold.levels with
      | some levels' =>
          refine .leaves p hold own reads (fun none => ?_) ?_ rfl
          · rw [levels] at none
            cases none
          · rw [levels]
            rfl
      | none =>
          dsimp only
          split_ifs with due
          · refine .leaves p hold own reads (fun _ => due) ?_ rfl
            rw [levels]
            rfl
          · exact .idle rfl

theorem readSecondMessage_moves : (env.readSecondMessage ch m view).Moves env m view := by
  rw [ScanEnv.readSecondMessage]
  cases levels : env.parsers.tpSlOnly m.body with
  | error => exact .idle rfl
  | ok found =>
      cases found <;> cases waits : view.channelWaits
      case some.true levels' => exact .attaches levels' waits levels rfl
      all_goals
        cases reads : env.parsers.partialAnyFormat m.body with
        | error => exact .idle rfl
        | ok partial_ =>
            cases partial_ with
            | some p => exact holdOrResolve_moves reads
            | none => exact moves_of_byNew (readPlain_byNew env ch m view false)

theorem classify_moves : (env.classify ch m view).Moves env m view := by
  rw [ScanEnv.classify]
  cases env.parsers.learnedRules ch.name m.body with
  | some p => exact .idle rfl
  | none =>
      dsimp only
      split_ifs
      · exact readSecondMessage_moves
      · exact moves_of_byNew (readPlain_byNew env ch m view false)

theorem readSignal_moves : (env.readSignal ch m view).Moves env m view := by
  rw [ScanEnv.readSignal]
  cases env.parsers.slAdjustmentRules ch.name m.body with
  | some newStopLoss => exact .idle rfl
  | none =>
      dsimp only
      split_ifs
      · exact .idle rfl
      · exact classify_moves

theorem readNew_moves : (env.readNew ch m view).Moves env m view := by
  rw [ScanEnv.readNew]
  split_ifs
  · cases env.instantTrigger m with
    | error => exact .idle rfl
    | ok found =>
        cases found with
        | some trigger => exact .idle rfl
        | none => exact readSignal_moves
  · exact readSignal_moves

theorem askAi_holdFree : ∀ w ∈ (env.askAi m view).2, w.holdFree = true := fun w mem =>
  InboxWrite.holdFree_of_byNew (askAi_byNew env m view false w mem)

theorem applyEdit_moves (row : TgRow) (p : Parsed) :
    (env.applyEdit ch m view row p).Moves env m view := by
  rw [ScanEnv.applyEdit]
  split_ifs
  · have update : ∀ w ∈ [InboxWrite.updateReparsed m.body p.levels], w.holdFree = true := by
      intro w mem
      rw [List.mem_singleton.mp mem]
      rfl
    exact Progress.Moves.after readNew_moves update
  · exact .idle rfl
  · exact .idle rfl
  · exact .idle rfl
  · exact .idle rfl

theorem editByAi_moves (row : TgRow) : (env.editByAi ch m view row).Moves env m view := by
  have free : ∀ w ∈ (env.askAi m view).2, w.holdFree = true := askAi_holdFree
  rw [ScanEnv.editByAi]
  rcases asked : env.askAi m view with ⟨answer, writes⟩
  rw [asked] at free
  cases answer with
  | signal p => exact (applyEdit_moves row p).after free
  | stop | unavailable | chatter => exact .idle (holdWrites_nil free)

theorem handleSignalEdit_moves (row : TgRow) :
    (env.handleSignalEdit ch m view row).Moves env m view := by
  rw [ScanEnv.handleSignalEdit]
  by_cases same : m.body = row.rawText
  · rw [if_pos same]
    exact .idle rfl
  · rw [if_neg same]
    cases env.reparse ch m with
    | error => exact .idle rfl
    | ok found =>
        cases found with
        | some p => exact applyEdit_moves row p
        | none =>
            dsimp only
            split_ifs
            · cases env.instantFix ch m with
              | error => exact .idle rfl
              | ok trigger =>
                  cases trigger with
                  | none => exact editByAi_moves row
                  | some fix =>
                      dsimp only
                      split_ifs
                      · exact .idle rfl
                      · exact .idle rfl
            · exact editByAi_moves row

theorem lookOn_moves : (env.lookOn ch m view).Moves env m view := by
  by_cases reach : env.reachesRow ch m = true
  · cases row : view.row with
    | some row' =>
        rw [lookOn_of_row row reach]
        exact handleSignalEdit_moves row'
    | none =>
        rw [lookOn_of_new row reach]
        exact readNew_moves
  · obtain ignored | ⟨t, trigger⟩ := lookOn_filtered (Bool.eq_false_iff.mpr reach)
    · rw [ignored]
      exact .idle rfl
    · rw [trigger]
      exact .idle rfl

end Moves

namespace ScanEnv
variable (env : ScanEnv) (ch : ChannelConfig) (m : Message)

/-- No stage in front of the second-message block takes a message without a
row. -/
def reachesSecondMessage : Bool :=
  env.reachesRow ch m && env.settings.secondMessage &&
    (!env.settings.immediateMarketEntry || decide (env.instantTrigger m = .ok none)) &&
    decide (env.parsers.slAdjustmentRules ch.name m.body = none) &&
    !textMatchesAny m.body env.settings.lexicons.exclusion &&
    decide (env.parsers.learnedRules ch.name m.body = none)

/-- The bare entry that the text of a message is, if it states no levels alone. -/
def bareEntry : Option Parsed :=
  if env.reachesSecondMessage ch m && decide (env.parsers.tpSlOnly m.body = .ok none) then
    (env.parsers.partialAnyFormat m.body).toOption.join
  else none

end ScanEnv

section Bare
variable {env : ScanEnv} {ch : ChannelConfig} {m : Message} {view : InboxView}

theorem readNew_of_reaches (reaches : env.reachesSecondMessage ch m = true) :
    env.readNew ch m view = env.readSecondMessage ch m view := by
  simp only [ScanEnv.reachesSecondMessage, Bool.and_eq_true, Bool.or_eq_true, Bool.not_eq_true',
    decide_eq_true_eq] at reaches
  obtain ⟨⟨⟨⟨⟨-, second⟩, instant⟩, rules⟩, included⟩, learned⟩ := reaches
  have signal : env.readSignal ch m view = env.readSecondMessage ch m view := by
    rw [ScanEnv.readSignal, rules, included, ScanEnv.classify, learned, second]
    rfl
  rw [ScanEnv.readNew, signal]
  obtain off | silent := instant
  · rw [off]
    rfl
  · rw [silent]
    exact ite_self _

/-- A bare entry without a row comes to `hold_or_resolve`. -/
theorem lookOn_bareEntry {p : Parsed} (bare : env.bareEntry ch m = some p)
    (row : view.row = none) : env.lookOn ch m view = env.holdOrResolve view p := by
  rw [ScanEnv.bareEntry] at bare
  split_ifs at bare with reads
  rw [Bool.and_eq_true, decide_eq_true_eq] at reads
  have reach := reads.1
  simp only [ScanEnv.reachesSecondMessage, Bool.and_eq_true] at reach
  rw [lookOn_of_new row reach.1.1.1.1.1, readNew_of_reaches reads.1, ScanEnv.readSecondMessage,
    reads.2]
  cases parse : env.parsers.partialAnyFormat m.body with
  | error => rw [parse] at bare; cases bare
  | ok found =>
      rw [parse] at bare
      cases bare
      rfl

end Bare

section Tables
variable {s : Inbox} {now : ℚ} {ch : ChannelConfig} {m : Message}

def newestOf (holds : Table Hold Hold.tgMessageId) (channel : String) : Option Hold :=
  newest Hold.firstSeenAt (holds.rows.filter (Hold.waitsOn channel))

/-- What a write does to the table of holds. -/
def holdsAfter (now : ℚ) (ch : ChannelConfig) (m : Message) (holds : Table Hold Hold.tgMessageId) :
    InboxWrite → Table Hold Hold.tgMessageId
  | .insertHold => holds.insertOrIgnore ⟨m.id, ch.name, now, none, true⟩
  | .resolveHold => holds.update m.id Hold.resolve
  | .attachLevels levels =>
      match newestOf holds ch.name with
      | some h => holds.update h.tgMessageId (Hold.attach levels)
      | none => holds
  | _ => holds

theorem holds_apply (w : InboxWrite) :
    (s.apply now ch m w).holds = holdsAfter now ch m s.holds w := by
  cases w with
  | attachLevels levels =>
      rw [Inbox.apply, holdsAfter, Inbox.newestWaiting, newestOf]
      cases newest Hold.firstSeenAt (s.holds.rows.filter (Hold.waitsOn ch.name)) with
      | none => rfl
      | some h => rfl
  | _ => rfl

theorem holdsAfter_of_free (holds : Table Hold Hold.tgMessageId) {w : InboxWrite}
    (free : w.holdFree = true) : holdsAfter now ch m holds w = holds := by
  cases w with
  | insertHold | resolveHold | attachLevels => cases free
  | _ => rfl

/-- The table of holds after the writes of a reading. -/
theorem holds_applyAll (writes : List InboxWrite) :
    (s.applyAll now ch m writes).holds =
      (holdWrites writes).foldl (holdsAfter now ch m) s.holds := by
  induction writes generalizing s with
  | nil => rfl
  | cons w writes ih =>
      have rest := ih (s := s.apply now ch m w)
      rw [holds_apply] at rest
      cases free : w.holdFree with
      | true =>
          rw [holdsAfter_of_free s.holds free] at rest
          have skipped : holdWrites (w :: writes) = holdWrites writes :=
            List.filter_cons_of_neg (by rw [free]; exact Bool.false_ne_true)
          rw [skipped]
          exact rest
      | false =>
          have taken : holdWrites (w :: writes) = w :: holdWrites writes :=
            List.filter_cons_of_pos (by rw [free]; rfl)
          rw [taken]
          exact rest

variable {env : ScanEnv} {mk : Market} {st : ScanState}

/-- A message of the loop touches the holds by what the pipeline writes, not by
what the trading half writes back. -/
theorem holds_scanMessage (watched : env.channelOf m.groupId = some ch) :
    (scanMessage env mk st m).1.inbox.holds =
      (holdWrites (env.lookOn ch m (st.inbox.view ch m)).writes).foldl (holdsAfter env.now ch m)
        st.inbox.holds := by
  have answers : holdWrites (outcomeOn env mk st ch m).writes = [] :=
    holdWrites_nil fun w mem => holdFree_of_answers (act_answers env mk _ ch m _ _ w mem)
  have recorded : holdWrites (env.readOn ch m (st.inbox.view ch m)).writes =
      holdWrites (env.lookOn ch m (st.inbox.view ch m)).writes := by
    rw [ScanEnv.readOn, ScanEnv.finish]
    cases (env.lookOn ch m (st.inbox.view ch m)).stage with
    | settled verdict => rfl
    | parsed p => exact (holdWrites_append ..).trans (List.append_nil _)
  rw [scanMessage, watched]
  dsimp only
  rw [holds_applyAll, holdWrites_append, answers, List.append_nil, recorded]

end Tables

end Forex
