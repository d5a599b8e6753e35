import Forex.Telegram.Inbox

/-!
How far the pipeline takes a message before anything is recorded. A signal
leaves it only as a parse; a bare trigger only from the gate of the instant
entry, which a message reaches when it is new or when an edit promotes its row.
-/

namespace Forex
open Support

namespace ScanEnv
variable (env : ScanEnv) (ch : ChannelConfig) (m : Message) (view : InboxView) (row : TgRow)

/-- The keyword triggers and the filters let the message through to its row. -/
def reachesRow : Bool :=
  !env.skips ch m &&
    !(env.settings.closeAllParsing && textMatchesAny m.body env.settings.lexicons.closeAll) &&
      !(env.settings.riskFreeBeParsing && textMatchesAny m.body env.settings.lexicons.riskFreeBe)

/-- The signal that the handler of edits takes the text for. -/
def editParse : Option Parsed :=
  match env.reparse ch m with
  | .error _ => none
  | .ok (some p) => some p
  | .ok none =>
      match (env.askAi m view).1 with
      | .signal p => some p
      | _ => none

/-- The edit finds the signal of a row that still waits for its levels. -/
def promotes : Bool :=
  decide (row.status = .pendingFollowup ∧ m.body ≠ row.rawText) &&
    (env.editParse ch m view).any fun p => decide (row.direction = some p.direction)

/-- The message comes to the gate of the instant entry. -/
def readsAsNew : Bool := env.reachesRow ch m && view.row.all fun row => env.promotes ch m view row

/-- The message is read as a bare trigger, and the guard of that route passes
it. -/
structure BareTrigger (d : Direction) (price : Option ℚ) : Prop where
  reads : env.readsAsNew ch m view = true
  enabled : env.settings.immediateMarketEntry = true
  trigger : env.instantTrigger m = .ok (some (d, price))
  recent : env.isStaleInstant m = false

end ScanEnv

/-- What the pipeline settles on its own: never a signal, and an instant entry
only on its trigger and with the guard of that route. -/
def Stage.Proper (env : ScanEnv) (m : Message) : Stage → Prop
  | .settled (.signal _ _) => False
  | .settled (.instant d price stale) =>
      env.settings.immediateMarketEntry = true ∧
        env.instantTrigger m = .ok (some (d, price)) ∧ env.isStaleInstant m = stale
  | _ => True

section Look
variable (env : ScanEnv) (ch : ChannelConfig) (m : Message) (view : InboxView)

theorem holdOrResolve_proper (p : Parsed) : (env.holdOrResolve view p).stage.Proper env m := by
  rw [ScanEnv.holdOrResolve]
  split
  · trivial
  · split
    · trivial
    · split <;> trivial

theorem lastResort_proper (looksLikeSignal : Bool) :
    (env.lastResort m view looksLikeSignal).stage.Proper env m := by
  rw [ScanEnv.lastResort]
  split
  · trivial
  · trivial
  · split <;> trivial

theorem readPartial_proper : (env.readPartial ch m view).stage.Proper env m := by
  rw [ScanEnv.readPartial]
  split
  · trivial
  · trivial
  · split
    · trivial
    · trivial
    · exact lastResort_proper env m view _

theorem readPlain_proper : (env.readPlain ch m view).stage.Proper env m := by
  rw [ScanEnv.readPlain]
  split
  · trivial
  · trivial
  · split
    · trivial
    · split
      · trivial
      · trivial
      · exact readPartial_proper env ch m view

theorem readSecondMessage_proper : (env.readSecondMessage ch m view).stage.Proper env m := by
  rw [ScanEnv.readSecondMessage]
  split
  · trivial
  · split
    · trivial
    · split
      · trivial
      · exact holdOrResolve_proper env m view _
      · exact readPlain_proper env ch m view

theorem readSignal_proper : (env.readSignal ch m view).stage.Proper env m := by
  rw [ScanEnv.readSignal]
  split
  · trivial
  · split
    · trivial
    · rw [ScanEnv.classify]
      split
      · trivial
      · split
        · exact readSecondMessage_proper env ch m view
        · exact readPlain_proper env ch m view

theorem readNew_proper : (env.readNew ch m view).stage.Proper env m := by
  rw [ScanEnv.readNew]
  split
  · next enabled =>
      split
      · trivial
      · next trigger => exact ⟨enabled, trigger, rfl⟩
      · exact readSignal_proper env ch m view
  · exact readSignal_proper env ch m view

theorem applyEdit_proper (row : TgRow) (p : Parsed) :
    (env.applyEdit ch m view row p).stage.Proper env m := by
  rw [ScanEnv.applyEdit]
  dsimp only
  split
  · split
    · exact readNew_proper env ch m view
    · split <;> trivial
  · split <;> trivial

theorem editByAi_proper (row : TgRow) : (env.editByAi ch m view row).stage.Proper env m := by
  rw [ScanEnv.editByAi]
  split
  · exact applyEdit_proper env ch m view row _
  · trivial
  · trivial

theorem handleSignalEdit_proper (row : TgRow) :
    (env.handleSignalEdit ch m view row).stage.Proper env m := by
  rw [ScanEnv.handleSignalEdit]
  split
  · trivial
  · split
    · trivial
    · exact applyEdit_proper env ch m view row _
    · split
      · split
        · trivial
        · split <;> trivial
        · exact editByAi_proper env ch m view row
      · exact editByAi_proper env ch m view row

theorem lookOn_proper : (env.lookOn ch m view).stage.Proper env m := by
  rw [ScanEnv.lookOn]
  split
  · trivial
  · split
    · trivial
    · split
      · trivial
      · split
        · exact handleSignalEdit_proper env ch m view _
        · exact readNew_proper env ch m view

variable {env ch m view} {row : TgRow}

/-- How a message with a row is read: its row first meets the filters. -/
theorem lookOn_of_row (h : view.row = some row) (reach : env.reachesRow ch m = true) :
    env.lookOn ch m view = env.handleSignalEdit ch m view row := by
  simp only [ScanEnv.reachesRow, Bool.and_eq_true, Bool.not_eq_true'] at reach
  obtain ⟨⟨passes, open_⟩, free⟩ := reach
  rw [ScanEnv.lookOn, passes, open_, free, h]
  simp

theorem lookOn_of_new (h : view.row = none) (reach : env.reachesRow ch m = true) :
    env.lookOn ch m view = env.readNew ch m view := by
  simp only [ScanEnv.reachesRow, Bool.and_eq_true, Bool.not_eq_true'] at reach
  obtain ⟨⟨passes, open_⟩, free⟩ := reach
  rw [ScanEnv.lookOn, passes, open_, free, h]
  simp

/-- Short of its row a message is ignored or a trigger, on every view. -/
theorem lookOn_filtered (reach : env.reachesRow ch m = false) :
    (∀ v, env.lookOn ch m v = ⟨.settled .ignored, []⟩) ∨
      ∃ t, ∀ v, env.lookOn ch m v = ⟨.settled (.trigger t (!v.claimed t)), [.claim t]⟩ := by
  simp only [ScanEnv.reachesRow, Bool.and_eq_false_iff, Bool.not_eq_false'] at reach
  cases skips : env.skips ch m with
  | true => exact .inl fun v => by simp only [ScanEnv.lookOn, skips, if_true]
  | false =>
      by_cases close : (env.settings.closeAllParsing &&
          textMatchesAny m.body env.settings.lexicons.closeAll) = true
      · exact .inr ⟨.closeAll, fun v => by simp [ScanEnv.lookOn, skips, close]⟩
      · rcases reach with (skipped | closes) | frees
        · rw [skips] at skipped
          cases skipped
        · exact absurd closes close
        · exact .inr ⟨.riskFreeBe, fun v => by simp [ScanEnv.lookOn, skips, close, frees]⟩

theorem readNew_instant_iff {d : Direction} {price : Option ℚ} {stale : Bool} :
    (env.readNew ch m view).stage = .settled (.instant d price stale) ↔
      env.settings.immediateMarketEntry = true ∧
        env.instantTrigger m = .ok (some (d, price)) ∧ env.isStaleInstant m = stale := by
  constructor
  · intro settled
    have proper := readNew_proper env ch m view
    rw [settled] at proper
    exact proper
  · rintro ⟨enabled, trigger, rfl⟩
    rw [ScanEnv.readNew, if_pos enabled, trigger]
    rfl

theorem applyEdit_instant_iff {p : Parsed} {d : Direction} {price : Option ℚ} {stale : Bool} :
    (env.applyEdit ch m view row p).stage = .settled (.instant d price stale) ↔
      row.status = .pendingFollowup ∧ row.direction = some p.direction ∧
        (env.readNew ch m view).stage = .settled (.instant d price stale) := by
  rw [ScanEnv.applyEdit]
  dsimp only
  by_cases same : row.direction = some p.direction
  · rw [if_pos same]
    by_cases waits : row.status = .pendingFollowup
    · simp [same, waits]
    · rw [if_neg waits]
      split <;> simp [waits]
  · rw [if_neg same]
    split <;> simp [same]

theorem editByAi_instant_iff {d : Direction} {price : Option ℚ} {stale : Bool} :
    (env.editByAi ch m view row).stage = .settled (.instant d price stale) ↔
      ∃ p, (env.askAi m view).1 = .signal p ∧
        (env.applyEdit ch m view row p).stage = .settled (.instant d price stale) := by
  rw [ScanEnv.editByAi]
  rcases env.askAi m view with ⟨said, writes⟩
  cases said <;> simp

/-- An edit leads to the gate of the instant entry only by a promotion. -/
theorem handleSignalEdit_instant_iff {d : Direction} {price : Option ℚ} {stale : Bool} :
    (env.handleSignalEdit ch m view row).stage = .settled (.instant d price stale) ↔
      env.promotes ch m view row = true ∧
        (env.readNew ch m view).stage = .settled (.instant d price stale) := by
  rw [ScanEnv.handleSignalEdit, ScanEnv.promotes, ScanEnv.editParse]
  by_cases same : m.body = row.rawText
  · simp [same]
  · rw [if_neg same]
    cases env.reparse ch m with
    | error => simp
    | ok found =>
        cases found with
        | some p =>
            dsimp only
            rw [applyEdit_instant_iff]
            simp [same, and_assoc]
        | none =>
            dsimp only
            cases instant : ScanEnv.isInstant row.status with
            | false =>
                simp only [Bool.false_eq_true, if_false]
                rw [editByAi_instant_iff]
                cases (env.askAi m view).1 <;> simp [applyEdit_instant_iff, same, and_assoc]
            | true =>
                have waits : row.status ≠ .pendingFollowup := by
                  intro waits
                  rw [waits] at instant
                  cases instant
                simp only [if_true, waits, false_and, decide_false, Bool.false_and,
                  Bool.false_eq_true, iff_false]
                cases env.instantFix ch m with
                | error => simp
                | ok fix =>
                    cases fix with
                    | none =>
                        rw [editByAi_instant_iff]
                        simp [applyEdit_instant_iff, waits]
                    | some pair =>
                        dsimp only
                        split <;> simp

theorem lookOn_instant_iff {d : Direction} {price : Option ℚ} {stale : Bool} :
    (env.lookOn ch m view).stage = .settled (.instant d price stale) ↔
      env.readsAsNew ch m view = true ∧
        (env.readNew ch m view).stage = .settled (.instant d price stale) := by
  rw [ScanEnv.readsAsNew, Bool.and_eq_true]
  cases reach : env.reachesRow ch m with
  | false =>
      rcases lookOn_filtered reach with ignored | ⟨t, trigger⟩
      · simp [ignored]
      · simp [trigger]
  | true =>
      cases seen : view.row with
      | none => simp [lookOn_of_new seen reach]
      | some row => simp [lookOn_of_row seen reach, handleSignalEdit_instant_iff]

/-- The scan takes a message for a bare trigger to act on exactly when it reads
as one and is recent enough for that route. -/
theorem lookOn_bareTrigger_iff {d : Direction} {price : Option ℚ} :
    (env.lookOn ch m view).stage = .settled (.instant d price false) ↔
      env.BareTrigger ch m view d price := by
  rw [lookOn_instant_iff, readNew_instant_iff]
  exact ⟨fun h => ⟨h.1, h.2.1, h.2.2.1, h.2.2.2⟩,
    fun h => ⟨h.reads, h.enabled, h.trigger, h.recent⟩⟩

/-- A signal verdict comes from a parse, through the overrides and the guard. -/
theorem parsed_of_signal {p : Parsed} {fresh : Bool}
    (h : (env.readOn ch m view).verdict = .signal p fresh) :
    ∃ q, (env.lookOn ch m view).stage = .parsed q ∧
      p = applyOverrides env.settings.levels (env.templateOf ch.name) q ∧
        fresh = !env.isStale m := by
  have proper := lookOn_proper env ch m view
  rw [ScanEnv.readOn, ScanEnv.finish] at h
  cases stage : (env.lookOn ch m view).stage with
  | settled v =>
      rw [stage] at h proper
      dsimp only at h
      subst h
      exact absurd proper id
  | parsed q =>
      rw [stage] at h
      injection h with same guard
      exact ⟨q, rfl, same.symm, guard.symm⟩

/-- An instant verdict is settled as such. -/
theorem settled_of_instant {d : Direction} {price : Option ℚ} {stale : Bool}
    (h : (env.readOn ch m view).verdict = .instant d price stale) :
    (env.lookOn ch m view).stage = .settled (.instant d price stale) := by
  rw [ScanEnv.readOn, ScanEnv.finish] at h
  cases stage : (env.lookOn ch m view).stage with
  | settled v =>
      rw [stage] at h
      dsimp only at h
      subst h
      rfl
  | parsed q =>
      rw [stage] at h
      cases h

end Look

end Forex
