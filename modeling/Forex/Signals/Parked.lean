import Forex.Signals.Watcher
import Forex.Support.Run

/-!
A signal parked as unknown must stay so until reconciliation resolves it. Half
of the statements that write the status refuse an unknown row in their `WHERE`;
the other half name the row by its id alone. A run keeps every parked signal
exactly when none of the second kind is aimed at one.
-/

namespace Forex
open Support

namespace Db

def statusOf (db : Db) (signalId : String) : Option SignalStatus :=
  (db.signals.find signalId).map Signal.status

variable {db : Db} {signalId : String}

theorem statusOf_set (other : String) (status : SignalStatus)
    (parked : db.statusOf signalId = some .unknown) :
    (db.setSignalStatus other status).statusOf signalId = some .unknown ↔
      (other = signalId → status = .unknown) := by
  by_cases same : other = signalId
  · subst same
    obtain ⟨row, found, -⟩ := Option.map_eq_some_iff.mp parked
    simp [statusOf, setSignalStatus, Table.find_update_self, found, Signal.setStatus]
  · have kept : (db.setSignalStatus other status).statusOf signalId = db.statusOf signalId := by
      simp only [statusOf, setSignalStatus]
      rw [Table.find_update_of_ne _ _ (Ne.symm same)]
    simp [kept, parked, same]

/-- A statement whose condition refuses unknown rows leaves them unknown. -/
theorem statusOf_updateWhere {p : Signal → Bool} {f : Assign Signal.signalId}
    (parked : db.statusOf signalId = some .unknown)
    (refuses : ∀ row : Signal, row.status = .unknown → p row = false) :
    ({ db with signals := db.signals.updateWhere p f } : Db).statusOf signalId =
      some .unknown := by
  obtain ⟨row, found, isUnknown⟩ := Option.map_eq_some_iff.mp parked
  simp [statusOf, Table.find_updateWhere, found, refuses row isUnknown, isUnknown]

theorem restore_keeps_unknown (other : String) (parked : db.statusOf signalId = some .unknown) :
    (db.restoreSignalAfterFailedOpen other).statusOf signalId = some .unknown := by
  apply statusOf_updateWhere parked
  intro row isUnknown
  simp [Signal.isActivating, isUnknown]

theorem reset_keeps_unknown (other : String) (parked : db.statusOf signalId = some .unknown) :
    (db.resetSignalToPending other).statusOf signalId = some .unknown := by
  apply statusOf_updateWhere parked
  intro row isUnknown
  simp [isUnknown]

theorem park_keeps_unknown (other : String) (parked : db.statusOf signalId = some .unknown) :
    (db.parkSignalUnknown other).statusOf signalId = some .unknown := by
  apply statusOf_updateWhere parked
  intro row isUnknown
  simp [isUnknown]

theorem release_keeps_unknown (now : ℚ) (parked : db.statusOf signalId = some .unknown) :
    (db.releaseStrandedActivations now).statusOf signalId = some .unknown := by
  apply statusOf_updateWhere parked
  intro row isUnknown
  simp [Signal.isActivating, isUnknown]

theorem claim_of_unknown {cap : ℕ} {now : ℚ} (parked : db.statusOf signalId = some .unknown) :
    db.claimSignalActivation cap signalId now = none := by
  obtain ⟨row, found, isUnknown⟩ := Option.map_eq_some_iff.mp parked
  simp [claimSignalActivation, found, Signal.claimable, isUnknown]

theorem claim_keeps_unknown {cap : ℕ} {other : String} {now : ℚ} {claimed : Db}
    (parked : db.statusOf signalId = some .unknown)
    (won : db.claimSignalActivation cap other now = some claimed) :
    claimed.statusOf signalId = some .unknown := by
  have distinct : signalId ≠ other := by
    rintro rfl
    rw [claim_of_unknown parked] at won
    exact absurd won (by simp)
  rw [claimSignalActivation] at won
  split at won
  · rw [← Option.some.inj won]
    simp only [statusOf]
    rw [Table.find_update_of_ne _ _ distinct]
    exact parked
  · exact absurd won (by simp)

theorem activate_keeps_unknown {other : String} {now : ℚ} {activated : Db}
    (parked : db.statusOf signalId = some .unknown)
    (done : db.activateSignal other now = some activated) :
    activated.statusOf signalId = some .unknown := by
  have distinct : signalId ≠ other := by
    rintro rfl
    obtain ⟨row, found, isUnknown⟩ := Option.map_eq_some_iff.mp parked
    simp [activateSignal, found, isUnknown] at done
  rw [activateSignal] at done
  split at done
  · exact absurd done (by simp)
  · split at done
    · rw [← Option.some.inj done]
      simp only [statusOf]
      rw [Table.find_update_of_ne _ _ distinct]
      exact parked
    · exact absurd done (by simp)

theorem insertTrade_unknown_iff {t : Trade} {inserted : Db}
    (parked : db.statusOf signalId = some .unknown)
    (done : insertTradeAndActivateSignal db t = some inserted) :
    inserted.statusOf signalId = some .unknown ↔ t.signalId ≠ signalId := by
  obtain ⟨trades, -, rfl⟩ := Option.map_eq_some_iff.mp done
  have here : Db.statusOf { db with trades := trades } signalId = some .unknown := parked
  rw [statusOf_set t.signalId .active here]
  simp

end Db

/-- A failed open of another signal, and a refused one of this, leave it unknown. -/
theorem openTradeFromSignal_keeps_unknown {db : Db} {signalId : String}
    (parked : db.statusOf signalId = some .unknown) (cap : ℕ) (other : String) (now : ℚ)
    (outcome : OpenOutcome) :
    (openTradeFromSignal cap db other now outcome).1.statusOf signalId = some .unknown := by
  cases outcome with
  | refused message => exact parked
  | opened t =>
      simp only [openTradeFromSignal]
      cases won : db.claimSignalActivation cap other now with
      | none => exact parked
      | some claimed =>
          have kept := Db.claim_keeps_unknown parked won
          cases done : insertTradeAndActivateSignal claimed { t with signalId := other } with
          | none => simpa [done, routeFailedOpen] using Db.restore_keeps_unknown other kept
          | some inserted =>
              simp only [done]
              rw [Db.insertTrade_unknown_iff kept done]
              rintro rfl
              rw [Db.claim_of_unknown parked] at won
              exact absurd won (by simp)
  | rejected message =>
      simp only [openTradeFromSignal]
      cases won : db.claimSignalActivation cap other now with
      | none => exact parked
      | some claimed =>
          simpa [routeFailedOpen] using
            Db.restore_keeps_unknown other (Db.claim_keeps_unknown parked won)
  | unanswered message =>
      simp only [openTradeFromSignal]
      cases won : db.claimSignalActivation cap other now with
      | none => exact parked
      | some claimed =>
          simpa [routeFailedOpen] using
            Db.park_keeps_unknown other (Db.claim_keeps_unknown parked won)

namespace Lifecycle

def IsUnknown (s : Lifecycle) (signalId : String) : Prop :=
  s.db.statusOf signalId = some .unknown

def Reconciles (signalId : String) : LifecycleStep → Prop
  | .reconcile other _ => other = signalId
  | _ => False

/-- The claim at one step: an unknown signal stays so unless it is reconciled. -/
def Keeps (cap : ℕ) (signalId : String) (s : Lifecycle) (l : LifecycleStep) : Prop :=
  s.IsUnknown signalId → ¬ Reconciles signalId l → (s.step cap l).IsUnknown signalId

/-- A visit that writes the status of its signal without opening it: the signal
is aged, or a trade is already open for it. -/
def writesStatus (traded : Bool) : Visit → Bool
  | .aged => true
  | .attempt _ _ => traded
  | .held | .atCap => false

/-- The step writes this signal's status by its id alone: a bare statement, a new
trade row, or the watcher finding the signal aged, already traded, or failed for
the last time. -/
def OverwritesStatus (signalId : String) (s : Lifecycle) : LifecycleStep → Prop
  | .parkPending other | .expire other | .markActivated other => other = signalId
  | .markActive t => t.signalId = signalId ∧ t.tradeId ∉ s.db.trades.rows.map Trade.tradeId
  | .visit v =>
      s.raised = none ∧ s.queue.head? = some signalId ∧
        writesStatus (s.db.hasOpenTradeForSignal signalId) v = true
  | .handleFailure =>
      ∃ message, s.raised = some (signalId, message) ∧ expectedRefusal message = false ∧
        maxActivationAttempts ≤ s.failures signalId + 1
  | _ => False

variable {cap : ℕ} {s : Lifecycle} {signalId : String}

theorem visit_unknown_iff (parked : s.IsUnknown signalId) (cap : ℕ) (other : String)
    (v : Visit) :
    (s.visit cap other v).IsUnknown signalId ↔
      ¬ (other = signalId ∧ writesStatus (s.db.hasOpenTradeForSignal signalId) v = true) := by
  cases v with
  | aged =>
      have written := Db.statusOf_set other .expired parked
      simpa [visit, forget, withDb, IsUnknown, Db.expireSignal, writesStatus] using written
  | held => simpa [visit, writesStatus] using parked
  | atCap => simpa [visit, writesStatus, IsUnknown] using parked
  | attempt now outcome =>
      simp only [visit, writesStatus]
      by_cases traded : s.db.hasOpenTradeForSignal other = true
      · have written : (s.withDb (s.db.markSignalActivated other)).IsUnknown signalId ↔
            other ≠ signalId := by
          simpa [withDb, IsUnknown, Db.markSignalActivated] using
            Db.statusOf_set other .activated parked
        rw [if_pos traded, written]
        constructor
        · rintro distinct ⟨same, -⟩
          exact distinct same
        · rintro kept rfl
          exact kept ⟨rfl, traded⟩
      · have kept := openTradeFromSignal_keeps_unknown parked cap other now outcome
        rw [if_neg traded]
        have untouched : ¬ (other = signalId ∧ s.db.hasOpenTradeForSignal signalId = true) := by
          rintro ⟨rfl, traded'⟩
          exact traded traded'
        refine (iff_true_right untouched).mpr ?_
        rcases result : openTradeFromSignal cap s.db other now outcome with ⟨db, _ | message⟩
        · simpa [result, forget, withDb, IsUnknown] using kept
        · simpa [result, IsUnknown] using kept

theorem handleFailure_unknown_iff (parked : s.IsUnknown signalId) (other message : String) :
    (s.handleFailure other message).IsUnknown signalId ↔
      ¬ (other = signalId ∧ expectedRefusal message = false ∧
        maxActivationAttempts ≤ s.failures signalId + 1) := by
  simp only [handleFailure]
  cases expected : expectedRefusal message with
  | true => simpa [IsUnknown] using parked
  | false =>
      by_cases few : s.failures other + 1 < maxActivationAttempts
      · rw [if_neg (by simp), if_pos few]
        refine (iff_true_right ?_).mpr parked
        rintro ⟨rfl, -, many⟩
        omega
      · have written := Db.statusOf_set other .expired parked
        rw [if_neg (by simp), if_neg few]
        have goal : (({ s with raised := none } : Lifecycle).withDb
            (s.db.expireSignal other) |>.forget other).IsUnknown signalId ↔ other ≠ signalId := by
          simpa [withDb, forget, IsUnknown, Db.expireSignal] using written
        refine goal.trans ?_
        constructor
        · rintro distinct ⟨same, -⟩
          exact distinct same
        · rintro kept rfl
          exact kept ⟨rfl, rfl, by omega⟩

theorem withDb_keeps {db : Db} (kept : db.statusOf signalId = some .unknown) :
    (s.withDb db).IsUnknown signalId := kept

/-- At one step, the signal is kept exactly when no bare write is aimed at it. -/
theorem keeps_iff (l : LifecycleStep) :
    Keeps cap signalId s l ↔ (s.IsUnknown signalId → ¬ OverwritesStatus signalId s l) := by
  refine forall_congr' fun parked => ?_
  -- A guarded statement keeps the row and is not among the bare writes.
  have guarded (kept : (s.step cap l).IsUnknown signalId)
      (spared : ¬ OverwritesStatus signalId s l) :
      (¬ Reconciles signalId l → (s.step cap l).IsUnknown signalId) ↔
        ¬ OverwritesStatus signalId s l :=
    ⟨fun _ => spared, fun _ _ => kept⟩
  cases l with
  | claim other now =>
      refine guarded ?_ id
      cases won : s.db.claimSignalActivation cap other now with
      | none => simpa [step, won, withDb] using parked
      | some claimed =>
          simpa [step, won] using withDb_keeps (Db.claim_keeps_unknown parked won)
  | restore other => exact guarded (Db.restore_keeps_unknown other parked) id
  | reset other => exact guarded (Db.reset_keeps_unknown other parked) id
  | parkUnknown other => exact guarded (Db.park_keeps_unknown other parked) id
  | release now => exact guarded (Db.release_keeps_unknown now parked) id
  | activate other now =>
      refine guarded ?_ id
      cases done : s.db.activateSignal other now with
      | none => simpa [step, done, withDb] using parked
      | some activated =>
          simpa [step, done] using withDb_keeps (Db.activate_keeps_unknown parked done)
  | readQueue => exact guarded parked id
  | parkPending other =>
      simpa [Reconciles, step, withDb, IsUnknown, Db.parkSignalPending, OverwritesStatus] using
        Db.statusOf_set other .pending parked
  | expire other =>
      simpa [Reconciles, step, withDb, IsUnknown, Db.expireSignal, OverwritesStatus] using
        Db.statusOf_set other .expired parked
  | markActivated other =>
      simpa [Reconciles, step, withDb, IsUnknown, Db.markSignalActivated, OverwritesStatus] using
        Db.statusOf_set other .activated parked
  | markActive t =>
      cases done : insertTradeAndActivateSignal s.db t with
      | none =>
          refine guarded (by simpa [step, done, withDb] using parked) ?_
          rintro ⟨-, fresh⟩
          simp [insertTradeAndActivateSignal, Table.insert, fresh] at done
      | some inserted =>
          obtain ⟨trades, inserts, -⟩ := Option.map_eq_some_iff.mp done
          have fresh := (Table.insert_eq_some inserts).1
          have written := Db.insertTrade_unknown_iff parked done
          simp only [Reconciles, step, done, Option.getD_some, withDb, IsUnknown,
            OverwritesStatus, not_false_eq_true, forall_const, fresh, and_true]
          exact written
  | visit v =>
      simp only [Reconciles, step, OverwritesStatus, not_false_eq_true, forall_const]
      cases handling : s.raised with
      | some failure => simpa using parked
      | none =>
          cases waiting : s.queue with
          | nil => simpa using parked
          | cons other rest =>
              have here : ({ s with queue := rest } : Lifecycle).IsUnknown signalId := parked
              simpa [handling] using visit_unknown_iff here cap other v
  | handleFailure =>
      simp only [Reconciles, step, OverwritesStatus, not_false_eq_true, forall_const]
      cases handling : s.raised with
      | none => simpa using parked
      | some failure =>
          obtain ⟨other, message⟩ := failure
          refine (handleFailure_unknown_iff parked other message).trans ?_
          simp only [Option.some.injEq, Prod.mk.injEq]
          constructor
          · rintro kept ⟨_, ⟨rfl, rfl⟩, unexpected, last⟩
            exact kept ⟨rfl, unexpected, last⟩
          · rintro kept ⟨rfl, unexpected, last⟩
            exact kept ⟨message, ⟨rfl, rfl⟩, unexpected, last⟩
  | reconcile other status =>
      refine ⟨fun _ => id, fun _ distinct => ?_⟩
      exact (Db.statusOf_set other status parked).mpr fun same => absurd same distinct

/-- In every run, parked signals stay unknown until they are reconciled exactly
when no step writes the status of a parked signal by its id alone. -/
theorem kept_until_reconciled_iff (cap : ℕ) (s : Lifecycle) (run : List LifecycleStep) :
    (∀ signalId, Meets (step cap) (Keeps cap signalId) s run) ↔
      ∀ signalId, Meets (step cap)
        (fun s l => s.IsUnknown signalId → ¬ OverwritesStatus signalId s l) s run :=
  forall_congr' fun _ => meets_congr (fun _ l => keeps_iff l) s run

/-- One queued signal, with room for it. -/
def oneQueued : Lifecycle where
  db := { oneLotBook with
    trades := Table.empty, signals := Table.single ⟨"s1", .pending, 0, none⟩ }
  queue := []
  failures _ := 0
  raised := none

/-- Two rejections, then a send that gets no answer. -/
def thirdSendUnanswered : List LifecycleStep :=
  [.readQueue, .visit (.attempt 1 (.rejected "MT5 order rejected: no money")), .handleFailure,
   .readQueue, .visit (.attempt 2 (.rejected "MT5 order rejected: no money")), .handleFailure,
   .readQueue, .visit (.attempt 3 (.unanswered "broker gave no usable answer: timeout")),
   .handleFailure]

/-- The watcher gives up on the very failure that parked the signal. -/
theorem give_up_expires_parked_signal :
    ¬ ∀ (cap : ℕ) (s : Lifecycle) (run : List LifecycleStep) (signalId : String),
      Meets (step cap) (Keeps cap signalId) s run := by
  intro kept
  have bad := kept 1 oneQueued thirdSendUnanswered "s1"
  have parked : ((thirdSendUnanswered.take 8).foldl (step 1) oneQueued).db.statusOf "s1" =
      some .unknown := by decide +kernel
  have expired : (thirdSendUnanswered.foldl (step 1) oneQueued).db.statusOf "s1" =
      some .expired := by decide +kernel
  have last : ((thirdSendUnanswered.take 8).foldl (step 1) oneQueued).IsUnknown "s1" →
      ¬ Reconciles "s1" .handleFailure →
      (thirdSendUnanswered.foldl (step 1) oneQueued).IsUnknown "s1" :=
    bad.2.2.2.2.2.2.2.2.1
  rw [IsUnknown, IsUnknown, parked, expired] at last
  exact absurd (last rfl id) (by simp)

end Lifecycle

end Forex
