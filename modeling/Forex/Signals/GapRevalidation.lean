import Forex.Support.Run
import Mathlib.Data.Finset.Basic
import Mathlib.Data.Finset.Lattice.Lemmas
import Mathlib.Data.Finset.Dedup
import Mathlib.Data.Rat.Defs
import Mathlib.Tactic.Linarith

/-!
The watcher's absence: the stored time of its last run, the signals it marks when
it comes back from a gap, and the R:R filter whose exemptions a mark suspends.
The time is in the database; the marks are lost when the process restarts.
-/

namespace Forex
open Support

/-- What the filters and their exemptions read of a queued signal. -/
structure QueuedSetup where
  grid : Bool
  /-- `_pw_strategy in _PRE_TRADE_FILTER_BYPASS_STRATEGIES`. -/
  runner : Bool
  template : Bool
  /-- `_ime_enabled_for_source`. -/
  ime : Bool
  /-- Immediate Market Entry as the filter looks it up, by the name as it stands. -/
  imeByName : Bool
  /-- One of `RR_BYPASS_SOURCES`. -/
  listed : Bool
  price : ℚ
  stopLoss : ℚ
  tp1 : Option ℚ
  /-- `count_unprotected_same_direction`. -/
  unprotected : ℕ
deriving DecidableEq

structure FilterLimits where
  minTp1Rr : ℚ
  maxUnprotected : ℕ

inductive FilterBlock where
  | rewardRisk
  | directionalCap
deriving DecidableEq, Repr

def rrFilterBypassed (q : QueuedSetup) (ignoreIme : Bool) : Bool :=
  q.listed || (!ignoreIme && q.imeByName)

def checkPreTradeFilters (limits : FilterLimits) (q : QueuedSetup) (ignoreImeBypass : Bool) :
    Option FilterBlock :=
  let slDist := |q.price - q.stopLoss|
  let short := match q.tp1 with
    | none => false
    | some tp1 => !rrFilterBypassed q ignoreImeBypass &&
        decide (0 < slDist ∧ |tp1 - q.price| / slDist < limits.minTp1Rr)
  if short then some .rewardRisk
  else if limits.maxUnprotected ≤ q.unprotected then some .directionalCap
  else none

inductive QueueGate where
  /-- Past its expiry. -/
  | aged
  /-- Backing off, out of its zone, or held by a gate before the filters. -/
  | waits
  | atCap
  | reaches
deriving DecidableEq, Repr

inductive QueueOpen where
  | opened
  /-- Refused, failed or unanswered; the last such failure abandons the signal. -/
  | failed (abandoned : Bool)
deriving DecidableEq, Repr

/-- One signal of the queue in one run of the watcher. -/
structure QueueVisit where
  signalId : String
  gate : QueueGate
  setup : QueuedSetup
  hasTrade : Bool
  /-- The last candle is against the direction. -/
  contrary : Bool
  ends : QueueOpen

/-- A run of the watcher over the rows that it reads; the times are epoch seconds. -/
structure WatcherRun where
  now : ℚ
  queue : List QueueVisit
  /-- The stored time can be read, and written. -/
  reads : Bool
  writes : Bool
  positive : 0 < now
  named : ∀ v ∈ queue, v.signalId ≠ ""
  once : (queue.map QueueVisit.signalId).Nodup

def gapThreshold : ℚ := 60
def stampEvery : ℚ := 15

/-- An activation, by whether the filter was passed by and whether the signal had
been marked. -/
structure Activation where
  signalId : String
  bypassed : Bool
  marked : Bool
deriving DecidableEq, Repr

/-- The watcher with its history: the time of its last run, the queue it read
then, and the signals marked and neither activated nor expired since. -/
structure GapWatch where
  /-- `pending_watcher_last_run`, 0 where there is none. -/
  stamp : ℚ
  stale : Finset String
  lastRun : Option ℚ
  queued : List String
  marked : Finset String

inductive GapEvent where
  | run (r : WatcherRun)
  | restart
  /-- Activated or expired by someone else. -/
  | ended (signalId : String)

def GapEvent.time : GapEvent → Option ℚ
  | .run r => some r.now
  | .restart | .ended _ => none

/-- The runs come in the order of their times. -/
def Ascending (es : List GapEvent) : Prop := (es.filterMap GapEvent.time).Pairwise (· ≤ ·)

instance (es : List GapEvent) : Decidable (Ascending es) :=
  inferInstanceAs (Decidable (List.Pairwise _ _))

namespace WatcherRun

def ids (r : WatcherRun) : List String := r.queue.map QueueVisit.signalId

end WatcherRun

namespace QueuedSetup
variable (q : QueuedSetup)

/-- The four reasons of the watcher. -/
def exempt : Bool := q.grid || q.runner || q.template || q.ime

/-- The R:R test is not made: the watcher's reasons, or the filter's own. -/
def bypassed (stale : Bool) : Bool := !stale && (q.exempt || q.imeByName)

def filterErr (limits : FilterLimits) (stale : Bool) : Option FilterBlock :=
  if !stale && q.exempt then none else checkPreTradeFilters limits q stale

end QueuedSetup

namespace GapWatch
variable (limits : FilterLimits) (s : GapWatch)

/-- A fresh install. -/
def fresh : GapWatch := ⟨0, ∅, none, [], ∅⟩

def readLastRun (r : WatcherRun) : ℚ := if r.reads then s.stamp else 0

/-- The run measures a gap. -/
def measures (r : WatcherRun) : Bool :=
  decide (0 < s.readLastRun r ∧ gapThreshold < r.now - s.readLastRun r)

def marks (r : WatcherRun) : Finset String :=
  if s.measures r then (r.ids.filter fun id => decide (id ≠ "")).toFinset else ∅

/-- `observe_watcher_run`. -/
def observe (r : WatcherRun) : GapWatch :=
  let last := s.readLastRun r
  { stamp := if (last ≤ 0 ∨ stampEvery ≤ r.now - last) ∧ r.writes then r.now else s.stamp
    stale := s.stale ∪ s.marks r
    lastRun := some r.now
    queued := r.ids
    marked := s.marked ∪ s.marks r }

/-- `clear`, of a signal that is activated, expired or abandoned. -/
def clear (signalId : String) : GapWatch :=
  { s with stale := s.stale.erase signalId, marked := s.marked.erase signalId }

def forgetMarked (signalId : String) : GapWatch :=
  { s with marked := s.marked.erase signalId }

/-- A signal that has come to the filters. -/
def attempt (v : QueueVisit) : GapWatch × List Activation :=
  let stale := decide (v.signalId ∈ s.stale)
  if (v.setup.filterErr limits stale).isSome then (s, [])
  else if v.hasTrade then (s.forgetMarked v.signalId, [])
  else if v.contrary then (s, [])
  else
    match v.ends with
    | .opened => (s.clear v.signalId,
        [⟨v.signalId, v.setup.bypassed stale, decide (v.signalId ∈ s.marked)⟩])
    | .failed true => (s.clear v.signalId, [])
    | .failed false => (s, [])

/-- The loop over the queue, up to the signal that meets the cap. -/
def visits (s : GapWatch) : List QueueVisit → GapWatch × List Activation
  | [] => (s, [])
  | v :: vs =>
      match v.gate with
      | .aged => (s.clear v.signalId).visits vs
      | .waits => s.visits vs
      | .atCap => (s, [])
      | .reaches =>
          let (s', opened) := s.attempt limits v
          let (s'', later) := s'.visits vs
          (s'', opened ++ later)

def run (r : WatcherRun) : GapWatch × List Activation := (s.observe r).visits limits r.queue

def step : GapEvent → GapWatch
  | .run r => (s.run limits r).1
  | .restart => { s with stale := ∅ }
  | .ended signalId => s.forgetMarked signalId

/-- After a gap what was queued before it and still is has the mark, at the
ordinary cadence nothing is marked, and no marked signal is activated with the
filter passed by. -/
structure Revalidates (r : WatcherRun) : Prop where
  gap : ∀ t ∈ s.lastRun, gapThreshold < r.now - t →
    ∀ id ∈ s.queued, id ∈ r.ids → id ∈ (s.observe r).stale
  ordinary : ∀ t ∈ s.lastRun, r.now - t ≤ gapThreshold - stampEvery →
    (s.observe r).stale = s.stale
  judged : ∀ a ∈ (s.run limits r).2, a.marked = true → a.bypassed = false

def Safe : GapEvent → Prop
  | .run r => s.Revalidates limits r
  | .restart | .ended _ => True

end GapWatch

namespace QueueVisit

/-- Opened without the filter, unless the signal is marked. -/
def opensExempt (limits : FilterLimits) (v : QueueVisit) : Bool :=
  decide (v.gate = .reaches ∧ v.ends = .opened) && !v.hasTrade && !v.contrary &&
    (v.setup.exempt || v.setup.imeByName) && (v.setup.filterErr limits false).isNone

end QueueVisit

namespace WatcherRun

/-- The part of the queue before the signal that meets the cap. -/
def reached (r : WatcherRun) : List QueueVisit :=
  r.queue.takeWhile fun v => decide (v.gate ≠ .atCap)

end WatcherRun

namespace GapWatch
variable (limits : FilterLimits) (s : GapWatch)

/-- After a gap the stored time is there to be read, if a signal is to be marked. -/
def StampRead (r : WatcherRun) : Prop :=
  ∀ t ∈ s.lastRun, gapThreshold < r.now - t →
    (∃ id ∈ s.queued, id ∈ r.ids ∧ id ∉ s.stale) → r.reads = true ∧ 0 < s.stamp

/-- At the ordinary cadence it is not so old as to mark one. -/
def StampRecent (r : WatcherRun) : Prop :=
  ∀ t ∈ s.lastRun, r.now - t ≤ gapThreshold - stampEvery → (∃ id ∈ r.ids, id ∉ s.stale) →
    r.reads = true → 0 < s.stamp → r.now - s.stamp ≤ gapThreshold

/-- A signal whose mark is lost is not opened under an exemption in a run that
measures no gap. -/
def LostAside (r : WatcherRun) : Prop :=
  s.measures r = false → ∀ v ∈ r.reached, v.signalId ∈ s.marked → v.signalId ∉ s.stale →
    v.opensExempt limits = false

instance (r : WatcherRun) : Decidable (s.StampRead r) :=
  inferInstanceAs (Decidable (∀ t ∈ s.lastRun, _))

instance (r : WatcherRun) : Decidable (s.StampRecent r) :=
  inferInstanceAs (Decidable (∀ t ∈ s.lastRun, _))

instance (r : WatcherRun) : Decidable (s.LostAside limits r) :=
  inferInstanceAs (Decidable (_ → _))

structure KeepsMarks (r : WatcherRun) : Prop where
  read : s.StampRead r
  recent : s.StampRecent r
  kept : s.LostAside limits r

instance (r : WatcherRun) : Decidable (s.KeepsMarks limits r) :=
  decidable_of_iff (s.StampRead r ∧ s.StampRecent r ∧ s.LostAside limits r)
    ⟨fun h => ⟨h.1, h.2.1, h.2.2⟩, fun h => ⟨h.read, h.recent, h.kept⟩⟩

def Keeps : GapEvent → Prop
  | .run r => s.KeepsMarks limits r
  | .restart | .ended _ => True

instance : ∀ e : GapEvent, Decidable (s.Keeps limits e)
  | .run r => inferInstanceAs (Decidable (s.KeepsMarks limits r))
  | .restart | .ended _ => inferInstanceAs (Decidable True)

/-- The clock does not run back. -/
def Onward : GapEvent → Prop
  | .run r => ∀ t ∈ s.lastRun, t ≤ r.now
  | .restart | .ended _ => True

/-- The stored time is that of a run. -/
structure Stamped : Prop where
  ran : ∀ t ∈ s.lastRun, s.stamp ≤ t
  never : s.lastRun = none → s.stamp ≤ 0

section Runs
variable {limits : FilterLimits} {s s' : GapWatch} {r : WatcherRun}

theorem measures_iff :
    s.measures r = true ↔ r.reads = true ∧ 0 < s.stamp ∧ gapThreshold < r.now - s.stamp := by
  rw [measures, decide_eq_true_iff, readLastRun]
  cases r.reads with
  | true => simp
  | false => simp

theorem marks_of_not_measures (none : s.measures r = false) : s.marks r = ∅ := by
  rw [marks, none, if_neg Bool.false_ne_true]

theorem mem_marks (gap : s.measures r = true) {id : String} (mem : id ∈ r.ids) :
    id ∈ s.marks r := by
  obtain ⟨v, here, rfl⟩ := List.mem_map.mp mem
  rw [marks, if_pos gap, List.mem_toFinset, List.mem_filter]
  exact ⟨mem, decide_eq_true (r.named v here)⟩

theorem marks_subset {id : String} (mem : id ∈ s.marks r) : id ∈ r.ids := by
  rw [marks] at mem
  split_ifs at mem with gap
  · exact (List.mem_filter.mp (List.mem_toFinset.mp mem)).1
  · exact absurd mem (Finset.notMem_empty id)

theorem observe_stale_of_measures (gap : s.measures r = true) {id : String} (mem : id ∈ r.ids) :
    id ∈ (s.observe r).stale :=
  Finset.mem_union_right _ (mem_marks gap mem)

theorem observe_stale (none : s.measures r = false) : (s.observe r).stale = s.stale := by
  rw [observe, marks_of_not_measures none, Finset.union_empty]

theorem observe_marked (none : s.measures r = false) : (s.observe r).marked = s.marked := by
  rw [observe, marks_of_not_measures none]
  exact Finset.union_empty s.marked

theorem observe_stale_of_known (known : ∀ id ∈ r.ids, id ∈ s.stale) :
    (s.observe r).stale = s.stale :=
  Finset.union_eq_left.mpr fun id mem => known id (marks_subset mem)

theorem visits_lastRun (s : GapWatch) (vs : List QueueVisit) :
    (s.visits limits vs).1.lastRun = s.lastRun ∧ (s.visits limits vs).1.stamp = s.stamp := by
  induction vs generalizing s with
  | nil => exact ⟨rfl, rfl⟩
  | cons v vs ih =>
      rw [visits]
      cases v.gate with
      | aged => exact ih (s.clear v.signalId)
      | waits => exact ih s
      | atCap => exact ⟨rfl, rfl⟩
      | reaches =>
          have kept : (s.attempt limits v).1.lastRun = s.lastRun ∧
              (s.attempt limits v).1.stamp = s.stamp := by
            rw [attempt]
            split_ifs
            · exact ⟨rfl, rfl⟩
            · exact ⟨rfl, rfl⟩
            · exact ⟨rfl, rfl⟩
            · split <;> exact ⟨rfl, rfl⟩
          have rest := ih (s.attempt limits v).1
          exact ⟨rest.1.trans kept.1, rest.2.trans kept.2⟩

theorem run_lastRun : (s.run limits r).1.lastRun = some r.now :=
  (visits_lastRun (s.observe r) r.queue).1

theorem run_stamp : (s.run limits r).1.stamp = (s.observe r).stamp :=
  (visits_lastRun (s.observe r) r.queue).2

theorem Stamped.stamp_le (stamped : s.Stamped) (onward : s.Onward (.run r)) : s.stamp ≤ r.now := by
  cases last : s.lastRun with
  | none => exact (stamped.never last).trans r.positive.le
  | some t => exact (stamped.ran t last).trans (onward t last)

theorem Stamped.step {e : GapEvent} (stamped : s.Stamped) (onward : s.Onward e) :
    (s.step limits e).Stamped := by
  cases e with
  | run r =>
      have le : (s.observe r).stamp ≤ r.now := by
        rw [observe]
        dsimp only
        split_ifs
        · exact le_rfl
        · exact stamped.stamp_le onward
      constructor
      · intro t last
        rw [GapWatch.step, run_lastRun] at last
        rw [GapWatch.step, run_stamp, ← Option.some.inj last]
        exact le
      · intro last
        rw [GapWatch.step, run_lastRun] at last
        exact nomatch last
  | restart | ended id => exact ⟨stamped.ran, stamped.never⟩

end Runs

section Visits
variable {limits : FilterLimits} {s s' : GapWatch}

/-- The marks of another signal are as they were. -/
def SameAt (s s' : GapWatch) (id : String) : Prop :=
  (id ∈ s'.stale ↔ id ∈ s.stale) ∧ (id ∈ s'.marked ↔ id ∈ s.marked)

theorem clear_sameAt {id other : String} (apart : other ≠ id) : SameAt s (s.clear id) other :=
  ⟨by simp [clear, apart], by simp [clear, apart]⟩

theorem forgetMarked_sameAt {id other : String} (apart : other ≠ id) :
    SameAt s (s.forgetMarked id) other :=
  ⟨Iff.rfl, by simp [forgetMarked, apart]⟩

theorem attempt_sameAt {v : QueueVisit} {other : String} (apart : other ≠ v.signalId) :
    SameAt s (s.attempt limits v).1 other := by
  rw [attempt]
  split_ifs
  · exact ⟨Iff.rfl, Iff.rfl⟩
  · exact forgetMarked_sameAt apart
  · exact ⟨Iff.rfl, Iff.rfl⟩
  · split
    · exact clear_sameAt apart
    · exact clear_sameAt apart
    · exact ⟨Iff.rfl, Iff.rfl⟩

/-- The signal is opened, with the filter asked as its mark says. -/
def opens (limits : FilterLimits) (s : GapWatch) (v : QueueVisit) : Prop :=
  v.gate = .reaches ∧ (v.setup.filterErr limits (decide (v.signalId ∈ s.stale))) = none ∧
    v.hasTrade = false ∧ v.contrary = false ∧ v.ends = .opened

def activation (s : GapWatch) (v : QueueVisit) : Activation :=
  ⟨v.signalId, v.setup.bypassed (decide (v.signalId ∈ s.stale)), decide (v.signalId ∈ s.marked)⟩

theorem SameAt.opens {v : QueueVisit} (same : SameAt s s' v.signalId) :
    s'.opens limits v ↔ s.opens limits v := by
  rw [GapWatch.opens, GapWatch.opens, decide_eq_decide.mpr same.1]

theorem SameAt.activation {v : QueueVisit} (same : SameAt s s' v.signalId) :
    s'.activation v = s.activation v := by
  rw [GapWatch.activation, GapWatch.activation, decide_eq_decide.mpr same.1,
    decide_eq_decide.mpr same.2]

theorem mem_attempt {v : QueueVisit} (reaches : v.gate = .reaches) {a : Activation} :
    a ∈ (s.attempt limits v).2 ↔ s.opens limits v ∧ a = s.activation v := by
  rw [attempt, opens]
  cases blocked : v.setup.filterErr limits (decide (v.signalId ∈ s.stale)) with
  | some b => simp
  | none =>
      cases trade : v.hasTrade with
      | true => simp
      | false =>
          cases contrary : v.contrary with
          | true => simp
          | false =>
              cases ends : v.ends with
              | opened => simp [reaches, activation]
              | failed abandoned =>
                  cases abandoned with
                  | true => simp
                  | false => simp

/-- What a run opens, told by the marks at its start: a signal is met once. -/
theorem mem_visits {vs : List QueueVisit} (once : (vs.map QueueVisit.signalId).Nodup)
    {a : Activation} :
    a ∈ (s.visits limits vs).2 ↔
      ∃ v ∈ vs.takeWhile fun v => decide (v.gate ≠ .atCap),
        s.opens limits v ∧ a = s.activation v := by
  induction vs generalizing s with
  | nil => simp [visits]
  | cons v vs ih =>
      rw [List.map_cons, List.nodup_cons] at once
      have later : ∀ s', (∀ other, other ≠ v.signalId → SameAt s s' other) →
          ((∃ w ∈ vs.takeWhile fun v => decide (v.gate ≠ .atCap),
              s'.opens limits w ∧ a = s'.activation w) ↔
            ∃ w ∈ vs.takeWhile fun v => decide (v.gate ≠ .atCap),
              s.opens limits w ∧ a = s.activation w) := by
        intro s' same
        refine exists_congr fun w => and_congr_right fun mem => ?_
        have apart : w.signalId ≠ v.signalId := fun eq =>
          once.1 (eq ▸ List.mem_map_of_mem ((List.takeWhile_sublist _).subset mem))
        rw [(same _ apart).opens, (same _ apart).activation]
      rw [visits]
      cases gate : v.gate with
      | aged =>
          have first : ¬ s.opens limits v := fun h => nomatch gate.symm.trans h.1
          simp only [ih once.2, later _ fun other apart => clear_sameAt apart]
          simp [gate, first]
      | waits =>
          have first : ¬ s.opens limits v := fun h => nomatch gate.symm.trans h.1
          simp only [ih once.2]
          simp [gate, first]
      | atCap => simp [gate]
      | reaches =>
          simp only [List.mem_append, mem_attempt gate, ih once.2,
            later _ fun other apart => attempt_sameAt apart]
          simp [gate]

end Visits

section Revalidation
variable {limits : FilterLimits} {s : GapWatch} {r : WatcherRun}

theorem gap_iff (stamped : s.Stamped) :
    (∀ t ∈ s.lastRun, gapThreshold < r.now - t →
        ∀ id ∈ s.queued, id ∈ r.ids → id ∈ (s.observe r).stale) ↔ s.StampRead r := by
  refine forall_congr' fun t => forall_congr' fun last => forall_congr' fun gap => ?_
  constructor
  · rintro all ⟨id, before, after, new⟩
    have marked := all id before after
    cases measured : s.measures r with
    | true =>
        have why := measures_iff.mp measured
        exact ⟨why.1, why.2.1⟩
    | false =>
        rw [observe_stale measured] at marked
        exact absurd marked new
  · intro read id before after
    by_cases known : id ∈ s.stale
    · exact Finset.mem_union_left _ known
    · obtain ⟨reads, pos⟩ := read ⟨id, before, after, known⟩
      have le := stamped.ran t last
      exact observe_stale_of_measures (measures_iff.mpr ⟨reads, pos, by linarith⟩) after

theorem ordinary_iff :
    (∀ t ∈ s.lastRun, r.now - t ≤ gapThreshold - stampEvery → (s.observe r).stale = s.stale) ↔
      s.StampRecent r := by
  refine forall_congr' fun t => forall_congr' fun last => forall_congr' fun soon => ?_
  constructor
  · rintro same ⟨id, mem, new⟩ reads pos
    by_contra old
    have measured := measures_iff.mpr ⟨reads, pos, not_le.mp old⟩
    exact new (same ▸ observe_stale_of_measures measured mem)
  · intro recent
    cases measured : s.measures r with
    | false => exact observe_stale measured
    | true =>
        obtain ⟨reads, pos, old⟩ := measures_iff.mp measured
        refine observe_stale_of_known fun id mem => ?_
        by_contra new
        exact absurd (recent ⟨id, mem, new⟩ reads pos) (not_le.mpr old)

theorem opensExempt_iff {v : QueueVisit} (fresh : v.signalId ∉ s.stale) :
    v.opensExempt limits = true ↔ s.opens limits v ∧ (s.activation v).bypassed = true := by
  rw [QueueVisit.opensExempt, opens, activation, decide_eq_false fresh]
  simp only [QueuedSetup.bypassed, Bool.not_false, Bool.true_and, Bool.and_eq_true,
    decide_eq_true_eq, Bool.not_eq_true', Option.isNone_iff_eq_none]
  tauto

theorem judged_iff :
    (∀ a ∈ (s.run limits r).2, a.marked = true → a.bypassed = false) ↔ s.LostAside limits r := by
  have opened : ∀ a, a ∈ (s.run limits r).2 ↔ ∃ v ∈ r.reached,
      (s.observe r).opens limits v ∧ a = (s.observe r).activation v := fun a =>
    mem_visits r.once
  constructor
  · intro judged measured v here marked fresh
    rw [Bool.eq_false_iff]
    intro exempt
    rw [← observe_stale measured] at fresh
    obtain ⟨opens, bypassed⟩ := (opensExempt_iff fresh).mp exempt
    have passed := judged _ ((opened _).mpr ⟨v, here, opens, rfl⟩) (by
      rw [activation, decide_eq_true_iff, observe_marked measured]
      exact marked)
    rw [bypassed] at passed
    exact nomatch passed
  · intro kept a mem marked
    obtain ⟨v, here, opens, rfl⟩ := (opened a).mp mem
    by_cases stale : v.signalId ∈ (s.observe r).stale
    · rw [activation, decide_eq_true stale]
      rfl
    · cases measured : s.measures r with
      | true =>
          have inQueue : v.signalId ∈ r.ids :=
            List.mem_map_of_mem ((List.takeWhile_sublist _).subset here)
          exact absurd (observe_stale_of_measures measured inQueue) stale
      | false =>
          rw [activation, decide_eq_true_iff, observe_marked measured] at marked
          have fresh := stale
          rw [observe_stale measured] at fresh
          have none := kept measured v here marked fresh
          rw [Bool.eq_false_iff, ne_eq, opensExempt_iff stale] at none
          exact Bool.eq_false_iff.mpr fun bypassed => none ⟨opens, bypassed⟩

theorem revalidates_iff (stamped : s.Stamped) :
    s.Revalidates limits r ↔ s.KeepsMarks limits r :=
  ⟨fun h => ⟨(gap_iff stamped).mp h.gap, ordinary_iff.mp h.ordinary, judged_iff.mp h.judged⟩,
    fun h => ⟨(gap_iff stamped).mpr h.read, ordinary_iff.mpr h.recent, judged_iff.mpr h.kept⟩⟩

end Revalidation

section Histories
variable {limits : FilterLimits}

theorem meets_onward {s : GapWatch} {es : List GapEvent} (ascending : Ascending es)
    (later : ∀ t ∈ s.lastRun, ∀ t' ∈ es.filterMap GapEvent.time, t ≤ t') :
    Meets (step limits) Onward s es := by
  induction es generalizing s with
  | nil => exact True.intro
  | cons e es ih =>
      cases e with
      | run r =>
          rw [Ascending, List.filterMap_cons, GapEvent.time, List.pairwise_cons] at ascending
          refine ⟨fun t last => later t last r.now ?_, ih ascending.2 fun t last t' mem => ?_⟩
          · rw [List.filterMap_cons, GapEvent.time]
            exact List.mem_cons_self
          · rw [step, run_lastRun] at last
            rw [← Option.some.inj last]
            exact ascending.1 t' mem
      | restart | ended id => exact ⟨True.intro, ih ascending later⟩

theorem safe_iff {s : GapWatch} {e : GapEvent} (stamped : s.Stamped) :
    s.Safe limits e ↔ s.Keeps limits e := by
  cases e with
  | run r => exact revalidates_iff stamped
  | restart | ended id => exact Iff.rfl

theorem fresh_stamped : fresh.Stamped := ⟨fun _ last => (nomatch last), fun _ => le_rfl⟩

theorem fresh_onward {es : List GapEvent} (ascending : Ascending es) :
    Meets (step limits) Onward fresh es :=
  meets_onward ascending fun _ last => nomatch last

theorem gap_revalidation_iff (limits : FilterLimits) (es : List GapEvent)
    (ascending : Ascending es) :
    Meets (step limits) (Safe limits) fresh es ↔ Meets (step limits) (Keeps limits) fresh es :=
  meets_iff_of_invariant (I := Stamped) (fun _ _ stamped onward => stamped.step onward)
    (fun _ _ stamped _ => safe_iff stamped) fresh_stamped (fresh_onward ascending)

/-- With a store that answers the stored time is there and lags by less than the
time between two writes. -/
structure Current (s : GapWatch) : Prop extends s.Stamped where
  stored : ∀ t ∈ s.lastRun, 0 < s.stamp ∧ t < s.stamp + stampEvery

def Stored : GapEvent → Prop
  | .run r => r.reads = true ∧ r.writes = true
  | .restart | .ended _ => True

/-- Only a lost mark can then go wrong. -/
def KeepsLost (limits : FilterLimits) (s : GapWatch) : GapEvent → Prop
  | .run r => s.LostAside limits r
  | .restart | .ended _ => True

theorem Current.step {s : GapWatch} {e : GapEvent} (current : s.Current) (onward : s.Onward e)
    (stored : Stored e) : (s.step limits e).Current := by
  refine ⟨current.toStamped.step onward, ?_⟩
  cases e with
  | restart | ended id => exact current.stored
  | run r =>
      intro t last
      rw [GapWatch.step, run_lastRun] at last
      rw [GapWatch.step, run_stamp, ← Option.some.inj last, observe, readLastRun, stored.1]
      simp only [if_true, stored.2, and_true]
      split_ifs with stamp
      · exact ⟨r.positive, by rw [stampEvery]; linarith⟩
      · rw [not_or, not_le, not_le] at stamp
        exact ⟨stamp.1, by linarith [stamp.2]⟩

theorem keeps_iff_of_current {s : GapWatch} {e : GapEvent} (current : s.Current)
    (stored : Stored e) : s.Keeps limits e ↔ s.KeepsLost limits e := by
  cases e with
  | restart | ended id => exact Iff.rfl
  | run r =>
      refine ⟨fun h => h.kept, fun kept => ?_⟩
      refine ⟨fun t last _ _ => ?_, fun t last soon _ _ _ => ?_, kept⟩
      · exact ⟨stored.1, (current.stored t last).1⟩
      · linarith [(current.stored t last).2]

/-- While the store answers, a gap is always noticed and an ordinary run never
marks: all that can go wrong is a lost mark. -/
theorem gap_revalidation_stored (es : List GapEvent) (ascending : Ascending es)
    (stored : ∀ e ∈ es, Stored e) :
    Meets (step limits) (Safe limits) fresh es ↔
      Meets (step limits) (KeepsLost limits) fresh es := by
  have current : fresh.Current := ⟨fresh_stamped, fun _ last => nomatch last⟩
  exact meets_iff_of_invariant (I := Current)
    (fun _ _ current on => Current.step current on.1 on.2)
    (fun _ _ current on => (safe_iff current.toStamped).trans (keeps_iff_of_current current on.2))
    current ((fresh_onward ascending).and_forall stored)

end Histories

/-- A buy under a template whose target is too near for the filter. -/
def tightTemplate : QueuedSetup :=
  ⟨false, false, true, false, false, false, 2400, 2390, some 2402, 0⟩

def visitOf (gate : QueueGate) : QueueVisit := ⟨"s1", gate, tightTemplate, false, false, .opened⟩

def runAt (now : ℚ) (gate : QueueGate) (positive : 0 < now) : WatcherRun :=
  ⟨now, [visitOf gate], true, true, positive,
    fun v mem => by
      rw [List.mem_singleton.mp mem]
      exact (by decide : "s1" ≠ ""), List.nodup_singleton _⟩

/-- A halt of ten minutes, then a restart within a minute of the first run. -/
def quickRestart : List GapEvent :=
  [.run (runAt 1000 .waits (by decide)), .run (runAt 1600 .waits (by decide)), .restart,
    .run (runAt 1605 .reaches (by decide))]

def usualLimits : FilterLimits := ⟨3 / 4, 2⟩

theorem restart_loses_mark :
    ¬ ∀ (limits : FilterLimits) (es : List GapEvent), Ascending es →
      Meets (step limits) (Safe limits) fresh es := by
  intro all
  have run := all usualLimits quickRestart (by decide +kernel)
  have last := run.2.2.2.1.judged ⟨"s1", true, true⟩ (by decide +kernel) rfl
  exact nomatch last

/-- The restart is itself a gap: the mark is made again. -/
theorem slow_restart_revalidates :
    Meets (step usualLimits) (Safe usualLimits) fresh
      [.run (runAt 1000 .waits (by decide)), .run (runAt 1600 .waits (by decide)), .restart,
        .run (runAt 1700 .reaches (by decide))] :=
  (gap_revalidation_iff usualLimits _ (by decide +kernel)).mpr (by decide +kernel)

end GapWatch
end Forex
