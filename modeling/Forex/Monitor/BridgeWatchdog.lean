import Forex.Support.Run
import Forex.Support.Throttle
import Mathlib.Algebra.Order.Field.Rat
import Mathlib.Tactic.Linarith

/-!
The watchdog of the MT5 bridge over any run of its checks. A single failed check
is not an outage: the state counts the failed checks in a row, and the history
beside it, newest first, says what the counts stand for.
-/

namespace Forex.BridgeWatchdog
open Support

def checkInterval : ℕ := 60
def restartCooldown : ℚ := 180
def startupWait : ℕ := 20
def consecutiveFailThreshold : ℕ := 2

structure BridgeState where
  lastRestartAt : ℚ
  wasConnected : Bool
  consecutiveFails : ℕ
deriving DecidableEq, Repr

def initialState : BridgeState := ⟨0, true, 0⟩

/-- What `enable_autotrading()` answers; absent where it raises. -/
structure Autotrading where
  enabled : Bool
  alreadyEnabled : Bool
deriving DecidableEq, Repr

inductive AutotradingNote where
  | reEnabled
  | alreadyActive
  | disabled
  | checkFailed
deriving DecidableEq, Repr

inductive BridgeAct where
  | sayOnline (note : AutotradingNote)
  | sayOffline
  | startBridge
deriving DecidableEq, Repr

structure BridgeView where
  /-- The monotonic clock. -/
  now : ℚ
  /-- What the health read says; absent if it raises. -/
  health : Option Bool
  inhibitReconnect : Bool
  autotrading : Option Autotrading
  /-- What `start_bridge_process()` returns; absent if it raises. -/
  launched : Option Bool
deriving DecidableEq, Repr

variable (s : BridgeState) (v : BridgeView)

def BridgeView.connected : Bool := v.health.getD false

def BridgeView.note : AutotradingNote :=
  match v.autotrading with
  | some ⟨true, false⟩ => .reEnabled
  | some ⟨true, true⟩ => .alreadyActive
  | some ⟨false, _⟩ => .disabled
  | none => .checkFailed

/-- The state, what the check did, and the seconds to sleep: absent where the
check raises, which ends the loop. -/
def bridgeWatchdogCheck : BridgeState × List BridgeAct × Option ℕ :=
  if v.connected then
    ({ s with consecutiveFails := 0, wasConnected := true },
      if s.wasConnected then [] else [.sayOnline v.note], some checkInterval)
  else
    let s := { s with consecutiveFails := s.consecutiveFails + 1 }
    if s.consecutiveFails < consecutiveFailThreshold then (s, [], some checkInterval)
    else
      let said : List BridgeAct :=
        if s.wasConnected && !v.inhibitReconnect then [.sayOffline] else []
      let s := { s with wasConnected := false }
      if !v.inhibitReconnect && decide (restartCooldown ≤ v.now - s.lastRestartAt) then
        ({ s with lastRestartAt := v.now }, said ++ [.startBridge],
          v.launched.map fun launched => if launched then startupWait else checkInterval)
      else (s, said, some checkInterval)

structure Entry where
  now : ℚ
  failed : Bool
  acts : List BridgeAct

def Entry.restarted (e : Entry) : Bool := decide (.startBridge ∈ e.acts)

structure Watch where
  state : BridgeState
  /-- Newest first. -/
  past : List Entry

namespace Watch

def start : Watch := ⟨initialState, []⟩

def entry (w : Watch) (v : BridgeView) : Entry :=
  ⟨v.now, !v.connected, (bridgeWatchdogCheck w.state v).2.1⟩

def step (w : Watch) (v : BridgeView) : Watch :=
  ⟨(bridgeWatchdogCheck w.state v).1, w.entry v :: w.past⟩

end Watch

/-- The failed checks in a row up to now. -/
def failsInARow (past : List Entry) : ℕ := (past.takeWhile Entry.failed).length

/-- What a check does, read off the history. -/
structure Decides (w : Watch) (v : BridgeView) : Prop where
  restarts : BridgeAct.startBridge ∈ (w.entry v).acts ↔
    v.connected = false ∧ 1 ≤ failsInARow w.past ∧ v.inhibitReconnect = false ∧
      restartCooldown ≤ v.now ∧
      ∀ e ∈ w.past, e.restarted = true → e.now + restartCooldown ≤ v.now
  offline : BridgeAct.sayOffline ∈ (w.entry v).acts ↔
    v.connected = false ∧ failsInARow w.past = 1 ∧ v.inhibitReconnect = false
  online : (∃ note, BridgeAct.sayOnline note ∈ (w.entry v).acts) ↔
    v.connected = true ∧ 2 ≤ failsInARow w.past

structure Follows (w : Watch) : Prop where
  fails : w.state.consecutiveFails = failsInARow w.past
  connected : w.state.wasConnected = decide (failsInARow w.past < 2)
  restartedAt : w.state.lastRestartAt = (lastTime Entry.now Entry.restarted w.past).getD 0
  spaced : Spaced Entry.now Entry.restarted restartCooldown w.past
  late : ∀ e ∈ w.past, e.restarted = true → restartCooldown ≤ e.now

variable {w : Watch} {v : BridgeView}

theorem Follows.start : Follows Watch.start := ⟨rfl, rfl, rfl, Spaced.nil, nofun⟩

/-- The stamp is the newest restart's, or the clock's zero. -/
theorem Follows.rested_iff (follows : Follows w) :
    restartCooldown ≤ v.now - w.state.lastRestartAt ↔
      restartCooldown ≤ v.now ∧
        ∀ e ∈ w.past, e.restarted = true → e.now + restartCooldown ≤ v.now := by
  rw [← follows.spaced.rested_iff (by norm_num [restartCooldown]), follows.restartedAt]
  cases last : lastTime Entry.now Entry.restarted w.past with
  | none => simp
  | some t =>
      obtain ⟨e, found, rfl⟩ := Option.map_eq_some_iff.mp last
      have late := follows.late e (List.mem_of_find?_eq_some found)
        (List.find?_eq_some_iff_append.mp found).1
      have positive : (0 : ℚ) ≤ restartCooldown := by norm_num [restartCooldown]
      simp only [Option.getD_some, Option.mem_some_iff, forall_eq']
      constructor
      · intro rested
        exact ⟨by linarith, by linarith⟩
      · rintro ⟨-, rested⟩
        linarith

theorem failsInARow_cons (e : Entry) (past : List Entry) :
    failsInARow (e :: past) = if e.failed then failsInARow past + 1 else 0 := by
  cases h : e.failed with
  | false => simp [failsInARow, h]
  | true => simp [failsInARow, h]

/-- What a check leaves and does, by the failed checks before it. -/
theorem Follows.check (follows : Follows w) (v : BridgeView) :
    let k := failsInARow w.past
    let restarts := 1 ≤ k ∧ v.inhibitReconnect = false ∧
      restartCooldown ≤ v.now - w.state.lastRestartAt
    let r := bridgeWatchdogCheck w.state v
    if v.connected = true then
      r.1 = ⟨w.state.lastRestartAt, true, 0⟩ ∧
        r.2.1 = if k < 2 then [] else [.sayOnline v.note]
    else
      r.1 = ⟨if restarts then v.now else w.state.lastRestartAt, decide (k + 1 < 2), k + 1⟩ ∧
        r.2.1 = (if k = 1 ∧ v.inhibitReconnect = false then [.sayOffline] else []) ++
          if restarts then [.startBridge] else [] := by
  have fails := follows.fails
  have connected := follows.connected
  generalize failsInARow w.past = k at fails connected ⊢
  generalize w.state = s at fails connected ⊢
  obtain ⟨stamp, was, count⟩ := s
  simp only at fails connected
  subst fails connected
  simp only [bridgeWatchdogCheck, consecutiveFailThreshold, decide_eq_true_eq]
  cases up : v.connected with
  | true => simp
  | false =>
      match count with
      | 0 => simp
      | 1 =>
          cases v.inhibitReconnect
          · by_cases cool : restartCooldown ≤ v.now - stamp <;> simp [cool]
          · simp
      | k + 2 =>
          have many : ¬k + 2 + 1 < 2 := by omega
          cases v.inhibitReconnect
          · by_cases cool : restartCooldown ≤ v.now - stamp <;> simp [cool, many]
          · simp [many]

theorem Follows.decides (follows : Follows w) (v : BridgeView) : Decides w v := by
  have rested := follows.rested_iff (v := v)
  have check := follows.check v
  cases up : v.connected with
  | true =>
      simp only [up, if_true] at check
      refine ⟨?_, ?_, ?_⟩ <;> rw [Watch.entry, check.2]
      · split_ifs <;> simp [up]
      · split_ifs <;> simp [up]
      · split_ifs with few
        · simp [up, not_le.mpr few]
        · simp [up, not_lt.mp few]
  | false =>
      simp only [up, Bool.false_eq_true, if_false] at check
      refine ⟨?_, ?_, ?_⟩ <;> rw [Watch.entry, check.2]
      · rw [← rested]
        split_ifs <;> simp_all
      · split_ifs <;> simp_all
      · split_ifs <;> simp [up]

theorem Follows.step (follows : Follows w) (v : BridgeView) : Follows (w.step v) := by
  have decides := follows.decides v
  have check := follows.check v
  have failed : (w.entry v).failed = !v.connected := rfl
  have restarted : (w.entry v).restarted =
      decide (.startBridge ∈ (bridgeWatchdogCheck w.state v).2.1) := rfl
  have due : (w.entry v).restarted = true → restartCooldown ≤ v.now ∧
      ∀ e ∈ w.past, e.restarted = true → e.now + restartCooldown ≤ v.now :=
    fun restarted => (decides.restarts.mp (of_decide_eq_true restarted)).2.2.2
  have spaced := follows.spaced.cons fun restarted => (due restarted).2
  have late := List.forall_mem_cons.mpr ⟨fun restarted => (due restarted).1, follows.late⟩
  cases up : v.connected with
  | true =>
      simp only [up, if_true] at check
      refine ⟨?_, ?_, ?_, spaced, late⟩
      · simp [Watch.step, check.1, failsInARow_cons, failed, up]
      · simp [Watch.step, check.1, failsInARow_cons, failed, up]
      · have none : (w.entry v).restarted = false := by
          rw [restarted, check.2]
          split_ifs <;> simp
        simp [Watch.step, check.1, lastTime_cons, none, follows.restartedAt]
  | false =>
      simp only [up, Bool.false_eq_true, if_false] at check
      refine ⟨?_, ?_, ?_, spaced, late⟩
      · simp [Watch.step, check.1, failsInARow_cons, failed, up]
      · simp [Watch.step, check.1, failsInARow_cons, failed, up]
      · simp only [Watch.step, check.1, lastTime_cons, restarted, check.2, follows.restartedAt]
        split_ifs <;> simp_all [Watch.entry]

/-- In any run of checks, the bridge is restarted exactly by a failed check whose
predecessor failed too, unless the user stopped it or a restart is not long past;
the outage is announced at its second failed check and its end at the first good
one. No two restarts come within three minutes. -/
theorem watchdog_decides_by_history (vs : List BridgeView) :
    ∀ w ∈ states Watch.step Watch.start vs,
      (∀ v, Decides w v) ∧ Spaced Entry.now Entry.restarted restartCooldown w.past := by
  have run : Meets Watch.step (fun _ _ => True) Watch.start vs :=
    meets_of_forall (fun _ _ => True.intro) _ _
  have all := states_invariant (I := Follows) (fun w v follows _ => follows.step v)
    Follows.start run
  exact fun w mem => ⟨(all w mem).decides, (all w mem).spaced⟩

end Forex.BridgeWatchdog
