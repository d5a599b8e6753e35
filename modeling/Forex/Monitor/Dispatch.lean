import Forex.Monitor.OutOfHours

/-!
The two loops that close trades at their take-profits. `run_monitor_cycle`
dispatches by the effective strategy, `tp_ladder_fast_loop` by the stored one;
each decides for itself whether the trade is its own.
-/

namespace Forex

inductive Handler where
  | orbFixed
  | dynamicPositionManagement
  | beRunner
  | trailStop
  | protectedScale
  | conservative
  | scalpRunner
  | noSlScale
  | conservativeTrial
  | scaleOut
  | signalClimber
  | reversalRunner
  | adaptiveRunner
  | adaptiveRunner2
  | limitRunner
deriving DecidableEq, Repr

/-- The handler closes lots at a take-profit. Trail Stop only moves the stop;
BE Runner does so too unless it falls back to Scale Out in a ranging market. -/
def Handler.closesAtTp (ranging : Bool) : Handler → Bool
  | .trailStop => false
  | .beRunner => ranging
  | _ => true

def tpLadderStrategies : List Strategy :=
  [.signalClimber, .reversalRunner, .adaptiveRunner, .adaptiveRunner2, .limitRunner]

/-- The chain of branches at the end of `run_monitor_cycle`. -/
def dispatch (strategy : Strategy) (dpmEnabled oohActive : Bool) : Option Handler :=
  if strategy = .orbFixed then some .orbFixed
  else if dpmEnabled && !oohActive then some .dynamicPositionManagement
  else if strategy = .beRunner then some .beRunner
  else if strategy = .trailStop then some .trailStop
  else if strategy = .protectedScale then some .protectedScale
  else if strategy = .conservative then some .conservative
  else if strategy = .scalpRunner then some .scalpRunner
  else if strategy ∈ tpLadderStrategies then none
  else if strategy = .noSlScale then some .noSlScale
  else if strategy = .conservativeTrial then some .conservativeTrial
  else if strategy = .fixedRr then none
  else some .scaleOut

/-- `reclaim_ea_managed_trade` returns true: management stays with the EA. -/
def staysWithEa (strategy : Strategy) (eaHealthy : Bool) : Bool :=
  eaHealthy || strategy.isTemplate

structure LoopView where
  rs : RiskSettings
  now : WallClock
  eaHealthy : Bool
  /-- The ADX of the cached candles is below the ranging threshold. -/
  ranging : Bool
deriving DecidableEq, Repr

namespace LoopView
variable (v : LoopView) (t : Trade)

def monitorHandler : Option Handler :=
  let strategy := v.rs.dispatchStrategy v.now t.strategy
  if t.managedBy = .ea && staysWithEa strategy v.eaHealthy then none
  else dispatch strategy v.rs.dpmEnabled (v.rs.oohActive v.now)

def ladderHandler (strategy : Strategy) : Handler :=
  if strategy = .signalClimber then .signalClimber
  else if strategy = .reversalRunner then .reversalRunner
  else if strategy = .adaptiveRunner2 then .adaptiveRunner2
  else if strategy = .limitRunner then .limitRunner
  else .adaptiveRunner

def fastHandler : Option Handler :=
  if v.rs.dpmEnabled then none
  else if t.strategy ∈ tpLadderStrategies then
    if v.eaHealthy && decide (t.managedBy = .ea) then none
    else some (ladderHandler t.strategy)
  else none

end LoopView

/-- Strategies that Python manages. Fixed RR leaves its two orders to the
broker, and a template is managed by the EA only. -/
def Strategy.hasHandler (s : Strategy) : Bool :=
  decide (s ≠ .fixedRr) && !s.isTemplate

/-- One loop at most closes the trade at its take-profits, and a loop looks
after it when Python is to manage it. -/
def OneOwner (v : LoopView) (t : Trade) : Prop :=
  ¬ ((v.monitorHandler t).any (Handler.closesAtTp v.ranging) = true ∧
      (v.fastHandler t).any (Handler.closesAtTp v.ranging) = true) ∧
    (t.managedBy = .python → t.strategy.hasHandler = true →
      (v.monitorHandler t).isSome = true ∨ (v.fastHandler t).isSome = true)

instance (v : LoopView) (t : Trade) : Decidable (OneOwner v t) :=
  inferInstanceAs (Decidable (_ ∧ _))

/-- The monitor cycle has a branch for the strategy that does nothing. -/
def Strategy.idle (s : Strategy) : Bool :=
  decide (s ∈ tpLadderStrategies) || decide (s = .fixedRr)

def Strategy.closesInMonitor (s : Strategy) (ranging : Bool) : Bool :=
  !s.idle && decide (s ≠ .trailStop) && (decide (s ≠ .beRunner) || ranging)

/-- Out of hours the fast loop keeps a ladder trade while the override has the
monitor cycle close it too. -/
def closedTwice (v : LoopView) (t : Trade) : Bool :=
  v.rs.oohActive v.now && !v.rs.dpmEnabled && decide (t.strategy ∈ tpLadderStrategies) &&
    v.rs.override.closesInMonitor v.ranging &&
    (decide (t.managedBy = .python) || !staysWithEa v.rs.override v.eaHealthy)

/-- Out of hours the override sends the trade to an idle branch while the fast
loop does not look at it. -/
def abandoned (v : LoopView) (t : Trade) : Bool :=
  v.rs.oohActive v.now && v.rs.override.idle && decide (t.managedBy = .python) &&
    t.strategy.hasHandler && (v.rs.dpmEnabled || decide (t.strategy ∉ tpLadderStrategies))

theorem dispatch_isSome (s : Strategy) (dpm ooh : Bool) :
    (dispatch s dpm ooh).isSome = ((dpm && !ooh) || decide (s = .orbFixed) || !s.idle) := by
  cases s <;> cases dpm <;> cases ooh <;> rfl

theorem idle_not_orbFixed {s : Strategy} (h : s.idle = true) : s ≠ .orbFixed := by
  intro same
  subst same
  exact absurd h (by decide)

theorem dispatch_closesAtTp (s : Strategy) (ranging ooh : Bool) :
    (dispatch s false ooh).any (Handler.closesAtTp ranging) = s.closesInMonitor ranging := by
  cases s <;> cases ranging <;> cases ooh <;> rfl

theorem idle_of_mem {s : Strategy} (h : s ∈ tpLadderStrategies) : s.idle = true := by
  simp [Strategy.idle, h]

theorem mem_of_idle {s : Strategy} (h : s.idle = true) (managed : s.hasHandler = true) :
    s ∈ tpLadderStrategies := by
  simp only [Strategy.idle, Strategy.hasHandler, Bool.or_eq_true, Bool.and_eq_true,
    decide_eq_true_eq] at h managed
  cases h with
  | inl ladder => exact ladder
  | inr fixed => exact absurd fixed managed.1

theorem closesInMonitor_of_idle {s : Strategy} (h : s.idle = true) (ranging : Bool) :
    s.closesInMonitor ranging = false := by
  simp [Strategy.closesInMonitor, h]

theorem ladderHandler_closesAtTp (s : Strategy) (ranging : Bool) :
    (LoopView.ladderHandler s).closesAtTp ranging = true := by
  rw [LoopView.ladderHandler]
  split_ifs <;> rfl

theorem fastHandler_isSome (v : LoopView) (t : Trade) :
    (v.fastHandler t).isSome = true ↔
      v.rs.dpmEnabled = false ∧ t.strategy ∈ tpLadderStrategies ∧
        ¬ (v.eaHealthy = true ∧ t.managedBy = .ea) := by
  rw [LoopView.fastHandler]
  cases v.rs.dpmEnabled with
  | true => simp
  | false =>
      by_cases ladder : t.strategy ∈ tpLadderStrategies
      · by_cases kept : v.eaHealthy = true ∧ t.managedBy = .ea
        · simp [ladder, kept]
        · simp [ladder, kept]
      · simp [ladder]

theorem fastHandler_closesAtTp (v : LoopView) (t : Trade) :
    (v.fastHandler t).any (Handler.closesAtTp v.ranging) = (v.fastHandler t).isSome := by
  rw [LoopView.fastHandler]
  split_ifs <;> simp [ladderHandler_closesAtTp]

theorem monitorHandler_closesAtTp (v : LoopView) (t : Trade) (dpm : v.rs.dpmEnabled = false) :
    (v.monitorHandler t).any (Handler.closesAtTp v.ranging) = true ↔
      ¬ (t.managedBy = .ea ∧ staysWithEa (v.rs.dispatchStrategy v.now t.strategy) v.eaHealthy) ∧
        (v.rs.dispatchStrategy v.now t.strategy).closesInMonitor v.ranging = true := by
  rw [LoopView.monitorHandler]
  by_cases kept : t.managedBy = .ea ∧
      staysWithEa (v.rs.dispatchStrategy v.now t.strategy) v.eaHealthy = true
  · simp [kept]
  · simp [kept, dpm, dispatch_closesAtTp]

theorem monitorHandler_python (v : LoopView) (t : Trade) (mine : t.managedBy = .python) :
    v.monitorHandler t =
      dispatch (v.rs.dispatchStrategy v.now t.strategy) v.rs.dpmEnabled (v.rs.oohActive v.now) := by
  simp [LoopView.monitorHandler, mine]

theorem closedTwice_iff (v : LoopView) (t : Trade) :
    ((v.monitorHandler t).any (Handler.closesAtTp v.ranging) = true ∧
      (v.fastHandler t).any (Handler.closesAtTp v.ranging) = true) ↔ closedTwice v t = true := by
  rw [fastHandler_closesAtTp, fastHandler_isSome]
  rw [closedTwice]
  by_cases dpm : v.rs.dpmEnabled = false
  · rw [monitorHandler_closesAtTp v t dpm]
    by_cases ladder : t.strategy ∈ tpLadderStrategies
    · cases active : v.rs.oohActive v.now with
      | false =>
          rw [v.rs.dispatchStrategy_inactive v.now t.strategy active,
            closesInMonitor_of_idle (idle_of_mem ladder)]
          simp
      | true =>
          rw [v.rs.dispatchStrategy_active v.now t.strategy active]
          cases owner : t.managedBy with
          | python => simp [dpm, ladder]
          | ea =>
              cases healthy : v.eaHealthy <;> simp [dpm, ladder, staysWithEa, and_comm]
    · simp [ladder]
  · simp [dpm]

theorem abandoned_iff (v : LoopView) (t : Trade) :
    (t.managedBy = .python ∧ t.strategy.hasHandler = true ∧
      ¬ ((v.monitorHandler t).isSome = true ∨ (v.fastHandler t).isSome = true)) ↔
    abandoned v t = true := by
  rw [abandoned]
  by_cases mine : t.managedBy = .python
  · by_cases managed : t.strategy.hasHandler = true
    · rw [monitorHandler_python v t mine, dispatch_isSome, fastHandler_isSome]
      cases active : v.rs.oohActive v.now with
      | false =>
          rw [v.rs.dispatchStrategy_inactive v.now t.strategy active]
          by_cases quiet : t.strategy.idle = true
          · -- in hours an idle strategy is a ladder one, and the fast loop has it
            have ladder := mem_of_idle quiet managed
            cases v.rs.dpmEnabled <;> simp [mine, ladder]
          · simp [quiet]
      | true =>
          rw [v.rs.dispatchStrategy_active v.now t.strategy active]
          by_cases quiet : v.rs.override.idle = true
          · by_cases ladder : t.strategy ∈ tpLadderStrategies
            · simp [mine, managed, quiet, ladder, idle_not_orbFixed quiet]
            · simp [mine, managed, quiet, ladder, idle_not_orbFixed quiet]
          · simp [quiet]
    · simp [managed]
  · simp [mine]

theorem one_owner_iff (v : LoopView) (t : Trade) :
    OneOwner v t ↔ closedTwice v t = false ∧ abandoned v t = false := by
  rw [OneOwner]
  rw [closedTwice_iff, ← Bool.not_eq_true (abandoned v t), ← abandoned_iff, Bool.not_eq_true]
  tauto

theorem out_of_hours_two_owners_or_none :
    ¬ OneOwner ⟨.overnight .scaleOut false, .lateEvening, false, false⟩
        { Trade.oneLot with strategy := .adaptiveRunner } ∧
      ¬ OneOwner ⟨.overnight .adaptiveRunner false, .lateEvening, false, false⟩ Trade.oneLot := by
  decide

end Forex
