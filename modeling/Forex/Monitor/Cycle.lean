import Forex.Monitor.Dispatch
import Forex.Reconcile.Pollers

/-!
The trade loop of `run_monitor_cycle`: the stop, the profit target, the EA
handoff and the dispatch, over the open trades read at the start of the cycle.
What the closes and the handlers go on to write is reported as events; the one
column the loop writes itself is `managed_by`.
-/

namespace Forex
open Support

inductive CycleEvent where
  | slHit (tradeId : String) (verdict : SlVerdict) (actions : List PollAction)
  | profitClosed (tradeId : String) (price : ℚ)
  | closeRefused (tradeId : String)
  | ran (tradeId : String) (handler : Handler)
deriving DecidableEq, Repr

structure CycleView where
  tick : Read Tick
  rs : RiskSettings
  now : WallClock
  ranging : Bool
  eaHealthy : String → Bool
  poll : PollView
  closeReply : String → Reply

/-- `check_sl`: the price of a stop that the tick has crossed. A row without an
entry price has no fill behind it and no stop to hit. -/
def checkSl (t : Trade) (tick : Tick) : Option ℚ :=
  if t.entryPrice = 0 ∨ t.stopLoss = 0 then none
  else
    match t.direction with
    | .buy => if tick.bid ≤ t.stopLoss then some t.stopLoss else none
    | .sell => if t.stopLoss ≤ tick.ask then some t.stopLoss else none

inductive ProfitCheck where
  | below
  | refused
  | closed (price : ℚ)
deriving DecidableEq, Repr

/-- `check_profit_close_target`: only a confirmed close of the broker closes the
row, and a row without a ticket is closed at the quote. -/
def checkProfitCloseTarget (t : Trade) (tick : Tick) (target : ℚ) (reply : Reply) : ProfitCheck :=
  let cur := tick.closePrice t.direction
  if target ≤ 0 ∨ t.entryPrice = 0 then .below
  else if t.realisedPnl + pnl t.direction t.entryPrice cur t.remainingLots < target then .below
  else
    match linkedTicket t.mt5Ticket, reply with
    | none, _ => .closed cur
    | some _, .raised => .refused
    | some _, .answered r => if r.succeeded then .closed (r.closePrice.getD cur) else .refused

def Trade.reclaimManagement : Assign Trade.tradeId where
  apply t := { t with managedBy := .python }
  keeps _ := rfl

structure CycleRun where
  db : Db
  events : List CycleEvent

namespace CycleRun

def log (run : CycleRun) (e : CycleEvent) : CycleRun := { run with events := run.events ++ [e] }

def reclaim (run : CycleRun) (tradeId : String) : CycleRun :=
  { run with db := run.db.setTrade tradeId Trade.reclaimManagement }

end CycleRun

namespace CycleView
variable (v : CycleView) (tick : Tick)

def loop (t : Trade) : LoopView := ⟨v.rs, v.now, v.eaHealthy t.tradeId, v.ranging⟩

def reclaims (t : Trade) : Bool :=
  decide (t.managedBy = .ea) &&
    !staysWithEa (v.rs.dispatchStrategy v.now t.strategy) (v.eaHealthy t.tradeId)

def handOff (run : CycleRun) (t : Trade) : CycleRun :=
  let run := if v.reclaims t then run.reclaim t.tradeId else run
  match (v.loop t).monitorHandler t with
  | none => run
  | some handler => run.log (.ran t.tradeId handler)

def monitorTrade (run : CycleRun) (t : Trade) : CycleRun :=
  match checkSl t tick with
  | some price =>
      let (verdict, actions) := reconcileSlHit v.poll t price "SL"
      run.log (.slHit t.tradeId verdict actions)
  | none =>
      match checkProfitCloseTarget t tick v.rs.profitCloseUsd (v.closeReply t.tradeId) with
      | .closed price => run.log (.profitClosed t.tradeId price)
      | .refused => v.handOff (run.log (.closeRefused t.tradeId)) t
      | .below => v.handOff run t

end CycleView

/-- `get_open_trades`: the open rows, the latest first. -/
def getOpenTrades (db : Db) : List Trade :=
  (db.trades.rows.filter Trade.isOpen).insertionSort fun a b => b.openTime ≤ a.openTime

def runMonitorCycle (v : CycleView) (db : Db) : CycleRun :=
  match v.tick with
  | .value tick => (getOpenTrades db).foldl (v.monitorTrade tick) ⟨db, []⟩
  | _ => ⟨db, []⟩

/-- The cycle leaves a trade's management to the EA and runs no handler on it. -/
def LeftToEa (v : CycleView) (db : Db) (t : Trade) : Prop :=
  (t.managedBy = .ea →
      ((runMonitorCycle v db).db.getTrade t.tradeId).map Trade.managedBy = some .ea) ∧
    ∀ handler, .ran t.tradeId handler ∉ (runMonitorCycle v db).events

def takenByCheck (v : CycleView) (tick : Tick) (t : Trade) : Bool :=
  (checkSl t tick).isSome ||
    match checkProfitCloseTarget t tick v.rs.profitCloseUsd (v.closeReply t.tradeId) with
    | .closed _ => true
    | _ => false

/-- Out of hours the EA has to be healthy, or the override to be a template
itself; a row already under Python is spared by an idle override only. -/
def spared (v : CycleView) (t : Trade) : Bool :=
  match v.tick with
  | .value tick =>
      takenByCheck v tick t ||
        match t.managedBy with
        | .ea => v.eaHealthy t.tradeId || !v.rs.oohActive v.now || v.rs.override.isTemplate
        | .python => v.rs.oohActive v.now && v.rs.override.idle
  | _ => true

/-- Two runs agree on a trade's row and on the handlers run on it. -/
structure SameFor (tradeId : String) (a b : CycleRun) : Prop where
  row : b.db.getTrade tradeId = a.db.getTrade tradeId
  ran : ∀ handler, .ran tradeId handler ∈ b.events ↔ .ran tradeId handler ∈ a.events

namespace SameFor
variable {tradeId : String} {a b c : CycleRun}

theorem refl (a : CycleRun) : SameFor tradeId a a := ⟨rfl, fun _ => Iff.rfl⟩

theorem trans (h : SameFor tradeId a b) (h' : SameFor tradeId b c) : SameFor tradeId a c :=
  ⟨h'.row.trans h.row, fun handler => (h'.ran handler).trans (h.ran handler)⟩

theorem log (run : CycleRun) {e : CycleEvent} (other : ∀ handler, e ≠ .ran tradeId handler) :
    SameFor tradeId run (run.log e) := by
  refine ⟨rfl, ?_⟩
  intro handler
  constructor
  · intro h
    cases List.mem_append.mp h with
    | inl old => exact old
    | inr new => exact absurd (List.mem_singleton.mp new).symm (other handler)
  · intro h
    exact List.mem_append_left _ h

theorem reclaim (run : CycleRun) {other : String} (ne : tradeId ≠ other) :
    SameFor tradeId run (run.reclaim other) :=
  ⟨run.db.trades.find_update_of_ne _ ne, fun _ => Iff.rfl⟩

end SameFor

namespace CycleView
variable (v : CycleView) (tick : Tick)

theorem handOff_frame (run : CycleRun) (u : Trade) {tradeId : String} (ne : tradeId ≠ u.tradeId) :
    SameFor tradeId run (v.handOff run u) := by
  have taken : SameFor tradeId run (if v.reclaims u then run.reclaim u.tradeId else run) := by
    by_cases h : v.reclaims u = true
    · rw [if_pos h]
      exact SameFor.reclaim run ne
    · rw [if_neg h]
      exact SameFor.refl run
  rw [handOff]
  cases (v.loop u).monitorHandler u with
  | none => exact taken
  | some handler =>
      refine taken.trans (SameFor.log _ ?_)
      intro other same
      exact ne (CycleEvent.ran.inj same).1.symm

theorem monitorTrade_cases (run : CycleRun) (u : Trade) :
    (takenByCheck v tick u = true ∧
      ∀ tradeId, SameFor tradeId run (v.monitorTrade tick run u)) ∨
    (takenByCheck v tick u = false ∧
      ∃ run', (∀ tradeId, SameFor tradeId run run') ∧
        v.monitorTrade tick run u = v.handOff run' u) := by
  rw [monitorTrade, takenByCheck]
  cases checkSl u tick with
  | some price => exact .inl ⟨rfl, fun _ => SameFor.log run (by simp)⟩
  | none =>
      cases checkProfitCloseTarget u tick v.rs.profitCloseUsd (v.closeReply u.tradeId) with
      | closed price => exact .inl ⟨rfl, fun _ => SameFor.log run (by simp)⟩
      | refused => exact .inr ⟨rfl, _, fun _ => SameFor.log run (by simp), rfl⟩
      | below => exact .inr ⟨rfl, run, fun _ => SameFor.refl run, rfl⟩

theorem monitorTrade_frame (run : CycleRun) (u : Trade) {tradeId : String}
    (ne : tradeId ≠ u.tradeId) : SameFor tradeId run (v.monitorTrade tick run u) := by
  cases v.monitorTrade_cases tick run u with
  | inl taken => exact taken.2 tradeId
  | inr passed =>
      obtain ⟨run', same, eq⟩ := passed.2
      rw [eq]
      exact (same tradeId).trans (v.handOff_frame run' u ne)

theorem monitorTrades_frame (us : List Trade) (run : CycleRun) {tradeId : String}
    (others : tradeId ∉ us.map Trade.tradeId) :
    SameFor tradeId run (us.foldl (v.monitorTrade tick) run) := by
  induction us generalizing run with
  | nil => exact SameFor.refl run
  | cons u us ih =>
      rw [List.map_cons, List.mem_cons, not_or] at others
      exact (v.monitorTrade_frame tick run u others.1).trans (ih _ others.2)

theorem handOff_self (run : CycleRun) (t : Trade) (row : run.db.getTrade t.tradeId = some t)
    (fresh : ∀ handler, .ran t.tradeId handler ∉ run.events) :
    ((v.handOff run t).db.getTrade t.tradeId).map Trade.managedBy =
        some (if v.reclaims t then .python else t.managedBy) ∧
      ∀ handler, .ran t.tradeId handler ∈ (v.handOff run t).events ↔
        (v.loop t).monitorHandler t = some handler := by
  have reclaimed : ((if v.reclaims t then run.reclaim t.tradeId else run).db.getTrade
      t.tradeId).map Trade.managedBy = some (if v.reclaims t then .python else t.managedBy) := by
    by_cases h : v.reclaims t = true
    · rw [if_pos h, if_pos h]
      change ((run.db.trades.update t.tradeId Trade.reclaimManagement).find t.tradeId).map _ = _
      rw [Table.find_update_self]
      change ((run.db.getTrade t.tradeId).map _).map _ = _
      rw [row]
      rfl
    · rw [if_neg h, if_neg h, row]
      rfl
  have events : (if v.reclaims t then run.reclaim t.tradeId else run).events = run.events := by
    by_cases h : v.reclaims t = true
    · rw [if_pos h]
      rfl
    · rw [if_neg h]
  rw [handOff]
  cases (v.loop t).monitorHandler t with
  | none =>
      refine ⟨reclaimed, ?_⟩
      intro handler
      simp only [events, reduceCtorEq, iff_false]
      exact fresh handler
  | some chosen =>
      refine ⟨reclaimed, ?_⟩
      intro handler
      simp only [CycleRun.log, events, List.mem_append, fresh handler, false_or,
        List.mem_singleton, CycleEvent.ran.injEq, true_and, Option.some.injEq]
      exact eq_comm

end CycleView

theorem getOpenTrades_split (db : Db) {t : Trade} (stored : t ∈ db.trades.rows)
    (isOpen : t.isOpen = true) :
    ∃ before after, getOpenTrades db = before ++ t :: after ∧
      t.tradeId ∉ before.map Trade.tradeId ∧ t.tradeId ∉ after.map Trade.tradeId := by
  have mem : t ∈ getOpenTrades db := by
    simp [getOpenTrades, stored, isOpen]
  have distinct : ((getOpenTrades db).map Trade.tradeId).Nodup := by
    have rows : ((db.trades.rows.filter Trade.isOpen).map Trade.tradeId).Nodup :=
      db.trades.unique.sublist (List.filter_sublist.map _)
    exact ((List.perm_insertionSort _ _).map _).nodup_iff.mpr rows
  obtain ⟨before, after, eq⟩ := List.append_of_mem mem
  refine ⟨before, after, eq, ?_⟩
  rw [eq, List.map_append, List.map_cons, List.nodup_middle, List.nodup_cons, List.mem_append,
    not_or] at distinct
  exact distinct.1

/-- A cycle does to a trade what its own turn does. -/
theorem runMonitorCycle_sameFor (v : CycleView) (db : Db) {t : Trade} {tick : Tick}
    (read : v.tick = .value tick) (stored : t ∈ db.trades.rows) (isOpen : t.isOpen = true) :
    ∃ run, SameFor t.tradeId ⟨db, []⟩ run ∧
      SameFor t.tradeId (v.monitorTrade tick run t) (runMonitorCycle v db) := by
  obtain ⟨before, after, eq, fst, snd⟩ := getOpenTrades_split db stored isOpen
  refine ⟨before.foldl (v.monitorTrade tick) ⟨db, []⟩, v.monitorTrades_frame tick before _ fst, ?_⟩
  simp only [runMonitorCycle, read, eq, List.foldl_append, List.foldl_cons]
  exact v.monitorTrades_frame tick after _ snd

theorem isTemplate_not_idle {s : Strategy} (h : s.isTemplate = true) : s.idle = false := by
  cases s <;> first | rfl | exact absurd h (by decide)

theorem monitorHandler_eq_none_python (v : LoopView) {t : Trade} (mine : t.managedBy = .python)
    (template : t.strategy.isTemplate = true) :
    v.monitorHandler t = none ↔ (v.rs.oohActive v.now && v.rs.override.idle) = true := by
  rw [← Option.not_isSome_iff_eq_none, monitorHandler_python v t mine, dispatch_isSome]
  cases active : v.rs.oohActive v.now with
  | false =>
      rw [v.rs.dispatchStrategy_inactive v.now t.strategy active, isTemplate_not_idle template]
      simp
  | true =>
      rw [v.rs.dispatchStrategy_active v.now t.strategy active]
      by_cases quiet : v.rs.override.idle = true
      · simp [quiet, idle_not_orbFixed quiet]
      · simp [quiet]

theorem staysWithEa_iff (v : CycleView) {t : Trade} (template : t.strategy.isTemplate = true) :
    staysWithEa (v.rs.dispatchStrategy v.now t.strategy) (v.eaHealthy t.tradeId) =
      (v.eaHealthy t.tradeId || !v.rs.oohActive v.now || v.rs.override.isTemplate) := by
  rw [staysWithEa]
  cases active : v.rs.oohActive v.now with
  | false =>
      rw [v.rs.dispatchStrategy_inactive v.now t.strategy active, template]
      simp
  | true =>
      rw [v.rs.dispatchStrategy_active v.now t.strategy active]
      simp

theorem handOff_quiet_iff (v : CycleView) {t : Trade} (template : t.strategy.isTemplate = true) :
    (v.reclaims t = false ∧ (v.loop t).monitorHandler t = none) ↔
      (match t.managedBy with
        | .ea => v.eaHealthy t.tradeId || !v.rs.oohActive v.now || v.rs.override.isTemplate
        | .python => v.rs.oohActive v.now && v.rs.override.idle) = true := by
  cases owner : t.managedBy with
  | python =>
      have kept : v.reclaims t = false := by simp [CycleView.reclaims, owner]
      rw [kept, monitorHandler_eq_none_python (v.loop t) owner template]
      simp [CycleView.loop]
  | ea =>
      have reclaims : v.reclaims t =
          !staysWithEa (v.rs.dispatchStrategy v.now t.strategy) (v.eaHealthy t.tradeId) := by
        simp [CycleView.reclaims, owner]
      rw [← staysWithEa_iff v template, reclaims]
      constructor
      · intro h
        simpa using h.1
      · intro stays
        refine ⟨by simp [stays], ?_⟩
        simp [LoopView.monitorHandler, CycleView.loop, owner, stays]

theorem leftToEa_iff (v : CycleView) (db : Db) {t : Trade} (stored : t ∈ db.trades.rows)
    (isOpen : t.isOpen = true) (template : t.strategy.isTemplate = true) :
    LeftToEa v db t ↔ spared v t = true := by
  have row : db.getTrade t.tradeId = some t := Table.find_eq_some_iff.mpr ⟨stored, rfl⟩
  have untouched : ∀ run, SameFor t.tradeId ⟨db, []⟩ run →
      run.db.getTrade t.tradeId = some t ∧ ∀ handler, .ran t.tradeId handler ∉ run.events := by
    intro run same
    refine ⟨same.row.trans row, ?_⟩
    intro handler ran
    exact absurd ((same.ran handler).mp ran) List.not_mem_nil
  rw [LeftToEa, spared]
  cases read : v.tick with
  | none | raised =>
      have still : runMonitorCycle v db = ⟨db, []⟩ := by simp [runMonitorCycle, read]
      rw [still]
      simp [row]
  | value tick =>
      obtain ⟨run, before, after⟩ := runMonitorCycle_sameFor v db read stored isOpen
      rw [after.row]
      simp only [after.ran, Bool.or_eq_true]
      cases v.monitorTrade_cases tick run t with
      | inl taken =>
          have calm := untouched _ (before.trans (taken.2 t.tradeId))
          simp [calm.1, calm.2, taken.1]
      | inr passed =>
          obtain ⟨run', same, eq⟩ := passed.2
          have calm := untouched run' (before.trans (same t.tradeId))
          have own := v.handOff_self run' t calm.1 calm.2
          rw [passed.1, ← handOff_quiet_iff v template, eq, own.1]
          simp only [own.2, Bool.false_eq_true, false_or, ← Option.eq_none_iff_forall_ne_some]
          refine and_congr ?_ Iff.rfl
          cases owner : t.managedBy <;> cases h : v.reclaims t <;>
            simp_all [CycleView.reclaims]

def CycleView.withoutEa (override : Strategy) : CycleView where
  tick := .value ⟨2005, 2005⟩
  rs := .overnight override false
  now := .lateEvening
  ranging := false
  eaHealthy _ := false
  poll := ⟨false, .raised, .raised, .raised, fun _ => .raised, .raised⟩
  closeReply _ := .raised

def Trade.templateLot : Trade :=
  { Trade.oneLot with strategy := .template "grid", managedBy := .ea }

theorem leftToEa_iff_templateLot :
    LeftToEa (.withoutEa (.template "night")) (Db.single .templateLot Table.empty) .templateLot :=
  (leftToEa_iff _ _ (List.mem_singleton.mpr rfl) rfl rfl).mpr (by decide)

theorem template_reclaimed_out_of_hours :
    ¬ LeftToEa (.withoutEa .conservative) (Db.single .templateLot Table.empty) .templateLot := by
  intro h
  exact absurd (h.1 rfl) (by decide)

end Forex
