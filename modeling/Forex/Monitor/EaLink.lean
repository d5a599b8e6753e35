import Forex.Market.TradingWeek
import Forex.Support.Run
import Forex.Support.Throttle

/-!
The watchdog of the EA's link over any run of its checks, whatever the EA, the
bridge and the clock do between them. Next to the watchdog's state stands what
each check found and did, newest first: each restart of the terminal, each alert
and each reload is read off that history.
-/

namespace Forex.EaLink
open Support

def downAlertAfterS : ℚ := 90
def realertIntervalS : ℚ := 1800
def restartAfterS : ℚ := 600
def restartCooldownS : ℚ := 1800
def maxRestarts : ℕ := 3
def tickStaleS : ℚ := 60

structure LinkState where
  wasHealthy : Bool
  downSince : ℚ
  lastAlertAt : ℚ
  lastRestartAt : ℚ
  restarts : ℕ
  lastTickTs : ℚ
  lastTickChangeAt : ℚ
  marketClosed : Bool
  eaReloadTried : Bool
deriving DecidableEq, Repr

def newState : LinkState where
  wasHealthy := true
  downSince := 0
  lastAlertAt := 0
  lastRestartAt := 0
  restarts := 0
  lastTickTs := 0
  lastTickChangeAt := 0
  marketClosed := false
  eaReloadTried := false

/-- What `restart_bridge()` comes to. -/
inductive Relaunch where
  | launched
  | notLaunched
  | raised
deriving DecidableEq, Repr

structure Mt5View where
  /-- The timestamp of the tick; absent if there is none or the read raises. -/
  tick : Option ℚ
  /-- What the health read says; absent if it raises. -/
  connected : Option Bool
deriving DecidableEq, Repr

/-- What one check is given. A read that raises is absent. -/
structure LinkView where
  now : ℚ
  isEaHealthy : Option Bool
  lastConnectedAt : ℚ
  listeningPorts : Option (List ℕ)
  eaVersionOk : Option Bool
  slotsInUse : Option ℕ
  mt5Bridge : Option Mt5View
  restartBridge : Option Relaunch
  inhibitReconnect : Bool
deriving DecidableEq, Repr

inductive LinkAlert where
  | reconnected (downFor : ℚ)
  | offline (downFor : ℚ) (ports : Option (List ℕ))
  | restarting (downFor : ℚ) (attempt : ℕ)
  | restartFailed
  | lastRestart
  | newerEa
  | reloadFailed
deriving DecidableEq, Repr

inductive LinkAct where
  | send (alert : LinkAlert)
  | bindPorts
  /-- `restart_bridge()` for an EA that is silent. -/
  | restart
  /-- `restart_bridge()` for an EA of an older build. -/
  | reload
deriving DecidableEq, Repr

inductive ReloadDecision where
  | notStale
  | wouldNotReload
  | alreadyTried
  | slotsInUse (slots : ℕ)
  | reload
deriving DecidableEq, Repr

def reloadDecision (eaVersionOk : Option Bool) (slotsInUse : ℕ)
    (canReload alreadyTried : Bool) : ReloadDecision :=
  if eaVersionOk ≠ some false then .notStale
  else if !canReload then .wouldNotReload
  else if alreadyTried then .alreadyTried
  else if slotsInUse ≠ 0 then .slotsInUse slotsInUse
  else .reload

variable (s : LinkState) (v : LinkView)

def marketIsLive : LinkState × Bool :=
  if isWeeklyMarketClosed v.now then (s, false)
  else
    match v.mt5Bridge with
    | none => (s, true)
    | some mt5 =>
        match mt5.tick with
        | none => (s, false)
        | some ts =>
            if ts ≤ 0 then (s, true)
            else if ts ≠ s.lastTickTs then
              ({ s with lastTickTs := ts, lastTickChangeAt := v.now }, true)
            else if s.lastTickChangeAt = 0 then ({ s with lastTickChangeAt := v.now }, true)
            else (s, decide (v.now - s.lastTickChangeAt < tickStaleS))

def maybeReloadStaleEa : LinkState × List LinkAct :=
  match v.restartBridge with
  | none => (s, [])
  | some relaunch =>
      if v.inhibitReconnect then (s, [])
      else
        match v.slotsInUse with
        | none => (s, [])
        | some slots =>
            match reloadDecision v.eaVersionOk slots true s.eaReloadTried with
            | .reload =>
                ({ s with eaReloadTried := true },
                  [.send .newerEa, .reload] ++
                    if relaunch = .raised then [.send .reloadFailed] else [])
            | _ => (s, [])

/-- The MT5 bridge, where there is one, says that it is connected. -/
def LinkView.bridgeUp : Bool := v.mt5Bridge.all fun mt5 => mt5.connected == some true

def maybeRestartTerminal (downFor : ℚ) : LinkState × List LinkAct :=
  match v.restartBridge with
  | none => (s, [])
  | some relaunch =>
      if v.inhibitReconnect then (s, [])
      else if downFor < restartAfterS then (s, [])
      else if maxRestarts ≤ s.restarts then (s, [])
      else if s.lastRestartAt ≠ 0 ∧ v.now - s.lastRestartAt < restartCooldownS then (s, [])
      else if !v.bridgeUp then (s, [])
      else
        let attempt := s.restarts + 1
        ({ s with lastRestartAt := v.now, restarts := attempt },
          [.send (.restarting downFor attempt), .restart] ++
            match relaunch with
            | .raised => [.send .restartFailed]
            | .notLaunched => []
            | .launched => if maxRestarts ≤ attempt then [.send .lastRestart] else [])

/-- The first check that finds the link down starts the outage's clock. -/
def wentDown : LinkState :=
  if s.wasHealthy then { s with wasHealthy := false, downSince := v.now } else s

def eaLinkCheck : LinkState × List LinkAct :=
  if v.isEaHealthy = some true then
    let downFor := if s.downSince ≠ 0 then v.now - s.downSince else 0
    let said : List LinkAct :=
      if !s.wasHealthy ∧ s.lastAlertAt ≠ 0 then [.send (.reconnected downFor)] else []
    let (s, acts) := maybeReloadStaleEa
      { s with wasHealthy := true, downSince := 0, lastAlertAt := 0, restarts := 0 } v
    (s, said ++ acts)
  else
    let s := wentDown s v
    if v.lastConnectedAt = 0 then (s, [.bindPorts])
    else
      let (s, live) := marketIsLive s v
      if !live then ({ s with downSince := v.now, marketClosed := true }, [.bindPorts])
      else
        let s := { s with marketClosed := false }
        let downFor := v.now - s.downSince
        if downFor < downAlertAfterS then (s, [.bindPorts])
        else
          let (s, acts) := maybeRestartTerminal s v downFor
          if s.lastAlertAt ≠ 0 ∧ v.now - s.lastAlertAt < realertIntervalS then
            (s, .bindPorts :: acts)
          else
            ({ s with lastAlertAt := v.now },
              .bindPorts :: acts ++ [.send (.offline downFor v.listeningPorts)])

inductive Finding where
  | healthy
  /-- The EA has never connected to this process. -/
  | unattached
  /-- The market is not ticking. -/
  | shut
  | down
deriving DecidableEq, Repr

def LinkState.finds : Finding :=
  if v.isEaHealthy = some true then .healthy
  else if v.lastConnectedAt = 0 then .unattached
  else if (marketIsLive (wentDown s v) v).2 then .down
  else .shut

def LinkAct.isRestart : LinkAct → Bool
  | .restart => true
  | _ => false

def LinkAct.isReload : LinkAct → Bool
  | .reload => true
  | _ => false

def LinkAct.isOffline : LinkAct → Bool
  | .send (.offline _ _) => true
  | _ => false

/-- One check, as it stands in the history. -/
structure Entry where
  now : ℚ
  found : Finding
  acts : List LinkAct

namespace Entry
variable (e : Entry)

def restarted : Bool := e.acts.any LinkAct.isRestart
def reloaded : Bool := e.acts.any LinkAct.isReload
def alerted : Bool := e.acts.any LinkAct.isOffline

end Entry

structure Watch where
  state : LinkState
  /-- Newest first. -/
  past : List Entry

def Watch.start : Watch := ⟨newState, []⟩

def Watch.entry (w : Watch) (v : LinkView) : Entry :=
  ⟨v.now, w.state.finds v, (eaLinkCheck w.state v).2⟩

def Watch.step (w : Watch) (v : LinkView) : Watch :=
  ⟨(eaLinkCheck w.state v).1, w.entry v :: w.past⟩

/-- The checks since the EA was last healthy. -/
def outage (past : List Entry) : List Entry := past.takeWhile fun e => decide (e.found ≠ .healthy)

/-- Since when the EA has been down with the market open: the last check that
found the market shut, else the first of the outage. -/
def outageSince : ℚ → List Entry → ℚ
  | now, [] => now
  | now, e :: past =>
      match e.found with
      | .healthy => now
      | .shut => e.now
      | _ => outageSince e.now past

/-- What the history says of a check that restarts the terminal. -/
structure RestartDue (past : List Entry) (found : Finding) : Prop where
  down : found = .down
  given : v.restartBridge.isSome = true
  allowed : v.inhibitReconnect = false
  long : outageSince v.now past + restartAfterS ≤ v.now
  few : (outage past).countP Entry.restarted < maxRestarts
  rested : ∀ e ∈ past, e.restarted = true → e.now + restartCooldownS ≤ v.now
  bridgeUp : v.bridgeUp = true

structure AlertDue (past : List Entry) (found : Finding) : Prop where
  down : found = .down
  long : outageSince v.now past + downAlertAfterS ≤ v.now
  quiet : ∀ e ∈ outage past, e.alerted = true → e.now + realertIntervalS ≤ v.now

structure ReloadDue (past : List Entry) (found : Finding) : Prop where
  healthy : found = .healthy
  given : v.restartBridge.isSome = true
  allowed : v.inhibitReconnect = false
  stale : v.eaVersionOk = some false
  idle : v.slotsInUse = some 0
  first : ∀ e ∈ past, e.reloaded = false

variable {s v}

theorem marketIsLive_state :
    ∃ ts at', (marketIsLive s v).1 = { s with lastTickTs := ts, lastTickChangeAt := at' } := by
  unfold marketIsLive
  split
  · exact ⟨_, _, rfl⟩
  · split
    · exact ⟨_, _, rfl⟩
    · split
      · exact ⟨_, _, rfl⟩
      · split_ifs
        all_goals exact ⟨_, _, rfl⟩

def mayRestart (s : LinkState) (v : LinkView) (downFor : ℚ) : Bool :=
  v.restartBridge.isSome && !v.inhibitReconnect && decide (restartAfterS ≤ downFor) &&
    decide (s.restarts < maxRestarts) &&
    decide (s.lastRestartAt ≠ 0 → restartCooldownS ≤ v.now - s.lastRestartAt) && v.bridgeUp

theorem maybeRestartTerminal_of_not {downFor : ℚ} (not : mayRestart s v downFor = false) :
    maybeRestartTerminal s v downFor = (s, []) := by
  unfold maybeRestartTerminal
  split
  · rfl
  · rename_i relaunch given
    split_ifs with inhibited short capped cooling unready
    · rfl
    · rfl
    · rfl
    · rfl
    · rfl
    · simp only [Bool.not_eq_true, Bool.not_eq_false', not_lt, not_le, not_and] at *
      simp [mayRestart, given, inhibited, short, capped, unready] at not
      exact absurd (cooling not.1) (not_le.mpr not.2)

theorem maybeRestartTerminal_of_may {downFor : ℚ} (may : mayRestart s v downFor = true) :
    (maybeRestartTerminal s v downFor).1 =
        { s with lastRestartAt := v.now, restarts := s.restarts + 1 } ∧
      (maybeRestartTerminal s v downFor).2.any LinkAct.isRestart = true := by
  simp only [mayRestart, Bool.and_eq_true, Bool.not_eq_true', decide_eq_true_eq] at may
  obtain ⟨⟨⟨⟨⟨given, allowed⟩, long⟩, few⟩, rested⟩, up⟩ := may
  obtain ⟨relaunch, given⟩ := Option.isSome_iff_exists.mp given
  have cool : ¬(s.lastRestartAt ≠ 0 ∧ v.now - s.lastRestartAt < restartCooldownS) :=
    fun both => absurd (rested both.1) (not_le.mpr both.2)
  simp only [maybeRestartTerminal, given, allowed, not_lt.mpr long, not_le.mpr few, cool, up]
  exact ⟨rfl, rfl⟩

theorem maybeRestartTerminal_quiet (downFor : ℚ) :
    (maybeRestartTerminal s v downFor).2.any LinkAct.isOffline = false ∧
      (maybeRestartTerminal s v downFor).2.any LinkAct.isReload = false := by
  unfold maybeRestartTerminal
  split
  · exact ⟨rfl, rfl⟩
  · rename_i relaunch given
    split_ifs
    iterate 5 exact ⟨rfl, rfl⟩
    cases relaunch
    · simp only [List.cons_append, List.nil_append]
      split
      · exact ⟨rfl, rfl⟩
      · exact ⟨rfl, rfl⟩
    · exact ⟨rfl, rfl⟩
    · exact ⟨rfl, rfl⟩

def mayAlert (s : LinkState) (v : LinkView) (downFor : ℚ) : Bool :=
  decide (downAlertAfterS ≤ downFor) &&
    decide (s.lastAlertAt ≠ 0 → realertIntervalS ≤ v.now - s.lastAlertAt)

theorem wentDown_fields :
    (wentDown s v).wasHealthy = false ∧ (wentDown s v).lastAlertAt = s.lastAlertAt ∧
      (wentDown s v).lastRestartAt = s.lastRestartAt ∧ (wentDown s v).restarts = s.restarts ∧
      (wentDown s v).eaReloadTried = s.eaReloadTried := by
  unfold wentDown
  split
  · exact ⟨rfl, rfl, rfl, rfl, rfl⟩
  · rename_i down
    exact ⟨Bool.eq_false_iff.mpr down, rfl, rfl, rfl, rfl⟩

theorem finds_eq_healthy_iff : s.finds v = .healthy ↔ v.isEaHealthy = some true := by
  unfold LinkState.finds
  split_ifs <;> simp_all

/-- What the checks that find the EA silent leave of the state, and do. -/
structure Silent (s : LinkState) (v : LinkView) : Prop where
  wasHealthy : (eaLinkCheck s v).1.wasHealthy = false
  tried : (eaLinkCheck s v).1.eaReloadTried = s.eaReloadTried
  noReload : (eaLinkCheck s v).2.any LinkAct.isReload = false

/-- Of these, the checks that do nothing but bind the ports. -/
structure Waits (s : LinkState) (v : LinkView) (since : ℚ) : Prop extends Silent s v where
  downSince : (eaLinkCheck s v).1.downSince = since
  lastAlertAt : (eaLinkCheck s v).1.lastAlertAt = s.lastAlertAt
  lastRestartAt : (eaLinkCheck s v).1.lastRestartAt = s.lastRestartAt
  restarts : (eaLinkCheck s v).1.restarts = s.restarts
  noRestart : (eaLinkCheck s v).2.any LinkAct.isRestart = false
  noAlert : (eaLinkCheck s v).2.any LinkAct.isOffline = false

structure Watches (s : LinkState) (v : LinkView) (since : ℚ) : Prop extends Silent s v where
  downSince : (eaLinkCheck s v).1.downSince = since
  lastAlertAt : (eaLinkCheck s v).1.lastAlertAt =
    if mayAlert s v (v.now - since) then v.now else s.lastAlertAt
  lastRestartAt : (eaLinkCheck s v).1.lastRestartAt =
    if mayRestart s v (v.now - since) then v.now else s.lastRestartAt
  restarts : (eaLinkCheck s v).1.restarts =
    if mayRestart s v (v.now - since) then s.restarts + 1 else s.restarts
  restarted : (eaLinkCheck s v).2.any LinkAct.isRestart = mayRestart s v (v.now - since)
  alerted : (eaLinkCheck s v).2.any LinkAct.isOffline = mayAlert s v (v.now - since)

structure Recovers (s : LinkState) (v : LinkView) : Prop where
  wasHealthy : (eaLinkCheck s v).1.wasHealthy = true
  lastAlertAt : (eaLinkCheck s v).1.lastAlertAt = 0
  lastRestartAt : (eaLinkCheck s v).1.lastRestartAt = s.lastRestartAt
  restarts : (eaLinkCheck s v).1.restarts = 0
  tried : (eaLinkCheck s v).1.eaReloadTried =
    (s.eaReloadTried || (eaLinkCheck s v).2.any LinkAct.isReload)
  noRestart : (eaLinkCheck s v).2.any LinkAct.isRestart = false
  noAlert : (eaLinkCheck s v).2.any LinkAct.isOffline = false
  reloads : (eaLinkCheck s v).2.any LinkAct.isReload = true ↔
    v.restartBridge.isSome = true ∧ v.inhibitReconnect = false ∧ v.eaVersionOk = some false ∧
      v.slotsInUse = some 0 ∧ s.eaReloadTried = false

theorem waits_of_unattached (found : s.finds v = .unattached) :
    Waits s v (wentDown s v).downSince := by
  have check : eaLinkCheck s v = (wentDown s v, [.bindPorts]) := by
    unfold LinkState.finds at found
    unfold eaLinkCheck
    split_ifs at found ⊢
    rfl
  obtain ⟨wasHealthy, lastAlertAt, lastRestartAt, restarts, tried⟩ :=
    wentDown_fields (s := s) (v := v)
  exact {
    wasHealthy := by simpa only [check] using wasHealthy
    tried := by simpa only [check] using tried
    noReload := by simp only [check]; rfl
    downSince := by simp only [check]
    lastAlertAt := by simpa only [check] using lastAlertAt
    lastRestartAt := by simpa only [check] using lastRestartAt
    restarts := by simpa only [check] using restarts
    noRestart := by simp only [check]; rfl
    noAlert := by simp only [check]; rfl }

theorem waits_of_shut (found : s.finds v = .shut) : Waits s v v.now := by
  have check : eaLinkCheck s v =
      ({ (marketIsLive (wentDown s v) v).1 with downSince := v.now, marketClosed := true },
        [.bindPorts]) := by
    unfold LinkState.finds at found
    unfold eaLinkCheck
    split_ifs at found ⊢ with healthy unattached live
    simp only [live]
    rfl
  obtain ⟨ts, at', ticked⟩ := marketIsLive_state (s := wentDown s v) (v := v)
  obtain ⟨wasHealthy, lastAlertAt, lastRestartAt, restarts, tried⟩ :=
    wentDown_fields (s := s) (v := v)
  rw [ticked] at check
  exact {
    wasHealthy := by simpa only [check] using wasHealthy
    tried := by simpa only [check] using tried
    noReload := by simp only [check]; rfl
    downSince := by simp only [check]
    lastAlertAt := by simpa only [check] using lastAlertAt
    lastRestartAt := by simpa only [check] using lastRestartAt
    restarts := by simpa only [check] using restarts
    noRestart := by simp only [check]; rfl
    noAlert := by simp only [check]; rfl }

/-- The state in which a check that finds the link down decides. -/
def decides (s : LinkState) (v : LinkView) : LinkState :=
  { (marketIsLive (wentDown s v) v).1 with marketClosed := false }

theorem decides_fields :
    (decides s v).wasHealthy = false ∧ (decides s v).downSince = (wentDown s v).downSince ∧
      (decides s v).lastAlertAt = s.lastAlertAt ∧ (decides s v).lastRestartAt = s.lastRestartAt ∧
      (decides s v).restarts = s.restarts ∧ (decides s v).eaReloadTried = s.eaReloadTried := by
  obtain ⟨ts, at', ticked⟩ := marketIsLive_state (s := wentDown s v) (v := v)
  obtain ⟨wasHealthy, lastAlertAt, lastRestartAt, restarts, tried⟩ :=
    wentDown_fields (s := s) (v := v)
  simp only [decides, ticked]
  exact ⟨wasHealthy, trivial, lastAlertAt, lastRestartAt, restarts, tried⟩

theorem mayRestart_decides (downFor : ℚ) :
    mayRestart (decides s v) v downFor = mayRestart s v downFor := by
  obtain ⟨-, -, -, lastRestartAt, restarts, -⟩ := decides_fields (s := s) (v := v)
  simp only [mayRestart, lastRestartAt, restarts]

theorem mayAlert_decides (downFor : ℚ) :
    mayAlert (decides s v) v downFor = mayAlert s v downFor := by
  obtain ⟨-, -, lastAlertAt, -, -, -⟩ := decides_fields (s := s) (v := v)
  simp only [mayAlert, lastAlertAt]

theorem eaLinkCheck_of_down (found : s.finds v = .down) :
    eaLinkCheck s v =
      if v.now - (wentDown s v).downSince < downAlertAfterS then (decides s v, [.bindPorts])
      else
        let r := maybeRestartTerminal (decides s v) v (v.now - (wentDown s v).downSince)
        if r.1.lastAlertAt ≠ 0 ∧ v.now - r.1.lastAlertAt < realertIntervalS then
          (r.1, .bindPorts :: r.2)
        else
          ({ r.1 with lastAlertAt := v.now }, .bindPorts :: r.2 ++
            [.send (.offline (v.now - (wentDown s v).downSince) v.listeningPorts)]) := by
  have since : (decides s v).downSince = (wentDown s v).downSince := decides_fields.2.1
  unfold LinkState.finds at found
  rw [← since]
  unfold eaLinkCheck
  split_ifs at found with healthy unattached live
  simp only [healthy, unattached, live, if_false, Bool.not_true, Bool.false_eq_true]
  rfl

theorem mayRestart_of_short {downFor : ℚ} (short : downFor < downAlertAfterS) :
    mayRestart s v downFor = false := by
  have early : ¬restartAfterS ≤ downFor := by
    have := show downAlertAfterS < restartAfterS by norm_num [downAlertAfterS, restartAfterS]
    linarith
  simp [mayRestart, early]

theorem maybeRestartTerminal_fields (downFor : ℚ) :
    let r := maybeRestartTerminal s v downFor
    r.1.wasHealthy = s.wasHealthy ∧ r.1.downSince = s.downSince ∧
      r.1.lastAlertAt = s.lastAlertAt ∧ r.1.eaReloadTried = s.eaReloadTried ∧
      r.1.lastRestartAt = (if mayRestart s v downFor then v.now else s.lastRestartAt) ∧
      r.1.restarts = (if mayRestart s v downFor then s.restarts + 1 else s.restarts) ∧
      r.2.any LinkAct.isRestart = mayRestart s v downFor := by
  cases may : mayRestart s v downFor with
  | false =>
      simp [maybeRestartTerminal_of_not may]
  | true =>
      obtain ⟨state, restarts⟩ := maybeRestartTerminal_of_may may
      simp [state, restarts]

theorem watches_of_down (found : s.finds v = .down) : Watches s v (wentDown s v).downSince := by
  obtain ⟨wasHealthy, since, lastAlertAt, lastRestartAt, restarts, tried⟩ :=
    decides_fields (s := s) (v := v)
  have check := eaLinkCheck_of_down found
  generalize hfor : v.now - (wentDown s v).downSince = downFor at check
  by_cases short : downFor < downAlertAfterS
  · rw [if_pos short] at check
    have noRestart := mayRestart_of_short (s := s) (v := v) short
    have noAlert : mayAlert s v downFor = false := by simp [mayAlert, not_le.mpr short]
    exact {
      wasHealthy := by simpa only [check] using wasHealthy
      tried := by simpa only [check] using tried
      noReload := by simp only [check]; rfl
      downSince := by simpa only [check] using since
      lastAlertAt := by simpa [check, hfor, noAlert] using lastAlertAt
      lastRestartAt := by simpa [check, hfor, noRestart] using lastRestartAt
      restarts := by simpa [check, hfor, noRestart] using restarts
      restarted := by simp only [check, hfor, noRestart]; rfl
      alerted := by simp only [check, hfor, noAlert]; rfl }
  · rw [if_neg short] at check
    obtain ⟨wasHealthy', since', lastAlertAt', tried', lastRestartAt', restarts', restarted⟩ :=
      maybeRestartTerminal_fields (s := decides s v) (v := v) downFor
    obtain ⟨noAlert, noReload⟩ :=
      maybeRestartTerminal_quiet (s := decides s v) (v := v) downFor
    rw [mayRestart_decides] at lastRestartAt' restarts' restarted
    simp only [lastAlertAt'.trans lastAlertAt] at check
    have long : downAlertAfterS ≤ downFor := not_lt.mp short
    by_cases again : s.lastAlertAt ≠ 0 ∧ v.now - s.lastAlertAt < realertIntervalS
    · rw [if_pos again] at check
      have quiet : mayAlert s v downFor = false := by
        simp [mayAlert, again.1, not_le.mpr again.2]
      exact {
        wasHealthy := by simpa only [check] using wasHealthy'.trans wasHealthy
        tried := by simpa only [check] using tried'.trans tried
        noReload := by rw [check]; exact noReload
        downSince := by simpa only [check] using since'.trans since
        lastAlertAt := by simpa [check, hfor, quiet] using lastAlertAt'.trans lastAlertAt
        lastRestartAt := by simpa only [check, hfor, lastRestartAt] using lastRestartAt'
        restarts := by simpa only [check, hfor, restarts] using restarts'
        restarted := by rw [check, hfor]; exact restarted
        alerted := by rw [check, hfor, quiet]; exact noAlert }
    · rw [if_neg again] at check
      have speaks : mayAlert s v downFor = true := by
        simp only [mayAlert, long, decide_true, Bool.true_and, decide_eq_true_eq]
        exact fun told => not_lt.mp fun soon => again ⟨told, soon⟩
      exact {
        wasHealthy := by simpa only [check] using wasHealthy'.trans wasHealthy
        tried := by simpa only [check] using tried'.trans tried
        noReload := by
          simp only [check, List.cons_append, List.any_cons, List.any_append, noReload]
          rfl
        downSince := by simpa only [check] using since'.trans since
        lastAlertAt := by simp only [check, hfor, speaks, if_true]
        lastRestartAt := by simpa only [check, hfor, lastRestartAt] using lastRestartAt'
        restarts := by simpa only [check, hfor, restarts] using restarts'
        restarted := by
          simp only [check, hfor, List.cons_append, List.any_cons, List.any_append, restarted]
          exact Bool.or_false _
        alerted := by
          simp only [check, hfor, speaks, List.cons_append, List.any_cons, List.any_append, noAlert]
          rfl }

theorem maybeReloadStaleEa_fields :
    let r := maybeReloadStaleEa s v
    r.1 = { s with eaReloadTried := s.eaReloadTried || r.2.any LinkAct.isReload } ∧
      r.2.any LinkAct.isRestart = false ∧ r.2.any LinkAct.isOffline = false ∧
      (r.2.any LinkAct.isReload = true ↔
        v.restartBridge.isSome = true ∧ v.inhibitReconnect = false ∧ v.eaVersionOk = some false ∧
          v.slotsInUse = some 0 ∧ s.eaReloadTried = false) := by
  unfold maybeReloadStaleEa
  cases given : v.restartBridge with
  | none => simp
  | some relaunch =>
      cases inhibited : v.inhibitReconnect with
      | true => simp
      | false =>
          cases slots : v.slotsInUse with
          | none => simp
          | some n =>
              by_cases due : v.eaVersionOk = some false ∧ s.eaReloadTried = false ∧ n = 0
              · obtain ⟨stale, tried, idle⟩ := due
                cases relaunch <;>
                  simp [reloadDecision, stale, idle, tried, LinkAct.isRestart,
                    LinkAct.isOffline, LinkAct.isReload]
              · have held : ∀ d, reloadDecision v.eaVersionOk n true s.eaReloadTried = d →
                    d ≠ .reload := by
                  rintro d rfl
                  unfold reloadDecision
                  split_ifs <;> simp_all
                simp only [Bool.false_eq_true, if_false]
                split
                · exact absurd rfl (held _ ‹_›)
                · simp [show ¬(v.eaVersionOk = some false ∧ n = 0 ∧ s.eaReloadTried = false) from
                    fun both => due ⟨both.1, both.2.2, both.2.1⟩]

theorem recovers_of_healthy (found : s.finds v = .healthy) : Recovers s v := by
  have healthy := finds_eq_healthy_iff.mp found
  obtain ⟨state, noRestart, noAlert, reloads⟩ := maybeReloadStaleEa_fields
    (s := { s with wasHealthy := true, downSince := 0, lastAlertAt := 0, restarts := 0 }) (v := v)
  have check : ∃ said : List LinkAct, said.any LinkAct.isRestart = false ∧
      said.any LinkAct.isOffline = false ∧ said.any LinkAct.isReload = false ∧
      eaLinkCheck s v =
        ((maybeReloadStaleEa
            { s with wasHealthy := true, downSince := 0, lastAlertAt := 0, restarts := 0 } v).1,
          said ++ (maybeReloadStaleEa { s with
            wasHealthy := true, downSince := 0, lastAlertAt := 0, restarts := 0 } v).2) := by
    simp only [eaLinkCheck, healthy, if_true]
    refine ⟨_, ?_, ?_, ?_, rfl⟩
    all_goals split_ifs <;> rfl
  obtain ⟨said, saidRestart, saidAlert, saidReload, check⟩ := check
  exact {
    wasHealthy := by simp only [check, state]
    lastAlertAt := by simp only [check, state]
    lastRestartAt := by simp only [check, state]
    restarts := by simp only [check, state]
    tried := by simp only [check, state, List.any_append, saidReload, Bool.false_or]
    noRestart := by simp only [check, List.any_append, saidRestart, noRestart, Bool.or_self]
    noAlert := by simp only [check, List.any_append, saidAlert, noAlert, Bool.or_self]
    reloads := by simpa only [check, List.any_append, saidReload, Bool.false_or] using reloads }

theorem outage_cons (e : Entry) (past : List Entry) :
    outage (e :: past) = if e.found = .healthy then [] else e :: outage past := by
  by_cases healthy : e.found = .healthy
  · simp [outage, healthy]
  · simp [outage, healthy]

theorem mem_of_mem_outage {past : List Entry} {e : Entry} (mem : e ∈ outage past) : e ∈ past :=
  (List.takeWhile_prefix _).subset mem

/-- The stamp of the newest of the entries that qualify. The watchdog reads 0 as never. -/
def stamp (p : Entry → Bool) (es : List Entry) : ℚ := (lastTime Entry.now p es).getD 0

theorem stamp_cons (p : Entry → Bool) (e : Entry) (es : List Entry) :
    stamp p (e :: es) = if p e then e.now else stamp p es := by
  rw [stamp, lastTime_cons]
  split_ifs <;> rfl

/-- Entries that qualify are apart by the gap at least, and none of them stands
at the clock's zero. -/
structure Apart (p : Entry → Bool) (gap : ℚ) (es : List Entry) : Prop where
  spaced : Spaced Entry.now p gap es
  late : ∀ e ∈ es, p e = true → 0 < e.now

theorem Apart.nil (p : Entry → Bool) (gap : ℚ) : Apart p gap [] :=
  ⟨Spaced.nil, fun _ mem => nomatch mem⟩

theorem Apart.cons {p : Entry → Bool} {gap : ℚ} {e : Entry} {es : List Entry}
    (apart : Apart p gap es) (late : p e = true → 0 < e.now)
    (rested : p e = true → ∀ f ∈ es, p f = true → f.now + gap ≤ e.now) : Apart p gap (e :: es) :=
  ⟨apart.spaced.cons rested, List.forall_mem_cons.mpr ⟨late, apart.late⟩⟩

theorem Apart.rested_iff {p : Entry → Bool} {gap : ℚ} {es : List Entry} (apart : Apart p gap es)
    (wide : 0 ≤ gap) (now : ℚ) :
    (stamp p es ≠ 0 → gap ≤ now - stamp p es) ↔ ∀ e ∈ es, p e = true → e.now + gap ≤ now := by
  rw [← apart.spaced.rested_iff wide, stamp]
  cases last : lastTime Entry.now p es with
  | none => simp
  | some t =>
      obtain ⟨e, found, rfl⟩ := Option.map_eq_some_iff.mp last
      have positive := apart.late e (List.mem_of_find?_eq_some found)
        (List.find?_eq_some_iff_append.mp found).1
      simp only [Option.getD_some, Option.mem_some_iff, forall_eq', ne_eq, positive.ne',
        not_false_eq_true, true_implies, le_sub_iff_add_le']

/-- The state tells what the history does. -/
structure Follows (w : Watch) : Prop where
  wasHealthy : w.state.wasHealthy = w.past.head?.all fun e => decide (e.found = .healthy)
  downSince : w.state.wasHealthy = false → ∀ now, w.state.downSince = outageSince now w.past
  lastAlertAt : w.state.lastAlertAt = stamp Entry.alerted (outage w.past)
  lastRestartAt : w.state.lastRestartAt = stamp Entry.restarted w.past
  restarts : w.state.restarts = (outage w.past).countP Entry.restarted
  tried : w.state.eaReloadTried = w.past.any Entry.reloaded

/-- The checks held back as they should have been. -/
structure Restrained (past : List Entry) : Prop where
  timed : ∀ e ∈ past, 0 ≤ e.now
  restarts : Apart Entry.restarted restartCooldownS past
  alerts : Apart Entry.alerted realertIntervalS (outage past)
  few : (outage past).countP Entry.restarted ≤ maxRestarts
  once : past.countP Entry.reloaded ≤ 1

theorem outageSince_nonneg {past : List Entry} (timed : ∀ e ∈ past, 0 ≤ e.now) {now : ℚ}
    (positive : 0 ≤ now) : 0 ≤ outageSince now past := by
  induction past generalizing now with
  | nil => exact positive
  | cons e past ih =>
      rw [List.forall_mem_cons] at timed
      simp only [outageSince]
      split
      · exact positive
      · exact timed.1
      · exact ih timed.2 timed.1

variable {w : Watch}

theorem Follows.wentDown_downSince (follows : Follows w) (v : LinkView) :
    (wentDown w.state v).downSince = outageSince v.now w.past := by
  unfold wentDown
  cases healthy : w.state.wasHealthy with
  | false => simpa using follows.downSince healthy v.now
  | true =>
      have last := follows.wasHealthy
      rw [healthy] at last
      cases past : w.past with
      | nil => simp [outageSince]
      | cons e es =>
          have found : e.found = .healthy := by simpa [past] using last.symm
          simp [outageSince, found]

theorem Follows.mayRestart_iff (follows : Follows w) (held : Restrained w.past) (v : LinkView) :
    mayRestart w.state v (v.now - outageSince v.now w.past) = true ↔ RestartDue v w.past .down := by
  have rested := held.restarts.rested_iff (by norm_num [restartCooldownS]) v.now
  rw [← follows.lastRestartAt] at rested
  simp only [mayRestart, Bool.and_eq_true, Bool.not_eq_true', decide_eq_true_eq, follows.restarts,
    rested]
  constructor
  · rintro ⟨⟨⟨⟨⟨given, allowed⟩, long⟩, few⟩, rested⟩, up⟩
    exact ⟨rfl, given, allowed, by linarith, few, rested, up⟩
  · rintro ⟨-, given, allowed, long, few, rested, up⟩
    exact ⟨⟨⟨⟨⟨given, allowed⟩, by linarith⟩, few⟩, rested⟩, up⟩

theorem Follows.mayAlert_iff (follows : Follows w) (held : Restrained w.past) (v : LinkView) :
    mayAlert w.state v (v.now - outageSince v.now w.past) = true ↔ AlertDue v w.past .down := by
  have quiet := held.alerts.rested_iff (by norm_num [realertIntervalS]) v.now
  rw [← follows.lastAlertAt] at quiet
  simp only [mayAlert, Bool.and_eq_true, decide_eq_true_eq, quiet]
  constructor
  · rintro ⟨long, quiet⟩
    exact ⟨rfl, by linarith, quiet⟩
  · rintro ⟨-, long, quiet⟩
    exact ⟨by linarith, quiet⟩

/-- A check does what the history says is due. -/
structure Decides (w : Watch) (v : LinkView) : Prop where
  restarted : (w.entry v).restarted = true ↔ RestartDue v w.past (w.state.finds v)
  alerted : (w.entry v).alerted = true ↔ AlertDue v w.past (w.state.finds v)
  reloaded : (w.entry v).reloaded = true ↔ ReloadDue v w.past (w.state.finds v)

theorem decides_by_history (follows : Follows w) (held : Restrained w.past) (v : LinkView) :
    Decides w v := by
  have since := follows.wentDown_downSince v
  cases found : w.state.finds v with
  | healthy =>
      have recovers := recovers_of_healthy found
      refine ⟨?_, ?_, ?_⟩ <;> rw [found]
      · exact iff_of_false (by simp [Watch.entry, Entry.restarted, recovers.noRestart])
          fun due => nomatch due.down
      · exact iff_of_false (by simp [Watch.entry, Entry.alerted, recovers.noAlert])
          fun due => nomatch due.down
      · refine recovers.reloads.trans ?_
        rw [follows.tried, List.any_eq_false]
        constructor
        · rintro ⟨given, allowed, stale, idle, first⟩
          exact ⟨rfl, given, allowed, stale, idle,
            fun e mem => Bool.eq_false_iff.mpr (first e mem)⟩
        · rintro ⟨-, given, allowed, stale, idle, first⟩
          exact ⟨given, allowed, stale, idle, fun e mem => Bool.eq_false_iff.mp (first e mem)⟩
  | unattached =>
      have waits := waits_of_unattached found
      refine ⟨?_, ?_, ?_⟩ <;> rw [found]
      · exact iff_of_false (by simp [Watch.entry, Entry.restarted, waits.noRestart])
          fun due => nomatch due.down
      · exact iff_of_false (by simp [Watch.entry, Entry.alerted, waits.noAlert])
          fun due => nomatch due.down
      · exact iff_of_false (by simp [Watch.entry, Entry.reloaded, waits.noReload])
          fun due => nomatch due.healthy
  | shut =>
      have waits := waits_of_shut found
      refine ⟨?_, ?_, ?_⟩ <;> rw [found]
      · exact iff_of_false (by simp [Watch.entry, Entry.restarted, waits.noRestart])
          fun due => nomatch due.down
      · exact iff_of_false (by simp [Watch.entry, Entry.alerted, waits.noAlert])
          fun due => nomatch due.down
      · exact iff_of_false (by simp [Watch.entry, Entry.reloaded, waits.noReload])
          fun due => nomatch due.healthy
  | down =>
      have watches := watches_of_down found
      rw [since] at watches
      refine ⟨?_, ?_, ?_⟩ <;> rw [found]
      · rw [← follows.mayRestart_iff held v, ← watches.restarted]
        rfl
      · rw [← follows.mayAlert_iff held v, ← watches.alerted]
        rfl
      · exact iff_of_false (by simp [Watch.entry, Entry.reloaded, watches.noReload])
          fun due => nomatch due.healthy

theorem Follows.start : Follows Watch.start := ⟨rfl, nofun, rfl, rfl, rfl, rfl⟩

theorem Restrained.start : Restrained Watch.start.past where
  timed := nofun
  restarts := Apart.nil _ _
  alerts := Apart.nil _ _
  few := Nat.zero_le _
  once := Nat.zero_le _

theorem Follows.step (follows : Follows w) (v : LinkView) : Follows (w.step v) := by
  have since := follows.wentDown_downSince v
  have entry : (w.entry v).found = w.state.finds v := rfl
  have restarted : (w.entry v).restarted = (eaLinkCheck w.state v).2.any LinkAct.isRestart := rfl
  have alerted : (w.entry v).alerted = (eaLinkCheck w.state v).2.any LinkAct.isOffline := rfl
  have reloaded : (w.entry v).reloaded = (eaLinkCheck w.state v).2.any LinkAct.isReload := rfl
  have silent (not : w.state.finds v ≠ .healthy) (quiet : Silent w.state v)
      (since : (eaLinkCheck w.state v).1.downSince = outageSince v.now (w.entry v :: w.past))
      (lastAlertAt : (eaLinkCheck w.state v).1.lastAlertAt =
        if (w.entry v).alerted then v.now else w.state.lastAlertAt)
      (lastRestartAt : (eaLinkCheck w.state v).1.lastRestartAt =
        if (w.entry v).restarted then v.now else w.state.lastRestartAt)
      (restarts : (eaLinkCheck w.state v).1.restarts =
        if (w.entry v).restarted then w.state.restarts + 1 else w.state.restarts) :
      Follows (w.step v) := by
    have open' : outage (w.entry v :: w.past) = w.entry v :: outage w.past := by
      rw [outage_cons, entry, if_neg not]
    exact {
      wasHealthy := by simp [Watch.step, quiet.wasHealthy, entry, not]
      downSince := fun _ now => by
        rw [Watch.step, since]
        cases found : w.state.finds v <;> simp [outageSince, entry, found] at not ⊢
      lastAlertAt := by
        rw [Watch.step, open', stamp_cons, lastAlertAt, follows.lastAlertAt]
        rfl
      lastRestartAt := by
        rw [Watch.step, stamp_cons, lastRestartAt, follows.lastRestartAt]
        rfl
      restarts := by
        rw [Watch.step, open', List.countP_cons, restarts, follows.restarts]
        split_ifs <;> rfl
      tried := by simp [Watch.step, quiet.tried, follows.tried, reloaded, quiet.noReload] }
  cases found : w.state.finds v with
  | healthy =>
      have recovers := recovers_of_healthy found
      have closed : outage (w.entry v :: w.past) = [] := by rw [outage_cons, entry, if_pos found]
      exact {
        wasHealthy := by simp [Watch.step, recovers.wasHealthy, entry, found]
        downSince := by simp [Watch.step, recovers.wasHealthy]
        lastAlertAt := by simp [Watch.step, closed, recovers.lastAlertAt, stamp, lastTime]
        lastRestartAt := by
          simp [Watch.step, stamp_cons, restarted, recovers.noRestart, recovers.lastRestartAt,
            follows.lastRestartAt]
        restarts := by simp [Watch.step, closed, recovers.restarts]
        tried := by simp [Watch.step, recovers.tried, follows.tried, reloaded, Bool.or_comm] }
  | unattached =>
      have waits := waits_of_unattached found
      refine silent (by simp [found]) waits.toSilent ?_ ?_ ?_ ?_
      · simp [waits.downSince, since, outageSince, found, Watch.entry]
      · simp [waits.lastAlertAt, alerted, waits.noAlert]
      · simp [waits.lastRestartAt, restarted, waits.noRestart]
      · simp [waits.restarts, restarted, waits.noRestart]
  | shut =>
      have waits := waits_of_shut found
      refine silent (by simp [found]) waits.toSilent ?_ ?_ ?_ ?_
      · simp [waits.downSince, outageSince, found, Watch.entry]
      · simp [waits.lastAlertAt, alerted, waits.noAlert]
      · simp [waits.lastRestartAt, restarted, waits.noRestart]
      · simp [waits.restarts, restarted, waits.noRestart]
  | down =>
      have watches := watches_of_down found
      refine silent (by simp [found]) watches.toSilent ?_ ?_ ?_ ?_
      · simp [watches.downSince, since, outageSince, found, Watch.entry]
      · rw [watches.lastAlertAt, alerted, watches.alerted]
      · rw [watches.lastRestartAt, restarted, watches.restarted]
      · rw [watches.restarts, restarted, watches.restarted]

/-- A check at which something has been due for a while is not at the clock's zero. -/
theorem late_of_long {past : List Entry} {wait : ℚ} (timed : ∀ e ∈ past, 0 ≤ e.now)
    (positive : 0 < wait) (now : 0 ≤ v.now) (long : outageSince v.now past + wait ≤ v.now) :
    0 < v.now := by
  have := outageSince_nonneg timed now
  linarith

theorem Restrained.step (held : Restrained w.past) (follows : Follows w) {v : LinkView}
    (now : 0 ≤ v.now) : Restrained (w.step v).past := by
  have decides := decides_by_history follows held v
  have restarts : Apart Entry.restarted restartCooldownS (w.entry v :: w.past) := by
    refine held.restarts.cons (fun restarted => ?_) fun restarted => ?_
    · exact late_of_long held.timed (by norm_num [restartAfterS]) now
        (decides.restarted.mp restarted).long
    · exact (decides.restarted.mp restarted).rested
  have alerts : Apart Entry.alerted realertIntervalS (w.entry v :: outage w.past) := by
    refine held.alerts.cons (fun alerted => ?_) fun alerted => ?_
    · exact late_of_long held.timed (by norm_num [downAlertAfterS]) now
        (decides.alerted.mp alerted).long
    · exact (decides.alerted.mp alerted).quiet
  have once : (w.entry v :: w.past).countP Entry.reloaded ≤ 1 := by
    rw [List.countP_cons]
    split_ifs with reloaded
    · have none : w.past.countP Entry.reloaded = 0 :=
        List.countP_eq_zero.mpr fun e mem =>
          Bool.eq_false_iff.mp ((decides.reloaded.mp reloaded).first e mem)
      omega
    · exact held.once
  refine ⟨List.forall_mem_cons.mpr ⟨now, held.timed⟩, restarts, ?_, ?_, once⟩
  · simp only [Watch.step, outage_cons]
    split_ifs
    · exact Apart.nil _ _
    · exact alerts
  · simp only [Watch.step, outage_cons]
    split_ifs
    · exact Nat.zero_le _
    · rw [List.countP_cons]
      split_ifs with restarted
      · exact (decides.restarted.mp restarted).few
      · exact held.few

theorem follows_and_restrained {vs : List LinkView} (timed : ∀ v ∈ vs, 0 ≤ v.now) :
    ∀ w ∈ states Watch.step Watch.start vs, Follows w ∧ Restrained w.past := by
  have every : Meets Watch.step (fun _ _ => True) Watch.start vs :=
    meets_of_forall (fun _ _ => True.intro) _ _
  have run := every.and_forall timed
  exact states_invariant
    (fun w v both now => ⟨both.1.step v, both.2.step both.1 now.2⟩)
    ⟨Follows.start, Restrained.start⟩ run

/-- In any run, what a check does is what its history makes due. -/
theorem checks_decide_by_history (vs : List LinkView) (timed : ∀ v ∈ vs, 0 ≤ v.now) :
    ∀ w ∈ states Watch.step Watch.start vs, ∀ v, Decides w v := by
  intro w mem v
  obtain ⟨follows, held⟩ := follows_and_restrained timed w mem
  exact decides_by_history follows held v

def LinkView.silentEa (now : ℚ) : LinkView where
  now := now
  isEaHealthy := some false
  lastConnectedAt := 1
  listeningPorts := some [9111]
  eaVersionOk := none
  slotsInUse := some 0
  mt5Bridge := none
  restartBridge := some .launched
  inhibitReconnect := false

theorem checks_decide_by_history_of_silentEa :
    ∀ w ∈ states Watch.step Watch.start ([0, 600, 1200, 2400].map LinkView.silentEa),
      ∀ v, Decides w v :=
  checks_decide_by_history _ (by decide)

/-- Some check no later than the given time did not find the EA healthy, and
neither did any after it, nor any of these the market shut. -/
def QuietSince (since : ℚ) (past : List Entry) : Prop :=
  ∃ newer first older, past = newer ++ first :: older ∧ first.now ≤ since ∧
    first.found ≠ .healthy ∧ ∀ e ∈ newer, e.found = .down ∨ e.found = .unattached

theorem quietSince_outageSince (now : ℚ) (past : List Entry) :
    outageSince now past = now ∨ QuietSince (outageSince now past) past := by
  induction past generalizing now with
  | nil => exact .inl rfl
  | cons e past ih =>
      have silent (not : e.found = .down ∨ e.found = .unattached)
          (since : outageSince now (e :: past) = outageSince e.now past) :
          QuietSince (outageSince now (e :: past)) (e :: past) := by
        rw [since]
        rcases ih e.now with begins | ⟨newer, first, older, rfl, early, open', quiet⟩
        · exact ⟨[], e, past, rfl, begins.ge, by rcases not with h | h <;> simp [h], nofun⟩
        · exact ⟨e :: newer, first, older, rfl, early, open', List.forall_mem_cons.mpr ⟨not, quiet⟩⟩
      cases found : e.found with
      | healthy => exact .inl (by simp [outageSince, found])
      | shut =>
          have since : outageSince now (e :: past) = e.now := by simp [outageSince, found]
          rw [since]
          exact .inr ⟨[], e, past, rfl, le_rfl, by simp [found], nofun⟩
      | unattached => exact .inr (silent (.inr found) (by simp [outageSince, found]))
      | down => exact .inr (silent (.inl found) (by simp [outageSince, found]))

/-- The terminal is restarted only out of an outage of the waiting time at least. -/
def Earned (past : List Entry) : Prop :=
  ∀ e older, e :: older <:+ past → e.restarted = true →
    e.found = .down ∧ QuietSince (e.now - restartAfterS) older

theorem Earned.step (earned : Earned w.past) (follows : Follows w) (held : Restrained w.past)
    (v : LinkView) : Earned (w.step v).past := by
  intro e older suffix' restarted
  rcases List.suffix_cons_iff.mp suffix' with same | before
  · obtain ⟨rfl, rfl⟩ := List.cons_eq_cons.mp same
    have due := (decides_by_history follows held v).restarted.mp restarted
    refine ⟨due.down, ?_⟩
    have wait : (0 : ℚ) < restartAfterS := by norm_num [restartAfterS]
    rcases quietSince_outageSince v.now w.past with begins | quiet
    · have := due.long
      linarith
    · obtain ⟨newer, first, rest, split, early, silent⟩ := quiet
      have : first.now ≤ v.now - restartAfterS := by linarith [due.long]
      exact ⟨newer, first, rest, split, this, silent⟩
  · exact earned e older before restarted

/-- In any run the terminal is restarted only after ten minutes of silence from
the EA in an open market, no two restarts come within half an hour, no more than
three in one outage, no two alerts of one outage come within half an hour, and
the terminal is reloaded for a new build at most once. -/
theorem watchdog_holds_back (vs : List LinkView) (timed : ∀ v ∈ vs, 0 ≤ v.now) :
    ∀ w ∈ states Watch.step Watch.start vs, Restrained w.past ∧ Earned w.past := by
  have every : Meets Watch.step (fun _ _ => True) Watch.start vs :=
    meets_of_forall (fun _ _ => True.intro) _ _
  have run := every.and_forall timed
  have all := states_invariant (I := fun w => (Follows w ∧ Restrained w.past) ∧ Earned w.past)
    (fun w v both now =>
      ⟨⟨both.1.1.step v, both.1.2.step both.1.1 now.2⟩, both.2.step both.1.1 both.1.2 v⟩)
    ⟨⟨Follows.start, Restrained.start⟩, fun _ _ none => absurd (List.suffix_nil.mp none) (by simp)⟩
    run
  exact fun w mem => ⟨(all w mem).1.2, (all w mem).2⟩

theorem watchdog_holds_back_of_silentEa :
    ∀ w ∈ states Watch.step Watch.start ([0, 600, 1200, 2400].map LinkView.silentEa),
      Restrained w.past ∧ Earned w.past :=
  watchdog_holds_back _ (by decide)

end Forex.EaLink
