import Forex.Support.Run
import Mathlib.Data.List.Basic
import Mathlib.Data.Rat.Defs

/-!
The risk settings of the Mac and of the VPS. An edit on the Mac is written at
once and proposed by a coroutine that runs later; what the VPS has not confirmed
is kept in the pending store and sent again. Each value carries the number of
the Mac edit that set it, or zero for an edit on the VPS: a history variable
that no transition reads.
-/

namespace Forex
open Support

inductive SettingValue where
  | null
  | number (q : ℚ)
  | text (s : String)
deriving DecidableEq, Repr

structure Setting where
  value : SettingValue
  edit : ℕ
deriving DecidableEq, Repr

/-- A dictionary; of two entries with one key the first is the one it holds. -/
abbrev SettingsDict := List (String × Setting)

namespace SettingsDict
variable (d : SettingsDict)

def get (k : String) : Option Setting := (d.find? fun e => decide (e.1 = k)).map Prod.snd

def keep (q : String → Bool) : SettingsDict := d.filter fun e => q e.1

def stamped (edit : ℕ) (updates : List (String × SettingValue)) : SettingsDict :=
  updates.map fun e => (e.1, ⟨e.2, edit⟩)

/-- What a table of settings holds after the entries are written to it. -/
def onto (row : String → Setting) (k : String) : Setting := (d.get k).getD (row k)

end SettingsDict

def syncedSettingsKeys : List String :=
  ["risk_governor_enabled", "risk_per_trade_pct", "max_risk_per_trade_pct", "max_lot_size",
    "max_daily_loss_pct", "max_total_drawdown_pct", "cooldown_after_loss_min", "trade_strategy",
    "session_asia_enabled", "session_london_enabled", "session_ny_enabled", "accept_tg_signals",
    "auto_execute_signals", "exclude_high_risk", "tg_decision_log_enabled", "bo_live_execution",
    "bo_claude_eval_enabled", "kelly_sizing_enabled", "max_open_trades", "sg_claude_eval_enabled",
    "circuit_breaker_enabled", "circuit_breaker_losses", "circuit_breaker_cooldown_mins",
    "profit_close_usd", "circuit_breaker_active_until", "circuit_breaker_consec_losses",
    "immediate_market_entry", "ea_bridge_enabled", "dpm_enabled", "re_live_execution",
    "trail_stop_sl_pts", "trailing_stop_distance", "strategy_lot_size", "atr_collapse_threshold",
    "display_strategy_id", "strategy_lot_size_grid", "global_harvest_enabled",
    "global_harvest_threshold_usd", "hour_blocklist_enabled", "orb_auto_execute_enabled",
    "sg_live_execution", "orb_lot_size", "centralized_signal_gen_enabled", "internal_hedge_mode",
    "internal_net_exposure_max_lots", "re_learn_from_ref_signals"]

def synced (k : String) : Bool := decide (k ∈ syncedSettingsKeys)

/-- MSG_WELCOME or MSG_SETTINGS_STATE. -/
structure StateMsg where
  welcome : Bool
  settings : String → Setting

structure SyncPair where
  mac : String → Setting
  pending : SettingsDict
  /-- `propose_settings` calls that have been scheduled and have not run. -/
  queued : List SettingsDict
  flushes : ℕ
  vps : String → Setting
  broadcasts : ℕ
  linked : Bool
  connected : Bool
  toVps : List SettingsDict
  toMac : List StateMsg
  proposed : ℕ

inductive SettingsStep where
  | macEdit (updates : List (String × SettingValue))
  | proposeSettings
  | flushPending
  /-- An edit on the VPS. Its forward finds or makes a client first, and comes to
  the broadcast only when that raises. -/
  | vpsEdit (updates : List (String × SettingValue)) (raised : Bool)
  | broadcastSettings
  | vpsHandles
  | dispatch
  | link
  | disconnect
deriving DecidableEq, Repr

/-- The value written over an old one; the same value keeps the later edit. -/
def Setting.over (new old : Setting) : Setting :=
  if new.value = old.value then ⟨old.value, max old.edit new.edit⟩ else new

namespace SyncPair
variable (s : SyncPair)

def fresh (mac vps : String → SettingValue) : SyncPair where
  mac k := ⟨mac k, 0⟩
  pending := []
  queued := []
  flushes := 0
  vps k := ⟨vps k, 0⟩
  broadcasts := 0
  linked := false
  connected := false
  toVps := []
  toMac := []
  proposed := 0

/-- `_flush_pending_settings`. -/
def flush : SyncPair :=
  if s.connected && decide (s.pending ≠ []) then { s with toVps := s.toVps ++ [s.pending] } else s

def broadcast : SyncPair :=
  if s.linked then { s with toMac := s.toMac ++ [⟨false, s.vps⟩] } else s

/-- `_mirror_settings_locally`: a key with a change still pending is skipped. -/
def mirror (settings : String → Setting) : SyncPair :=
  { s with
    mac := fun k =>
      if synced k && (s.pending.get k).isNone then (settings k).over (s.mac k) else s.mac k }

/-- `remote_settings.get(k)`; the snapshot holds the synced keys. -/
def confirmed (settings : String → Setting) (k : String) : SettingValue :=
  if synced k then (settings k).value else .null

def clearConfirmed (settings : String → Setting) : SyncPair :=
  { s with
    pending := s.pending.keep fun k =>
      decide ((s.pending.get k).map Setting.value ≠ some (confirmed settings k)) }

def handleProposal (updates : SettingsDict) : SyncPair :=
  let updates := updates.keep synced
  if updates = [] then s else broadcast { s with vps := updates.onto s.vps }

def dispatchState (m : StateMsg) : SyncPair :=
  let s := s.mirror m.settings
  if m.welcome then
    { s with connected := true, flushes := if s.pending = [] then s.flushes else s.flushes + 1 }
  else s.clearConfirmed m.settings

def step : SettingsStep → SyncPair
  | .macEdit updates =>
      if updates = [] then s
      else
        let updates := SettingsDict.stamped (s.proposed + s.queued.length + 1) updates
        { s with mac := updates.onto s.mac, queued := s.queued ++ [updates] }
  | .proposeSettings =>
      match s.queued with
      | updates :: rest =>
          flush
            { s with
              pending := updates ++ s.pending
              queued := rest
              proposed := s.proposed + 1 }
      | [] => s
  | .flushPending =>
      match s.flushes with
      | n + 1 => flush { s with flushes := n }
      | 0 => s
  | .vpsEdit updates raised =>
      if updates = [] then s
      else
        { s with
          vps := (SettingsDict.stamped 0 updates).onto s.vps
          broadcasts := if raised then s.broadcasts + 1 else s.broadcasts }
  | .broadcastSettings =>
      match s.broadcasts with
      | n + 1 => broadcast { s with broadcasts := n }
      | 0 => s
  | .vpsHandles =>
      match s.toVps with
      | updates :: rest => handleProposal { s with toVps := rest } updates
      | [] => s
  | .dispatch =>
      match s.toMac with
      | m :: rest => dispatchState { s with toMac := rest } m
      | [] => s
  | .link => if s.linked then s else { s with linked := true, toMac := [⟨true, s.vps⟩] }
  | .disconnect => { s with linked := false, connected := false, toVps := [], toMac := [] }

/-- Connected, and nothing under way. -/
def Still : Prop :=
  s.connected = true ∧ s.queued = [] ∧ s.flushes = 0 ∧ s.broadcasts = 0 ∧ s.toVps = [] ∧
    s.toMac = []

def Converged : Prop :=
  s.Still → (∀ k, synced k = true → (s.mac k).value = (s.vps k).value) ∧ s.pending = []

/-- A value that a Mac edit set is not replaced by one of an older Mac edit. -/
def NotReplayed (old new : Setting) : Prop :=
  old.edit = 0 ∨ new.value = old.value ∨ new.edit = 0 ∨ old.edit ≤ new.edit

def KeepsEdits (a : SettingsStep) : Prop :=
  ∀ k, synced k = true →
    NotReplayed (s.mac k) ((s.step a).mac k) ∧ NotReplayed (s.vps k) ((s.step a).vps k)

/-- What is still behind a snapshot for one key: the snapshots after it, the
value of the VPS and the proposals on their way, in the order they take effect. -/
def behind (rest : List StateMsg) (k : String) : List Setting :=
  rest.map (fun m => m.settings k) ++ s.vps k :: s.toVps.filterMap fun d => d.get k

/-- A snapshot leaves alone what an edit of the Mac has written and not yet
proposed, and one that equals a pending value has no older edit with another
value behind it. -/
def safeDispatch (m : StateMsg) (rest : List StateMsg) : Bool :=
  (s.queued.all fun d => d.all fun e =>
    (s.pending.get e.1).isSome || decide ((m.settings e.1).value = (s.mac e.1).value)) &&
  (m.welcome || s.pending.all fun e =>
    match s.pending.get e.1 with
    | some p =>
        decide ((m.settings e.1).value ≠ p.value) ||
          (s.behind rest e.1).all fun x =>
            decide (x.edit = 0) || decide (p.edit ≤ x.edit) || decide (x.value = p.value)
    | none => true)

/-- The Mac edits synced keys only, the VPS changes none of them while a Mac is
linked unless it broadcasts, and no snapshot comes between an edit and its
proposal or confirms another edit's value. -/
def undisturbed : SettingsStep → Bool
  | .macEdit updates => updates.all fun e => synced e.1
  | .vpsEdit updates raised =>
      raised || !s.linked ||
        updates.all fun e => !synced e.1 || decide (e.2 = (s.vps e.1).value)
  | .dispatch =>
      match s.toMac with
      | m :: rest => s.safeDispatch m rest
      | [] => true
  | _ => true

end SyncPair

namespace SettingsDict
variable {d : SettingsDict} {k : String} {e : Setting}

theorem get_append (a b : SettingsDict) (k : String) :
    SettingsDict.get (a ++ b) k = (a.get k).or (b.get k) := by
  rw [get, get, get, List.find?_append]
  cases a.find? fun e => decide (e.1 = k) <;> rfl

theorem mem_of_get (h : d.get k = some e) : (k, e) ∈ d := by
  obtain ⟨entry, found, rfl⟩ := Option.map_eq_some_iff.mp h
  have own : entry.1 = k := by simpa using List.find?_some found
  subst own
  exact List.mem_of_find?_eq_some found

theorem get_of_mem {entry : String × Setting} (h : entry ∈ d) : ∃ e, d.get entry.1 = some e := by
  cases found : d.find? fun e => decide (e.1 = entry.1) with
  | none => exact absurd (List.find?_eq_none.mp found entry h) (by simp)
  | some other => exact ⟨other.2, by rw [get, found]; rfl⟩

theorem get_keep (d : SettingsDict) (q : String → Bool) (k : String) :
    (d.keep q).get k = if q k then d.get k else none := by
  induction d with
  | nil => simp [keep, get]
  | cons entry rest ih =>
      simp only [keep, get, List.filter_cons] at ih ⊢
      by_cases own : entry.1 = k
      · by_cases kept : q k = true
        · simp [own, kept]
        · simp only [own, kept, if_false, Bool.false_eq_true] at ih ⊢
          exact ih
      · by_cases kept : q entry.1 = true
        · simp only [kept, if_true, List.find?_cons, own, decide_false]
          exact ih
        · simp only [kept, if_false, Bool.false_eq_true, List.find?_cons, own, decide_false]
          exact ih

theorem edit_stamped {n : ℕ} {updates : List (String × SettingValue)} {entry : String × Setting}
    (h : entry ∈ stamped n updates) : entry.2.edit = n := by
  obtain ⟨u, -, rfl⟩ := List.mem_map.mp h
  rfl

end SettingsDict

/-- The later of two values for a key: of a newer Mac edit, or of the VPS. -/
def Setting.Before (a b : Setting) : Prop := b.edit = 0 ∨ a.edit ≤ b.edit

theorem Setting.before_refl (a : Setting) : a.Before a := .inr le_rfl

theorem pairwise_twice {l r : List Setting} {a : Setting}
    (h : (l ++ a :: r).Pairwise Setting.Before) : (l ++ a :: a :: r).Pairwise Setting.Before := by
  obtain ⟨left, right, across⟩ := List.pairwise_append.mp h
  refine List.pairwise_append.mpr ⟨left, ?_, ?_⟩
  · refine List.pairwise_cons.mpr ⟨?_, right⟩
    intro b mem
    cases List.mem_cons.mp mem with
    | inl same =>
        rw [same]
        exact a.before_refl
    | inr later => exact List.rel_of_pairwise_cons right later
  · intro b hb c mem
    cases List.mem_cons.mp mem with
    | inl same =>
        rw [same]
        exact across b hb a List.mem_cons_self
    | inr later => exact across b hb c later

namespace SyncPair

/-- What the key will be once every scheduled proposal has run, if a change of
it is pending or scheduled. -/
def latest (s : SyncPair) (k : String) : Option Setting :=
  s.queued.foldl (fun acc d => (d.get k).or acc) (s.pending.get k)

theorem foldl_or_eq_none {ds : List SettingsDict} {k : String} {acc : Option Setting} :
    ds.foldl (fun acc d => (d.get k).or acc) acc = none ↔
      acc = none ∧ ∀ d ∈ ds, d.get k = none := by
  induction ds generalizing acc with
  | nil => simp
  | cons d ds ih =>
      rw [List.foldl_cons, ih]
      simp only [Option.or_eq_none_iff, List.mem_cons, forall_eq_or_imp]
      tauto

theorem foldl_or (ds : List SettingsDict) (k : String) (acc : Option Setting) :
    ds.foldl (fun acc d => (d.get k).or acc) acc =
      (ds.foldl (fun acc d => (d.get k).or acc) none).or acc := by
  induction ds generalizing acc with
  | nil => rfl
  | cons d ds ih =>
      rw [List.foldl_cons, List.foldl_cons, ih, ih ((d.get k).or none), Option.or_none,
        Option.or_assoc]

theorem foldl_or_mem {ds : List SettingsDict} {k : String} {e : Setting}
    (h : ds.foldl (fun acc d => (d.get k).or acc) none = some e) : ∃ d ∈ ds, d.get k = some e := by
  induction ds with
  | nil => cases h
  | cons d ds ih =>
      rw [List.foldl_cons, foldl_or, Option.or_none] at h
      cases later : ds.foldl (fun acc d => (d.get k).or acc) none with
      | none =>
          rw [later] at h
          exact ⟨d, List.mem_cons_self, h⟩
      | some e' =>
          rw [later] at h
          obtain ⟨d', mem, found⟩ := ih (later.trans h)
          exact ⟨d', List.mem_cons_of_mem d mem, found⟩

theorem latest_eq_none {s : SyncPair} {k : String} :
    s.latest k = none ↔ s.pending.get k = none ∧ ∀ d ∈ s.queued, d.get k = none :=
  foldl_or_eq_none

theorem pending_latest {s : SyncPair} {k : String} {p : Setting} (found : s.pending.get k = some p)
    (idle : ∀ d ∈ s.queued, d.get k = none) : s.latest k = some p := by
  rw [latest, foldl_or, foldl_or_eq_none.mpr ⟨rfl, idle⟩, Option.none_or, found]

/-- All the values of a key that are under way, in the order they take effect. -/
def chain (s : SyncPair) (k : String) : List Setting :=
  s.behind s.toMac k ++ (s.pending.get k).toList

/-- The order of the edits: the values of a key under way follow the order of
the Mac edits, and none is older than the Mac's own. -/
structure Ordered (s : SyncPair) : Prop where
  unlinked : s.linked = false → s.toMac = [] ∧ s.connected = false
  pendingKeys : ∀ e ∈ s.pending, synced e.1 = true
  queuedKeys : ∀ d ∈ s.queued, ∀ e ∈ d, synced e.1 = true
  numbered : ∀ (i : ℕ) (d : SettingsDict), s.queued[i]? = some d →
    ∀ e ∈ d, e.2.edit = s.proposed + 1 + i
  sorted : ∀ k, synced k = true → (s.chain k).Pairwise Setting.Before
  bound : ∀ k, synced k = true → ∀ x ∈ s.chain k, x.edit ≤ s.proposed
  mine : ∀ k, synced k = true → ∀ e, s.latest k = some e → s.mac k = e
  macBound : ∀ k, synced k = true → s.latest k = none → (s.mac k).edit ≤ s.proposed
  kept : ∀ k, synced k = true → s.latest k = none →
    ∀ x ∈ s.behind s.toMac k, NotReplayed (s.mac k) x

/-- Each pending change is still to be sent, on its way, or being confirmed. -/
def Underway (s : SyncPair) : Prop :=
  ∀ k p, s.pending.get k = some p → s.connected = true →
    0 < s.flushes ∨ (∃ d ∈ s.toVps, d.get k = some p) ∨
      ∃ m ∈ s.toMac, m.welcome = false ∧ synced k = true ∧ (m.settings k).value = p.value

/-- The last snapshot on its way, or the Mac itself, has the VPS's values. -/
structure Settled (s : SyncPair) : Prop where
  last : ∀ m, s.toMac.getLast? = some m → 0 < s.broadcasts ∨
    ∀ k, synced k = true → (m.settings k).value = (s.vps k).value
  agree : s.toMac = [] → s.connected = true → 0 < s.broadcasts ∨
    ∀ k, synced k = true → s.latest k = none → (s.mac k).value = (s.vps k).value

section Wire
variable {s : SyncPair}

theorem chain_of_latest_none {k : String} (idle : s.latest k = none) :
    s.chain k = s.behind s.toMac k := by
  rw [chain, (latest_eq_none.mp idle).1, Option.toList_none, List.append_nil]

/-- A step that changes only what the VPS holds and what is on its way. -/
theorem Ordered.rewire (good : s.Ordered) {s' : SyncPair} (mac : s'.mac = s.mac)
    (pending : s'.pending = s.pending) (queued : s'.queued = s.queued)
    (proposed : s'.proposed = s.proposed)
    (unlinked : s'.linked = false → s'.toMac = [] ∧ s'.connected = false)
    (sorted : ∀ k, synced k = true → (s'.chain k).Pairwise Setting.Before)
    (same : ∀ k, synced k = true → ∀ x ∈ s'.chain k, x.edit = 0 ∨ x ∈ s.chain k) :
    s'.Ordered := by
  have latest : ∀ k, s'.latest k = s.latest k := by
    intro k
    rw [SyncPair.latest, SyncPair.latest, pending, queued]
  constructor
  · exact unlinked
  · rw [pending]
    exact good.pendingKeys
  · rw [queued]
    exact good.queuedKeys
  · rw [queued, proposed]
    exact good.numbered
  · exact sorted
  · intro k own x mem
    rw [proposed]
    cases same k own x mem with
    | inl vps =>
        rw [vps]
        exact Nat.zero_le _
    | inr old => exact good.bound k own x old
  · intro k own e found
    rw [latest] at found
    rw [mac]
    exact good.mine k own e found
  · intro k own idle
    rw [latest] at idle
    rw [mac, proposed]
    exact good.macBound k own idle
  · intro k own idle x mem
    rw [← chain_of_latest_none idle] at mem
    rw [latest] at idle
    rw [mac]
    cases same k own x mem with
    | inl vps => exact .inr (.inr (.inl vps))
    | inr old =>
        rw [chain_of_latest_none idle] at old
        exact good.kept k own idle x old

theorem chain_eq (s : SyncPair) (k : String) :
    s.chain k = s.toMac.map (fun m => m.settings k) ++
      s.vps k :: (s.toVps.filterMap (fun d => d.get k) ++ (s.pending.get k).toList) := by
  rw [chain, behind, List.append_assoc, List.cons_append]

theorem Ordered.broadcast (good : s.Ordered) : s.broadcast.Ordered := by
  rw [SyncPair.broadcast]
  split
  · next linked =>
      have chain : ∀ k, SyncPair.chain { s with toMac := s.toMac ++ [⟨false, s.vps⟩] } k =
          s.toMac.map (fun m => m.settings k) ++ s.vps k :: s.vps k ::
            (s.toVps.filterMap (fun d => d.get k) ++ (s.pending.get k).toList) := by
        intro k
        rw [chain_eq]
        simp
      refine good.rewire rfl rfl rfl rfl ?_ ?_ ?_
      · intro unlinked
        rw [linked] at unlinked
        cases unlinked
      · intro k own
        rw [chain]
        exact pairwise_twice (chain_eq s k ▸ good.sorted k own)
      · intro k own x mem
        rw [chain] at mem
        rw [chain_eq]
        simp only [List.mem_append, List.mem_cons] at mem ⊢
        tauto
  · exact good

theorem Ordered.flush (good : s.Ordered) : s.flush.Ordered := by
  rw [SyncPair.flush]
  split
  · next sending =>
      have chain : ∀ k, SyncPair.chain { s with toVps := s.toVps ++ [s.pending] } k =
          s.chain k ++ (s.pending.get k).toList := by
        intro k
        rw [chain_eq, chain_eq]
        cases found : s.pending.get k <;> simp [found]
      refine good.rewire rfl rfl rfl rfl good.unlinked ?_ ?_
      · intro k own
        rw [chain]
        have sorted := good.sorted k own
        rw [chain_eq] at sorted ⊢
        cases found : s.pending.get k with
        | none => simpa [found] using sorted
        | some p =>
            rw [found] at sorted
            have twice := pairwise_twice
              (l := s.toMac.map (fun m => m.settings k) ++
                s.vps k :: s.toVps.filterMap fun d => d.get k) (r := []) (a := p)
              (by simpa using sorted)
            simpa using twice
      · intro k own x mem
        rw [chain] at mem
        rw [chain_eq] at mem ⊢
        simp only [List.mem_append, List.mem_cons] at mem ⊢
        tauto
  · exact good

theorem Ordered.disconnect (good : s.Ordered) : (s.step .disconnect).Ordered := by
  have sub : ∀ k, ((s.step .disconnect).chain k).Sublist (s.chain k) := by
    intro k
    rw [chain_eq, chain_eq]
    simp only [step, List.map_nil, List.nil_append, List.filterMap_nil]
    exact ((List.sublist_append_right _ _).cons_cons _).trans (List.sublist_append_right _ _)
  refine good.rewire rfl rfl rfl rfl ?_ ?_ ?_
  · exact fun _ => ⟨rfl, rfl⟩
  · intro k own
    exact (good.sorted k own).sublist (sub k)
  · intro k own x mem
    exact .inr ((sub k).subset mem)

theorem Ordered.link (good : s.Ordered) : (s.step .link).Ordered := by
  rw [step]
  split
  · exact good
  · next unlinked =>
      have empty := (good.unlinked (by simpa using unlinked)).1
      have chain : ∀ k, SyncPair.chain { s with linked := true, toMac := [⟨true, s.vps⟩] } k =
          s.vps k :: s.chain k := by
        intro k
        rw [chain_eq, chain_eq, empty]
        rfl
      refine good.rewire rfl rfl rfl rfl ?_ ?_ ?_
      · intro h
        cases h
      · intro k own
        have sorted := good.sorted k own
        rw [chain, chain_eq, empty]
        rw [chain_eq, empty] at sorted
        exact pairwise_twice (l := []) sorted
      · intro k own x mem
        rw [chain, chain_eq, empty] at mem
        rw [chain_eq, empty]
        simp only [List.map_nil, List.nil_append, List.mem_cons] at mem ⊢
        tauto

theorem pairwise_zero {l r : List Setting} {a b : Setting} (zero : b.edit = 0)
    (h : (l ++ a :: r).Pairwise Setting.Before) : (l ++ b :: r).Pairwise Setting.Before := by
  obtain ⟨left, right, across⟩ := List.pairwise_append.mp h
  refine List.pairwise_append.mpr ⟨left, ?_, ?_⟩
  · refine List.pairwise_cons.mpr ⟨fun c _ => .inr ?_, (List.pairwise_cons.mp right).2⟩
    rw [zero]
    exact Nat.zero_le _
  · intro c hc d mem
    cases List.mem_cons.mp mem with
    | inl same => exact .inl (same ▸ zero)
    | inr later => exact across c hc d (List.mem_cons_of_mem a later)

theorem Ordered.vpsEdit (good : s.Ordered) (updates : List (String × SettingValue))
    (raised : Bool) : (s.step (.vpsEdit updates raised)).Ordered := by
  rw [step]
  split
  · exact good
  · have written : ∀ k, ((SettingsDict.stamped 0 updates).onto s.vps k).edit = 0 ∨
        (SettingsDict.stamped 0 updates).onto s.vps k = s.vps k := by
      intro k
      rw [SettingsDict.onto]
      cases found : (SettingsDict.stamped 0 updates).get k with
      | none => exact .inr rfl
      | some e => exact .inl (SettingsDict.edit_stamped (SettingsDict.mem_of_get found))
    refine good.rewire rfl rfl rfl rfl good.unlinked ?_ ?_
    · intro k own
      rw [chain_eq]
      have sorted := good.sorted k own
      rw [chain_eq] at sorted
      cases written k with
      | inl zero => exact pairwise_zero zero sorted
      | inr same =>
          dsimp only
          rw [same]
          exact sorted
    · intro k own x mem
      rw [chain_eq] at mem ⊢
      simp only [List.mem_append, List.mem_cons] at mem ⊢
      cases written k with
      | inl zero =>
          by_cases vps : x = (SettingsDict.stamped 0 updates).onto s.vps k
          · exact .inl (vps ▸ zero)
          · tauto
      | inr same =>
          rw [same] at mem
          exact .inr mem

theorem Ordered.applied (good : s.Ordered) {updates : SettingsDict} {rest : List SettingsDict}
    (head : s.toVps = updates :: rest) :
    Ordered { s with toVps := rest, vps := (updates.keep synced).onto s.vps } := by
  have value : ∀ k, synced k = true →
      (updates.keep synced).onto s.vps k = (updates.get k).getD (s.vps k) := by
    intro k own
    rw [SettingsDict.onto, SettingsDict.get_keep, if_pos own]
  have sub : ∀ k, synced k = true →
      (SyncPair.chain { s with toVps := rest, vps := (updates.keep synced).onto s.vps } k).Sublist
        (s.chain k) := by
    intro k own
    rw [chain_eq, chain_eq, head]
    dsimp only
    rw [value k own]
    apply List.Sublist.append_left
    cases found : updates.get k with
    | none => simp [found]
    | some e => simp [found]
  refine good.rewire rfl rfl rfl rfl good.unlinked ?_ ?_
  · intro k own
    exact (good.sorted k own).sublist (sub k own)
  · intro k own x mem
    exact .inr ((sub k own).subset mem)

theorem keep_synced_eq_nil {updates : SettingsDict} (h : updates.keep synced = []) {k : String}
    (own : synced k = true) : updates.get k = none := by
  have kept := SettingsDict.get_keep updates synced k
  rw [if_pos own, h] at kept
  rw [← kept]
  rfl

theorem Ordered.vpsHandles (good : s.Ordered) : (s.step .vpsHandles).Ordered := by
  rw [step]
  split
  · next updates rest head =>
      have applied := good.applied head
      rw [handleProposal]
      dsimp only
      split
      · next none =>
          rw [none] at applied
          exact applied
      · exact applied.broadcast
  · exact good

theorem Ordered.macEdit (good : s.Ordered) {updates : List (String × SettingValue)}
    (own : s.undisturbed (.macEdit updates) = true) : (s.step (.macEdit updates)).Ordered := by
  rw [step]
  split
  · exact good
  · dsimp only
    generalize stamp : SettingsDict.stamped (s.proposed + s.queued.length + 1) updates = new
    have latest : ∀ k,
        SyncPair.latest { s with mac := new.onto s.mac, queued := s.queued ++ [new] } k =
          (new.get k).or (s.latest k) := by
      intro k
      rw [SyncPair.latest, SyncPair.latest, List.foldl_append]
      rfl
    constructor
    · exact good.unlinked
    · exact good.pendingKeys
    · intro d mem e he
      cases List.mem_append.mp mem with
      | inl old => exact good.queuedKeys d old e he
      | inr last =>
          rw [List.mem_singleton.mp last, ← stamp] at he
          obtain ⟨u, hu, rfl⟩ := List.mem_map.mp he
          exact List.all_eq_true.mp own u hu
    · intro i d at_ e he
      rw [List.getElem?_append] at at_
      split_ifs at at_ with old
      · exact good.numbered i d at_ e he
      · obtain ⟨inside, rfl⟩ := List.getElem?_eq_some_iff.mp at_
        simp only [List.length_singleton] at inside
        simp only [List.getElem_singleton] at he
        rw [← stamp] at he
        rw [SettingsDict.edit_stamped he]
        dsimp only
        omega
    · exact good.sorted
    · exact good.bound
    · intro k isSynced e found
      rw [latest] at found
      dsimp only [SettingsDict.onto]
      cases changed : new.get k with
      | none =>
          rw [changed] at found
          exact good.mine k isSynced e found
      | some e' =>
          rw [changed] at found
          exact Option.some.inj found
    · intro k isSynced idle
      rw [latest, Option.or_eq_none_iff] at idle
      dsimp only [SettingsDict.onto]
      rw [idle.1]
      exact good.macBound k isSynced idle.2
    · intro k isSynced idle
      rw [latest, Option.or_eq_none_iff] at idle
      dsimp only [SettingsDict.onto]
      rw [idle.1]
      exact good.kept k isSynced idle.2

theorem Ordered.proposed (good : s.Ordered) {updates : SettingsDict} {rest : List SettingsDict}
    (head : s.queued = updates :: rest) :
    Ordered { s with
      pending := updates ++ s.pending, queued := rest, proposed := s.proposed + 1 } := by
  have newest : ∀ k e, updates.get k = some e → e.edit = s.proposed + 1 := by
    intro k e found
    exact good.numbered 0 updates (by rw [head]; rfl) (k, e) (SettingsDict.mem_of_get found)
  have latest : ∀ k, SyncPair.latest
      { s with pending := updates ++ s.pending, queued := rest, proposed := s.proposed + 1 } k =
        s.latest k := by
    intro k
    rw [SyncPair.latest, SyncPair.latest, head, List.foldl_cons, SettingsDict.get_append]
  have chain : ∀ k, SyncPair.chain
      { s with pending := updates ++ s.pending, queued := rest, proposed := s.proposed + 1 } k =
        s.behind s.toMac k ++ ((updates.get k).or (s.pending.get k)).toList := by
    intro k
    rw [SyncPair.chain, SettingsDict.get_append]
    rfl
  have older : ∀ k, synced k = true → ∀ x ∈ s.behind s.toMac k, x.edit ≤ s.proposed :=
    fun k own x mem => good.bound k own x (List.mem_append_left _ mem)
  constructor
  · exact good.unlinked
  · intro e mem
    cases List.mem_append.mp mem with
    | inl new => exact good.queuedKeys updates (by rw [head]; exact List.mem_cons_self) e new
    | inr old => exact good.pendingKeys e old
  · intro d mem
    exact good.queuedKeys d (by rw [head]; exact List.mem_cons_of_mem _ mem)
  · intro i d at_ e he
    have number := good.numbered (i + 1) d (by rw [head]; exact at_) e he
    dsimp only
    omega
  · intro k own
    rw [chain]
    cases found : updates.get k with
    | none => exact good.sorted k own
    | some e =>
        refine List.pairwise_append.mpr ⟨?_, List.pairwise_singleton _ e, ?_⟩
        · exact (good.sorted k own).sublist (List.sublist_append_left _ _)
        · intro a ha b hb
          rw [List.mem_singleton.mp hb, Setting.Before, newest k e found]
          exact .inr (Nat.le_succ_of_le (older k own a ha))
  · intro k own x mem
    rw [chain] at mem
    cases List.mem_append.mp mem with
    | inl before => exact Nat.le_succ_of_le (older k own x before)
    | inr last =>
        cases found : updates.get k with
        | none =>
            rw [found] at last
            exact Nat.le_succ_of_le (good.bound k own x (List.mem_append_right _ last))
        | some e =>
            rw [found] at last
            rw [List.mem_singleton.mp last, newest k e found]
  · intro k own e found
    rw [latest] at found
    exact good.mine k own e found
  · intro k own idle
    rw [latest] at idle
    exact Nat.le_succ_of_le (good.macBound k own idle)
  · intro k own idle
    rw [latest] at idle
    exact good.kept k own idle

theorem Ordered.proposeSettings (good : s.Ordered) : (s.step .proposeSettings).Ordered := by
  rw [step]
  split
  · next updates rest head => exact (good.proposed head).flush
  · exact good

theorem Ordered.flushPending (good : s.Ordered) : (s.step .flushPending).Ordered := by
  rw [step]
  split
  · next n _ =>
      have dropped : Ordered { s with flushes := n } :=
        ⟨good.unlinked, good.pendingKeys, good.queuedKeys, good.numbered, good.sorted, good.bound,
          good.mine, good.macBound, good.kept⟩
      exact dropped.flush
  · exact good

theorem Ordered.broadcastSettings (good : s.Ordered) : (s.step .broadcastSettings).Ordered := by
  rw [step]
  split
  · next n _ =>
      have dropped : Ordered { s with broadcasts := n } :=
        ⟨good.unlinked, good.pendingKeys, good.queuedKeys, good.numbered, good.sorted, good.bound,
          good.mine, good.macBound, good.kept⟩
      exact dropped.broadcast
  · exact good

end Wire

theorem NotReplayed.over {old new x : Setting} (kept : NotReplayed old x) (before : new.Before x) :
    NotReplayed (new.over old) x := by
  rw [Setting.over]
  split
  · next same =>
      cases kept with
      | inl vps =>
          cases before with
          | inl zero => exact .inr (.inr (.inl zero))
          | inr le => exact .inr (.inr (.inr (by dsimp only; omega)))
      | inr rest =>
          cases rest with
          | inl value => exact .inr (.inl value)
          | inr rest =>
              cases rest with
              | inl zero => exact .inr (.inr (.inl zero))
              | inr le =>
                  cases before with
                  | inl zero => exact .inr (.inr (.inl zero))
                  | inr le' => exact .inr (.inr (.inr (max_le le le')))
  · cases before with
    | inl zero => exact .inr (.inr (.inl zero))
    | inr le => exact .inr (.inr (.inr le))

theorem edit_over_le {old new : Setting} {n : ℕ} (hold : old.edit ≤ n) (hnew : new.edit ≤ n) :
    (new.over old).edit ≤ n := by
  rw [Setting.over]
  split
  · exact max_le hold hnew
  · exact hnew

theorem over_of_same {old new : Setting} (value : new.value = old.value)
    (edit : new.edit ≤ old.edit) : new.over old = old := by
  rw [Setting.over, if_pos value, max_eq_left edit]

section Dispatch
variable {s : SyncPair} {m : StateMsg} {rest : List StateMsg}

variable (s m rest) in
/-- The Mac after a dispatch, and what is left of its pending store. -/
theorem dispatchState_mac (k : String) :
    (dispatchState { s with toMac := rest } m).mac k =
      if synced k && (s.pending.get k).isNone then (m.settings k).over (s.mac k) else s.mac k := by
  rw [dispatchState]
  split <;> rfl

variable (s m rest) in
theorem dispatchState_pending (k : String) :
    (dispatchState { s with toMac := rest } m).pending.get k =
      if m.welcome ∨ (s.pending.get k).map Setting.value ≠ some (confirmed m.settings k) then
        s.pending.get k
      else none := by
  rw [dispatchState]
  cases m.welcome with
  | true => simp [mirror]
  | false =>
      simp only [mirror, clearConfirmed, SettingsDict.get_keep, Bool.false_eq_true, if_false,
        false_or, decide_eq_true_eq]

variable (s m rest) in
theorem dispatchState_wire :
    let s' := dispatchState { s with toMac := rest } m
    s'.toMac = rest ∧ s'.vps = s.vps ∧ s'.toVps = s.toVps ∧ s'.queued = s.queued ∧
      s'.proposed = s.proposed ∧ s'.linked = s.linked ∧ s'.broadcasts = s.broadcasts := by
  rw [dispatchState]
  dsimp only
  split <;> exact ⟨rfl, rfl, rfl, rfl, rfl, rfl, rfl⟩

/-- What the dispatch may meet of a key: a scheduled edit whose value it leaves
alone, a pending edit it skips, or nothing. -/
theorem safe_queued (safe : s.safeDispatch m rest = true) {d : SettingsDict} (mem : d ∈ s.queued)
    {k : String} {e : Setting} (found : d.get k = some e) (free : s.pending.get k = none) :
    (m.settings k).value = (s.mac k).value := by
  have all := List.all_eq_true.mp (Bool.and_eq_true_iff.mp safe).1 d mem
  have own := List.all_eq_true.mp all (k, e) (SettingsDict.mem_of_get found)
  simpa [free] using own

theorem safe_confirmed (safe : s.safeDispatch m rest = true) (state : m.welcome = false)
    {k : String} {p : Setting} (found : s.pending.get k = some p)
    (value : (m.settings k).value = p.value) :
    ∀ x ∈ s.behind rest k, x.edit = 0 ∨ p.edit ≤ x.edit ∨ x.value = p.value := by
  have all := (Bool.and_eq_true_iff.mp safe).2
  rw [state, Bool.false_or] at all
  have own := List.all_eq_true.mp all (k, p) (SettingsDict.mem_of_get found)
  simp only [found, value, ne_eq, not_true_eq_false, decide_false, Bool.false_or] at own
  intro x mem
  have one := List.all_eq_true.mp own x mem
  simpa [or_assoc] using one

theorem chain_head (head : s.toMac = m :: rest) (k : String) :
    s.chain k = m.settings k :: (s.behind rest k ++ (s.pending.get k).toList) := by
  rw [chain_eq, head, behind]
  simp

theorem Ordered.sorted_head (good : s.Ordered) (head : s.toMac = m :: rest) {k : String}
    (own : synced k = true) :
    (∀ x ∈ s.behind rest k ++ (s.pending.get k).toList, (m.settings k).Before x) ∧
      (s.behind rest k ++ (s.pending.get k).toList).Pairwise Setting.Before := by
  have sorted := good.sorted k own
  rw [chain_head head] at sorted
  exact List.pairwise_cons.mp sorted

theorem Ordered.snapshot_le (good : s.Ordered) (head : s.toMac = m :: rest) {k : String}
    (own : synced k = true) : (m.settings k).edit ≤ s.proposed := by
  apply good.bound k own
  rw [chain_head head]
  exact List.mem_cons_self

/-- The edits scheduled are numbered on from those proposed. -/
theorem Ordered.scheduled_edit (good : s.Ordered) {d : SettingsDict} (mem : d ∈ s.queued)
    {k : String} {e : Setting} (found : d.get k = some e) :
    s.proposed < e.edit ∧ e.edit ≤ s.proposed + s.queued.length := by
  obtain ⟨i, at_⟩ := List.mem_iff_getElem?.mp mem
  have inside := (List.getElem?_eq_some_iff.mp at_).1
  have number := good.numbered i d at_ (k, e) (SettingsDict.mem_of_get found)
  dsimp only at number
  omega

/-- A key that is scheduled only: its snapshot has the value of the Mac. -/
theorem Ordered.over_scheduled (good : s.Ordered) (head : s.toMac = m :: rest)
    (safe : s.safeDispatch m rest = true) {k : String} (own : synced k = true)
    (free : s.pending.get k = none) {e : Setting} (scheduled : s.latest k = some e) :
    (m.settings k).over (s.mac k) = e := by
  have mine := good.mine k own e scheduled
  rw [SyncPair.latest, free] at scheduled
  obtain ⟨d, mem, get⟩ := foldl_or_mem scheduled
  have older := (good.snapshot_le head own).trans (good.scheduled_edit mem get).1.le
  rw [over_of_same (safe_queued safe mem get free) (mine.symm ▸ older), mine]

/-- A key of which nothing is pending or scheduled takes the snapshot. -/
theorem Ordered.kept_over (good : s.Ordered) (head : s.toMac = m :: rest) {k : String}
    (own : synced k = true) (idle : s.latest k = none) :
    ∀ x ∈ s.behind rest k, NotReplayed ((m.settings k).over (s.mac k)) x := by
  intro x mem
  apply NotReplayed.over
  · apply good.kept k own idle
    rw [head]
    exact List.mem_cons_of_mem _ mem
  · exact (good.sorted_head head own).1 x (List.mem_append_left _ mem)

/-- A pending change whose snapshot has come: nothing older is behind it. -/
theorem kept_confirmed (safe : s.safeDispatch m rest = true) {k : String} (own : synced k = true)
    {p : Setting} (found : s.pending.get k = some p)
    (confirmed : ¬(m.welcome = true ∨
      (s.pending.get k).map Setting.value ≠ some (confirmed m.settings k))) :
    ∀ x ∈ s.behind rest k, NotReplayed p x := by
  intro x mem
  rw [not_or, not_not, found, SyncPair.confirmed, if_pos own] at confirmed
  have value : (m.settings k).value = p.value := (Option.some.inj confirmed.2).symm
  have behind := safe_confirmed safe (by simpa using confirmed.1) found value x mem
  cases behind with
  | inl zero => exact .inr (.inr (.inl zero))
  | inr behind =>
      cases behind with
      | inl later => exact .inr (.inr (.inr later))
      | inr same => exact .inr (.inl same)

theorem Ordered.linked_of_toMac (good : s.Ordered) (head : s.toMac = m :: rest) :
    s.linked = true := by
  cases linked : s.linked with
  | true => rfl
  | false =>
      have empty := (good.unlinked linked).1
      rw [head] at empty
      cases empty

/-- A dispatch takes entries from the pending store and adds none. -/
theorem dispatchState_pending_subset :
    ∀ e ∈ (dispatchState { s with toMac := rest } m).pending, e ∈ s.pending := by
  intro e mem
  rw [dispatchState] at mem
  split at mem
  · exact mem
  · exact (List.mem_filter.mp mem).1

theorem dispatchState_behind (k : String) :
    (dispatchState { s with toMac := rest } m).behind
      (dispatchState { s with toMac := rest } m).toMac k = s.behind rest k := by
  obtain ⟨toMac, vps, toVps, -⟩ := dispatchState_wire s m rest
  rw [behind, toMac, vps, toVps, ← behind]

/-- The snapshot leaves the chain, and with it perhaps the pending value. -/
theorem dispatchState_chain (k : String) :
    ((dispatchState { s with toMac := rest } m).chain k).Sublist
      (s.behind rest k ++ (s.pending.get k).toList) := by
  rw [SyncPair.chain, dispatchState_behind, dispatchState_pending]
  apply List.Sublist.append_left
  split
  · exact List.Sublist.refl _
  · exact List.nil_sublist _

theorem dispatchState_latest {k : String} {e : Setting}
    (found : (dispatchState { s with toMac := rest } m).latest k = some e) :
    s.latest k = some e := by
  obtain ⟨-, -, -, queued, -⟩ := dispatchState_wire s m rest
  rw [SyncPair.latest, queued, foldl_or, dispatchState_pending] at found
  rw [SyncPair.latest, foldl_or]
  split at found
  · exact found
  · rw [Option.or_none] at found
    rw [found, Option.some_or]

theorem dispatchState_idle {k : String}
    (idle : (dispatchState { s with toMac := rest } m).latest k = none) :
    ∀ d ∈ s.queued, d.get k = none := by
  obtain ⟨-, -, -, queued, -⟩ := dispatchState_wire s m rest
  rw [← queued]
  exact (latest_eq_none.mp idle).2

theorem Ordered.dispatched (good : s.Ordered) (head : s.toMac = m :: rest)
    (safe : s.safeDispatch m rest = true) :
    (dispatchState { s with toMac := rest } m).Ordered := by
  obtain ⟨-, -, -, queued, proposed, sameLink, -⟩ := dispatchState_wire s m rest
  constructor
  · intro unlinked
    rw [sameLink, good.linked_of_toMac head] at unlinked
    cases unlinked
  · intro e mem
    exact good.pendingKeys e (dispatchState_pending_subset e mem)
  · rw [queued]
    exact good.queuedKeys
  · rw [queued, proposed]
    exact good.numbered
  · intro k own
    exact (good.sorted_head head own).2.sublist (dispatchState_chain k)
  · intro k own x mem
    rw [proposed]
    apply good.bound k own
    rw [chain_head head]
    exact List.mem_cons_of_mem _ ((dispatchState_chain k).subset mem)
  · intro k own e found
    rw [dispatchState_mac, own, Bool.true_and]
    cases free : s.pending.get k with
    | some p => exact good.mine k own e (dispatchState_latest found)
    | none =>
        rw [Option.isNone_none, if_pos rfl]
        exact good.over_scheduled head safe own free (dispatchState_latest found)
  · intro k own idle
    rw [dispatchState_mac, own, Bool.true_and, proposed]
    cases free : s.pending.get k with
    | none =>
        rw [Option.isNone_none, if_pos rfl]
        have wasIdle : s.latest k = none := latest_eq_none.mpr ⟨free, dispatchState_idle idle⟩
        exact edit_over_le (good.macBound k own wasIdle) (good.snapshot_le head own)
    | some p =>
        have mine := good.mine k own p (pending_latest free (dispatchState_idle idle))
        rw [Option.isNone_some, if_neg Bool.false_ne_true, mine]
        apply good.bound k own
        rw [chain_head head, free]
        exact List.mem_cons_of_mem _ (List.mem_append_right _ List.mem_cons_self)
  · intro k own idle x mem
    rw [dispatchState_behind] at mem
    rw [dispatchState_mac, own, Bool.true_and]
    cases free : s.pending.get k with
    | none =>
        have wasIdle : s.latest k = none := latest_eq_none.mpr ⟨free, dispatchState_idle idle⟩
        rw [Option.isNone_none, if_pos rfl]
        exact good.kept_over head own wasIdle x mem
    | some p =>
        have mine := good.mine k own p (pending_latest free (dispatchState_idle idle))
        have cleared := (latest_eq_none.mp idle).1
        rw [dispatchState_pending] at cleared
        split at cleared
        · rw [free] at cleared
          cases cleared
        · next confirmed =>
            rw [Option.isNone_some, if_neg Bool.false_ne_true, mine]
            exact kept_confirmed safe own free confirmed x mem

theorem Ordered.dispatch (good : s.Ordered) (calm : s.undisturbed .dispatch = true) :
    (s.step .dispatch).Ordered := by
  rw [step]
  split
  · next m rest head =>
      rw [undisturbed, head] at calm
      exact good.dispatched head calm
  · exact good

end Dispatch

section Settling
variable {s : SyncPair}

theorem Ordered.step (good : s.Ordered) (a : SettingsStep) (calm : s.undisturbed a = true) :
    (s.step a).Ordered := by
  cases a with
  | macEdit updates => exact good.macEdit calm
  | proposeSettings => exact good.proposeSettings
  | flushPending => exact good.flushPending
  | vpsEdit updates raised => exact good.vpsEdit updates raised
  | broadcastSettings => exact good.broadcastSettings
  | vpsHandles => exact good.vpsHandles
  | dispatch => exact good.dispatch calm
  | link => exact good.link
  | disconnect => exact good.disconnect

theorem Ordered.linked_of_connected (good : s.Ordered) (h : s.connected = true) :
    s.linked = true := by
  cases linked : s.linked with
  | true => rfl
  | false =>
      rw [(good.unlinked linked).2] at h
      cases h

theorem flush_fields :
    s.flush.mac = s.mac ∧ s.flush.vps = s.vps ∧ s.flush.pending = s.pending ∧
      s.flush.queued = s.queued ∧ s.flush.connected = s.connected ∧ s.flush.toMac = s.toMac ∧
      s.flush.broadcasts = s.broadcasts := by
  rw [flush]
  split <;> exact ⟨rfl, rfl, rfl, rfl, rfl, rfl, rfl⟩

theorem broadcast_fields :
    s.broadcast.mac = s.mac ∧ s.broadcast.vps = s.vps ∧ s.broadcast.pending = s.pending ∧
      s.broadcast.connected = s.connected ∧ s.broadcast.flushes = s.flushes ∧
      s.broadcast.toVps = s.toVps := by
  rw [broadcast]
  split <;> exact ⟨rfl, rfl, rfl, rfl, rfl, rfl⟩

/-- Whatever the node is connected to, a flush has everything pending on its way. -/
theorem underway_flush (s : SyncPair) : s.flush.Underway := by
  intro k p found connected
  obtain ⟨-, -, pending, -, same, -⟩ := flush_fields (s := s)
  rw [pending] at found
  rw [same] at connected
  have nonempty : s.pending ≠ [] := by
    intro none
    rw [none] at found
    cases found
  rw [flush, connected, decide_eq_true nonempty, Bool.and_self, if_pos rfl]
  exact .inr (.inl ⟨s.pending, List.mem_append_right _ List.mem_cons_self, found⟩)

theorem Underway.broadcast (way : s.Underway) : s.broadcast.Underway := by
  intro k p found connected
  obtain ⟨-, -, pending, same, flushes, toVps⟩ := broadcast_fields (s := s)
  rw [pending] at found
  rw [same] at connected
  rw [flushes, toVps]
  cases way k p found connected with
  | inl flush => exact .inl flush
  | inr sent =>
      cases sent with
      | inl proposal => exact .inr (.inl proposal)
      | inr snapshot =>
          obtain ⟨m, mem, value⟩ := snapshot
          refine .inr (.inr ⟨m, ?_, value⟩)
          rw [SyncPair.broadcast]
          split
          · exact List.mem_append_left _ mem
          · exact mem

theorem Underway.vpsHandles (way : s.Underway) (good : s.Ordered) :
    (s.step .vpsHandles).Underway := by
  rw [SyncPair.step]
  split
  · next updates rest head =>
      rw [handleProposal]
      dsimp only
      -- the snapshot sent back confirms every change that the proposal carries
      have carried : ∀ k p, s.pending.get k = some p → updates.get k = some p →
          ((updates.keep synced).onto s.vps k).value = p.value ∧ synced k = true := by
        intro k p found sent
        have own : synced k = true := good.pendingKeys _ (SettingsDict.mem_of_get found)
        rw [SettingsDict.onto, SettingsDict.get_keep, if_pos own, sent]
        exact ⟨rfl, own⟩
      split
      · next none =>
          intro k p found connected
          cases way k p found connected with
          | inl flush => exact .inl flush
          | inr sent =>
              cases sent with
              | inr snapshot => exact .inr (.inr snapshot)
              | inl proposal =>
                  obtain ⟨d, mem, get⟩ := proposal
                  rw [head] at mem
                  cases List.mem_cons.mp mem with
                  | inr later => exact .inr (.inl ⟨d, later, get⟩)
                  | inl first =>
                      rw [first] at get
                      rw [keep_synced_eq_nil none (carried k p found get).2] at get
                      cases get
      · intro k p found connected
        obtain ⟨-, -, pending, same, flushes, toVps⟩ := broadcast_fields
          (s := { s with toVps := rest, vps := (updates.keep synced).onto s.vps })
        rw [pending] at found
        rw [same] at connected
        rw [flushes, toVps, SyncPair.broadcast]
        dsimp only at found connected ⊢
        rw [if_pos (good.linked_of_connected connected)]
        cases way k p found connected with
        | inl flush => exact .inl flush
        | inr sent =>
            cases sent with
            | inr snapshot =>
                obtain ⟨m, mem, value⟩ := snapshot
                exact .inr (.inr ⟨m, List.mem_append_left _ mem, value⟩)
            | inl proposal =>
                obtain ⟨d, mem, get⟩ := proposal
                rw [head] at mem
                cases List.mem_cons.mp mem with
                | inr later => exact .inr (.inl ⟨d, later, get⟩)
                | inl first =>
                    rw [first] at get
                    obtain ⟨value, own⟩ := carried k p found get
                    refine .inr (.inr ⟨⟨false, _⟩, ?_, rfl, own, value⟩)
                    exact List.mem_append_right _ List.mem_cons_self
  · exact way

theorem Underway.dispatched {m : StateMsg} {rest : List StateMsg} (way : s.Underway)
    (good : s.Ordered) (head : s.toMac = m :: rest) :
    (dispatchState { s with toMac := rest } m).Underway := by
  intro k p found connected
  have pending := dispatchState_pending s m rest k
  rw [found] at pending
  rw [dispatchState] at connected ⊢
  split at pending
  · next kept =>
      have own : synced k = true := good.pendingKeys _ (SettingsDict.mem_of_get pending.symm)
      have nonempty : s.pending ≠ [] := by
        intro none
        rw [none] at pending
        cases pending
      split
      · next welcome =>
          refine .inl ?_
          dsimp only
          split
          · next none => exact absurd none nonempty
          · exact Nat.succ_pos _
      · next state =>
          rw [if_neg state] at connected
          cases way k p pending.symm connected with
          | inl flush => exact .inl flush
          | inr sent =>
              cases sent with
              | inl proposal => exact .inr (.inl proposal)
              | inr snapshot =>
                  obtain ⟨m', mem, told⟩ := snapshot
                  rw [head] at mem
                  cases List.mem_cons.mp mem with
                  | inr later => exact .inr (.inr ⟨m', later, told⟩)
                  | inl first =>
                      -- the snapshot at hand would have cleared the change
                      rw [first] at told
                      rw [← pending, SyncPair.confirmed, if_pos own, told.2.2] at kept
                      simp [state] at kept
  · cases pending

theorem Underway.step (way : s.Underway) (good : s.Ordered) (a : SettingsStep) :
    (s.step a).Underway := by
  cases a with
  | macEdit updates =>
      rw [SyncPair.step]
      split <;> exact way
  | proposeSettings =>
      rw [SyncPair.step]
      split
      · exact underway_flush _
      · exact way
  | flushPending =>
      rw [SyncPair.step]
      split
      · exact underway_flush _
      · exact way
  | vpsEdit updates raised =>
      rw [SyncPair.step]
      split <;> exact way
  | broadcastSettings =>
      rw [SyncPair.step]
      split
      · exact Underway.broadcast (s := { s with broadcasts := _ }) way
      · exact way
  | vpsHandles => exact way.vpsHandles good
  | dispatch =>
      rw [SyncPair.step]
      split
      · next head => exact way.dispatched good head
      · exact way
  | link =>
      rw [SyncPair.step]
      split
      · exact way
      · next unlinked =>
          intro k p _ connected
          exact absurd (good.linked_of_connected connected) unlinked
  | disconnect =>
      intro k p _ connected
      cases connected

theorem settled_broadcast (unlinked : s.linked = false → s.toMac = [] ∧ s.connected = false) :
    s.broadcast.Settled := by
  rw [broadcast]
  split
  · constructor
    · intro m last
      rw [List.getLast?_concat] at last
      rw [← Option.some.inj last]
      exact .inr fun _ _ => rfl
    · intro none
      simp at none
  · next off =>
      have empty := unlinked (by simpa using off)
      constructor
      · intro m last
        rw [empty.1] at last
        cases last
      · intro _ connected
        rw [empty.2] at connected
        cases connected

theorem Settled.flush (h : s.Settled) : s.flush.Settled := by
  obtain ⟨mac, vps, pending, queued, connected, toMac, broadcasts⟩ := flush_fields (s := s)
  have latest : ∀ k, s.flush.latest k = s.latest k := by
    intro k
    rw [SyncPair.latest, SyncPair.latest, pending, queued]
  constructor
  · rw [toMac, vps, broadcasts]
    exact h.last
  · rw [toMac, connected, broadcasts, mac, vps]
    intro empty on
    cases h.agree empty on with
    | inl soon => exact .inl soon
    | inr agree =>
        refine .inr fun k own idle => agree k own ?_
        rw [← latest]
        exact idle

theorem value_over (new old : Setting) : (new.over old).value = new.value := by
  rw [Setting.over]
  split
  · next same => exact same.symm
  · rfl

theorem Settled.vpsHandles (h : s.Settled) (good : s.Ordered) : (s.step .vpsHandles).Settled := by
  rw [SyncPair.step]
  split
  · next updates rest _ =>
      rw [handleProposal]
      dsimp only
      split
      · exact ⟨h.last, h.agree⟩
      · exact settled_broadcast (s := { s with toVps := rest, vps := _ }) good.unlinked
  · exact h

theorem Settled.dispatched {m : StateMsg} {rest : List StateMsg} (h : s.Settled) (good : s.Ordered)
    (head : s.toMac = m :: rest) : (dispatchState { s with toMac := rest } m).Settled := by
  have mac := dispatchState_mac s m rest
  have pending := dispatchState_pending s m rest
  obtain ⟨toMac, vps, -, queued, -, -, broadcasts⟩ :=
    dispatchState_wire s m rest
  generalize dispatchState { s with toMac := rest } m = s'
    at mac pending toMac vps queued broadcasts
  constructor
  · rw [toMac, vps, broadcasts]
    intro m' last
    apply h.last
    rw [head, List.getLast?_cons, last]
    rfl
  · rw [toMac, vps, broadcasts]
    intro empty _
    cases h.last m (by rw [head, empty]; rfl) with
    | inl soon => exact .inl soon
    | inr told =>
        refine .inr fun k own idle => ?_
        rw [mac, own, Bool.true_and]
        cases free : s.pending.get k with
        | none =>
            rw [Option.isNone_none, if_pos rfl, value_over]
            exact told k own
        | some p =>
            -- the last snapshot has confirmed the change
            have cleared := latest_eq_none.mp idle
            rw [queued] at cleared
            have unkept := cleared.1
            rw [pending] at unkept
            split at unkept
            · rw [free] at unkept
              cases unkept
            · next confirmed =>
                rw [not_or, not_not, free, SyncPair.confirmed, if_pos own] at confirmed
                rw [Option.isNone_some, if_neg Bool.false_ne_true,
                  good.mine k own p (pending_latest free cleared.2)]
                exact (Option.some.inj confirmed.2).trans (told k own)

theorem Settled.macEdit (h : s.Settled) (updates : List (String × SettingValue)) :
    (s.step (.macEdit updates)).Settled := by
  rw [SyncPair.step]
  split
  · exact h
  · refine ⟨h.last, ?_⟩
    intro empty connected
    cases h.agree empty connected with
    | inl soon => exact .inl soon
    | inr agree =>
        refine .inr fun k own idle => ?_
        rw [SyncPair.latest, List.foldl_append, List.foldl_cons, List.foldl_nil,
          Option.or_eq_none_iff] at idle
        dsimp only [SettingsDict.onto]
        rw [idle.1]
        exact agree k own idle.2

theorem Settled.proposeSettings (h : s.Settled) : (s.step .proposeSettings).Settled := by
  rw [SyncPair.step]
  split
  · next updates rest head =>
      apply Settled.flush
      refine ⟨h.last, ?_⟩
      intro empty connected
      cases h.agree empty connected with
      | inl soon => exact .inl soon
      | inr agree =>
          refine .inr fun k own idle => agree k own ?_
          rw [SyncPair.latest, SettingsDict.get_append] at idle
          rw [SyncPair.latest, head]
          exact idle
  · exact h

/-- A VPS edit is broadcast, or no Mac is linked to miss it, or it leaves the
value of every synced key. -/
theorem Settled.vpsEdit (h : s.Settled) (good : s.Ordered)
    {updates : List (String × SettingValue)} {raised : Bool}
    (calm : s.undisturbed (.vpsEdit updates raised) = true) :
    (s.step (.vpsEdit updates raised)).Settled := by
  rw [SyncPair.step]
  split
  · exact h
  · simp only [undisturbed, Bool.or_eq_true, Bool.not_eq_true'] at calm
    rcases calm with (broadcast | unlinked) | same
    · rw [broadcast, if_pos rfl]
      exact ⟨fun _ _ => .inl (Nat.succ_pos _), fun _ _ => .inl (Nat.succ_pos _)⟩
    · have empty := good.unlinked unlinked
      constructor
      · intro m last
        rw [empty.1] at last
        cases last
      · intro _ connected
        rw [empty.2] at connected
        cases connected
    · have value : ∀ k, synced k = true →
          ((SettingsDict.stamped 0 updates).onto s.vps k).value = (s.vps k).value := by
        intro k own
        rw [SettingsDict.onto]
        cases found : (SettingsDict.stamped 0 updates).get k with
        | none => rfl
        | some e =>
            obtain ⟨u, mem, entry⟩ := List.mem_map.mp (SettingsDict.mem_of_get found)
            obtain ⟨rfl, rfl⟩ := Prod.mk.inj entry
            have kept := List.all_eq_true.mp same u mem
            rw [own] at kept
            simpa using kept
      have soon : 0 < s.broadcasts → 0 < if raised then s.broadcasts + 1 else s.broadcasts := by
        split <;> omega
      constructor
      · intro m last
        cases h.last m last with
        | inl waiting => exact .inl (soon waiting)
        | inr told => exact .inr fun k own => (told k own).trans (value k own).symm
      · intro none connected
        cases h.agree none connected with
        | inl waiting => exact .inl (soon waiting)
        | inr agree =>
            exact .inr fun k own idle => (agree k own idle).trans (value k own).symm

theorem Settled.step (h : s.Settled) (good : s.Ordered) (a : SettingsStep)
    (calm : s.undisturbed a = true) : (s.step a).Settled := by
  cases a with
  | macEdit updates => exact h.macEdit updates
  | proposeSettings => exact h.proposeSettings
  | flushPending =>
      rw [SyncPair.step]
      split
      · next n _ => exact Settled.flush (s := { s with flushes := n }) ⟨h.last, h.agree⟩
      · exact h
  | vpsEdit updates raised => exact h.vpsEdit good calm
  | broadcastSettings =>
      rw [SyncPair.step]
      split
      · exact settled_broadcast (s := { s with broadcasts := _ }) good.unlinked
      · exact h
  | vpsHandles => exact h.vpsHandles good
  | dispatch =>
      rw [SyncPair.step]
      split
      · next head => exact h.dispatched good head
      · exact h
  | link =>
      rw [SyncPair.step]
      split
      · exact h
      · constructor
        · intro m last
          rw [← Option.some.inj last]
          exact .inr fun _ _ => rfl
        · intro none
          cases none
  | disconnect =>
      constructor
      · intro m last
        cases last
      · intro _ connected
        cases connected

structure Sound (s : SyncPair) : Prop where
  ordered : s.Ordered
  underway : s.Underway
  settled : s.Settled

theorem Sound.step (h : s.Sound) (a : SettingsStep) (calm : s.undisturbed a = true) :
    (s.step a).Sound :=
  ⟨h.ordered.step a calm, h.underway.step h.ordered a, h.settled.step h.ordered a calm⟩

theorem sound_fresh (mac vps : String → SettingValue) : (fresh mac vps).Sound where
  ordered := by
    constructor
    · exact fun _ => ⟨rfl, rfl⟩
    · intro e mem
      cases mem
    · intro d mem
      cases mem
    · intro i d at_
      cases at_
    · intro k _
      exact List.pairwise_singleton _ _
    · intro k _ x mem
      rw [List.mem_singleton.mp mem]
      exact le_rfl
    · intro k _ e found
      cases found
    · intro k _ _
      exact le_rfl
    · intro k _ _ x _
      exact .inl rfl
  underway := by
    intro k p found
    cases found
  settled := by
    constructor
    · intro m last
      cases last
    · intro _ connected
      cases connected

theorem Sound.converged (h : s.Sound) : s.Converged := by
  intro still
  obtain ⟨connected, queued, flushes, broadcasts, toVps, toMac⟩ := still
  have pending : s.pending = [] := by
    cases held : s.pending with
    | nil => rfl
    | cons entry rest =>
        have mem : entry ∈ s.pending := held ▸ List.mem_cons_self
        obtain ⟨p, found⟩ := SettingsDict.get_of_mem mem
        cases h.underway entry.1 p found connected with
        | inl flush => omega
        | inr sent =>
            rw [toVps, toMac] at sent
            simp at sent
  refine ⟨?_, pending⟩
  intro k own
  have idle : s.latest k = none := by
    rw [SyncPair.latest, queued, pending]
    rfl
  cases h.settled.agree toMac connected with
  | inl soon => omega
  | inr agree => exact agree k own idle

theorem NotReplayed.refl (v : Setting) : NotReplayed v v := .inr (.inl rfl)

theorem NotReplayed.onto {d : SettingsDict} {row : String → Setting} {k : String}
    (h : ∀ e, d.get k = some e → NotReplayed (row k) e) : NotReplayed (row k) (d.onto row k) := by
  rw [SettingsDict.onto]
  cases found : d.get k with
  | none => exact NotReplayed.refl _
  | some e => exact h e found

theorem keeps_same {s' : SyncPair} (mac : s'.mac = s.mac) (vps : s'.vps = s.vps) (k : String) :
    NotReplayed (s.mac k) (s'.mac k) ∧ NotReplayed (s.vps k) (s'.vps k) := by
  rw [mac, vps]
  exact ⟨NotReplayed.refl _, NotReplayed.refl _⟩

theorem Ordered.mac_edit_le (good : s.Ordered) {k : String} (own : synced k = true) :
    (s.mac k).edit ≤ s.proposed + s.queued.length := by
  cases found : s.latest k with
  | none => exact Nat.le_add_right_of_le (good.macBound k own found)
  | some e =>
      rw [good.mine k own e found]
      rw [SyncPair.latest, foldl_or] at found
      cases later : s.queued.foldl (fun acc d => (d.get k).or acc) none with
      | none =>
          rw [later, Option.none_or] at found
          refine Nat.le_add_right_of_le (good.bound k own e ?_)
          rw [SyncPair.chain, found]
          exact List.mem_append_right _ List.mem_cons_self
      | some e' =>
          rw [later, Option.some_or] at found
          obtain ⟨d, mem, get⟩ := foldl_or_mem (later.trans found)
          exact (good.scheduled_edit mem get).2

theorem Ordered.keeps_dispatch (good : s.Ordered) {m : StateMsg} {rest : List StateMsg}
    (head : s.toMac = m :: rest) (safe : s.safeDispatch m rest = true) {k : String}
    (own : synced k = true) :
    NotReplayed (s.mac k) ((dispatchState { s with toMac := rest } m).mac k) := by
  rw [dispatchState_mac, own, Bool.true_and]
  cases free : s.pending.get k with
  | some p => exact NotReplayed.refl _
  | none =>
      rw [Option.isNone_none, if_pos rfl]
      cases found : s.latest k with
      | some e =>
          rw [SyncPair.latest, free] at found
          obtain ⟨d, mem, get⟩ := foldl_or_mem found
          exact .inr (.inl ((value_over _ _).trans (safe_queued safe mem get free)))
      | none =>
          rw [Setting.over]
          split
          · exact .inr (.inl rfl)
          · apply good.kept k own found
            rw [head]
            exact List.mem_cons_self

theorem Ordered.keeps_vps (good : s.Ordered) {updates : SettingsDict} {rest : List SettingsDict}
    (head : s.toVps = updates :: rest) {k : String} (own : synced k = true) :
    NotReplayed (s.vps k) ((updates.keep synced).onto s.vps k) := by
  refine NotReplayed.onto fun e found => ?_
  rw [SettingsDict.get_keep, if_pos own] at found
  have sorted := good.sorted k own
  rw [chain_eq, head, List.filterMap_cons, found] at sorted
  have before := List.rel_of_pairwise_cons (List.pairwise_append.mp sorted).2.1
    List.mem_cons_self
  cases before with
  | inl zero => exact .inr (.inr (.inl zero))
  | inr le => exact .inr (.inr (.inr le))

theorem Ordered.keepsEdits (good : s.Ordered) (a : SettingsStep) (calm : s.undisturbed a = true) :
    s.KeepsEdits a := by
  intro k own
  cases a with
  | macEdit updates =>
      rw [SyncPair.step]
      split
      · exact keeps_same rfl rfl k
      · refine ⟨NotReplayed.onto fun e found => ?_, NotReplayed.refl _⟩
        have number := SettingsDict.edit_stamped (SettingsDict.mem_of_get found)
        have older := good.mac_edit_le own
        refine .inr (.inr (.inr ?_))
        dsimp only at number
        omega
  | proposeSettings =>
      rw [SyncPair.step]
      split
      · next updates rest _ =>
          obtain ⟨mac, vps, -⟩ := flush_fields (s := { s with
            pending := updates ++ s.pending, queued := rest, proposed := s.proposed + 1 })
          exact keeps_same mac vps k
      · exact keeps_same rfl rfl k
  | flushPending =>
      rw [SyncPair.step]
      split
      · next n _ =>
          obtain ⟨mac, vps, -⟩ := flush_fields (s := { s with flushes := n })
          exact keeps_same mac vps k
      · exact keeps_same rfl rfl k
  | vpsEdit updates raised =>
      rw [SyncPair.step]
      split
      · exact keeps_same rfl rfl k
      · refine ⟨NotReplayed.refl _, NotReplayed.onto fun e found => ?_⟩
        exact .inr (.inr (.inl (SettingsDict.edit_stamped (SettingsDict.mem_of_get found))))
  | broadcastSettings =>
      rw [SyncPair.step]
      split
      · next n _ =>
          obtain ⟨mac, vps, -⟩ := broadcast_fields (s := { s with broadcasts := n })
          exact keeps_same mac vps k
      · exact keeps_same rfl rfl k
  | vpsHandles =>
      rw [SyncPair.step]
      split
      · next updates rest head =>
          rw [handleProposal]
          dsimp only
          split
          · exact keeps_same rfl rfl k
          · obtain ⟨mac, vps, -⟩ := broadcast_fields
              (s := { s with toVps := rest, vps := (updates.keep synced).onto s.vps })
            rw [mac, vps]
            exact ⟨NotReplayed.refl _, good.keeps_vps head own⟩
      · exact keeps_same rfl rfl k
  | dispatch =>
      rw [undisturbed] at calm
      rw [SyncPair.step]
      split
      · next m rest head =>
          rw [head] at calm
          refine ⟨good.keeps_dispatch head calm own, ?_⟩
          rw [(dispatchState_wire s m rest).2.1]
          exact NotReplayed.refl _
      · exact keeps_same rfl rfl k
  | link =>
      rw [SyncPair.step]
      split <;> exact keeps_same rfl rfl k
  | disconnect => exact keeps_same rfl rfl k

end Settling

/-- In a run in which the Mac edits synced keys only, the VPS changes none of
them unheard while a Mac is linked, and no snapshot comes between an edit and its
proposal or confirms another edit's value, the nodes agree in every state in
which nothing is under way, and no step replays an older Mac edit over a later
one. -/
theorem settings_converge (mac vps : String → SettingValue) (steps : List SettingsStep)
    (calm : Meets step (fun s a => s.undisturbed a = true) (fresh mac vps) steps) :
    (∀ s ∈ states step (fresh mac vps) steps, s.Converged) ∧
      Meets step KeepsEdits (fresh mac vps) steps := by
  have keep : ∀ (s : SyncPair) a, s.Sound → s.undisturbed a = true → (s.step a).Sound :=
    fun s a h calm => h.step a calm
  constructor
  · intro s mem
    exact (states_invariant keep (sound_fresh mac vps) calm s mem).converged
  · exact meets_of_invariant keep (fun s a h calm => h.ordered.keepsEdits a calm)
      (sound_fresh mac vps) calm

/-- An edit made while the nodes are apart is proposed again on the welcome. -/
theorem settings_converge_offline_edit :
    let start := fresh (fun _ => .null) (fun _ => .null)
    let steps : List SettingsStep :=
      [.macEdit [("max_lot_size", .number 2)], .proposeSettings, .link, .dispatch, .flushPending,
        .vpsHandles, .dispatch]
    ((∀ s ∈ states step start steps, s.Converged) ∧ Meets step KeepsEdits start steps) ∧
      (steps.foldl step start).Still :=
  ⟨settings_converge _ _ _ (by decide), by
    refine ⟨?_, ?_, ?_, ?_, ?_, ?_⟩ <;> decide⟩

/-- A key the mirror does not hold is dropped by the VPS and pending for ever. -/
theorem unsynced_edit_stays_pending :
    ¬ ∀ (mac vps : String → SettingValue) (steps : List SettingsStep),
      (∀ s ∈ states step (fresh mac vps) steps, s.Converged) ∧
        Meets step KeepsEdits (fresh mac vps) steps := by
  intro all
  let steps : List SettingsStep :=
    [.link, .dispatch, .macEdit [("trading_clock_offset_min", .number 60)], .proposeSettings,
      .vpsHandles]
  have settled := (all (fun _ => .null) (fun _ => .null) steps).1 _ (foldl_mem_states step _ steps)
  have still : (steps.foldl step (fresh (fun _ => .null) (fun _ => .null))).Still := by
    refine ⟨?_, ?_, ?_, ?_, ?_, ?_⟩ <;> decide
  exact absurd (settled still).2 (by decide)

end SyncPair

end Forex
