import Forex.Cluster.SettingsSync
import Forex.Risk.Schedule

/-!
The forward of a local edit to the paired node. Its branch follows from the
module-level instances of the process: the accessor of the client makes an
instance when there is none, the accessor of the server does not.
-/

namespace Forex

/-- Where `_schedule_coro` can put a coroutine. With no loop running and none
captured it closes the coroutine; a captured loop that is closed raises. -/
inductive LoopState where
  | usable
  | absent
  | closed
deriving DecidableEq, Repr

abbrev SettingsUpdate := List (String × SettingValue)

structure SyncClient where
  connected : Bool
  pendingSettings : SettingsUpdate
  pendingSchedule : Option ScheduleSnapshot

structure SyncServer where
  /-- The Macs connected to it. -/
  clients : ℕ

inductive LocalEdit where
  | settings (updates : SettingsUpdate)
  | schedule (raw : StoredSchedule)
  | scheduleEnabled (enabled : Bool)
  | dailyTarget (value : ℚ)
  | resumePast (day : String)

inductive SyncCoro where
  | proposeSettings (updates : SettingsUpdate)
  | proposeSchedule (snapshot : ScheduleSnapshot)
  | broadcastSettings
  | broadcastSchedule

inductive SyncMsg where
  | settingsPropose (updates : SettingsUpdate)
  | schedulePropose (snapshot : ScheduleSnapshot)
  | settingsState (settings : String → SettingValue)
  | scheduleState (snapshot : ScheduleSnapshot)

/-- What one forward meets: whether `SyncClient()` and the read of the snapshot
return, and the event loop. -/
structure ForwardEnv where
  construct : Bool
  snapshot : Bool
  loop : LoopState

structure SyncNode where
  settings : String → SettingValue
  schedule : ScheduleConfig
  /-- What `app_config` has of the pending changes. -/
  storedSettings : SettingsUpdate
  storedSchedule : Option ScheduleSnapshot
  client : Option SyncClient
  server : Option SyncServer
  applyingSettings : Bool
  applyingSchedule : Bool

namespace SyncNode
variable (n : SyncNode) (env : ForwardEnv)

def fresh : SyncClient := ⟨false, n.storedSettings, n.storedSchedule⟩

/-- `client.get_instance`; `none` when the constructor raises. -/
def getClient : Option SyncNode :=
  match n.client with
  | some _ => some n
  | none => if env.construct then some { n with client := some n.fresh } else none

/-- `_schedule_coro`; `none` when it raises. -/
def scheduleCoro (c : SyncCoro) : Option (List SyncCoro) :=
  match env.loop with
  | .usable => some [c]
  | .absent => some []
  | .closed => none

def forwardToMacs (broadcast : SyncCoro) : List SyncCoro :=
  match n.server with
  | some _ => (scheduleCoro env broadcast).getD []
  | none => []

/-- The client branch, and the server branch where it raises. There is no
proposal where reading the snapshot raises. -/
def forward (proposal : Option SyncCoro) (broadcast : SyncCoro) : SyncNode × List SyncCoro :=
  match n.getClient env with
  | none => (n, n.forwardToMacs env broadcast)
  | some n =>
      match proposal.bind (scheduleCoro env) with
      | some coros => (n, coros)
      | none => (n, n.forwardToMacs env broadcast)

/-- `_forward_settings_over_sync`. -/
def forwardSettingsOverSync (updates : SettingsUpdate) : SyncNode × List SyncCoro :=
  n.forward env (some (.proposeSettings updates)) .broadcastSettings

/-- `_forward_trading_schedule_over_sync`. -/
def forwardTradingScheduleOverSync : SyncNode × List SyncCoro :=
  n.forward env
    (if env.snapshot then some (.proposeSchedule n.schedule.tradingScheduleSnapshot) else none)
    .broadcastSchedule

def write : LocalEdit → SyncNode
  | .settings updates =>
      { n with
        settings := fun k =>
          ((updates.find? fun e => decide (e.1 = k)).map Prod.snd).getD (n.settings k) }
  | .schedule raw => { n with schedule := n.schedule.setTradingSchedule raw }
  | .scheduleEnabled enabled =>
      { n with schedule := n.schedule.setTradingScheduleEnabled enabled }
  | .dailyTarget value => { n with schedule := n.schedule.setDailyProfitTarget value }
  | .resumePast day => { n with schedule := n.schedule.resumePastDailyProfitTarget day }

/-- `update_risk_settings`, and the four writers of the schedule. -/
def edit (w : LocalEdit) (fromSync : Bool) : SyncNode × List SyncCoro :=
  match w with
  | .settings [] => (n, [])
  | .settings updates =>
      if fromSync || n.applyingSettings then (n.write w, [])
      else (n.write w).forwardSettingsOverSync env updates
  | _ =>
      if fromSync || n.applyingSchedule then (n.write w, [])
      else (n.write w).forwardTradingScheduleOverSync env

/-- A scheduled coroutine once it runs, and what it sends. -/
def runCoro : SyncCoro → SyncNode × List SyncMsg
  | .proposeSettings updates =>
      match n.client with
      | none => (n, [])
      | some c =>
          let pending := updates ++ c.pendingSettings
          ({ n with
              client := some { c with pendingSettings := pending }
              storedSettings := pending },
            if c.connected && !pending.isEmpty then [.settingsPropose pending] else [])
  | .proposeSchedule snapshot =>
      match n.client with
      | none => (n, [])
      | some c =>
          ({ n with
              client := some { c with pendingSchedule := some snapshot }
              storedSchedule := some snapshot },
            if c.connected then [.schedulePropose snapshot] else [])
  | .broadcastSettings =>
      (n, match n.server with
        | some ⟨_ + 1⟩ => [.settingsState n.settings]
        | _ => [])
  | .broadcastSchedule =>
      (n, match n.server with
        | some ⟨_ + 1⟩ => [.scheduleState n.schedule.tradingScheduleSnapshot]
        | _ => [])

def runCoros : SyncNode → List SyncCoro → List SyncMsg
  | _, [] => []
  | n, c :: rest => (n.runCoro c).2 ++ runCoros (n.runCoro c).1 rest

/-- The messages of a local edit. -/
def propagations (w : LocalEdit) : List SyncMsg :=
  runCoros (n.edit env w false).1 (n.edit env w false).2

end SyncNode

inductive NodeRole where
  | client
  | server
deriving DecidableEq, Repr

/-- The peer of a client is told by proposals, that of a server by broadcasts. -/
def NodeRole.toward : NodeRole → SyncMsg → Bool
  | .client, .settingsPropose _ | .client, .schedulePropose _ => true
  | .server, .settingsState _ | .server, .scheduleState _ => true
  | _, _ => false

namespace SyncNode
variable (n : SyncNode)

def PeerConnected : NodeRole → Prop
  | .client => ∃ c, n.client = some c ∧ c.connected = true
  | .server => ∃ s, n.server = some s ∧ 0 < s.clients

/-- The write changes something that the nodes keep in step. -/
def ChangesSynced : LocalEdit → Prop
  | .settings updates =>
      ∃ k, synced k = true ∧ (n.write (.settings updates)).settings k ≠ n.settings k
  | _ => True

/-- Exactly one message to the peer. -/
def PropagatesOnce (role : NodeRole) (env : ForwardEnv) (w : LocalEdit) : Prop :=
  ((n.propagations env w).filter role.toward).length = 1

/-- No forward of the same kind is under way in another thread. -/
def forwardFree : LocalEdit → Bool
  | .settings _ => !n.applyingSettings
  | _ => !n.applyingSchedule

end SyncNode

/-- The proposal of the write can be built. -/
def ForwardEnv.proposes (env : ForwardEnv) : LocalEdit → Bool
  | .settings _ => true
  | _ => env.snapshot

namespace SyncNode

/-- A forward is free to run on a usable loop, and takes the branch of the
role: the server's only where the client branch raises. -/
def ForwardReaches (n : SyncNode) (env : ForwardEnv) (w : LocalEdit) (role : NodeRole) : Prop :=
  n.forwardFree w = true ∧ env.loop = .usable ∧
    match role with
    | .client => env.proposes w = true
    | .server => n.client.isNone = true ∧ env.construct = false ∨ env.proposes w = false

section Forward
variable {n : SyncNode} {env : ForwardEnv} {w : LocalEdit} {role : NodeRole}

/-- The client branch raises before it has a proposal. -/
def clientRaises (n : SyncNode) (env : ForwardEnv) : Bool := n.client.isNone && !env.construct

/-- The coroutine that a forward schedules. -/
def chosen (n : SyncNode) (env : ForwardEnv) (p : Option SyncCoro) (b : SyncCoro) :
    Option SyncCoro :=
  if env.loop = .usable then
    (if n.clientRaises env then none else p).or (if n.server.isSome then some b else none)
  else none

theorem forward_coros (n : SyncNode) (env : ForwardEnv) (p : Option SyncCoro) (b : SyncCoro) :
    (n.forward env p b).2 = (n.chosen env p b).toList := by
  rw [forward, getClient, chosen, clientRaises]
  cases client : n.client <;> cases made : env.construct <;> cases p <;>
    cases loop : env.loop <;> cases server : n.server <;>
      simp [forwardToMacs, scheduleCoro, loop, server]

theorem forward_peers (n : SyncNode) (env : ForwardEnv) (p : Option SyncCoro) (b : SyncCoro) :
    (n.forward env p b).1.server = n.server ∧
      ∀ c, n.client = some c → (n.forward env p b).1.client = some c := by
  rw [forward, getClient]
  cases client : n.client <;> cases made : env.construct <;>
    cases p.bind (scheduleCoro env) <;> simp_all

end Forward

end SyncNode

/-- The role whose peer the coroutine tells. -/
def SyncCoro.role : SyncCoro → NodeRole
  | .proposeSettings _ | .proposeSchedule _ => .client
  | .broadcastSettings | .broadcastSchedule => .server

def LocalEdit.broadcast : LocalEdit → SyncCoro
  | .settings _ => .broadcastSettings
  | _ => .broadcastSchedule

namespace SyncNode
variable {n : SyncNode} {env : ForwardEnv} {w : LocalEdit} {role : NodeRole}

def proposal (n : SyncNode) : LocalEdit → SyncCoro
  | .settings updates => .proposeSettings updates
  | _ => .proposeSchedule n.schedule.tradingScheduleSnapshot

theorem write_peers (n : SyncNode) (w : LocalEdit) :
    (n.write w).client = n.client ∧ (n.write w).server = n.server := by
  cases w <;> exact ⟨rfl, rfl⟩

theorem settings_ne_nil {updates : SettingsUpdate} (changes : n.ChangesSynced (.settings updates)) :
    updates ≠ [] := by
  rintro rfl
  obtain ⟨k, -, changed⟩ := changes
  exact changed rfl

theorem edit_eq (changes : n.ChangesSynced w) :
    n.edit env w false =
      if n.forwardFree w then
        (n.write w).forward env
          (if env.proposes w then some ((n.write w).proposal w) else none) w.broadcast
      else (n.write w, []) := by
  cases w with
  | settings updates =>
      cases updates with
      | nil => exact absurd rfl (settings_ne_nil changes)
      | cons e rest =>
          rw [edit, forwardFree]
          · cases n.applyingSettings <;> rfl
          · exact List.cons_ne_nil e rest
  | schedule _ | scheduleEnabled _ | dailyTarget _ | resumePast _ =>
      rw [edit, forwardFree]
      · cases n.applyingSchedule <;> rfl
      all_goals simp

theorem runCoro_other (n : SyncNode) {c : SyncCoro} (h : c.role ≠ role) :
    (n.runCoro c).2.filter role.toward = [] := by
  rw [List.filter_eq_nil_iff]
  intro m mem
  cases c with
  | proposeSettings updates | proposeSchedule updates =>
      cases role with
      | client => exact absurd rfl h
      | server =>
          rw [runCoro] at mem
          cases client : n.client <;> simp [client] at mem
          rw [mem.2]
          exact Bool.false_ne_true
  | broadcastSettings | broadcastSchedule =>
      cases role with
      | server => exact absurd rfl h
      | client =>
          rw [runCoro] at mem
          dsimp only at mem
          split at mem
          · rw [List.mem_singleton.mp mem]
            exact Bool.false_ne_true
          · cases mem

theorem runCoro_toward {c : SyncCoro} (connected : n.PeerConnected c.role)
    (filled : c ≠ .proposeSettings []) :
    ((n.runCoro c).2.filter c.role.toward).length = 1 := by
  cases c with
  | proposeSettings updates =>
      obtain ⟨client, found, on⟩ := connected
      cases updates with
      | nil => exact absurd rfl filled
      | cons e rest =>
          rw [runCoro, found]
          dsimp only
          rw [on]
          rfl
  | proposeSchedule snapshot =>
      obtain ⟨client, found, on⟩ := connected
      rw [runCoro, found]
      dsimp only
      rw [on]
      rfl
  | broadcastSettings | broadcastSchedule =>
      obtain ⟨⟨clients⟩, found, some⟩ := connected
      cases clients with
      | zero => cases some
      | succ k =>
          rw [runCoro, found]
          rfl

theorem proposal_role (n : SyncNode) (w : LocalEdit) : (n.proposal w).role = .client := by
  cases w <;> rfl

theorem broadcast_role (w : LocalEdit) : w.broadcast.role = .server := by
  cases w <;> rfl

theorem edit_connected (env : ForwardEnv) (changes : n.ChangesSynced w)
    (connected : n.PeerConnected role) :
    (n.edit env w false).1.PeerConnected role := by
  obtain ⟨client, server⟩ := n.write_peers w
  have written : (n.write w).PeerConnected role := by
    cases role with
    | client =>
        rw [PeerConnected, client]
        exact connected
    | server =>
        rw [PeerConnected, server]
        exact connected
  rw [edit_eq changes]
  split
  · have peers := (n.write w).forward_peers env
      (if env.proposes w then some ((n.write w).proposal w) else none) w.broadcast
    cases role with
    | client =>
        obtain ⟨c, found, on⟩ := written
        exact ⟨c, peers.2 c found, on⟩
    | server =>
        rw [PeerConnected, peers.1]
        exact written
  · exact written

/-- What a write schedules. -/
def forwarded (n : SyncNode) (env : ForwardEnv) (w : LocalEdit) : Option SyncCoro :=
  if n.forwardFree w then
    (n.write w).chosen env (if env.proposes w then some ((n.write w).proposal w) else none)
      w.broadcast
  else none

theorem edit_coros (changes : n.ChangesSynced w) :
    (n.edit env w false).2 = (n.forwarded env w).toList := by
  rw [edit_eq changes, forwarded]
  cases n.forwardFree w with
  | false => rfl
  | true => exact forward_coros _ _ _ _

theorem forwarded_filled (changes : n.ChangesSynced w) {c : SyncCoro}
    (h : n.forwarded env w = some c) : c ≠ .proposeSettings [] := by
  have proposal : (n.write w).proposal w ≠ .proposeSettings [] := by
    cases w with
    | settings updates =>
        exact fun none => settings_ne_nil changes (SyncCoro.proposeSettings.inj none)
    | schedule _ | scheduleEnabled _ | dailyTarget _ | resumePast _ => exact SyncCoro.noConfusion
  have broadcast : w.broadcast ≠ .proposeSettings [] := by
    cases w <;> exact SyncCoro.noConfusion
  rw [forwarded, chosen] at h
  grind

/-- The peer is told once exactly when the coroutine is one of the role. -/
theorem propagatesOnce_iff (connected : n.PeerConnected role) (changes : n.ChangesSynced w) :
    n.PropagatesOnce role env w ↔ (n.forwarded env w).map SyncCoro.role = some role := by
  have after := edit_connected env changes connected
  rw [PropagatesOnce, propagations, edit_coros changes]
  cases coro : n.forwarded env w with
  | none => simp [runCoros]
  | some c =>
      rw [Option.toList_some, runCoros, runCoros, List.append_nil, Option.map_some,
        Option.some_inj]
      by_cases own : c.role = role
      · subst own
        exact iff_of_true (runCoro_toward after (forwarded_filled changes coro)) rfl
      · rw [runCoro_other _ own]
        exact iff_of_false (by simp) own

/-- A write reaches the peer of the node exactly once just when its forward is
free to run on a usable loop and takes the branch of the role; for a server that
is where the client branch raises. -/
theorem edit_propagates_once (n : SyncNode) (role : NodeRole) (env : ForwardEnv) (w : LocalEdit)
    (connected : n.PeerConnected role) (changes : n.ChangesSynced w) :
    n.PropagatesOnce role env w ↔ n.ForwardReaches env w role := by
  rw [propagatesOnce_iff connected changes, forwarded, chosen, clientRaises]
  obtain ⟨client, server⟩ := n.write_peers w
  rw [client, server]
  simp only [ForwardReaches]
  have proposal := proposal_role (n.write w) w
  have broadcast := broadcast_role w
  cases free : n.forwardFree w with
  | false => simp
  | true =>
      by_cases usable : env.loop = .usable
      · cases role with
        | client =>
            obtain ⟨c, found, -⟩ := connected
            cases built : env.proposes w <;> cases n.server <;>
              simp [usable, found, proposal, broadcast]
        | server =>
            obtain ⟨s, found, -⟩ := connected
            cases built : env.proposes w <;> cases n.client <;> cases made : env.construct <;>
              simp [usable, found, proposal, broadcast]
      · simp [usable]

def unlinkedNode : SyncNode where
  settings _ := .null
  schedule := ⟨none, none, none, none⟩
  storedSettings := []
  storedSchedule := none
  client := none
  server := none
  applyingSettings := false
  applyingSchedule := false

def lotEdit : LocalEdit := .settings [("max_lot_size", .number 2)]

theorem lotEdit_changes (client : Option SyncClient) (server : Option SyncServer) :
    ChangesSynced { unlinkedNode with client := client, server := server } lotEdit :=
  ⟨"max_lot_size", by decide, by simp [write, unlinkedNode]⟩

theorem mac_edit_proposed :
    PropagatesOnce { unlinkedNode with client := some ⟨true, [], none⟩ } .client
      ⟨true, true, .usable⟩ lotEdit :=
  (edit_propagates_once _ .client _ _ ⟨_, rfl, rfl⟩ (lotEdit_changes _ _)).mpr ⟨rfl, rfl, rfl⟩

/-- On the server the accessor of the client makes one, and the edit waits in it. -/
theorem vps_edit_not_broadcast :
    ¬ ∀ (n : SyncNode) (role : NodeRole) (env : ForwardEnv) (w : LocalEdit),
      n.PeerConnected role → n.ChangesSynced w → n.PropagatesOnce role env w := by
  intro all
  have once := all { unlinkedNode with server := some ⟨1⟩ } .server ⟨true, true, .usable⟩ lotEdit
    ⟨_, rfl, Nat.one_pos⟩ (lotEdit_changes _ _)
  rw [PropagatesOnce] at once
  exact absurd once (by decide)

end SyncNode

end Forex
