import Forex.Support.Run
import Mathlib.Algebra.Order.Field.Rat
import Mathlib.Data.List.Forall2

/-!
The trading schedule in `app_config`: what the schedule page and the bot panel
save, what a read makes of it, and the snapshot that the paired node applies. A
stored field may be absent, as in schedules saved before it existed.
-/

namespace Forex
open Support

inductive DayName where
  | monday | tuesday | wednesday | thursday | friday | saturday | sunday
deriving DecidableEq, Repr

def blocksPerDay : ℕ := 4

def preWindow4BlocksPerDay : ℕ := 3

inductive Engine where
  | reversal
  | breakout
deriving DecidableEq, Repr

structure ChannelSwitch where
  enabled : Bool
  strategyOverride : String
deriving DecidableEq, Repr

abbrev ChannelMap := List (String × ChannelSwitch)

namespace ChannelMap
variable (channels : ChannelMap) (name : String)

def get : Option ChannelSwitch := (channels.find? fun e => decide (e.1 = name)).map Prod.snd

/-- `channels[name] = cfg`: a new key goes to the end. -/
def put (cfg : ChannelSwitch) : ChannelMap :=
  if (channels.get name).isSome then
    channels.map fun e => if e.1 = name then (name, cfg) else e
  else channels ++ [(name, cfg)]

end ChannelMap

structure ScheduleBlock where
  enabled : Bool
  start : String
  stop : String
  target : ℚ
  /-- The override of both engines before each had its own. -/
  strategyOverride : String
  engine : Engine → Bool
  engineOverride : Engine → String
  telegramChannels : ChannelMap
  telegramDefaultEnabled : Bool

abbrev Schedule := DayName → List ScheduleBlock

def defaultBlock : ScheduleBlock where
  enabled := false
  start := "00:00"
  stop := "23:59"
  target := 0
  strategyOverride := ""
  engine _ := true
  engineOverride _ := ""
  telegramChannels := []
  telegramDefaultEnabled := true

structure StoredSwitch where
  enabled : Option Bool
  strategyOverride : Option String

/-- A block as `json.loads` gives it. -/
structure StoredBlock where
  enabled : Option Bool
  start : Option String
  stop : Option String
  target : Option ℚ
  strategyOverride : Option String
  engine : Engine → Option Bool
  engineOverride : Engine → Option String
  /-- Absent unless a dictionary; a channel without a dictionary is `none`. -/
  telegramChannels : Option (List (String × Option StoredSwitch))
  telegramDefaultEnabled : Option Bool
  /-- The one switch for all channels that came before. -/
  telegram : Option Bool

/-- Absent unless a list; a block that is no dictionary is `none`. -/
abbrev StoredSchedule := DayName → Option (List (Option StoredBlock))

def StoredSwitch.read (s : StoredSwitch) : ChannelSwitch where
  enabled := s.enabled.getD true
  strategyOverride := s.strategyOverride.getD ""

def ChannelSwitch.stored (s : ChannelSwitch) : StoredSwitch := ⟨s.enabled, s.strategyOverride⟩

/-- `override or legacy`. -/
def orLegacy (override legacy : String) : String := if override = "" then legacy else override

namespace StoredBlock
variable (b : StoredBlock)

def migrateEngineOverrides (e : Engine) : String :=
  orLegacy ((b.engineOverride e).getD "") (b.strategyOverride.getD "")

def migrateTelegramField : ChannelMap × Bool :=
  match b.telegramChannels with
  | some channels =>
      (channels.filterMap fun e => e.2.map fun s => (e.1, s.read),
        b.telegramDefaultEnabled.getD true)
  | none => ([], b.telegram.getD true)

def read : ScheduleBlock where
  enabled := b.enabled.getD false
  start := b.start.getD "00:00"
  stop := b.stop.getD "23:59"
  target := b.target.getD 0
  strategyOverride := b.strategyOverride.getD ""
  engine e := (b.engine e).getD true
  engineOverride := b.migrateEngineOverrides
  telegramChannels := b.migrateTelegramField.1
  telegramDefaultEnabled := b.migrateTelegramField.2

end StoredBlock

def ScheduleBlock.stored (b : ScheduleBlock) : StoredBlock where
  enabled := b.enabled
  start := b.start
  stop := b.stop
  target := b.target
  strategyOverride := b.strategyOverride
  engine e := b.engine e
  engineOverride e := b.engineOverride e
  telegramChannels := b.telegramChannels.map fun e => (e.1, some e.2.stored)
  telegramDefaultEnabled := b.telegramDefaultEnabled
  telegram := none

def Schedule.stored (schedule : Schedule) : StoredSchedule :=
  fun day => some ((schedule day).map fun b => some b.stored)

def readBlock (b : Option StoredBlock) : ScheduleBlock := (b.map StoredBlock.read).getD defaultBlock

def defaultDay : List ScheduleBlock := List.replicate blocksPerDay defaultBlock

def readDay : Option (List (Option StoredBlock)) → List ScheduleBlock
  | none => defaultDay
  | some blocks =>
      if blocks.length = preWindow4BlocksPerDay then
        (blocks ++ [some defaultBlock.stored]).map readBlock
      else if blocks.length ≠ blocksPerDay then defaultDay
      else blocks.map readBlock

/-- The keys of `app_config` that the schedule is kept under; `none` where the
key is unset or its text cannot be read. -/
structure ScheduleConfig where
  schedule : Option StoredSchedule
  enabled : Option Bool
  dailyTarget : Option ℚ
  resumedDay : Option String

namespace ScheduleConfig
variable (c : ScheduleConfig)

def getTradingSchedule : Schedule :=
  match c.schedule with
  | none => fun _ => defaultDay
  | some stored => fun day => readDay (stored day)

def setTradingSchedule (schedule : StoredSchedule) : ScheduleConfig :=
  { c with schedule := some schedule }

def isTradingScheduleEnabled : Bool := c.enabled.getD false

def setTradingScheduleEnabled (enabled : Bool) : ScheduleConfig :=
  { c with enabled := some enabled }

def getDailyProfitTarget : ℚ := c.dailyTarget.getD 0

def setDailyProfitTarget (value : ℚ) : ScheduleConfig := { c with dailyTarget := some value }

def resumePastDailyProfitTarget (day : String) : ScheduleConfig := { c with resumedDay := some day }

def isDailyProfitTargetResumed (day : String) : Bool := decide (c.resumedDay = some day)

end ScheduleConfig

/-- A snapshot as it arrives; a peer that predates a field leaves it out. -/
structure ScheduleSnapshot where
  enabled : Option Bool
  schedule : Option StoredSchedule
  dailyTarget : Option ℚ
  resumedDay : Option String

namespace ScheduleConfig

def tradingScheduleSnapshot (c : ScheduleConfig) : ScheduleSnapshot where
  enabled := c.isTradingScheduleEnabled
  schedule := c.getTradingSchedule.stored
  dailyTarget := c.getDailyProfitTarget
  resumedDay := c.resumedDay.getD ""

def applyTradingScheduleSnapshot (c : ScheduleConfig) (m : ScheduleSnapshot) : ScheduleConfig :=
  let c := m.schedule.elim c c.setTradingSchedule
  let c := m.enabled.elim c c.setTradingScheduleEnabled
  let c := m.dailyTarget.elim c c.setDailyProfitTarget
  m.resumedDay.elim c fun day => { c with resumedDay := some day }

/-- What the readers of the configuration make of it. -/
structure Reads (c c' : ScheduleConfig) : Prop where
  schedule : c'.getTradingSchedule = c.getTradingSchedule
  enabled : c'.isTradingScheduleEnabled = c.isTradingScheduleEnabled
  dailyTarget : c'.getDailyProfitTarget = c.getDailyProfitTarget
  resumed : ∀ day, day ≠ "" →
    c'.isDailyProfitTargetResumed day = c.isDailyProfitTargetResumed day

end ScheduleConfig

/-- A window as `_save` of the schedule page builds it. -/
structure PageBlock where
  enabled : Bool
  start : String
  stop : String
  target : ℚ
  engine : Engine → Bool
  engineOverride : Engine → String
  telegramDefaultEnabled : Bool
  telegramChannels : ChannelMap

namespace PageBlock
variable (b : PageBlock)

def stored : StoredBlock where
  enabled := b.enabled
  start := b.start
  stop := b.stop
  target := b.target
  strategyOverride := none
  engine e := b.engine e
  engineOverride e := b.engineOverride e
  telegramChannels := b.telegramChannels.map fun e => (e.1, some e.2.stored)
  telegramDefaultEnabled := b.telegramDefaultEnabled
  telegram := none

/-- The window that the page shows and the user saves. -/
def shown : ScheduleBlock where
  enabled := b.enabled
  start := b.start
  stop := b.stop
  target := b.target
  strategyOverride := ""
  engine := b.engine
  engineOverride := b.engineOverride
  telegramChannels := b.telegramChannels
  telegramDefaultEnabled := b.telegramDefaultEnabled

end PageBlock

/-- The windows of one day on the page: four, or three of an old schedule. -/
structure PageDay where
  blocks : List PageBlock
  count : blocks.length = preWindow4BlocksPerDay ∨ blocks.length = blocksPerDay

def PageDay.shown (d : PageDay) : List ScheduleBlock :=
  let blocks := d.blocks.map PageBlock.shown
  if blocks.length = preWindow4BlocksPerDay then blocks ++ [defaultBlock] else blocks

inductive WindowFlag where
  | enabled
  | telegramDefault
  | engine (e : Engine)
deriving DecidableEq, Repr

/-- An edit of one window on the bot panel. -/
inductive PanelChange where
  | toggle (flag : WindowFlag)
  | channel (name : String)
  | start (time : String)
  | stop (time : String)
  | target (value : ℚ)

namespace ScheduleBlock
variable (b : ScheduleBlock)

/-- `_window_channel_enabled`. -/
def channelEnabled (name : String) : Bool :=
  match b.telegramChannels.get name with
  | some cfg => cfg.enabled
  | none => b.telegramDefaultEnabled

def change : PanelChange → ScheduleBlock
  | .toggle .enabled => { b with enabled := !b.enabled }
  | .toggle .telegramDefault => { b with telegramDefaultEnabled := !b.telegramDefaultEnabled }
  | .toggle (.engine e) =>
      { b with engine := fun e' => if e' = e then !b.engine e else b.engine e' }
  | .channel name =>
      let override := ((b.telegramChannels.get name).map ChannelSwitch.strategyOverride).getD ""
      { b with
        telegramChannels := b.telegramChannels.put name ⟨!b.channelEnabled name, override⟩ }
  | .start time => { b with start := time }
  | .stop time => { b with stop := time }
  | .target value => { b with target := value }

end ScheduleBlock

inductive UiSave where
  | page (days : DayName → PageDay) (enabled : Bool) (dailyTarget : ℚ)
  | panel (day : DayName) (idx : ℕ) (change : PanelChange)

namespace ScheduleConfig
variable (c : ScheduleConfig)

/-- `_save_block`: the schedule that was read, with one window of it updated. -/
def changed (day : DayName) (idx : ℕ) (change : PanelChange) : Schedule :=
  fun d =>
    if d = day then (c.getTradingSchedule d).modify idx fun b => b.change change
    else c.getTradingSchedule d

def save : UiSave → ScheduleConfig
  | .page days enabled dailyTarget =>
      let schedule : StoredSchedule :=
        fun day => some ((days day).blocks.map fun b => some b.stored)
      ((c.setTradingSchedule schedule).setTradingScheduleEnabled enabled).setDailyProfitTarget
        dailyTarget
  | .panel day idx change =>
      if idx < (c.getTradingSchedule day).length then
        c.setTradingSchedule (Schedule.stored (c.changed day idx change))
      else c

/-- The schedule that the user sees when saving it. -/
def intended : UiSave → Schedule
  | .page days _ _ => fun day => (days day).shown
  | .panel day idx change => c.changed day idx change

end ScheduleConfig

namespace ScheduleBlock
variable {b : ScheduleBlock}

/-- No override is left that only the old shared field has. -/
def Migrated (b : ScheduleBlock) : Prop :=
  ∀ e, b.strategyOverride = "" ∨ b.engineOverride e ≠ ""

theorem orLegacy_eq_self {override legacy : String} (h : legacy = "" ∨ override ≠ "") :
    orLegacy override legacy = override := by
  rw [orLegacy]
  split
  · next cleared =>
      rw [cleared] at h ⊢
      exact h.resolve_right fun set => set rfl
  · rfl

theorem orLegacy_ne {override legacy : String} (h : legacy ≠ "") :
    orLegacy override legacy ≠ "" := by
  rw [orLegacy]
  split
  · exact h
  · next set => exact set

theorem read_switches (channels : ChannelMap) :
    (channels.map fun e => (e.1, some e.2.stored)).filterMap
      (fun e => e.2.map fun s => (e.1, s.read)) = channels := by
  rw [List.filterMap_map]
  exact List.filterMap_some

theorem read_stored (migrated : b.Migrated) : b.stored.read = b := by
  have overrides : b.stored.migrateEngineOverrides = b.engineOverride := by
    funext e
    exact orLegacy_eq_self (migrated e)
  have channels : b.stored.migrateTelegramField =
      (b.telegramChannels, b.telegramDefaultEnabled) := by
    simp only [StoredBlock.migrateTelegramField, stored, Option.getD_some]
    rw [read_switches]
  rw [StoredBlock.read, overrides, channels]
  rfl

theorem migrated_read (s : StoredBlock) : s.read.Migrated := by
  intro e
  by_cases legacy : s.strategyOverride.getD "" = ""
  · exact .inl legacy
  · exact .inr (orLegacy_ne legacy)

theorem migrated_default : defaultBlock.Migrated := fun _ => .inl rfl

theorem migrated_readBlock (s : Option StoredBlock) : (readBlock s).Migrated := by
  cases s with
  | none => exact migrated_default
  | some s => exact migrated_read s

/-- The override of a channel in this window. -/
def channelOverride (b : ScheduleBlock) (name : String) : String :=
  ((b.telegramChannels.get name).map ChannelSwitch.strategyOverride).getD ""

/-- The panel edits neither kind of override. -/
structure SameOverrides (b b' : ScheduleBlock) : Prop where
  legacy : b'.strategyOverride = b.strategyOverride
  engine : b'.engineOverride = b.engineOverride
  channel : ∀ name, b'.channelOverride name = b.channelOverride name

end ScheduleBlock

namespace ChannelMap
variable (channels : ChannelMap) (name other : String) (cfg : ChannelSwitch)

theorem get_cons (entry : String × ChannelSwitch) :
    ChannelMap.get (entry :: channels) other =
      if entry.1 = other then some entry.2 else channels.get other := by
  rw [get, List.find?_cons]
  by_cases own : entry.1 = other
  · simp [own]
  · simp [own, get]

theorem get_overwrite :
    ChannelMap.get (channels.map fun e => if e.1 = name then (name, cfg) else e) other =
      if other = name then (channels.get name).map fun _ => cfg else channels.get other := by
  induction channels with
  | nil => simp [get]
  | cons entry rest ih =>
      rw [List.map_cons, get_cons, ih, get_cons, get_cons]
      by_cases own : entry.1 = name
      · by_cases same : other = name
        · simp [own, same]
        · simp [own, same, Ne.symm same]
      · by_cases same : other = name
        · simp [own, same]
        · simp [own, same]

theorem get_append_single (absent : channels.get name = none) :
    ChannelMap.get (channels ++ [(name, cfg)]) other =
      if other = name then some cfg else channels.get other := by
  induction channels with
  | nil => simp [get, eq_comm]
  | cons entry rest ih =>
      rw [get_cons] at absent
      split at absent
      · cases absent
      · next own =>
          rw [List.cons_append, get_cons, ih absent, get_cons]
          by_cases same : other = name
          · simp [same, own]
          · simp [same]

theorem get_put :
    (channels.put name cfg).get other = if other = name then some cfg else channels.get other := by
  rw [put]
  split
  · next present =>
      obtain ⟨old, found⟩ := Option.isSome_iff_exists.mp present
      rw [get_overwrite, found]
      rfl
  · next absent => exact get_append_single channels name other cfg (by simpa using absent)

end ChannelMap

namespace ScheduleBlock
variable {b : ScheduleBlock}

theorem change_overrides (b : ScheduleBlock) (p : PanelChange) : SameOverrides b (b.change p) := by
  cases p with
  | toggle flag => cases flag <;> exact ⟨rfl, rfl, fun _ => rfl⟩
  | channel name =>
      refine ⟨rfl, rfl, ?_⟩
      intro other
      rw [channelOverride, change, ChannelMap.get_put]
      split
      · next same =>
          rw [same]
          rfl
      · rfl
  | start _ | stop _ | target _ => exact ⟨rfl, rfl, fun _ => rfl⟩

theorem SameOverrides.migrated {b b' : ScheduleBlock} (same : SameOverrides b b')
    (migrated : b.Migrated) : b'.Migrated := by
  intro e
  rw [same.legacy, same.engine]
  exact migrated e

end ScheduleBlock

/-- Four windows a day, none with an override that is still to migrate. -/
def Schedule.Whole (schedule : Schedule) : Prop :=
  ∀ day, (schedule day).length = blocksPerDay ∧ ∀ b ∈ schedule day, b.Migrated

theorem map_readBlock {blocks : List ScheduleBlock} (migrated : ∀ b ∈ blocks, b.Migrated) :
    (blocks.map fun b => some b.stored).map readBlock = blocks := by
  rw [List.map_map]
  refine (List.map_congr_left fun b mem => ?_).trans (List.map_id blocks)
  exact ScheduleBlock.read_stored (migrated b mem)

theorem whole_default : Schedule.Whole fun _ => defaultDay := by
  intro day
  refine ⟨List.length_replicate, ?_⟩
  intro b mem
  rw [List.eq_of_mem_replicate mem]
  exact ScheduleBlock.migrated_default

theorem whole_readDay (blocks : Option (List (Option StoredBlock))) :
    (readDay blocks).length = blocksPerDay ∧ ∀ b ∈ readDay blocks, b.Migrated := by
  have read : ∀ blocks : List (Option StoredBlock), ∀ b ∈ blocks.map readBlock, b.Migrated := by
    intro blocks b mem
    obtain ⟨s, -, rfl⟩ := List.mem_map.mp mem
    exact ScheduleBlock.migrated_readBlock s
  cases blocks with
  | none => exact whole_default .monday
  | some blocks =>
      rw [readDay]
      split
      · next three =>
          refine ⟨?_, read _⟩
          rw [List.length_map, List.length_append, three]
          rfl
      · split
        · exact whole_default .monday
        · next four =>
            rw [List.length_map]
            exact ⟨not_not.mp four, read blocks⟩

namespace ScheduleConfig
variable {c : ScheduleConfig}

theorem whole_get (c : ScheduleConfig) : c.getTradingSchedule.Whole := by
  intro day
  rw [getTradingSchedule]
  cases c.schedule with
  | none => exact whole_default day
  | some stored => exact whole_readDay (stored day)

theorem readDay_stored {blocks : List ScheduleBlock} (four : blocks.length = blocksPerDay)
    (migrated : ∀ b ∈ blocks, b.Migrated) :
    readDay (some (blocks.map fun b => some b.stored)) = blocks := by
  rw [readDay, List.length_map, four, if_neg (by decide), if_neg (by decide),
    map_readBlock migrated]

/-- What was read is read again after it is stored. -/
theorem get_set {schedule : Schedule} (whole : schedule.Whole) :
    (c.setTradingSchedule schedule.stored).getTradingSchedule = schedule := by
  funext day
  exact readDay_stored (whole day).1 (whole day).2

theorem whole_changed (day : DayName) (idx : ℕ) (p : PanelChange) :
    (c.changed day idx p).Whole := by
  intro d
  have whole := c.whole_get d
  rw [changed]
  split
  · refine ⟨(List.length_modify _ _ _).trans whole.1, ?_⟩
    intro b mem
    obtain ⟨i, at_⟩ := List.mem_iff_getElem?.mp mem
    rw [List.getElem?_modify] at at_
    obtain ⟨old, found, rfl⟩ := Option.map_eq_some_iff.mp at_
    have migrated := whole.2 old (List.mem_of_getElem? found)
    split
    · exact (ScheduleBlock.change_overrides old p).migrated migrated
    · exact migrated
  · exact whole

/-- A day saved on the page reads as the page showed it. -/
theorem readDay_page (d : PageDay) :
    readDay (some (d.blocks.map fun b => some b.stored)) = d.shown := by
  have same : (d.blocks.map fun b => some b.stored).map readBlock =
      d.blocks.map PageBlock.shown := by
    rw [List.map_map]
    refine List.map_congr_left fun b _ => ?_
    exact ScheduleBlock.read_stored (b := b.shown) fun _ => .inl rfl
  have padding : readBlock (some defaultBlock.stored) = defaultBlock :=
    ScheduleBlock.read_stored ScheduleBlock.migrated_default
  rw [readDay, PageDay.shown, List.length_map, List.length_map, List.map_append, same,
    List.map_singleton, padding]
  cases d.count with
  | inl three => rw [if_pos three, if_pos three]
  | inr four => rw [four, if_neg (by decide), if_neg (by decide), if_neg (by decide)]

theorem get_save (u : UiSave) : (c.save u).getTradingSchedule = c.intended u := by
  cases u with
  | page days enabled dailyTarget =>
      funext day
      exact readDay_page (days day)
  | panel day idx change =>
      rw [save]
      split
      · exact get_set (whole_changed day idx change)
      · next outside =>
          funext d
          rw [intended, changed]
          split
          · next same =>
              rw [same, List.modify_eq_self (Nat.le_of_not_lt outside)]
          · rfl

theorem reads_refl (c : ScheduleConfig) : Reads c c := ⟨rfl, rfl, rfl, fun _ _ => rfl⟩

theorem Reads.trans {c c' c'' : ScheduleConfig} (first : Reads c c') (second : Reads c' c'') :
    Reads c c'' where
  schedule := second.schedule.trans first.schedule
  enabled := second.enabled.trans first.enabled
  dailyTarget := second.dailyTarget.trans first.dailyTarget
  resumed day named := (second.resumed day named).trans (first.resumed day named)

/-- Storing what was read leaves every reader as it was. -/
theorem reads_rewrite (c : ScheduleConfig) :
    Reads c (c.setTradingSchedule c.getTradingSchedule.stored) :=
  ⟨get_set c.whole_get, rfl, rfl, fun _ _ => rfl⟩

/-- A node that applies a snapshot reads what the sender reads. -/
theorem reads_apply (c other : ScheduleConfig) :
    Reads c (other.applyTradingScheduleSnapshot c.tradingScheduleSnapshot) := by
  refine ⟨get_set (c := other) c.whole_get, rfl, rfl, ?_⟩
  intro day named
  rw [isDailyProfitTargetResumed, isDailyProfitTargetResumed]
  cases stored : c.resumedDay with
  | none =>
      simp [applyTradingScheduleSnapshot, tradingScheduleSnapshot, stored, named.symm]
  | some resumed =>
      simp [applyTradingScheduleSnapshot, tradingScheduleSnapshot, stored]

end ScheduleConfig

/-- What may follow a save without the user choosing an override again: an edit
on the panel, the schedule stored as it was read, a snapshot sent to the paired
node and back. -/
inductive ScheduleStep where
  | panel (day : DayName) (idx : ℕ) (change : PanelChange)
  | rewrite
  | mirrored (peer : ScheduleConfig)

namespace ScheduleConfig
variable {c : ScheduleConfig}

def step (c : ScheduleConfig) : ScheduleStep → ScheduleConfig
  | .panel day idx change => c.save (.panel day idx change)
  | .rewrite => c.setTradingSchedule c.getTradingSchedule.stored
  | .mirrored peer =>
      let mirror := peer.applyTradingScheduleSnapshot c.tradingScheduleSnapshot
      c.applyTradingScheduleSnapshot mirror.tradingScheduleSnapshot

/-- Each window has the overrides that it has in the schedule. -/
def KeepsOverrides (schedule : Schedule) (c : ScheduleConfig) : Prop :=
  ∀ day, List.Forall₂ ScheduleBlock.SameOverrides (schedule day) (c.getTradingSchedule day)

end ScheduleConfig

theorem ScheduleBlock.sameOverrides_refl (b : ScheduleBlock) : SameOverrides b b :=
  ⟨rfl, rfl, fun _ => rfl⟩

theorem ScheduleBlock.SameOverrides.trans {a b c : ScheduleBlock} (ab : SameOverrides a b)
    (bc : SameOverrides b c) : SameOverrides a c where
  legacy := bc.legacy.trans ab.legacy
  engine := bc.engine.trans ab.engine
  channel name := (bc.channel name).trans (ab.channel name)

namespace ScheduleConfig
variable {c : ScheduleConfig}

theorem forall₂_modify (blocks : List ScheduleBlock) (idx : ℕ) (p : PanelChange) :
    List.Forall₂ ScheduleBlock.SameOverrides blocks (blocks.modify idx fun b => b.change p) := by
  induction blocks generalizing idx with
  | nil => cases idx <;> exact .nil
  | cons b rest ih =>
      cases idx with
      | zero =>
          exact .cons (b.change_overrides p)
            (List.forall₂_same.mpr fun b _ => b.sameOverrides_refl)
      | succ idx => exact .cons b.sameOverrides_refl (ih idx)

theorem step_overrides (c : ScheduleConfig) (a : ScheduleStep) :
    KeepsOverrides c.getTradingSchedule (c.step a) := by
  intro day
  have same : ∀ c' : ScheduleConfig, Reads c c' →
      List.Forall₂ ScheduleBlock.SameOverrides (c.getTradingSchedule day)
        (c'.getTradingSchedule day) := by
    intro c' reads
    rw [reads.schedule]
    exact List.forall₂_same.mpr fun b _ => b.sameOverrides_refl
  cases a with
  | panel d idx change =>
      rw [step, get_save, intended, changed]
      split
      · exact forall₂_modify _ idx change
      · exact same c c.reads_refl
  | rewrite => exact same _ c.reads_rewrite
  | mirrored peer => exact same _ ((c.reads_apply peer).trans (reads_apply _ c))

theorem sameOverrides_trans {xs ys zs : List ScheduleBlock}
    (first : List.Forall₂ ScheduleBlock.SameOverrides xs ys)
    (second : List.Forall₂ ScheduleBlock.SameOverrides ys zs) :
    List.Forall₂ ScheduleBlock.SameOverrides xs zs := by
  induction first generalizing zs with
  | nil => exact second
  | cons same _ ih =>
      cases second with
      | cons next rest => exact .cons (same.trans next) (ih rest)

theorem KeepsOverrides.trans {schedule : Schedule} {c c' : ScheduleConfig}
    (first : KeepsOverrides schedule c) (second : KeepsOverrides c.getTradingSchedule c') :
    KeepsOverrides schedule c' := by
  intro day
  exact sameOverrides_trans (first day) (second day)

theorem states_overrides (c : ScheduleConfig) (run : List ScheduleStep) :
    ∀ s ∈ states step c run, KeepsOverrides c.getTradingSchedule s := by
  have start : KeepsOverrides c.getTradingSchedule c :=
    fun day => List.forall₂_same.mpr fun b _ => b.sameOverrides_refl
  exact states_invariant (fun s a kept _ => kept.trans (s.step_overrides a)) start
    (meets_of_forall (fun _ _ => True.intro) c run)

/-- A save is read back as it was shown on the page or the panel; storing what
was read, or sending it to the paired node, leaves what the readers make of it;
and the overrides, those that the save cleared among them, stay as saved until
the user chooses others. -/
theorem trading_schedule_round_trip (c : ScheduleConfig) (u : UiSave) :
    (c.save u).getTradingSchedule = c.intended u ∧
      Reads (c.save u) ((c.save u).setTradingSchedule (c.save u).getTradingSchedule.stored) ∧
      (∀ peer : ScheduleConfig,
        Reads (c.save u) (peer.applyTradingScheduleSnapshot (c.save u).tradingScheduleSnapshot)) ∧
      ∀ run : List ScheduleStep, ∀ s ∈ states step (c.save u) run,
        KeepsOverrides (c.intended u) s := by
  refine ⟨c.get_save u, reads_rewrite _, reads_apply _, ?_⟩
  intro run s mem
  rw [← get_save]
  exact states_overrides _ run s mem

end ScheduleConfig

end Forex
