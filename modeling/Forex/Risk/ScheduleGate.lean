import Forex.Monitor.OutOfHours
import Forex.Risk.Schedule

/-!
The schedule gate of an automated entry. The watcher asks it under the source
name stored with the signal; the resolution of an open first turns the names of
the two engines into their keys. Which toggle is read follows from the key.
-/

namespace Forex

/-- `CANONICAL_CHANNELS`, as it stands when it is read. -/
abbrev ChannelAliases := List (String × String)

def ChannelAliases.get (aliases : ChannelAliases) (name : String) : Option String :=
  (aliases.find? fun e => decide (e.1 = name)).map Prod.snd

def canonicalChannels : ChannelAliases :=
  [("GOLD DIGGERS 2.0 ⚡️", "GOLD DIGGERS INSTITUTIONAL"),
    ("Telegram Auto (GOLD DIGGERS 2.0 ⚡️)", "GOLD DIGGERS INSTITUTIONAL"),
    ("Gold Diggers 2.0", "GOLD DIGGERS INSTITUTIONAL"),
    ("2616846888", "GOLD DIGGERS INSTITUTIONAL"),
    ("GOLD DIGGERS INSTITUTIONAL", "GOLD DIGGERS INSTITUTIONAL"),
    ("Telegram Auto (GOLD DIGGERS INSTITUTIONAL)", "GOLD DIGGERS INSTITUTIONAL"),
    ("Gold Diggers VIP", "Gold Diggers VIP"),
    ("Telegram Auto (Gold Diggers VIP)", "Gold Diggers VIP"),
    ("1608388054", "Gold Diggers VIP"),
    ("Signal Generator", "Bounce Engine"),
    ("Bounce Generator", "Bounce Engine"),
    ("Bounce Engine", "Bounce Engine"),
    ("Breakout Engine", "Breakout Engine"),
    ("Reversal Engine", "Reversal Engine"),
    ("Gold Diggers VIP Copy", "Reversal Engine"),
    ("ORB/IVB Report (auto)", "ORB/IVB Report"),
    ("ORB/IVB Report", "ORB/IVB Report")]

def tgAutoOpen : List Char :=
  ['t', 'e', 'l', 'e', 'g', 'r', 'a', 'm', ' ', 'a', 'u', 't', 'o', ' ', '(']

def undecorated (src : List Char) : List Char :=
  if tgAutoOpen.isPrefixOf (lower src) && decide (src.getLast? = some ')') then
    strip (src.drop tgAutoOpen.length).dropLast
  else src

/-- `_canonical`. -/
def canonical (aliases : ChannelAliases) (source : String) : String :=
  match aliases.get source with
  | some name => name
  | none =>
      let src := String.ofList (undecorated (strip source.toList))
      (aliases.get src).getD src

namespace Engine

/-- `ENGINE_SOURCE_KEYS`. -/
def key : Engine → String
  | .reversal => "reversal_engine"
  | .breakout => "breakout_engine"

/-- The name on the page, and the source name of the engine's own signals. -/
def label : Engine → String
  | .reversal => "Reversal Engine"
  | .breakout => "Breakout Engine"

def ofKey (source : String) : Option Engine :=
  if source = "reversal_engine" then some .reversal
  else if source = "breakout_engine" then some .breakout
  else none

def ofLabel (source : String) : Option Engine :=
  if source = "Reversal Engine" then some .reversal
  else if source = "Breakout Engine" then some .breakout
  else none

end Engine

def overrideOrNone (override : String) : Option String :=
  if override = "" then none else some override

def resolveSourceGate (aliases : ChannelAliases) (block : ScheduleBlock) (source : String) :
    Bool × Option String :=
  match Engine.ofKey source with
  | some e => (block.engine e, overrideOrNone (block.engineOverride e))
  | none =>
      match block.telegramChannels.get (canonical aliases source) with
      | some cfg => (cfg.enabled, overrideOrNone cfg.strategyOverride)
      | none => (block.telegramDefaultEnabled, none)

/-- The trading clock, to the minute. -/
structure TradingClock where
  day : DayName
  dayKey : String
  minute : ℤ

def covers (now : TradingClock) (block : ScheduleBlock) : Bool :=
  block.enabled &&
    match readClock block.start, readClock block.stop with
    | some start, some stop => decide (start ≤ now.minute ∧ now.minute < stop)
    | _, _ => false

def findActiveBlock (schedule : Schedule) (now : TradingClock) : Option ScheduleBlock :=
  (schedule now.day).find? (covers now)

inductive ScheduleRefusal where
  | dailyTarget (pnl target : ℚ)
  | outside (day : DayName)
  | sourceDisabled (label : String)
  | windowTarget (pnl target : ℚ)

/-- What the gate reads: the stored schedule, the alias table, the clock, and
the net profit of the trades opened today and in today's window. -/
structure ScheduleInputs where
  config : ScheduleConfig
  aliases : ChannelAliases
  now : TradingClock
  dayPnl : ℚ
  blockPnl : ScheduleBlock → ℚ

def sourceLabel (source : String) : String :=
  match Engine.ofKey source with
  | some e => e.label
  | none => source

namespace ScheduleInputs
variable (w : ScheduleInputs)

def dailyTargetReached : Bool :=
  let target := w.config.getDailyProfitTarget
  decide (0 < target) && !w.config.isDailyProfitTargetResumed w.now.dayKey &&
    decide (target ≤ w.dayPnl)

def activeBlock : Option ScheduleBlock := findActiveBlock w.config.getTradingSchedule w.now

def windowTargetReached (block : ScheduleBlock) : Bool :=
  decide (0 < block.target) && decide (block.target ≤ w.blockPnl block)

/-- `check_trading_schedule`: `none` lets the entry through. -/
def checkTradingSchedule (source : String) : Option ScheduleRefusal :=
  if !w.config.isTradingScheduleEnabled then none
  else if w.dailyTargetReached then
    some (.dailyTarget w.dayPnl w.config.getDailyProfitTarget)
  else
    match w.activeBlock with
    | none => some (.outside w.now.day)
    | some block =>
        if !(resolveSourceGate w.aliases block source).1 then
          some (.sourceDisabled (sourceLabel source))
        else if w.windowTargetReached block then
          some (.windowTarget (w.blockPnl block) block.target)
        else none

/-- The call of the pending watcher. -/
def watcherGate (sourceName : String) : Option ScheduleRefusal := w.checkTradingSchedule sourceName

/-- The call of `resolve_open_trade_params`. -/
def resolutionGate (sourceName : String) : Option ScheduleRefusal :=
  w.checkTradingSchedule
    (match Engine.ofLabel sourceName with
    | some e => e.key
    | none => sourceName)

end ScheduleInputs

/-- Where a signal comes from: an engine, or a configured channel under some
spelling of its name. -/
inductive SignalOrigin where
  | engine (e : Engine)
  | channel (name spelling : String)
deriving DecidableEq, Repr

namespace SignalOrigin

def sourceName : SignalOrigin → String
  | .engine e => e.label
  | .channel _ spelling => spelling

/-- The name under which the schedule page lists the source. -/
def displayed (aliases : ChannelAliases) : SignalOrigin → String
  | .engine e => e.label
  | .channel name _ => canonical aliases name

end SignalOrigin

/-- The toggle that the user saved under a displayed name. -/
def ScheduleBlock.toggle (block : ScheduleBlock) (displayed : String) : Bool :=
  match Engine.ofLabel displayed with
  | some e => block.engine e
  | none => block.channelEnabled displayed

namespace ScheduleInputs
variable (w : ScheduleInputs)

/-- The verdict when the source is let through exactly where the toggle is on. -/
def allows (toggle : ScheduleBlock → Bool) : Bool :=
  !w.config.isTradingScheduleEnabled ||
    !w.dailyTargetReached &&
      match w.activeBlock with
      | none => false
      | some block => toggle block && !w.windowTargetReached block

/-- Both routes give the verdict of the toggle under the displayed name. -/
def SameGate (o : SignalOrigin) : Prop :=
  (w.watcherGate o.sourceName).isNone = (w.resolutionGate o.sourceName).isNone ∧
    (w.watcherGate o.sourceName).isNone =
      w.allows fun block => block.toggle (o.displayed w.aliases)

/-- The window whose toggles decide: the schedule is on, no target is reached. -/
def decidingBlock : Option ScheduleBlock :=
  if w.config.isTradingScheduleEnabled && !w.dailyTargetReached then
    w.activeBlock.filter fun block => !w.windowTargetReached block
  else none

end ScheduleInputs

/-- The channel table has for an engine's name the switch of the engine; a
channel is spelled neither as an engine nor as its key, and the spelling leads to
the switch of its displayed name. -/
def SameSwitch (aliases : ChannelAliases) (block : ScheduleBlock) : SignalOrigin → Prop
  | .engine e => block.channelEnabled (canonical aliases e.label) = block.engine e
  | .channel name spelling =>
      let shown := block.toggle (canonical aliases name)
      match Engine.ofKey spelling, Engine.ofLabel spelling with
      | some e, _ => block.engine e = shown
      | none, some e =>
          block.channelEnabled (canonical aliases spelling) = shown ∧ block.engine e = shown
      | none, none => block.channelEnabled (canonical aliases spelling) = shown

section Gates
variable {aliases : ChannelAliases} {block : ScheduleBlock}

theorem resolveSourceGate_enabled (aliases : ChannelAliases) (block : ScheduleBlock)
    (source : String) :
    (resolveSourceGate aliases block source).1 =
      match Engine.ofKey source with
      | some e => block.engine e
      | none => block.channelEnabled (canonical aliases source) := by
  rw [resolveSourceGate]
  cases Engine.ofKey source with
  | some e => rfl
  | none =>
      simp only [ScheduleBlock.channelEnabled]
      cases block.telegramChannels.get (canonical aliases source) <;> rfl

namespace ScheduleInputs
variable (w : ScheduleInputs)

theorem checkTradingSchedule_isNone (source : String) :
    (w.checkTradingSchedule source).isNone =
      w.allows fun block => (resolveSourceGate w.aliases block source).1 := by
  rw [checkTradingSchedule, allows]
  cases w.config.isTradingScheduleEnabled with
  | false => rfl
  | true =>
      cases w.dailyTargetReached with
      | true => rfl
      | false =>
          cases w.activeBlock with
          | none => rfl
          | some block =>
              cases on : (resolveSourceGate w.aliases block source).1 with
              | false => simp [on]
              | true => cases reached : w.windowTargetReached block <;> simp [on, reached]

/-- The toggles of no other window are asked. -/
theorem allows_eq_iff (f g : ScheduleBlock → Bool) :
    w.allows f = w.allows g ↔ ∀ block ∈ w.decidingBlock, f block = g block := by
  rw [allows, allows, decidingBlock]
  cases w.config.isTradingScheduleEnabled with
  | false => simp
  | true =>
      cases w.dailyTargetReached with
      | true => simp
      | false =>
          cases w.activeBlock with
          | none => simp
          | some block => cases reached : w.windowTargetReached block <;> simp [reached]

end ScheduleInputs

theorem Engine.ofLabel_label (e : Engine) : Engine.ofLabel e.label = some e := by
  cases e <;> rfl

theorem Engine.ofKey_key (e : Engine) : Engine.ofKey e.key = some e := by
  cases e <;> rfl

theorem Engine.ofKey_label (e : Engine) : Engine.ofKey e.label = none := by
  cases e <;> rfl

theorem Engine.ofLabel_of_ofKey {source : String} {e : Engine} (h : Engine.ofKey source = some e) :
    Engine.ofLabel source = none := by
  rw [Engine.ofKey] at h
  split_ifs at h with reversal breakout
  · rw [reversal]
    rfl
  · rw [breakout]
    rfl

/-- Both routes read the displayed toggle of a window. -/
theorem sameSwitch_iff (aliases : ChannelAliases) (block : ScheduleBlock) (o : SignalOrigin) :
    SameSwitch aliases block o ↔
      (resolveSourceGate aliases block o.sourceName).1 =
          (resolveSourceGate aliases block
            (match Engine.ofLabel o.sourceName with
            | some e => e.key
            | none => o.sourceName)).1 ∧
        (resolveSourceGate aliases block o.sourceName).1 =
          block.toggle (o.displayed aliases) := by
  rw [resolveSourceGate_enabled, resolveSourceGate_enabled]
  cases o with
  | engine e =>
      rw [SignalOrigin.sourceName, SignalOrigin.displayed, Engine.ofLabel_label,
        ScheduleBlock.toggle, Engine.ofLabel_label, SameSwitch, Engine.ofKey_label]
      simp [Engine.ofKey_key]
  | channel name spelling =>
      rw [SignalOrigin.sourceName, SignalOrigin.displayed, SameSwitch]
      cases keyed : Engine.ofKey spelling with
      | some e => simp [Engine.ofLabel_of_ofKey keyed, keyed]
      | none =>
          cases labelled : Engine.ofLabel spelling with
          | some e =>
              simp only [Engine.ofKey_key]
              constructor
              · rintro ⟨channel, engine⟩
                exact ⟨channel.trans engine.symm, channel⟩
              · rintro ⟨same, channel⟩
                exact ⟨channel, same.symm.trans channel⟩
          | none => simp [keyed]

/-- `Telegram Auto (<channel>)`, as the scan stores it with a signal. -/
def decorated (name : List Char) : List Char :=
  ['T', 'e', 'l', 'e', 'g', 'r', 'a', 'm', ' ', 'A', 'u', 't', 'o', ' ', '('] ++ (name ++ [')'])

theorem strip_decorated (name : List Char) : strip (decorated name) = decorated name := by
  have first : (decorated name).dropWhile isSpace = decorated name :=
    List.dropWhile_cons_of_neg (by decide)
  have last : (decorated name).reverse.dropWhile isSpace = (decorated name).reverse := by
    rw [decorated, List.reverse_append, List.reverse_append, List.reverse_singleton]
    exact List.dropWhile_cons_of_neg (by decide)
  rw [strip, first, last, List.reverse_reverse]

theorem undecorated_decorated {name : List Char} (plain : strip name = name) :
    undecorated (decorated name) = name := by
  have opens : tgAutoOpen.isPrefixOf (lower (decorated name)) = true := by
    rw [decorated, lower, List.map_append, List.isPrefixOf_iff_prefix]
    exact ⟨_, rfl⟩
  have closes : (decorated name).getLast? = some ')' := by
    rw [decorated, ← List.append_assoc, List.getLast?_concat]
  have inner : (decorated name).drop tgAutoOpen.length = name ++ [')'] := rfl
  rw [undecorated, opens, closes, inner, List.dropLast_concat, plain]
  rfl

/-- The decoration of a plain name leads to the same channel, unless the table
knows the decorated name itself. -/
theorem canonical_decorated {aliases : ChannelAliases} {name : List Char}
    (plain : strip name = name) (bare : undecorated name = name)
    (unlisted : aliases.get (String.ofList (decorated name)) = none) :
    canonical aliases (String.ofList (decorated name)) =
      canonical aliases (String.ofList name) := by
  rw [canonical, canonical, unlisted, String.toList_ofList, strip_decorated,
    undecorated_decorated plain, String.toList_ofList, plain, bare]
  cases listed : aliases.get (String.ofList name) with
  | none => rfl
  | some shown => simp [listed]

end Gates

namespace ScheduleInputs

/-- Both routes give the verdict of the toggle under the displayed name exactly
when, in the window that decides, both read a switch equal to it. -/
theorem schedule_gate_agrees (w : ScheduleInputs) (o : SignalOrigin) :
    w.SameGate o ↔ ∀ block ∈ w.decidingBlock, SameSwitch w.aliases block o := by
  rw [SameGate, watcherGate, resolutionGate, checkTradingSchedule_isNone,
    checkTradingSchedule_isNone, allows_eq_iff, allows_eq_iff, ← forall₂_and]
  exact forall₂_congr fun block _ => (sameSwitch_iff w.aliases block o).symm

/-- One window, all day, with the Reversal Engine switched off. -/
def reversalOff : ScheduleInputs where
  config :=
    ScheduleConfig.setTradingSchedule ⟨none, some true, none, none⟩
      (Schedule.stored fun _ =>
        { defaultBlock with enabled := true, engine := fun e => decide (e = .breakout) } ::
          List.replicate 3 defaultBlock)
  aliases := canonicalChannels
  now := ⟨.monday, "2026-09-14", 600⟩
  dayPnl := 0
  blockPnl _ := 0

/-- The watcher looks the engine up among the channels and lets it through. -/
theorem reversal_engine_off_missed : ¬ ∀ (w : ScheduleInputs) (o : SignalOrigin), w.SameGate o := by
  intro all
  exact absurd (all reversalOff (.engine .reversal)).1 (by decide)

end ScheduleInputs

end Forex
