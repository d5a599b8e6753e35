import Forex.Risk.CircuitBreaker
import Forex.Support.Run
import Mathlib.Algebra.BigOperators.Group.List.Basic
import Mathlib.Data.List.Sort
import Mathlib.Data.Rat.Floor
import Mathlib.Tactic.FieldSimp
import Mathlib.Tactic.Linarith

/-!
The guards that a close runs: the governor's daily-loss and drawdown halts, the
give-back guard and the daily-loss ceiling. Each reads the trades closed today
and may write `trade_pause_until`. Amounts are exact, times are seconds.
-/

namespace Forex
open Support

structure ClosedTrade where
  closeTime : ℚ
  /-- NULL counts as zero in both reads. -/
  netPnl : ℚ
deriving DecidableEq, Repr

/-- A column of the settings row as `rs.get` finds it. -/
inductive SettingField where
  | missing
  | null
  | value (q : ℚ)
deriving DecidableEq, Repr

/-- `float(rs.get(key, default) or 0)`. -/
def SettingField.orZero (default : ℚ) : SettingField → ℚ
  | .missing => default
  | .null => 0
  | .value q => q

structure HaltSettings where
  riskGovernorEnabled : Bool
  maxDailyLossPct : SettingField
  maxTotalDrawdownPct : SettingField
  /-- Zero where there is none. -/
  cooldownAfterLossMin : ℤ
  givebackGuardEnabled : Bool
  givebackArmUsd : SettingField
  givebackPct : SettingField
deriving DecidableEq, Repr

structure HaltInputs where
  rs : HaltSettings
  balance : ℚ
  peakBalance : ℚ
  trades : List ClosedTrade
deriving DecidableEq, Repr

inductive HaltReason where
  | dailyLoss (realised limit pct base : ℚ)
  | drawdown (ddPct peak pct : ℚ)
  | giveback (peak realised pct floor : ℚ)
deriving DecidableEq, Repr

/-- The start of the broker day, which is midnight in UTC+3. -/
def rgDayStartTs (now : ℚ) : ℚ := ⌊(now + 10800) / 86400⌋ * 86400 - 10800

def closedSince (trades : List ClosedTrade) (since : ℚ) : List ClosedTrade :=
  trades.filter fun t => decide (since ≤ t.closeTime)

def sumRealisedPnlSince (trades : List ClosedTrade) (since : ℚ) : ℚ :=
  ((closedSince trades since).map ClosedTrade.netPnl).sum

/-- Oldest first. -/
def closedPnlsSince (trades : List ClosedTrade) (since : ℚ) : List ℚ :=
  ((closedSince trades since).insertionSort fun a b => a.closeTime ≤ b.closeTime).map
    ClosedTrade.netPnl

def dayPnlAndPeak (trades : List ClosedTrade) (dayStart : ℚ) : ℚ × ℚ :=
  (closedPnlsSince trades dayStart).foldl
    (fun s pnl => (s.1 + pnl, max s.2 (s.1 + pnl))) (0, 0)

namespace HaltInputs
variable (x : HaltInputs) (now : ℚ)

def checkDailyLossLimit (baseline : ℚ) : Option HaltReason :=
  let maxDaily := x.rs.maxDailyLossPct.orZero 0
  if maxDaily ≤ 0 then none
  else
    let realised := (dayPnlAndPeak x.trades (max (rgDayStartTs now) baseline)).1
    let dayBase := x.balance - realised
    if dayBase ≤ 0 then none
    else
      let limit := dayBase * (maxDaily / 100)
      if -|limit| < realised then none
      else some (.dailyLoss realised |limit| maxDaily dayBase)

def checkGivebackGuard (baseline : ℚ) : Option HaltReason :=
  if !x.rs.givebackGuardEnabled then none
  else
    let arm := x.rs.givebackArmUsd.orZero 50
    let pct := x.rs.givebackPct.orZero 40
    if arm ≤ 0 ∨ pct ≤ 0 then none
    else
      let day := dayPnlAndPeak x.trades (max (rgDayStartTs now) baseline)
      if day.2 < arm then none
      else
        let floor := day.2 * (1 - pct / 100)
        if floor < day.1 then none else some (.giveback day.2 day.1 pct floor)

/-- (C) of `rg_check_halt`. -/
def rgDailyLoss : Option HaltReason :=
  let realisedToday := sumRealisedPnlSince x.trades (rgDayStartTs now)
  let maxDaily := x.rs.maxDailyLossPct.orZero 3
  if 0 < maxDaily then
    let dayBase := x.balance - realisedToday
    let limit := dayBase * (maxDaily / 100)
    if realisedToday ≤ -|limit| then some (.dailyLoss realisedToday |limit| maxDaily dayBase)
    else none
  else none

/-- (D) of `rg_check_halt`. -/
def rgDrawdown : Option HaltReason :=
  let maxTotalDd := x.rs.maxTotalDrawdownPct.orZero 10
  if 0 < maxTotalDd ∧ 0 < x.balance ∧ x.balance < x.peakBalance then
    let ddPct := (x.peakBalance - x.balance) / x.peakBalance * 100
    if maxTotalDd ≤ ddPct then some (.drawdown ddPct x.peakBalance maxTotalDd) else none
  else none

def rgCheckHalt : Option HaltReason := (x.rgDailyLoss now).or x.rgDrawdown

end HaltInputs

/-- The keys of `app_config` that the guards and a resume write. -/
structure HaltState where
  pauseUntil : Option ℚ
  haltReason : Option HaltReason
  givebackBaseline : ℚ
  dailyLossBaseline : ℚ
deriving DecidableEq, Repr

/-- The clock as one guard reads it: for its check, for the pause in force, and
for what it writes. -/
structure GuardClock where
  check : ℚ
  paused : ℚ
  write : ℚ
  checkedFirst : check ≤ paused
  pausedFirst : paused ≤ write
deriving DecidableEq, Repr

inductive HaltStep where
  | governor (x : HaltInputs) (clock : GuardClock)
  | giveback (x : HaltInputs) (clock : GuardClock) (readable : Bool)
  | dailyLoss (x : HaltInputs) (clock : GuardClock) (readable : Bool)
  | resume (now : ℚ)
deriving DecidableEq, Repr

namespace HaltState
variable (s : HaltState)

/-- A pause that cannot be read counts as one in force. -/
def isTradingPaused (now : ℚ) (readable : Bool) : Bool :=
  !readable ||
    match s.pauseUntil with
    | none => false
    | some t => decide (now < t)

def halt (untilTs : ℚ) (reason : HaltReason) : HaltState :=
  { s with pauseUntil := some untilTs, haltReason := some reason }

/-- The end of the governor's halt: the broker day's, or of the cooldown. -/
def governorUntil (x : HaltInputs) (now : ℚ) : HaltReason → ℚ
  | .dailyLoss .. => rgDayStartTs now + 86400
  | _ => now + intOr x.rs.cooldownAfterLossMin 15 * 60

def rgApplyHaltsOnClose (x : HaltInputs) (clock : GuardClock) : HaltState :=
  match x.rgCheckHalt clock.check with
  | none => s
  | some reason => s.halt (governorUntil x clock.write reason) reason

/-- The end of `apply_giveback_guard_on_close` and of
`apply_daily_loss_halt_on_close`: a pause in force is left alone. -/
def haltForDay (reason : Option HaltReason) (clock : GuardClock) (readable : Bool) : HaltState :=
  match reason with
  | none => s
  | some reason =>
      if s.isTradingPaused clock.paused readable then s
      else s.halt (rgDayStartTs clock.write + 86400) reason

def applyGivebackGuardOnClose (x : HaltInputs) (clock : GuardClock) (readable : Bool) : HaltState :=
  s.haltForDay (x.checkGivebackGuard clock.check s.givebackBaseline) clock readable

def applyDailyLossHaltOnClose (x : HaltInputs) (clock : GuardClock) (readable : Bool) : HaltState :=
  s.haltForDay (x.checkDailyLossLimit clock.check s.dailyLossBaseline) clock readable

/-- The operator's resume, which also re-arms both guards. -/
def resume (now : ℚ) : HaltState :=
  { s with pauseUntil := some 0, givebackBaseline := now, dailyLossBaseline := now }

def step (s : HaltState) : HaltStep → HaltState
  | .governor x clock => s.rgApplyHaltsOnClose x clock
  | .giveback x clock readable => s.applyGivebackGuardOnClose x clock readable
  | .dailyLoss x clock readable => s.applyDailyLossHaltOnClose x clock readable
  | .resume now => s.resume now

end HaltState

/-- The checks of one close, in the order of `record_close`. -/
def postCloseChecks (x : HaltInputs) (governor giveback dailyLoss : GuardClock)
    (readable : Bool × Bool) : List HaltStep :=
  (if x.rs.riskGovernorEnabled then [.governor x governor] else []) ++
    [.giveback x giveback readable.1, .dailyLoss x dailyLoss readable.2]

namespace HaltState

/-- The pause is written to end earlier than the one stored. -/
def Shortens (old new : Option ℚ) : Prop := ∃ t ∈ old, ∃ t' ∈ new, t' < t

/-- Only the operator shortens the stored pause. -/
def KeepsHalt (s : HaltState) (a : HaltStep) : Prop :=
  (∃ now, a = .resume now) ∨ ¬Shortens s.pauseUntil (s.step a).pauseUntil

/-- Where the governor halts, the stored pause ends no later than the broker day,
or than its cooldown if the reason is the drawdown. -/
def HaltFits (s : HaltState) : HaltStep → Prop
  | .governor x clock =>
      ∀ t ∈ s.pauseUntil,
        ((x.rgDailyLoss clock.check).isSome → t ≤ rgDayStartTs clock.write + 86400) ∧
          ((x.rgDailyLoss clock.check).isNone → x.rgDrawdown.isSome →
            t ≤ clock.write + intOr x.rs.cooldownAfterLossMin 15 * 60)
  | _ => True

end HaltState

theorem lt_rgDayEnd (now : ℚ) : now < rgDayStartTs now + 86400 := by
  have above := Int.lt_floor_add_one ((now + 10800) / 86400)
  rw [div_lt_iff₀ (by norm_num)] at above
  rw [rgDayStartTs]
  linarith

namespace HaltInputs
variable {x : HaltInputs} {now : ℚ}

theorem rgDailyLoss_reason {reason : HaltReason} (h : x.rgDailyLoss now = some reason) :
    ∃ realised limit pct base, reason = .dailyLoss realised limit pct base := by
  simp only [rgDailyLoss] at h
  split_ifs at h
  exact ⟨_, _, _, _, (Option.some.inj h).symm⟩

theorem rgDrawdown_reason {reason : HaltReason} (h : x.rgDrawdown = some reason) :
    ∃ ddPct peak pct, reason = .drawdown ddPct peak pct := by
  simp only [rgDrawdown] at h
  split_ifs at h
  exact ⟨_, _, _, (Option.some.inj h).symm⟩

end HaltInputs

namespace HaltState
variable {s : HaltState}

theorem shortens_some {old : Option ℚ} {t : ℚ} : Shortens old (some t) ↔ ∃ t₀ ∈ old, t < t₀ := by
  simp [Shortens]

theorem not_shortens_self (t : Option ℚ) : ¬Shortens t t := by
  rintro ⟨a, ha, b, hb, lt⟩
  rw [Option.mem_unique ha hb] at lt
  exact lt_irrefl b lt

/-- Both day guards write only over a pause that has run out. -/
theorem haltForDay_keeps (reason : Option HaltReason) (clock : GuardClock) (readable : Bool) :
    ¬Shortens s.pauseUntil (s.haltForDay reason clock readable).pauseUntil := by
  cases reason with
  | none => exact not_shortens_self _
  | some reason =>
      rw [haltForDay]
      split
      · exact not_shortens_self _
      · next free =>
          rw [halt, shortens_some]
          rintro ⟨t, stored, shorter⟩
          have past : t ≤ clock.paused := by
            simp only [isTradingPaused, Option.mem_def.mp stored, Bool.or_eq_true,
              decide_eq_true_eq, not_or, not_lt] at free
            exact free.2
          have ends := lt_rgDayEnd clock.write
          have order := clock.pausedFirst
          linarith

/-- The governor writes whatever is stored. -/
theorem governor_keeps (x : HaltInputs) (clock : GuardClock) :
    ¬Shortens s.pauseUntil (s.rgApplyHaltsOnClose x clock).pauseUntil ↔
      s.HaltFits (.governor x clock) := by
  rw [rgApplyHaltsOnClose, HaltInputs.rgCheckHalt, HaltFits]
  cases loss : x.rgDailyLoss clock.check with
  | some reason =>
      obtain ⟨realised, limit, pct, base, rfl⟩ := HaltInputs.rgDailyLoss_reason loss
      rw [Option.some_or]
      simp [halt, shortens_some, governorUntil]
  | none =>
      rw [Option.none_or]
      cases drawdown : x.rgDrawdown with
      | some reason =>
          obtain ⟨ddPct, peak, pct, rfl⟩ := HaltInputs.rgDrawdown_reason drawdown
          simp [halt, shortens_some, governorUntil]
      | none => simp [not_shortens_self]

theorem keepsHalt_iff (s : HaltState) (a : HaltStep) : s.KeepsHalt a ↔ s.HaltFits a := by
  cases a with
  | governor x clock =>
      rw [← governor_keeps, KeepsHalt, step]
      simp
  | giveback x clock readable | dailyLoss x clock readable =>
      exact iff_of_true (.inr (haltForDay_keeps _ clock readable)) True.intro
  | resume now => exact iff_of_true (.inl ⟨now, rfl⟩) True.intro

/-- Along a run of post-close checks and resumes the stored pause is shortened
by the operator only, exactly when each halt of the governor ends no earlier
than the pause that it finds. -/
theorem halt_kept (s : HaltState) (run : List HaltStep) :
    Meets step KeepsHalt s run ↔ Meets step HaltFits s run :=
  meets_congr keepsHalt_iff s run

/-- Of 100 made today 60 are given back, and the account is a tenth under its peak. -/
def givenBack : HaltInputs where
  rs := ⟨true, .value 3, .value 10, 15, true, .value 50, .value 40⟩
  balance := 900
  peakBalance := 1000
  trades := [⟨40000, 100⟩, ⟨42000, -60⟩]

def noon : GuardClock := ⟨43200, 43200, 43200, le_rfl, le_rfl⟩

/-- The drawdown cooldown of a later close replaces the halt for the day. -/
theorem cooldown_replaces_day_halt :
    ¬ ∀ (s : HaltState) (run : List HaltStep), Meets step KeepsHalt s run := by
  intro all
  let close (balance : ℚ) : List HaltStep :=
    postCloseChecks { givenBack with balance := balance } noon noon noon (true, true)
  have kept := (all ⟨none, none, 0, 0⟩ (close 901 ++ close 900)).2.2.2.1
  cases kept with
  | inl resumed =>
      obtain ⟨now, same⟩ := resumed
      cases same
  | inr kept => exact kept ⟨75600, by decide +kernel, 44100, by decide +kernel, by norm_num⟩

end HaltState

section DailyLoss
variable {x : HaltInputs} {now baseline : ℚ}

/-- The loss is at the given share of the balance before it, or beyond. -/
def LossBreached (balance pct realised : ℚ) : Prop :=
  100 * realised + pct * |balance - realised| ≤ 0

theorem lossBreached_iff {balance pct realised : ℚ} (pos : 0 < pct) :
    realised ≤ -|(balance - realised) * (pct / 100)| ↔ LossBreached balance pct realised := by
  rw [LossBreached, abs_mul, abs_of_pos (div_pos pos (by norm_num))]
  constructor <;> intro h <;> linarith

theorem foldl_running (pnls : List ℚ) (s : ℚ × ℚ) :
    (pnls.foldl (fun s pnl => (s.1 + pnl, max s.2 (s.1 + pnl))) s).1 = s.1 + pnls.sum := by
  induction pnls generalizing s with
  | nil => simp
  | cons pnl rest ih =>
      rw [List.foldl_cons, ih, List.sum_cons, add_assoc]

theorem dayPnlAndPeak_fst (trades : List ClosedTrade) (since : ℚ) :
    (dayPnlAndPeak trades since).1 = sumRealisedPnlSince trades since := by
  rw [dayPnlAndPeak, foldl_running, zero_add, closedPnlsSince, sumRealisedPnlSince]
  exact ((List.perm_insertionSort _ _).map _).sum_eq

/-- The net result of the trades closed today before the guards were re-armed. -/
def pnlBeforeResume (trades : List ClosedTrade) (dayStart baseline : ℚ) : ℚ :=
  ((trades.filter fun t => decide (dayStart ≤ t.closeTime ∧ t.closeTime < baseline)).map
    ClosedTrade.netPnl).sum

theorem sum_split (trades : List ClosedTrade) (dayStart baseline : ℚ) :
    sumRealisedPnlSince trades dayStart =
      pnlBeforeResume trades dayStart baseline +
        sumRealisedPnlSince trades (max dayStart baseline) := by
  rw [sumRealisedPnlSince, sumRealisedPnlSince, pnlBeforeResume]
  induction trades with
  | nil => simp [closedSince]
  | cons t rest ih =>
      simp only [closedSince, List.filter_cons, max_le_iff, decide_eq_true_eq] at ih ⊢
      by_cases today : dayStart ≤ t.closeTime
      · by_cases earlier : t.closeTime < baseline
        · simp only [today, earlier, not_le.mpr earlier, and_self, and_false, if_true, if_false,
            List.map_cons, List.sum_cons]
          linarith
        · simp only [today, earlier, not_lt.mp earlier, and_self, and_false, if_true, if_false,
            List.map_cons, List.sum_cons]
          linarith
      · simp only [today, false_and, if_false]
        exact ih

namespace HaltInputs

theorem rgDailyLoss_isSome (x : HaltInputs) (now : ℚ) :
    (x.rgDailyLoss now).isSome = true ↔
      0 < x.rs.maxDailyLossPct.orZero 3 ∧
        LossBreached x.balance (x.rs.maxDailyLossPct.orZero 3)
          (sumRealisedPnlSince x.trades (rgDayStartTs now)) := by
  simp only [rgDailyLoss]
  split
  · next pos =>
      rw [and_iff_right pos, ← lossBreached_iff pos]
      split
      · next breached => exact iff_of_true rfl breached
      · next within => exact iff_of_false Bool.false_ne_true within
  · next none => exact iff_of_false Bool.false_ne_true fun h => none h.1

theorem checkDailyLossLimit_isSome (x : HaltInputs) (now baseline : ℚ) :
    (x.checkDailyLossLimit now baseline).isSome = true ↔
      0 < x.rs.maxDailyLossPct.orZero 0 ∧
        sumRealisedPnlSince x.trades (max (rgDayStartTs now) baseline) < x.balance ∧
        LossBreached x.balance (x.rs.maxDailyLossPct.orZero 0)
          (sumRealisedPnlSince x.trades (max (rgDayStartTs now) baseline)) := by
  simp only [checkDailyLossLimit, dayPnlAndPeak_fst]
  split
  · next none => exact iff_of_false Bool.false_ne_true fun h => none.not_gt h.1
  · next pos =>
      rw [not_le] at pos
      rw [and_iff_right pos, ← lossBreached_iff pos]
      split
      · next lost =>
          rw [sub_nonpos] at lost
          exact iff_of_false Bool.false_ne_true fun h => lost.not_gt h.1
      · next base =>
          rw [not_le, sub_pos] at base
          rw [and_iff_right base, ← not_lt]
          split
          · next within => exact iff_of_false Bool.false_ne_true fun h => h within
          · next breached => exact iff_of_true rfl breached

/-- The daily-loss condition of the governor is that of the ceiling. -/
def DailyLossAgrees (x : HaltInputs) (now baseline : ℚ) : Prop :=
  (x.rgDailyLoss now).isSome = true ↔ (x.checkDailyLossLimit now baseline).isSome = true

/-- With the limit stored, what was closed today before the resume does not
carry the day across it, nor is the balance lost since; without it, the day is
not across the share that the governor takes for it. -/
def SameLimit (x : HaltInputs) (now baseline : ℚ) : Prop :=
  let before := pnlBeforeResume x.trades (rgDayStartTs now) baseline
  let since := sumRealisedPnlSince x.trades (max (rgDayStartTs now) baseline)
  match x.rs.maxDailyLossPct with
  | .missing => ¬LossBreached x.balance 3 (before + since)
  | .null => True
  | .value pct =>
      0 < pct →
        (LossBreached x.balance pct (before + since) ↔
          since < x.balance ∧ LossBreached x.balance pct since)

theorem daily_loss_agrees (x : HaltInputs) (now baseline : ℚ) :
    x.DailyLossAgrees now baseline ↔ x.SameLimit now baseline := by
  rw [DailyLossAgrees, rgDailyLoss_isSome, checkDailyLossLimit_isSome,
    sum_split x.trades (rgDayStartTs now) baseline, SameLimit]
  cases x.rs.maxDailyLossPct with
  | missing => simp [SettingField.orZero]
  | null => simp [SettingField.orZero]
  | value pct =>
      simp only [SettingField.orZero]
      exact and_congr_right_iff

/-- A loss that the operator has resumed past still halts through the governor. -/
theorem governor_ignores_resume :
    ¬ ∀ (x : HaltInputs) (now baseline : ℚ), x.DailyLossAgrees now baseline := by
  intro all
  let lost : HaltInputs :=
    { HaltState.givenBack with trades := [⟨40000, -100⟩] }
  exact absurd ((all lost 43200 41000).mp (by decide +kernel)) (by decide +kernel)

/-- Until the guards are re-armed the two agree on a stored limit, as long as
there is a balance to lose. -/
theorem sameLimit_of_unresumed {x : HaltInputs} {now baseline pct : ℚ}
    (stored : x.rs.maxDailyLossPct = .value pct) (unresumed : baseline ≤ rgDayStartTs now)
    (base : sumRealisedPnlSince x.trades (rgDayStartTs now) < x.balance) :
    x.SameLimit now baseline := by
  have none : pnlBeforeResume x.trades (rgDayStartTs now) baseline = 0 := by
    rw [pnlBeforeResume, List.filter_eq_nil_iff.mpr]
    · rfl
    · intro t _
      rw [decide_eq_true_eq]
      intro between
      exact absurd (unresumed.trans between.1) (not_le.mpr between.2)
  simp only [SameLimit, stored, none, zero_add, max_eq_left unresumed]
  exact fun _ => (and_iff_right base).symm

end HaltInputs

end DailyLoss

end Forex
