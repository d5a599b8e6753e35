import Forex.Signals.Rearm
import Mathlib.Algebra.BigOperators.Ring.List

/-!
The close table of a resting order: the one that `_resolve_management` sends with it, from
the number of levels stated, and the one that the Python handler of its strategy looks up
for the levels of the filled row, if it takes the trade back from the EA.
-/

namespace Forex

/-- The parameters of Limit Runner among those of the ladder handlers. -/
def LadderParams.limitRunner (params : LadderParams) : LimitRunnerParams where
  runnerReservePct := params.runnerReservePct
  beAtPos := params.limitBeAtPos

section CloseTable
variable (params : LadderParams) (override : Option Strategy) (trade : Trade)

/-- The levels of the signal, as `apply_pending_fill` writes them into the row. -/
def statedLevels : ℕ := (definedTps trade.tps).length

/-- What was sent for the order behind a filled row. -/
def placedManagement : Management :=
  resolveManagement params.limitRunner override (statedLevels trade) trade.tpOpen

/-- The part of the lot that the levels are to close. -/
def closedShare : ℚ := if trade.tpOpen then 1 - params.limitRunner.reserve else 1

/-- A fraction for each of `n` levels, which add up to the share. -/
structure Shares (n : ℕ) (share : ℚ) (pcts : List ℚ) : Prop where
  oneEach : pcts.length = n
  total : pcts.sum = share

/-- The fractions that `run_tp_ladder` looks up for the number of levels that it walks. -/
def lookedUp (rule : LadderRule) : List ℚ := pctsFor rule.pcts (ladderTps trade).length

/-- Those of the levels that it walks. -/
def walkedPcts (rule : LadderRule) : List ℚ := (lookedUp trade rule).take (ladderTps trade).length

/-- The table sent closes the share where the EA walks it, and a handler that reclaims the
trade closes the share with the same table and the same breakeven level. -/
structure CloseTableKept : Prop where
  sent : (placedManagement params override trade).strategy ∈ tpLadderStrategies ∨
      (placedManagement params override trade).strategy.isTemplate = true →
    Shares (statedLevels trade) (closedShare params trade)
      (placedManagement params override trade).pcts
  reclaimed : ∀ rule,
    ladderRule params trade (placedManagement params override trade).strategy = some rule →
      Shares (ladderTps trade).length (closedShare params trade) (walkedPcts trade rule) ∧
        (placedManagement params override trade).pcts = lookedUp trade rule ∧
          (placedManagement params override trade).beAtPos = rule.beAtPos

/-- No level stated is behind the fill. -/
def AllAhead : Prop := ∀ p ∈ definedTps trade.tps, onProfitSide trade p.2 = true

instance : Decidable (AllAhead trade) := inferInstanceAs (Decidable (∀ p ∈ _, _))

/-- A fixed table knows no reserve, and Signal Climber is sent its breakeven at TP1. -/
def TableFits : Prop :=
  match override with
  | none | some .limitRunner => AllAhead trade
  | some .signalClimber =>
      AllAhead trade ∧ (trade.tpOpen = true → params.runnerReservePct ≤ 0) ∧
        params.climberBeAtPos < 2
  | some .reversalRunner | some .adaptiveRunner | some .adaptiveRunner2 =>
      AllAhead trade ∧ (trade.tpOpen = true → params.runnerReservePct ≤ 0)
  | some _ => True

end CloseTable

/-- The fractions of each table add up to the whole lot. -/
def WholeTable (table : List (ℕ × List ℚ)) : Prop :=
  ∀ n ≤ maxTp, n ≠ 0 → (pctsFor table n).sum = 1

instance (table : List (ℕ × List ℚ)) : Decidable (WholeTable table) :=
  inferInstanceAs (Decidable (∀ n ≤ 8, n ≠ 0 → (pctsFor table n).sum = 1))

theorem wholeTable_climber : WholeTable climberPcts := by decide +kernel

theorem wholeTable_gdvr : WholeTable gdvrPcts := by decide +kernel

theorem LimitRunnerParams.reserve_eq_zero_iff {params : LimitRunnerParams} :
    params.reserve = 0 ↔ params.runnerReservePct ≤ 0 := by
  rw [LimitRunnerParams.reserve]
  constructor
  · intro none
    by_contra pos
    have some : 0 < params.runnerReservePct / 100 := div_pos (not_le.mp pos) (by norm_num)
    have least : 0 < min (max (params.runnerReservePct / 100) 0) (95 / 100) :=
      lt_min (lt_max_of_lt_left some) (by norm_num)
    exact ne_of_gt least none
  · intro nonpos
    rw [max_eq_right (by linarith), min_eq_left (by norm_num)]

section Sent
variable {params : LadderParams} {trade : Trade}

theorem limitRunnerPcts_shares {n : ℕ} (some : n ≠ 0) (tpOpen : Bool) (runner : LimitRunnerParams) :
    Shares n (if tpOpen then 1 - runner.reserve else 1) (runner.limitRunnerPcts n tpOpen) := by
  constructor
  · exact List.length_replicate
  · rw [LimitRunnerParams.limitRunnerPcts, List.sum_replicate, nsmul_eq_mul]
    exact mul_div_cancel₀ _ (Nat.cast_ne_zero.mpr some)

/-- A table that is scaled down by the reserve. -/
theorem scaledTable_shares {table : List (ℕ × List ℚ)} (full : FullTable table)
    (whole : WholeTable table) {n : ℕ} (few : n ≤ maxTp) (some : n ≠ 0) (tpOpen : Bool)
    (runner : LimitRunnerParams) :
    Shares n (if tpOpen then 1 - runner.reserve else 1)
      (if tpOpen then (pctsFor table n).map (· * (1 - runner.reserve)) else pctsFor table n) := by
  cases tpOpen with
  | false => exact ⟨full n few some, whole n few some⟩
  | true =>
      refine ⟨(List.length_map _).trans (full n few some), ?_⟩
      rw [if_pos rfl, if_pos rfl, List.sum_map_mul_right, List.map_id', whole n few some, one_mul]

theorem length_ladderTps_iff : (ladderTps trade).length = statedLevels trade ↔ AllAhead trade := by
  rw [ladderTps_eq, statedLevels, List.length_filter_eq_length_iff]
  rfl

variable (columns : trade.tps.length = maxTp) (stated : definedTps trade.tps ≠ [])
include columns

theorem statedLevels_le : statedLevels trade ≤ maxTp := columns ▸ length_definedTps_le trade.tps

include stated

omit columns in
theorem statedLevels_ne_zero : statedLevels trade ≠ 0 := by
  rw [statedLevels]
  exact fun none => stated (List.length_eq_zero_iff.mp none)

/-- The table that is sent closes the share, by whatever strategy the EA walks it. -/
theorem sent_shares (override : Option Strategy)
    (walks : (placedManagement params override trade).strategy ∈ tpLadderStrategies ∨
      (placedManagement params override trade).strategy.isTemplate = true) :
    Shares (statedLevels trade) (closedShare params trade)
      (placedManagement params override trade).pcts := by
  have few := statedLevels_le columns
  have some := statedLevels_ne_zero stated
  have even := limitRunnerPcts_shares some trade.tpOpen params.limitRunner
  have climber := scaledTable_shares fullTable_climber wholeTable_climber few some trade.tpOpen
    params.limitRunner
  have gdvr := scaledTable_shares fullTable_gdvr wholeTable_gdvr few some trade.tpOpen
    params.limitRunner
  cases override with
  | none => exact even
  | some strategy =>
      cases strategy with
      | template name => exact even
      | limitRunner => exact even
      | signalClimber => exact climber
      | reversalRunner => exact gdvr
      | adaptiveRunner => exact gdvr
      | adaptiveRunner2 => exact gdvr
      | _ =>
          simp [placedManagement, resolveManagement, eaLadderPcts, tpLadderStrategies,
            Strategy.isTemplate] at walks

theorem kept_iff_reclaimed (override : Option Strategy) :
    CloseTableKept params override trade ↔ ∀ rule,
      ladderRule params trade (placedManagement params override trade).strategy = some rule →
        Shares (ladderTps trade).length (closedShare params trade) (walkedPcts trade rule) ∧
          (placedManagement params override trade).pcts = lookedUp trade rule ∧
            (placedManagement params override trade).beAtPos = rule.beAtPos :=
  ⟨fun kept => kept.reclaimed, fun reclaimed => ⟨sent_shares columns stated override, reclaimed⟩⟩

end Sent

section Reclaimed
variable {params : LadderParams} {trade : Trade}

theorem reclaimed_one_iff {rule : LadderRule} {P : LadderRule → Prop} :
    (∀ other, some rule = some other → P other) ↔ P rule :=
  ⟨fun all => all rule rfl, fun one _ same => Option.some.inj same ▸ one⟩

theorem length_filter_isSome (tps : List (Option ℚ)) :
    (tps.filter Option.isSome).length = (definedTps tps).length := by
  rw [definedTps]
  generalize 1 = first
  induction tps generalizing first with
  | nil => rfl
  | cons tp rest ih =>
      cases tp with
      | none => simpa using ih (first + 1)
      | some price => simpa using ih (first + 1)

/-- The handler of Limit Runner has the table that was sent, whatever number of levels it
looks up. -/
theorem limitRunner_lookedUp (some : statedLevels trade ≠ 0) (beAtPos : ℕ) :
    lookedUp trade (limitRunnerRule trade beAtPos params.runnerReservePct) =
      params.limitRunner.limitRunnerPcts (statedLevels trade) trade.tpOpen := by
  have one : ∀ n pcts, n ≠ 0 → ∀ m, pctsFor [(n, pcts)] m = pcts := by
    intro n pcts pos m
    rw [pctsFor]
    by_cases same : n = m
    · simp [same]
    · simp [same, Nat.pos_of_ne_zero pos]
  rw [lookedUp, limitRunnerRule, length_filter_isSome]
  change pctsFor (if statedLevels trade = 0 then _ else _ : LadderRule).pcts _ = _
  rw [if_neg some]
  cases trade.tpOpen with
  | true => exact one _ _ some _
  | false => exact one _ _ some _

theorem limitRunner_beAtPos (beAtPos : ℕ) :
    (limitRunnerRule trade beAtPos params.runnerReservePct).beAtPos = beAtPos - 1 := by
  rw [limitRunnerRule]
  split_ifs <;> rfl

theorem closedShare_pos : 0 < closedShare params trade := by
  have most : params.limitRunner.reserve ≤ 95 / 100 := min_le_right _ _
  rw [closedShare]
  split_ifs <;> linarith

theorem limitRunner_reclaimed_iff (some : statedLevels trade ≠ 0) :
    (Shares (ladderTps trade).length (closedShare params trade) (walkedPcts trade
        (limitRunnerRule trade (truncated params.limitBeAtPos).toNat params.runnerReservePct)) ∧
      params.limitRunner.limitRunnerPcts (statedLevels trade) trade.tpOpen = lookedUp trade
        (limitRunnerRule trade (truncated params.limitBeAtPos).toNat params.runnerReservePct) ∧
      max (truncated params.limitBeAtPos - 1) 0 = (limitRunnerRule trade
        (truncated params.limitBeAtPos).toNat params.runnerReservePct).beAtPos) ↔
      AllAhead trade := by
  have even := limitRunnerPcts_shares some trade.tpOpen params.limitRunner
  rw [walkedPcts, limitRunner_lookedUp some, limitRunner_beAtPos, ← length_ladderTps_iff]
  constructor
  · rintro ⟨shares, -, -⟩
    -- each level gets its part of the stated ones, so that all of them are needed
    have part : ((ladderTps trade).length : ℚ) * (closedShare params trade / statedLevels trade) =
        closedShare params trade := by
      have total := shares.total
      have length := shares.oneEach
      rw [LimitRunnerParams.limitRunnerPcts, List.take_replicate] at total length
      rw [List.length_replicate] at length
      rw [length, List.sum_replicate, nsmul_eq_mul] at total
      exact total
    have pos : 0 < closedShare params trade := closedShare_pos
    have levels : (statedLevels trade : ℚ) ≠ 0 := Nat.cast_ne_zero.mpr some
    field_simp at part
    exact_mod_cast part
  · intro all
    rw [all]
    refine ⟨?_, rfl, by omega⟩
    rw [List.take_of_length_le even.oneEach.le]
    exact even

theorem table_reclaimed_iff {table : List (ℕ × List ℚ)} (full : FullTable table)
    (whole : WholeTable table) (few : statedLevels trade ≤ maxTp) (some : statedLevels trade ≠ 0)
    {be be' : ℕ} :
    (Shares (ladderTps trade).length (closedShare params trade)
        ((pctsFor table (ladderTps trade).length).take (ladderTps trade).length) ∧
      (if trade.tpOpen then
        (pctsFor table (statedLevels trade)).map (· * (1 - params.limitRunner.reserve))
      else pctsFor table (statedLevels trade)) = pctsFor table (ladderTps trade).length ∧
      (be : ℤ) = be') ↔
      AllAhead trade ∧ (trade.tpOpen = true → params.runnerReservePct ≤ 0) ∧ be = be' := by
  have scaled := scaledTable_shares full whole few some trade.tpOpen params.limitRunner
  have own := whole _ few some
  have each := full _ few some
  rw [← length_ladderTps_iff, Nat.cast_inj]
  constructor
  · rintro ⟨shares, same, be⟩
    have walks : (ladderTps trade).length ≠ 0 := by
      intro none
      have total := shares.total
      rw [none, List.take_zero] at total
      exact ne_of_lt closedShare_pos total
    have fewer : (ladderTps trade).length ≤ maxTp :=
      (List.length_filter_le _ _).trans few
    rw [same] at scaled
    have all := (full _ fewer walks).symm.trans scaled.oneEach
    refine ⟨all, fun tpOpen => ?_, be⟩
    have total := scaled.total
    rw [all, own, if_pos tpOpen] at total
    have none : params.limitRunner.reserve = 0 := by linarith
    exact LimitRunnerParams.reserve_eq_zero_iff.mp none
  · rintro ⟨all, noReserve, be⟩
    rw [all, List.take_of_length_le each.le, closedShare]
    cases tpOpen : trade.tpOpen with
    | false => exact ⟨⟨each, own⟩, rfl, be⟩
    | true =>
        have none : params.limitRunner.reserve = 0 :=
          LimitRunnerParams.reserve_eq_zero_iff.mpr (noReserve tpOpen)
        rw [none, sub_zero]
        simp only [mul_one, List.map_id', if_true]
        exact ⟨⟨each, own⟩, trivial, be⟩

end Reclaimed

/-- Two targets of a buy that was stated with the first one at 2010. -/
def twoTargets (tpOpen : Bool) (fill : ℚ) : Trade :=
  { Trade.oneLot with
    entryPrice := fill
    tps := [some 2010, some 2020, none, none, none, none, none, none]
    tpOpen := tpOpen }

def stockLadder : LadderParams where
  climberBeAtPos := 1
  limitBeAtPos := 1
  runnerReservePct := 25

end Forex
