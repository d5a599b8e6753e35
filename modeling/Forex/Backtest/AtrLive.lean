import Forex.Backtest.Atr

/-!
The distances of a template with a dynamic ATR, in a backtest and live, from the
same candles. The stop and TP1 agree exactly when the two averages do, and a
rounded average is met by a plain mean only at whole cents.
-/

namespace Forex
namespace Backtest
open Support

namespace AtrTemplate
variable (t : AtrTemplate) (candles : List Bar)

/-- The ATR at the fill, which is the last candle. -/
def backtestAtr : ℚ := atr14 candles (candles.length - 1)

/-- The stop distance `_simulate_template` walks with; it refuses the template without
an ATR. -/
def backtestSlDistance : Option ℚ :=
  if t.useDynamicAtr && decide (backtestAtr candles ≤ 0) then none
  else some (slDistanceOf t.toTemplate (backtestAtr candles))

/-- TP1 of `_ladder`. -/
def backtestTp1 (entry sign : ℚ) : Option ℚ :=
  if t.useDynamicAtr && decide (backtestAtr candles ≤ 0) then none
  else if 1 ∈ t.levels then some (levelPrice t.toTemplate entry sign (backtestAtr candles) 1)
  else none

/-- `dist` of `template_sl_at`. -/
def templateSlDistance : Option ℚ :=
  let stated := if 0 < t.slPips then some (t.slPips * pipsToPriceXauusd) else none
  if t.useDynamicAtr && !candles.isEmpty then
    let atr := computeAtr candles t.period
    if 0 < atr then some (atr * orElseOf t.atrSlMult (3 / 2)) else stated
  else stated

/-- TP1 of the live ladder. -/
def liveTp1 (entry sign : ℚ) : Option ℚ :=
  atrScaledLadder t.toTemplate (computeAtr candles t.period) entry sign
    (pipsLadder t.toTemplate entry sign) 1

/-- The stop and TP1 of a backtest are as far from the fill as they are live. -/
structure SameDistances : Prop where
  stop : t.backtestSlDistance candles = t.templateSlDistance candles
  tp1 : ∀ (direction : Direction) (entry : ℚ),
    t.backtestTp1 candles entry direction.sign = t.liveTp1 candles entry direction.sign

/-- The ranges a backtest takes the mean of. -/
def recentRanges : List ℚ :=
  ((steps candles).map fun p => trueRange p.1 p.2).drop (candles.length - 1 - 14)

/-- The mean of the last fourteen ranges is in whole cents, fifty or more, and Wilder's
mean of all of them, which is not taken below fifty, rounds to it. -/
def RoundsAlike : Prop :=
  ∃ cents : ℤ, mean (recentRanges candles) = cents / 100 ∧ 50 ≤ cents ∧
    (|max (wilderMean t.period (trueRanges candles)) (1 / 2) * 100 - cents| < 1 / 2 ∨
      |max (wilderMean t.period (trueRanges candles)) (1 / 2) * 100 - cents| = 1 / 2 ∧
        cents % 2 = 0)

/-- TP1 is stated, or no level is. -/
def StatesTp1 : Prop := 0 < t.tpPips 1 ∨ ∀ n ∈ tpLevels, t.tpPips n ≤ 0

end AtrTemplate

section Means

theorem steps_drop (bars : List Bar) (n : ℕ) : steps (bars.drop n) = (steps bars).drop n := by
  rw [steps, steps, List.zip_eq_zipWith, List.zip_eq_zipWith, List.drop_zipWith, List.tail_drop,
    List.drop_tail]

theorem length_steps (bars : List Bar) : (steps bars).length = bars.length - 1 := by
  rw [steps, List.length_zip, List.length_tail]
  omega

/-- At the last candle of two or more, `_atr14` is the mean of the recent ranges. -/
theorem atr14_last {candles : List Bar} (two : 2 ≤ candles.length) :
    AtrTemplate.backtestAtr candles = mean (AtrTemplate.recentRanges candles) := by
  have window : (candles.take (candles.length - 1 + 1)).drop (candles.length - 1 - 14) =
      candles.drop (candles.length - 1 - 14) := by
    rw [List.take_of_length_le (by omega)]
  rw [AtrTemplate.backtestAtr, atr14, window, if_neg (by rw [List.length_drop]; omega)]
  dsimp only
  rw [steps_drop, List.map_drop, AtrTemplate.recentRanges]

theorem two_of_trueRanges {candles : List Bar} (enough : trueRanges candles ≠ []) :
    2 ≤ candles.length := by
  by_contra short
  have none : steps candles = [] := by
    apply List.length_eq_zero_iff.mp
    rw [length_steps]
    omega
  exact enough (by rw [trueRanges, none]; rfl)

/-- `compute_atr` rounds Wilder's mean of all the ranges it takes. -/
theorem computeAtr_eq {candles : List Bar} {period : ℕ} (pos : 0 < period)
    (enough : trueRanges candles ≠ []) :
    computeAtr candles period =
      roundTo 2 (max (wilderMean period (trueRanges candles)) (1 / 2)) := by
  have two := two_of_trueRanges enough
  rw [computeAtr, if_neg (by omega), wilderAtr, if_neg enough]
  generalize trueRanges candles = trs
  have whole : (if period < trs.length then trs.drop (trs.length - max (period * 2) trs.length)
      else trs) = trs := by
    rw [Nat.sub_eq_zero_of_le (le_max_right _ _), List.drop_zero, ite_self]
  have nonzero : (period : ℚ) ≠ 0 := by exact_mod_cast pos.ne'
  rw [whole]
  dsimp only
  congr 2
  by_cases long : period ≤ trs.length
  · rw [if_pos long, ← smooth_eq_wilderMean nonzero long, smooth, mean, List.length_take,
      Nat.min_eq_left long]
    congr 1
    funext atr tr
    field_simp
    ring
  · rw [if_neg long, List.drop_of_length_le (by omega), wilderMean, if_pos (by omega)]
    rfl

end Means

namespace AtrTemplate
variable {t : AtrTemplate} {candles : List Bar}

theorem period_pos (t : AtrTemplate) : 0 < t.period := by
  rw [period]
  split_ifs <;> omega

theorem orElseOf_ne_zero (x : ℚ) : orElseOf x (3 / 2) ≠ 0 := by
  rw [orElseOf]
  split_ifs with zero
  · norm_num
  · exact zero

theorem half_le_computeAtr (enough : trueRanges candles ≠ []) :
    1 / 2 ≤ computeAtr candles t.period := by
  rw [computeAtr_eq t.period_pos enough]
  calc (1 / 2 : ℚ) = roundTo 2 (1 / 2) := (roundTo_of_onGrid ⟨50, by norm_num⟩).symm
    _ ≤ roundTo 2 (max (wilderMean t.period (trueRanges candles)) (1 / 2)) :=
      roundTo_mono 2 (le_max_right _ _)

/-- What the condition on the means says of the two averages. -/
theorem roundsAlike_iff (enough : trueRanges candles ≠ []) :
    t.RoundsAlike candles ↔ backtestAtr candles = computeAtr candles t.period := by
  have least := half_le_computeAtr (t := t) enough
  have cents : (10 : ℚ) ^ 2 = 100 := by norm_num
  rw [computeAtr_eq t.period_pos enough] at least ⊢
  rw [RoundsAlike, atr14_last (two_of_trueRanges enough)]
  generalize mean (recentRanges candles) = plain at *
  generalize max (wilderMean t.period (trueRanges candles)) (1 / 2) = weighted at *
  have rounds := roundTo_eq_div_iff 2 weighted
  rw [cents] at rounds
  constructor
  · rintro ⟨k, rfl, -, near⟩
    exact ((rounds k).mpr near).symm
  · intro same
    obtain ⟨k, grid⟩ := roundTo_onGrid 2 weighted
    rw [cents] at grid
    refine ⟨k, same.trans grid, ?_, (rounds k).mp grid⟩
    have : (50 : ℚ) ≤ k := by
      rw [grid] at least
      linarith
    exact_mod_cast this

theorem backtestSlDistance_of_pos (dynamic : t.useDynamicAtr = true)
    (pos : 0 < backtestAtr candles) :
    t.backtestSlDistance candles =
      some (backtestAtr candles * orElseOf t.atrSlMult (3 / 2)) := by
  have product : backtestAtr candles * orElseOf t.atrSlMult (3 / 2) ≠ 0 :=
    mul_ne_zero pos.ne' (orElseOf_ne_zero _)
  have distance : atrSlDistance t.toTemplate (backtestAtr candles) =
      some (backtestAtr candles * orElseOf t.atrSlMult (3 / 2)) := by
    rw [atrSlDistance, if_neg]
    simp [not_le.mpr pos, dynamic]
  rw [backtestSlDistance, dynamic, Bool.true_and, decide_eq_false (not_le.mpr pos),
    if_neg Bool.false_ne_true, slDistanceOf, distance, Option.getD_some, orElseOf, if_neg product]

theorem templateSlDistance_eq (dynamic : t.useDynamicAtr = true)
    (enough : trueRanges candles ≠ []) :
    t.templateSlDistance candles =
      some (computeAtr candles t.period * orElseOf t.atrSlMult (3 / 2)) := by
  have two := two_of_trueRanges enough
  have some_candles : candles.isEmpty = false := by
    rw [List.isEmpty_eq_false_iff]
    rintro rfl
    exact absurd two (by decide)
  have pos : 0 < computeAtr candles t.period := by
    have := half_le_computeAtr (t := t) enough
    linarith
  rw [templateSlDistance, dynamic, some_candles, Bool.not_false, Bool.and_self, if_pos rfl]
  dsimp only
  rw [if_pos pos]

theorem stop_iff (dynamic : t.useDynamicAtr = true) (enough : trueRanges candles ≠ []) :
    t.backtestSlDistance candles = t.templateSlDistance candles ↔
      backtestAtr candles = computeAtr candles t.period := by
  have least := half_le_computeAtr (t := t) enough
  rw [templateSlDistance_eq dynamic enough]
  by_cases pos : 0 < backtestAtr candles
  · rw [backtestSlDistance_of_pos dynamic pos, Option.some_inj]
    exact mul_left_inj' (orElseOf_ne_zero _)
  · rw [backtestSlDistance, dynamic, Bool.true_and, decide_eq_true (not_lt.mp pos), if_pos rfl]
    refine iff_of_false (fun no => by cases no) fun same => pos ?_
    rw [same]
    linarith

/-- With one average, TP1 is the same exactly when it is stated or there is no ladder. -/
theorem tp1_iff (dynamic : t.useDynamicAtr = true) (pos : 0 < backtestAtr candles)
    (same : backtestAtr candles = computeAtr candles t.period) :
    (∀ (direction : Direction) (entry : ℚ),
      t.backtestTp1 candles entry direction.sign = t.liveTp1 candles entry direction.sign) ↔
      t.StatesTp1 := by
  have first : (1 : ℕ) ∈ tpLevels := by decide
  have backtest : ∀ entry sign, t.backtestTp1 candles entry sign =
      if 0 < t.tpPips 1 then
        some (levelPrice t.toTemplate entry sign (backtestAtr candles) 1) else none := by
    intro entry sign
    rw [backtestTp1, dynamic, Bool.true_and, decide_eq_false (not_le.mpr pos),
      if_neg Bool.false_ne_true]
    simp only [mem_levels, first, true_and]
  by_cases states : t.StatesTp1
  · refine iff_of_true (fun direction entry => ?_) states
    have shape : t.useDynamicAtr = true → 0 < backtestAtr candles → t.tpPips 1 ≤ 0 →
        ∀ n ∈ tpLevels, t.tpPips n ≤ 0 := fun _ _ undefined =>
      states.resolve_left (not_lt.mpr undefined)
    rw [backtest, liveTp1, ← same, scaledLadder_eq direction entry shape first]
  · refine iff_of_false (fun all => ?_) states
    rw [StatesTp1, not_or, not_lt] at states
    obtain ⟨undefined, busy⟩ := states
    push Not at busy
    obtain ⟨m, mem, defined⟩ := busy
    have equal := all .buy 0
    rw [backtest, if_neg (not_lt.mpr undefined), liveTp1, ← same,
      scaledLadder_undefined .buy dynamic pos undefined mem defined, Function.update_self] at equal
    cases equal

/-- A template with a dynamic ATR has the live stop and TP1 in a backtest exactly when it
states TP1 or nothing, and the mean of the recent ranges is what Wilder's mean rounds to. -/
theorem sameDistances_iff (t : AtrTemplate) (candles : List Bar)
    (dynamic : t.useDynamicAtr = true) (enough : trueRanges candles ≠ []) :
    t.SameDistances candles ↔ t.StatesTp1 ∧ t.RoundsAlike candles := by
  rw [roundsAlike_iff enough]
  constructor
  · intro both
    have same := (stop_iff dynamic enough).mp both.stop
    have pos : 0 < backtestAtr candles := by
      have least := half_le_computeAtr (t := t) enough
      rw [same]
      linarith
    exact ⟨(tp1_iff dynamic pos same).mp both.tp1, same⟩
  · rintro ⟨states, same⟩
    have pos : 0 < backtestAtr candles := by
      have least := half_le_computeAtr (t := t) enough
      rw [same]
      linarith
    exact ⟨(stop_iff dynamic enough).mpr same, (tp1_iff dynamic pos same).mpr states⟩

/-- A template of 1.5 ATR with one target of fifty pips. -/
def atrTemplate : AtrTemplate :=
  { Template.defaults with
    useDynamicAtr := true
    tpPips := fun n => if n = 1 then 50 else 0
    atrPeriod := 14 }

def calmBar : Bar := ⟨2001, 2000, 2000⟩

/-- Fifteen ranges of which the first is wide. -/
def afterSpike : List Bar := calmBar :: ⟨2029, 2000, 2000⟩ :: List.replicate 14 calmBar

theorem distances_differ :
    ¬ ∀ (t : AtrTemplate) (candles : List Bar), t.useDynamicAtr = true →
      t.period < candles.length → (∀ p ∈ steps candles, stated p = true) →
      t.SameDistances candles := by
  intro all
  have both := all atrTemplate afterSpike rfl (by decide) (by decide)
  have apart : atrTemplate.backtestSlDistance afterSpike ≠
      atrTemplate.templateSlDistance afterSpike := by decide +kernel
  exact apart both.stop

theorem sameDistances_calm : atrTemplate.SameDistances (List.replicate 16 calmBar) :=
  (sameDistances_iff atrTemplate (List.replicate 16 calmBar) rfl (by decide)).mpr
    ⟨.inl (by decide), 100, by decide +kernel, by decide, .inl (by decide +kernel)⟩

end AtrTemplate

end Backtest
end Forex
