import Forex.Reversal.LevelDetector
import Mathlib.Data.List.MinMax

/-!
Round numbers in `score_level` and `_classify_ref_level`. Both look for the nearest ten and
for five above it; five below it is not looked at.
-/

namespace Forex
open Support

/-- `htf_bias`. -/
inductive HtfBias where
  | bullish
  | bearish
  | neutral
deriving DecidableEq, Repr

/-- `nearest_10`. -/
def nearestTen (price : ℚ) : ℤ := roundHalfEven (price / 10) * 10

/-- The bonus for a price near a round number. -/
def roundBonus (price : ℚ) : ℚ :=
  if |price - nearestTen price| < 2 then 5 / 100
  else if |price - (nearestTen price + 5)| < 2 then 3 / 100
  else 0

def typeScore : LevelType → ℚ
  | .asiaLow | .asiaHigh => 60 / 100
  | .swingHigh | .swingLow => 55 / 100
  | .round10 => 72 / 100
  | .round5 => 78 / 100
  | .congestion => 65 / 100
  | .other _ => 50 / 100

def proximityBonus (distPts : ℚ) : ℚ :=
  if 3 ≤ distPts ∧ distPts ≤ 15 then 10 / 100
  else if distPts < 3 then -(20 / 100)
  else if 30 < distPts then -(15 / 100)
  else 0

def biasBonus : LevelType → HtfBias → ℚ
  | .swingHigh, .bullish | .swingLow, .bearish => 5 / 100
  | .asiaLow, .bullish | .asiaLow, .neutral => 5 / 100
  | .asiaHigh, .bearish | .asiaHigh, .neutral => 5 / 100
  | _, _ => 0

/-- `score_level`. -/
def scoreLevel (level : Level) (currentPrice : ℚ) (htfBias : HtfBias) : ℚ :=
  let score := typeScore level.type + min (level.strength * (2 / 100)) (15 / 100) +
    proximityBonus |currentPrice - level.price| + biasBonus level.type htfBias +
    roundBonus level.price
  roundTo 3 (min (max score 0) 1)

/-- `_classify_ref_level`, with the two lists of levels that the last cycle left. -/
def classifyRefLevel (levels allLevels : List Level) (price : ℚ) : LevelType :=
  if price ≤ 0 then .other "unknown"
  else if |price - nearestTen price| < 2 then .round10
  else if |price - (nearestTen price + 5)| < 2 then .round5
  else
    match levels.find? fun lvl => decide (|lvl.price - price| < 4) with
    | some lvl => lvl.type
    | none =>
        match allLevels.argmin fun lvl => |lvl.price - price| with
        | some nearest => if |nearest.price - price| < 10 then nearest.type else .other "unknown"
        | none => .other "unknown"

/-- The distance to the nearest multiple. -/
def distToMultiple (m : ℤ) (x : ℚ) : ℚ := |x - round (x / m) * m|

/-- The two prices have the same bonus, and the same round class: what the classifier says
of a price with no level near it. -/
structure RoundAlike (p q : ℚ) : Prop where
  bonus : roundBonus p = roundBonus q
  roundClass : classifyRefLevel [] [] p = classifyRefLevel [] [] q

instance (p q : ℚ) : Decidable (RoundAlike p q) :=
  decidable_of_iff (_ ∧ _) ⟨fun both => ⟨both.1, both.2⟩, fun alike => ⟨alike.1, alike.2⟩⟩

theorem abs_sub_mul {m : ℚ} (pos : 0 < m) (x k : ℚ) : |x - k * m| = |x / m - k| * m := by
  have scaled : x - k * m = (x / m - k) * m := by
    rw [sub_mul, div_mul_cancel₀ x pos.ne']
  rw [scaled, abs_mul, abs_of_pos pos]

/-- The nearest ten of the code is a nearest multiple of ten. -/
theorem abs_sub_nearestTen (x : ℚ) : |x - nearestTen x| = distToMultiple 10 x := by
  rw [nearestTen, distToMultiple]
  push_cast
  rw [abs_sub_mul (by norm_num), abs_sub_mul (by norm_num), abs_sub_roundHalfEven]

theorem distToMultiple_ten_le (x : ℚ) : distToMultiple 10 x ≤ 5 := by
  have near := abs_roundHalfEven_sub_le (x / 10)
  have centre : x - nearestTen x = -(10 * ((roundHalfEven (x / 10) : ℚ) - x / 10)) := by
    rw [nearestTen]
    push_cast
    ring
  rw [← abs_sub_nearestTen, centre, abs_neg, abs_mul, abs_of_pos (by norm_num : (0 : ℚ) < 10)]
  linarith

/-- Five above the nearest ten is close just from below, and from further than three. -/
theorem near_five_iff (x : ℚ) :
    |x - (nearestTen x + 5)| < 2 ↔ 3 < distToMultiple 10 x ∧ (nearestTen x : ℚ) < x := by
  have within := distToMultiple_ten_le x
  rw [← abs_sub_nearestTen] at within ⊢
  have bounds := abs_le.mp within
  rw [abs_lt, lt_abs]
  constructor
  · rintro ⟨far, -⟩
    exact ⟨.inl (by linarith), by linarith⟩
  · rintro ⟨above | below, side⟩
    · exact ⟨by linarith, by linarith⟩
    · linarith

/-- The class of a positive price, read off its distance and its side. -/
theorem classify_eq {price : ℚ} (pos : 0 < price) :
    classifyRefLevel [] [] price =
      if distToMultiple 10 price < 2 then .round10
      else if 3 < distToMultiple 10 price ∧ (nearestTen price : ℚ) < price then .round5
      else .other "unknown" := by
  rw [classifyRefLevel, if_neg (not_le.mpr pos), abs_sub_nearestTen]
  simp only [near_five_iff]
  rfl

theorem roundBonus_eq (price : ℚ) :
    roundBonus price =
      if distToMultiple 10 price < 2 then 5 / 100
      else if 3 < distToMultiple 10 price ∧ (nearestTen price : ℚ) < price then 3 / 100
      else 0 := by
  rw [roundBonus, abs_sub_nearestTen]
  simp only [near_five_iff]

/-- A round class is taken whatever levels there are. -/
theorem classify_of_round {price : ℚ} (levels allLevels : List Level)
    (isRound : classifyRefLevel [] [] price ≠ .other "unknown") :
    classifyRefLevel levels allLevels price = classifyRefLevel [] [] price := by
  rw [classifyRefLevel] at isRound ⊢
  rw [classifyRefLevel]
  split_ifs at isRound ⊢
  · rfl
  · rfl
  · rfl
  · exact absurd rfl isRound

/-- Two prices at the same distance from the tens are treated alike exactly if that is at
most three, or both are on the same side of their nearest ten. -/
theorem round_alike_iff (p q : ℚ) (hp : 0 < p) (hq : 0 < q)
    (tens : distToMultiple 10 p = distToMultiple 10 q) :
    RoundAlike p q ↔
      distToMultiple 10 p ≤ 3 ∨ ((nearestTen p : ℚ) < p ↔ (nearestTen q : ℚ) < q) := by
  have alike : RoundAlike p q ↔
      roundBonus p = roundBonus q ∧ classifyRefLevel [] [] p = classifyRefLevel [] [] q :=
    ⟨fun h => ⟨h.1, h.2⟩, fun h => ⟨h.1, h.2⟩⟩
  rw [alike, roundBonus_eq, roundBonus_eq, classify_eq hp, classify_eq hq, ← tens]
  generalize distToMultiple 10 p = dist
  by_cases near : dist ≤ 3
  · simp [not_lt.mpr near, near]
  · have far : ¬ dist < 2 := fun close => near (by linarith)
    simp only [near, far, not_le.mp near, if_false, true_and, false_or]
    by_cases above : (nearestTen p : ℚ) < p <;> by_cases above' : (nearestTen q : ℚ) < q
    · simp [above, above']
    · simp [above, above']
    · simp [above, above']
    · simp [above, above']

theorem round_alike_twelve_points : RoundAlike 4014 4024 :=
  (round_alike_iff 4014 4024 (by norm_num) (by norm_num) (by decide +kernel)).mpr
    (.inr (by decide +kernel))

/-- One below a multiple of five is close to it, one above is not. -/
theorem round_five_one_sided :
    ¬ ∀ p q : ℚ, 0 < p → 0 < q → distToMultiple 10 p = distToMultiple 10 q →
      distToMultiple 5 p = distToMultiple 5 q → RoundAlike p q := by
  intro all
  have alike := all 4014 4016 (by norm_num) (by norm_num) (by decide +kernel) (by decide +kernel)
  exact absurd alike.roundClass (by decide +kernel)

end Forex
