import Forex.Ledger.TradeRepo
import Forex.Support.Rounding

/-!
The size of a trade from a percentage of the balance, in `suggest_lot_size` and in the
risk governor's check. Each bounds the size by a ceiling on the loss at the stop and by
the largest lot, and rounds it to hundredths.
-/

namespace Forex
open Support

/-- The columns of the settings row that sizing reads, as `rs.get` finds them. -/
structure SizingSettings where
  riskPerTradePct : Option ℚ
  maxRiskPerTradePct : Option ℚ
  maxLotSize : Option ℚ
deriving DecidableEq, Repr

/-- `float(rs.get(key, default) or default)`. -/
def settingOr (field : Option ℚ) (default : ℚ) : ℚ :=
  (field.filter fun q => decide (q ≠ 0)).getD default

/-- The lots whose loss over the distance is a percentage of the balance. -/
def percentLot (balance pct distance : ℚ) : ℚ :=
  balance * (pct / 100) / (distance * contractSize)

namespace SizingSettings
variable (rs : SizingSettings)

/-- `suggest_lot_size`. -/
def suggestLotSize (entry stopLoss balance riskPct : ℚ) : ℚ :=
  let distance := |entry - stopLoss|
  if distance ≤ 0 then 1 / 100
  else
    let lot := max (1 / 100)
      (min (rs.maxLotSize.getD (1 / 10)) (roundTo 2 (percentLot balance riskPct distance)))
    let maxRiskPct := rs.maxRiskPerTradePct.getD 0
    if 0 < maxRiskPct then
      max (1 / 100) (min lot (roundTo 2 (percentLot balance maxRiskPct distance)))
    else lot

/-- The sizes that the governor takes the least of. -/
def leastLot (balance distance : ℚ) : ℚ :=
  min (min (percentLot balance (settingOr rs.riskPerTradePct (1 / 2)) distance)
    (percentLot balance (settingOr rs.maxRiskPerTradePct 1) distance))
    (settingOr rs.maxLotSize (1 / 10))

end SizingSettings

/-- What `rg_size_and_check` is asked about. -/
structure SizingQuestion where
  direction : Direction
  refPrice : ℚ
  stopLoss : ℚ
  tp1 : Option ℚ
  strategy : Strategy
  atr : ℚ
  balance : ℚ

/-- The governor's tunables, and the unprotected trades that are open. -/
structure GovernorView where
  maxStopAtr : ℚ
  minTp1Rr : ℚ
  unprotected : Direction → ℕ

inductive SizeRefusal where
  | zeroDistance
  | stopTooWide (distance ratio atr : ℚ)
  | belowMinimum (distance maxPct balance : ℚ)
  | poorTarget (ratio minimum : ℚ)
  | directionalCap (opened : ℕ) (direction : Direction)
deriving DecidableEq, Repr

/-- The strategies whose first target says nothing about their reward. -/
def ignoresTp1 : Strategy → Bool
  | .conservativeTrial | .reversalRunner | .adaptiveRunner | .adaptiveRunner2 => true
  | _ => false

/-- `rg_size_and_check`. -/
def rgSizeAndCheck (rs : SizingSettings) (view : GovernorView) (q : SizingQuestion) :
    Except SizeRefusal ℚ :=
  let distance := |q.refPrice - q.stopLoss|
  if distance ≤ 0 then .error .zeroDistance
  else if 0 < q.atr ∧ q.atr * view.maxStopAtr < distance then
    .error (.stopTooWide distance view.maxStopAtr q.atr)
  else
    let lot := roundTo 2 (rs.leastLot q.balance distance)
    if lot < 1 / 100 then
      .error (.belowMinimum distance (settingOr rs.maxRiskPerTradePct 1) q.balance)
    else
      let ratio := (q.tp1.filter fun _ => !ignoresTp1 q.strategy).map fun tp1 =>
        |tp1 - q.refPrice| / distance
      match ratio.filter fun r => decide (r < view.minTp1Rr) with
      | some r => .error (.poorTarget r view.minTp1Rr)
      | none =>
          if 2 ≤ view.unprotected q.direction then
            .error (.directionalCap (view.unprotected q.direction) q.direction)
          else .ok lot

section Bounds
variable {rs : SizingSettings} {view : GovernorView} {q : SizingQuestion} {lot : ℚ}

/-- The loss at the stop is within a percentage of the balance. -/
def lossWithin (lot distance balance pct : ℚ) : Prop :=
  lot * distance * contractSize ≤ balance * (pct / 100)

theorem lossWithin_iff {distance : ℚ} (pos : 0 < distance) (lot balance pct : ℚ) :
    lossWithin lot distance balance pct ↔ lot ≤ percentLot balance pct distance := by
  have loss : 0 < distance * contractSize := mul_pos pos (by norm_num [contractSize])
  rw [lossWithin, percentLot, le_div_iff₀ loss, mul_assoc]

/-- What is returned is the least size in hundredths, at a stop away from the price. -/
theorem rgSizeAndCheck_ok (accepted : rgSizeAndCheck rs view q = .ok lot) :
    0 < |q.refPrice - q.stopLoss| ∧
      lot = roundTo 2 (rs.leastLot q.balance |q.refPrice - q.stopLoss|) := by
  rw [rgSizeAndCheck] at accepted
  dsimp only at accepted
  split_ifs at accepted with zero wide small capped
  · split at accepted <;> cases accepted
  · split at accepted
    · cases accepted
    · exact ⟨not_le.mp zero, (Except.ok.inj accepted).symm⟩

theorem rgSizeAndCheck_bounds_iff (accepted : rgSizeAndCheck rs view q = .ok lot) :
    lossWithin lot |q.refPrice - q.stopLoss| q.balance (settingOr rs.maxRiskPerTradePct 1) ∧
        lot ≤ settingOr rs.maxLotSize (1 / 10) ↔
      RoundsWithin 2 (rs.leastLot q.balance |q.refPrice - q.stopLoss|)
        (min (percentLot q.balance (settingOr rs.maxRiskPerTradePct 1)
          |q.refPrice - q.stopLoss|) (settingOr rs.maxLotSize (1 / 10))) := by
  obtain ⟨pos, rfl⟩ := rgSizeAndCheck_ok accepted
  rw [lossWithin_iff pos, ← le_min_iff, roundTo_le_iff]

variable {entry stopLoss balance riskPct : ℚ}

/-- The least of the sizes that `suggest_lot_size` raises to the smallest lot. -/
theorem suggestLotSize_eq (apart : 0 < |entry - stopLoss|)
    (capped : 0 < rs.maxRiskPerTradePct.getD 0) :
    rs.suggestLotSize entry stopLoss balance riskPct =
      max (1 / 100) (min (min (rs.maxLotSize.getD (1 / 10))
        (roundTo 2 (percentLot balance riskPct |entry - stopLoss|)))
        (roundTo 2 (percentLot balance (rs.maxRiskPerTradePct.getD 0) |entry - stopLoss|))) := by
  rw [SizingSettings.suggestLotSize, if_neg (not_le.mpr apart), if_pos capped]
  simp only [max_min_distrib_left, ← max_assoc, max_self]

/-- A size that is raised to the smallest lot, or a bound on the size itself. -/
theorem max_eq_or_le_iff {low x bound : ℚ} :
    (max low x = low ∨ max low x ≤ bound) ↔ x ≤ max low bound := by
  rw [max_eq_left_iff, max_le_iff, le_max_iff]
  refine or_congr_right' fun above => ?_
  exact ⟨And.right, fun within => ⟨(not_le.mp above).le.trans within, within⟩⟩

theorem suggestLotSize_le_maxLot
    (above : rs.suggestLotSize entry stopLoss balance riskPct ≠ 1 / 100) :
    rs.suggestLotSize entry stopLoss balance riskPct ≤ rs.maxLotSize.getD (1 / 10) := by
  have raised {x bound : ℚ} (le : x ≤ bound) (other : max (1 / 100) x ≠ 1 / 100) :
      max (1 / 100) x ≤ bound :=
    (max_eq_or_le_iff.mpr (le_max_of_le_right le)).resolve_left other
  by_cases apart : 0 < |entry - stopLoss|
  · by_cases capped : 0 < rs.maxRiskPerTradePct.getD 0
    · rw [suggestLotSize_eq apart capped] at above ⊢
      exact raised ((min_le_left _ _).trans (min_le_left _ _)) above
    · rw [SizingSettings.suggestLotSize, if_neg (not_le.mpr apart), if_neg capped] at above ⊢
      exact raised (min_le_left _ _) above
  · exact absurd (if_pos (not_lt.mp apart)) above

/-- What the settings promise of the size that `suggest_lot_size` returns; a ceiling of
zero or less is none. -/
def SizingSettings.Promised (rs : SizingSettings) (entry stopLoss balance lot : ℚ) : Prop :=
  lot = 1 / 100 ∨
    (0 < rs.maxRiskPerTradePct.getD 0 →
      lossWithin lot |entry - stopLoss| balance (rs.maxRiskPerTradePct.getD 0)) ∧
    lot ≤ rs.maxLotSize.getD (1 / 10)

theorem suggestLotSize_promised_iff :
    rs.Promised entry stopLoss balance (rs.suggestLotSize entry stopLoss balance riskPct) ↔
      (0 < |entry - stopLoss| → 0 < rs.maxRiskPerTradePct.getD 0 →
        let ceiling := percentLot balance (rs.maxRiskPerTradePct.getD 0) |entry - stopLoss|
        rs.maxLotSize.getD (1 / 10) ≤ max (1 / 100) ceiling ∨
          RoundsWithin 2 (percentLot balance riskPct |entry - stopLoss|) (max (1 / 100) ceiling) ∨
          RoundsWithin 2 ceiling (max (1 / 100) ceiling)) := by
  rw [SizingSettings.Promised, ← or_congr_right' fun above => (and_iff_left
    (suggestLotSize_le_maxLot above)).symm]
  by_cases apart : 0 < |entry - stopLoss|
  · by_cases capped : 0 < rs.maxRiskPerTradePct.getD 0
    · simp only [apart, capped, forall_const]
      rw [lossWithin_iff apart, suggestLotSize_eq apart capped, max_eq_or_le_iff, min_le_iff,
        min_le_iff, roundTo_le_iff, roundTo_le_iff, or_assoc]
    · exact iff_of_true (.inr fun limited => absurd limited capped) fun _ limited =>
        absurd limited capped
  · exact iff_of_true (.inl (if_pos (not_lt.mp apart))) fun far => absurd far apart

end Bounds

/-- One percent of a thousand, at a stop `distance` below the price. -/
def onePercent (distance : ℚ) : SizingQuestion :=
  ⟨.buy, 2000, 2000 - distance, none, .scaleOut, 0, 1000⟩

def onePercentRow : SizingSettings := ⟨some 1, some 1, some (1 / 10)⟩

end Forex
