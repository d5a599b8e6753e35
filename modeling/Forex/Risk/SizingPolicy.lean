import Forex.Risk.Sizing

/-!
`sizing_policy.apply`: a base lot scaled by volatility and drawdown, and held below the
room under the exposure cap and the account's largest lot. The result is in hundredths
and never below the smallest lot, whatever was decided before.
-/

namespace Forex
open Support

namespace SizingPolicy

def maxVolScalar : ℚ := 3 / 2
def minVolScalar : ℚ := 1 / 4
def minDdScalar : ℚ := 1 / 4
def minLot : ℚ := 1 / 100

structure SizingInputs where
  atr : ℚ := 0
  referenceAtr : ℚ := 0
  drawdownPct : ℚ := 0
  ddStartPct : ℚ := 1 / 20
  ddFullPct : ℚ := 1 / 5
  openCorrelatedLots : ℚ := 0
  correlatedCapLots : ℚ := 0
  maxLots : ℚ := 0
deriving DecidableEq, Repr

inductive SizingNote where
  | volatility (scalar atr referenceAtr : ℚ)
  | drawdown (scalar drawdownPct : ℚ)
  | exposureCap (room cap : ℚ)
  | maxLot (maxLots : ℚ)
deriving DecidableEq, Repr

structure SizingResult where
  lots : ℚ
  notes : List SizingNote
deriving DecidableEq, Repr

def volatilityScalar (atr referenceAtr : ℚ) : ℚ :=
  if atr ≤ 0 ∨ referenceAtr ≤ 0 then 1
  else max minVolScalar (min maxVolScalar (referenceAtr / atr))

def drawdownScalar (drawdownPct startPct fullPct : ℚ) : ℚ :=
  let dd := max 0 drawdownPct
  if dd ≤ startPct ∨ fullPct ≤ startPct then 1
  else
    let progress := min 1 ((dd - startPct) / (fullPct - startPct))
    max minDdScalar (1 - progress * (1 - minDdScalar))

def correlatedRoom (openLots capLots : ℚ) : Option ℚ :=
  if capLots ≤ 0 then none else some (max 0 (roundTo 6 (capLots - openLots)))

namespace SizingResult

def scale (scalar : ℚ) (note : SizingNote) (r : SizingResult) : SizingResult :=
  if scalar ≠ 1 then ⟨r.lots * scalar, r.notes ++ [note]⟩ else r

def cap (bound : ℚ) (note : SizingNote) (r : SizingResult) : SizingResult :=
  if bound < r.lots then ⟨bound, r.notes ++ [note]⟩ else r

@[simp] theorem scale_lots (scalar : ℚ) (note : SizingNote) (r : SizingResult) :
    (r.scale scalar note).lots = r.lots * scalar := by
  rw [scale]
  split_ifs with changed
  · rfl
  · rw [not_not.mp changed, mul_one]

@[simp] theorem cap_lots (bound : ℚ) (note : SizingNote) (r : SizingResult) :
    (r.cap bound note).lots = min bound r.lots := by
  rw [cap]
  split_ifs with above
  · exact (min_eq_left above.le).symm
  · exact (min_eq_right (not_lt.mp above)).symm

end SizingResult

namespace SizingInputs
variable (i : SizingInputs)

def volatility : ℚ := volatilityScalar i.atr i.referenceAtr

def drawdown : ℚ := drawdownScalar i.drawdownPct i.ddStartPct i.ddFullPct

def room : Option ℚ := correlatedRoom i.openCorrelatedLots i.correlatedCapLots

end SizingInputs

/-- `apply`. -/
def apply (baseLots : ℚ) (i : SizingInputs) : SizingResult :=
  let scaled := ((SizingResult.mk baseLots []).scale i.volatility
    (.volatility i.volatility i.atr i.referenceAtr)).scale i.drawdown
    (.drawdown i.drawdown i.drawdownPct)
  let roomy := match i.room with
    | none => scaled
    | some room => scaled.cap room (.exposureCap room i.correlatedCapLots)
  let r := if 0 < i.maxLots then roomy.cap i.maxLots (.maxLot i.maxLots) else roomy
  if r.lots ≤ 0 then ⟨0, r.notes⟩ else ⟨max minLot (roundTo 2 r.lots), r.notes⟩

/-- The columns of the settings row that the policy is switched on with. -/
structure PolicySettings where
  volTargetSizingEnabled : Bool
  correlatedExposureCapLots : Option ℚ
  maxLotSize : Option ℚ

/-- `sizing_inputs`. -/
def sizingInputs (rs : PolicySettings) (atr referenceAtr drawdownPct openCorrelatedLots : ℚ) :
    SizingInputs where
  atr := if rs.volTargetSizingEnabled then atr else 0
  referenceAtr := if rs.volTargetSizingEnabled then referenceAtr else 0
  drawdownPct := if rs.volTargetSizingEnabled then drawdownPct else 0
  openCorrelatedLots := openCorrelatedLots
  correlatedCapLots := rs.correlatedExposureCapLots.getD 0
  maxLots := rs.maxLotSize.getD 0

section Finish

/-- The last step: nothing, or hundredths and at least the smallest lot. -/
def finish (lots : ℚ) : ℚ := if lots ≤ 0 then 0 else max minLot (roundTo 2 lots)

theorem finish_mono {x y : ℚ} (le : x ≤ y) : finish x ≤ finish y := by
  rw [finish, finish]
  split_ifs with none none' none'
  · exact le_rfl
  · exact le_max_of_le_left (by norm_num [minLot])
  · exact absurd (le.trans none') none
  · exact max_le_max_left _ (roundTo_mono 2 le)

theorem finish_eq_zero_iff (x : ℚ) : finish x = 0 ↔ x ≤ 0 := by
  have least : (0 : ℚ) < minLot := by norm_num [minLot]
  rw [finish]
  split_ifs with none
  · exact iff_of_true rfl none
  · exact iff_of_false (lt_max_of_lt_left least).ne' none

theorem finish_le_iff {x bound : ℚ} (pos : 0 < x) :
    finish x ≤ bound ↔ minLot ≤ bound ∧ RoundsWithin 2 x bound := by
  rw [finish, if_neg (not_le.mpr pos), max_le_iff, roundTo_le_iff]

theorem finish_eq_self_iff (x : ℚ) :
    finish x = x ↔ x = 0 ∨ minLot ≤ x ∧ OnGrid 2 x := by
  have least : (0 : ℚ) < minLot := by norm_num [minLot]
  have grain : OnGrid 2 minLot := ⟨1, by norm_num [minLot]⟩
  rw [finish]
  split_ifs with none
  · constructor
    · exact fun same => .inl same.symm
    · rintro (rfl | ⟨enough, -⟩)
      · rfl
      · exact absurd (least.trans_le enough) (not_lt.mpr none)
  · constructor
    · intro same
      refine .inr ⟨same ▸ le_max_left _ _, ?_⟩
      rw [← same]
      exact grain.max (roundTo_onGrid 2 x)
    · rintro (rfl | ⟨enough, grid⟩)
      · exact absurd le_rfl none
      · rw [roundTo_of_onGrid grid, max_eq_right enough]

end Finish

section Scalars
variable {referenceAtr : ℚ}

theorem volatilityScalar_pos (atr referenceAtr : ℚ) : 0 < volatilityScalar atr referenceAtr := by
  rw [volatilityScalar]
  split_ifs
  · exact one_pos
  · exact lt_max_of_lt_left (by norm_num [minVolScalar])

theorem volatilityScalar_antitone {a b : ℚ} (measured : 0 < a) (le : a ≤ b) :
    volatilityScalar b referenceAtr ≤ volatilityScalar a referenceAtr := by
  have later : 0 < b := measured.trans_le le
  by_cases absent : referenceAtr ≤ 0
  · rw [volatilityScalar, volatilityScalar, if_pos (.inr absent), if_pos (.inr absent)]
  · have present {x : ℚ} (pos : 0 < x) : ¬ (x ≤ 0 ∨ referenceAtr ≤ 0) := fun none =>
      none.elim (not_le.mpr pos) absent
    rw [volatilityScalar, volatilityScalar, if_neg (present later), if_neg (present measured)]
    refine max_le_max_left _ (min_le_min_left _ ?_)
    exact div_le_div_of_nonneg_left (not_le.mp absent).le measured le

theorem drawdownScalar_pos (dd start full : ℚ) : 0 < drawdownScalar dd start full := by
  rw [drawdownScalar]
  dsimp only
  split_ifs
  · exact one_pos
  · exact lt_max_of_lt_left (by norm_num [minDdScalar])

theorem drawdownScalar_le_one (dd start full : ℚ) : drawdownScalar dd start full ≤ 1 := by
  rw [drawdownScalar]
  dsimp only
  split_ifs with flat
  · exact le_rfl
  · rw [not_or, not_le, not_le] at flat
    have progress : 0 ≤ min 1 ((max 0 dd - start) / (full - start)) :=
      le_min zero_le_one (div_nonneg (sub_nonneg.mpr flat.1.le) (sub_nonneg.mpr flat.2.le))
    refine max_le (by norm_num [minDdScalar]) ?_
    rw [minDdScalar]
    linarith

theorem drawdownScalar_antitone {d e : ℚ} (start full : ℚ) (le : d ≤ e) :
    drawdownScalar e start full ≤ drawdownScalar d start full := by
  have further : max 0 d ≤ max 0 e := max_le_max_left 0 le
  by_cases grace : max 0 d ≤ start ∨ full ≤ start
  · rw [show drawdownScalar d start full = 1 from if_pos grace]
    exact drawdownScalar_le_one e start full
  · rw [not_or, not_le, not_le] at grace
    have past : ¬ (max 0 e ≤ start ∨ full ≤ start) := fun flat =>
      flat.elim (not_le.mpr (grace.1.trans_le further)) (not_le.mpr grace.2)
    rw [drawdownScalar, drawdownScalar, if_neg past, if_neg (by rwa [not_or, not_le, not_le])]
    refine max_le_max_left _ ?_
    have progress : min 1 ((max 0 d - start) / (full - start)) ≤
        min 1 ((max 0 e - start) / (full - start)) :=
      min_le_min_left 1 (div_le_div_of_nonneg_right (by linarith) (by linarith [grace.2]))
    rw [minDdScalar]
    linarith

end Scalars

section Laws
variable (base : ℚ) (i : SizingInputs)

/-- The lots held below the caps that are on. -/
def SizingInputs.limit (x : ℚ) : ℚ :=
  let roomy := i.room.elim x (min · x)
  if 0 < i.maxLots then min i.maxLots roomy else roomy

/-- What the scalars and the caps leave, before it is rounded. -/
def SizingInputs.wanted : ℚ := i.limit (base * i.volatility * i.drawdown)

theorem apply_lots : (apply base i).lots = finish (i.wanted base) := by
  have last (r : SizingResult) :
      (if r.lots ≤ 0 then SizingResult.mk 0 r.notes
        else ⟨max minLot (roundTo 2 r.lots), r.notes⟩).lots = finish r.lots := by
    rw [finish]
    split_ifs <;> rfl
  refine (last _).trans (congrArg finish ?_)
  rw [SizingInputs.wanted, SizingInputs.limit]
  cases i.room with
  | none => split_ifs <;> simp
  | some room => split_ifs <;> simp

variable {i}

theorem SizingInputs.limit_mono {x y : ℚ} (le : x ≤ y) : i.limit x ≤ i.limit y := by
  have roomy : i.room.elim x (min · x) ≤ i.room.elim y (min · y) := by
    cases i.room with
    | none => exact le
    | some room => exact min_le_min_left room le
  rw [limit, limit]
  split_ifs
  · exact min_le_min_left _ roomy
  · exact roomy

theorem SizingInputs.limit_le_room {room : ℚ} (on : i.room = some room) (x : ℚ) :
    i.limit x ≤ room := by
  rw [limit, on]
  dsimp only [Option.elim_some]
  split_ifs
  · exact (min_le_right _ _).trans (min_le_left _ _)
  · exact min_le_left _ _

theorem SizingInputs.limit_le_maxLots (on : 0 < i.maxLots) (x : ℚ) : i.limit x ≤ i.maxLots := by
  rw [limit, if_pos on]
  exact min_le_left _ _

theorem SizingInputs.room_nonneg {room : ℚ} (on : i.room = some room) : 0 ≤ room := by
  rw [SizingInputs.room, correlatedRoom] at on
  split_ifs at on
  exact Option.some.inj on ▸ le_max_left _ _

/-- Nothing is left when there is no base or no room, and in no other case. -/
theorem SizingInputs.wanted_nonpos_iff :
    i.wanted base ≤ 0 ↔ base ≤ 0 ∨ i.room = some 0 := by
  have scaled : base * i.volatility * i.drawdown ≤ 0 ↔ base ≤ 0 := by
    have volatility : 0 < i.volatility := volatilityScalar_pos _ _
    have drawdown : 0 < i.drawdown := drawdownScalar_pos _ _ _
    rw [← not_lt, ← not_lt, mul_pos_iff_of_pos_right drawdown, mul_pos_iff_of_pos_right volatility]
  have roomy : i.room.elim (base * i.volatility * i.drawdown)
      (min · (base * i.volatility * i.drawdown)) ≤ 0 ↔ base ≤ 0 ∨ i.room = some 0 := by
    cases on : i.room with
    | none => simpa using scaled
    | some room =>
        have nonneg := SizingInputs.room_nonneg on
        rw [Option.elim_some, min_le_iff, scaled, or_comm, Option.some_inj, le_antisymm_iff,
          and_iff_left nonneg]
  rw [SizingInputs.wanted, SizingInputs.limit]
  split_ifs with limited
  · rw [min_le_iff, roomy, or_iff_right (not_le.mpr limited)]
  · exact roomy

/-- No scalar and no cap is on. -/
structure SizingInputs.Neutral (i : SizingInputs) : Prop where
  volatility : i.volatility = 1
  drawdown : i.drawdown = 1
  room : i.room = none
  maxLots : i.maxLots ≤ 0

theorem SizingInputs.Neutral.wanted_eq (neutral : i.Neutral) : i.wanted base = base := by
  rw [SizingInputs.wanted, SizingInputs.limit, neutral.volatility, neutral.drawdown, neutral.room,
    if_neg (not_lt.mpr neutral.maxLots), mul_one, mul_one]
  rfl

/-- The laws of the policy, for one base lot and one set of inputs. An ATR of zero is an
absent one. -/
structure Lawful (base : ℚ) (i : SizingInputs) : Prop where
  neutral : i.Neutral → (apply base i).lots = base
  withinRoom : ∀ room, i.room = some room → (apply base i).lots ≤ room
  withinMax : 0 < i.maxLots → (apply base i).lots ≤ i.maxLots
  drawdown : ∀ dd, i.drawdownPct ≤ dd →
    (apply base { i with drawdownPct := dd }).lots ≤ (apply base i).lots
  atr : ∀ atr, 0 < i.atr → i.atr ≤ atr →
    (apply base { i with atr := atr }).lots ≤ (apply base i).lots
  larger : ∀ more, base ≤ more → (apply base i).lots ≤ (apply more i).lots
  zero : (apply base i).lots = 0 ↔ base ≤ 0 ∨ i.room = some 0

theorem finish_nonneg (x : ℚ) : 0 ≤ finish x := by
  rw [finish]
  split_ifs
  · exact le_rfl
  · exact le_max_of_le_left (by norm_num [minLot])

/-- Smaller scalars under the same caps. -/
theorem apply_le_apply {j : SizingInputs} (same : j.limit = i.limit)
    (volatility : j.volatility ≤ i.volatility) (drawdown : j.drawdown ≤ i.drawdown) :
    (apply base j).lots ≤ (apply base i).lots := by
  rw [apply_lots, apply_lots]
  by_cases none : base ≤ 0
  · rw [(finish_eq_zero_iff _).mpr ((SizingInputs.wanted_nonpos_iff base).mpr (.inl none))]
    exact finish_nonneg _
  · have scaled : base * j.volatility ≤ base * i.volatility :=
      mul_le_mul_of_nonneg_left volatility (not_le.mp none).le
    have whole : 0 ≤ base * i.volatility :=
      mul_nonneg (not_le.mp none).le (volatilityScalar_pos _ _).le
    rw [SizingInputs.wanted, same]
    exact finish_mono (SizingInputs.limit_mono
      (mul_le_mul scaled drawdown (drawdownScalar_pos _ _ _).le whole))

/-- A bound that the rounding and the smallest lot keep. -/
def SizingInputs.Keeps (i : SizingInputs) (base bound : ℚ) : Prop :=
  minLot ≤ bound ∧ RoundsWithin 2 (i.wanted base) bound

theorem apply_le_iff {bound : ℚ} (nonneg : 0 ≤ bound) :
    (apply base i).lots ≤ bound ↔ (0 < base → i.room ≠ some 0 → i.Keeps base bound) := by
  rw [apply_lots]
  by_cases nothing : i.wanted base ≤ 0
  · rw [(finish_eq_zero_iff _).mpr nothing]
    refine iff_of_true nonneg fun more roomy => ?_
    exact absurd ((SizingInputs.wanted_nonpos_iff base).mp nothing)
      (not_or.mpr ⟨not_le.mpr more, roomy⟩)
  · have something := (SizingInputs.wanted_nonpos_iff base).not.mp nothing
    rw [not_or, not_le] at something
    rw [finish_le_iff (not_le.mp nothing)]
    exact ⟨fun keeps _ _ => keeps, fun keeps => keeps something.1 something.2⟩

/-- Room in hundredths is kept, as soon as the smallest lot fits. -/
theorem apply_le_room {room : ℚ} (on : i.room = some room) (grid : OnGrid 2 room)
    (least : minLot ≤ room) : (apply base i).lots ≤ room := by
  refine (apply_le_iff base (SizingInputs.room_nonneg on)).mpr fun _ _ => ⟨least, ?_⟩
  exact .of_onGrid grid (SizingInputs.limit_le_room on _)

theorem apply_le_maxLots (on : 0 < i.maxLots) (grid : OnGrid 2 i.maxLots)
    (least : minLot ≤ i.maxLots) : (apply base i).lots ≤ i.maxLots := by
  refine (apply_le_iff base on.le).mpr fun _ _ => ⟨least, ?_⟩
  exact .of_onGrid grid (SizingInputs.limit_le_maxLots on _)

/-- With the capability off, only the caps are left. -/
theorem sizingInputs_scalars (rs : PolicySettings) (off : rs.volTargetSizingEnabled = false)
    (atr referenceAtr drawdownPct openLots : ℚ) :
    (sizingInputs rs atr referenceAtr drawdownPct openLots).volatility = 1 ∧
      (sizingInputs rs atr referenceAtr drawdownPct openLots).drawdown = 1 := by
  simp [sizingInputs, off, SizingInputs.volatility, SizingInputs.drawdown, volatilityScalar,
    drawdownScalar]

end Laws

/-- Half of the smallest lot is left under the exposure cap. -/
def halfLotOfRoom : SizingInputs :=
  { openCorrelatedLots := 1 / 10, correlatedCapLots := 21 / 200, maxLots := 1 / 10 }

end SizingPolicy

end Forex
