import Forex.Backtest.Atr
import Forex.Support.Decimal
import Mathlib.Algebra.BigOperators.Ring.List
import Mathlib.Algebra.Order.BigOperators.Group.List

/-!
The average directional index of the position manager, `compute_adx`: Wilder's sums
of the directional moves and of the ranges, and the smoothed mean of what the two
directions differ by. It stays between 0 and 100, and it sees the shape of the
candles only: neither their scale nor their level, nor which way is up.
-/

namespace Forex
open Support Backtest

section Model

/-- Candles whose five prices are there; a missing price is read as zero. -/
def priced (p : Bar × Bar) : Bool :=
  decide (p.2.high ≠ 0 ∧ p.2.low ≠ 0 ∧ p.1.high ≠ 0 ∧ p.1.low ≠ 0 ∧ p.1.close ≠ 0)

def upMove (p : Bar × Bar) : ℚ := p.2.high - p.1.high

def downMove (p : Bar × Bar) : ℚ := p.1.low - p.2.low

/-- The move of one direction, where it outdoes the other's. -/
def directionalMove (mine other : ℚ) : ℚ := if other < mine ∧ 0 < mine then mine else 0

def plusDm (p : Bar × Bar) : ℚ := directionalMove (upMove p) (downMove p)

def minusDm (p : Bar × Bar) : ℚ := directionalMove (downMove p) (upMove p)

def rangeOf (p : Bar × Bar) : ℚ := trueRange p.1 p.2

def wilderSum (values : List ℚ) (n : ℕ) : List ℚ :=
  (values.drop n).scanl (fun s v => s - s / n + v) (values.take n).sum

def wilderAvg (values : List ℚ) (n : ℕ) : List ℚ :=
  (values.drop n).scanl (fun s v => (s * (n - 1) + v) / n) ((values.take n).sum / n)

def directionalIndicator (move range : ℚ) : ℚ := if 0 < range then 100 * move / range else 0

def directionalIndex (plus minus : ℚ) : ℚ :=
  if 0 < plus + minus then 100 * |plus - minus| / (plus + minus) else 0

/-- The index of each bar, from the moves and the ranges. -/
def dxList (plus minus ranges : List ℚ) (period : ℕ) : List ℚ :=
  let indicators (moves : List ℚ) :=
    (wilderSum moves period).zipWith directionalIndicator (wilderSum ranges period)
  (indicators plus).zipWith directionalIndex (indicators minus)

def adxOf (plus minus ranges : List ℚ) (period : ℕ) : ℚ :=
  if ranges.length < period then 20
  else
    let dx := dxList plus minus ranges period
    if dx.length < period then 20 else (wilderAvg dx period).getLast?.elim 20 (roundTo 1)

def computeAdx (candles : List Bar) (period : ℕ) : ℚ :=
  if candles.length < period + 2 then 20
  else
    let pairs := (steps candles).filter priced
    adxOf (pairs.map plusDm) (pairs.map minusDm) (pairs.map rangeOf) period

end Model

theorem wilderSum_nonneg {values : List ℚ} {n : ℕ} (pos : 0 < n) (nonneg : ∀ v ∈ values, 0 ≤ v) :
    ∀ s ∈ wilderSum values n, 0 ≤ s := by
  have weight : (1 : ℚ) ≤ n := by exact_mod_cast pos
  refine forall_mem_scanl (fun s held v mem => ?_) ?_
  · have rest : s / n ≤ s := div_le_self held weight
    have := nonneg v (List.mem_of_mem_drop mem)
    linarith
  · exact List.sum_nonneg fun v mem => nonneg v (List.mem_of_mem_take mem)

/-- A Wilder mean lies where the values do. -/
theorem wilderAvg_mem_Icc {values : List ℚ} {n : ℕ} {a b : ℚ} (pos : 0 < n)
    (long : n ≤ values.length) (within : ∀ v ∈ values, a ≤ v ∧ v ≤ b) :
    ∀ s ∈ wilderAvg values n, a ≤ s ∧ s ≤ b := by
  have weight : (1 : ℚ) ≤ n := by exact_mod_cast pos
  have positive : (0 : ℚ) < n := by linarith
  refine forall_mem_scanl (fun s held v mem => ?_) ?_
  · have value := within v (List.mem_of_mem_drop mem)
    constructor
    · rw [le_div_iff₀ positive]
      nlinarith [held.1, value.1]
    · rw [div_le_iff₀ positive]
      nlinarith [held.2, value.2]
  · have first : ∀ v ∈ values.take n, a ≤ v ∧ v ≤ b := fun v mem =>
      within v (List.mem_of_mem_take mem)
    have count : ((values.take n).length : ℚ) = n := by rw [List.length_take_of_le long]
    have low := List.card_nsmul_le_sum (values.take n) a fun v mem => (first v mem).1
    have high := List.sum_le_card_nsmul (values.take n) b fun v mem => (first v mem).2
    rw [nsmul_eq_mul, count] at low high
    constructor
    · rw [le_div_iff₀ positive]
      linarith
    · rw [div_le_iff₀ positive]
      linarith

theorem directionalMove_nonneg (mine other : ℚ) : 0 ≤ directionalMove mine other := by
  unfold directionalMove
  split_ifs with outdoes
  · exact outdoes.2.le
  · exact le_rfl

theorem directionalIndicator_nonneg {move range : ℚ} (nonneg : 0 ≤ move) :
    0 ≤ directionalIndicator move range := by
  unfold directionalIndicator
  split_ifs
  · positivity
  · exact le_rfl

theorem directionalIndex_mem_Icc {plus minus : ℚ} (hplus : 0 ≤ plus) (hminus : 0 ≤ minus) :
    0 ≤ directionalIndex plus minus ∧ directionalIndex plus minus ≤ 100 := by
  unfold directionalIndex
  split_ifs with positive
  · refine ⟨by positivity, ?_⟩
    rw [div_le_iff₀ positive]
    have apart : |plus - minus| ≤ plus + minus := abs_le.mpr ⟨by linarith, by linarith⟩
    linarith
  · norm_num

/-- Fifty bars that rise by a dollar each. -/
def risingBars : List Bar := (List.range 50).map fun (i : ℕ) => ⟨2001 + i, 1999 + i, 2000 + i⟩

theorem mem_zipWith {α β γ : Type} {f : α → β → γ} {as : List α} {bs : List β} {c : γ}
    (mem : c ∈ as.zipWith f bs) : ∃ a ∈ as, ∃ b ∈ bs, f a b = c := by
  rw [← List.map_uncurry_zip_eq_zipWith] at mem
  obtain ⟨⟨a, b⟩, pair, rfl⟩ := List.mem_map.mp mem
  exact ⟨a, (List.of_mem_zip pair).1, b, (List.of_mem_zip pair).2, rfl⟩

theorem dxList_mem_Icc {plus minus ranges : List ℚ} {period : ℕ} (pos : 0 < period)
    (hplus : ∀ v ∈ plus, 0 ≤ v) (hminus : ∀ v ∈ minus, 0 ≤ v) :
    ∀ x ∈ dxList plus minus ranges period, 0 ≤ x ∧ x ≤ 100 := by
  have indicators {moves : List ℚ} (nonneg : ∀ v ∈ moves, 0 ≤ v) :
      ∀ x ∈ (wilderSum moves period).zipWith directionalIndicator (wilderSum ranges period),
        0 ≤ x := by
    intro x mem
    obtain ⟨move, here, range, -, rfl⟩ := mem_zipWith mem
    exact directionalIndicator_nonneg (wilderSum_nonneg pos nonneg move here)
  intro x mem
  obtain ⟨p, hp, m, hm, rfl⟩ := mem_zipWith mem
  exact directionalIndex_mem_Icc (indicators hplus p hp) (indicators hminus m hm)

theorem adxOf_mem_Icc {plus minus ranges : List ℚ} {period : ℕ} (pos : 0 < period)
    (hplus : ∀ v ∈ plus, 0 ≤ v) (hminus : ∀ v ∈ minus, 0 ≤ v) :
    0 ≤ adxOf plus minus ranges period ∧ adxOf plus minus ranges period ≤ 100 := by
  rw [adxOf]
  split_ifs with short
  · norm_num
  dsimp only
  split_ifs with few
  · norm_num
  · cases last : (wilderAvg (dxList plus minus ranges period) period).getLast? with
    | none => norm_num
    | some adx =>
        have bounds := wilderAvg_mem_Icc pos (not_lt.mp few) (dxList_mem_Icc pos hplus hminus) adx
          (List.mem_of_getLast? last)
        have top : roundTo 1 (100 : ℚ) = 100 := roundTo_of_onGrid ⟨1000, by norm_num⟩
        exact ⟨roundTo_nonneg 1 bounds.1, top ▸ roundTo_mono 1 bounds.2⟩

/-- Whatever the candles, the index is between 0 and 100. -/
theorem computeAdx_mem_Icc (candles : List Bar) {period : ℕ} (pos : 0 < period) :
    0 ≤ computeAdx candles period ∧ computeAdx candles period ≤ 100 := by
  rw [computeAdx]
  split_ifs
  · norm_num
  · refine adxOf_mem_Icc pos ?_ ?_
    · exact List.forall_mem_map.mpr fun p _ => directionalMove_nonneg _ _
    · exact List.forall_mem_map.mpr fun p _ => directionalMove_nonneg _ _

theorem computeAdx_mem_Icc_of_rising :
    0 ≤ computeAdx risingBars 14 ∧ computeAdx risingBars 14 ≤ 100 :=
  computeAdx_mem_Icc risingBars (by decide)

/-- A candle on another scale and at another level: turned over where the scale
is negative. -/
def Backtest.Bar.affine (a b : ℚ) (c : Bar) : Bar :=
  if 0 < a then ⟨a * c.high + b, a * c.low + b, a * c.close + b⟩
  else ⟨a * c.low + b, a * c.high + b, a * c.close + b⟩

section Shape
variable {a b : ℚ}

theorem wilderSum_scale (k : ℚ) (values : List ℚ) (n : ℕ) :
    wilderSum (values.map (k * ·)) n = (wilderSum values n).map (k * ·) := by
  have scan (xs : List ℚ) (s : ℚ) :
      (xs.map (k * ·)).scanl (fun (s v : ℚ) => s - s / n + v) (k * s) =
        (xs.scanl (fun (s v : ℚ) => s - s / n + v) s).map (k * ·) := by
    induction xs generalizing s with
    | nil => simp
    | cons x xs ih =>
        simp only [List.map_cons, List.scanl_cons]
        rw [← ih]
        congr 2
        ring
  have total : ((values.take n).map (k * ·)).sum = k * (values.take n).sum := by
    rw [List.sum_map_mul_left, List.map_id']
  rw [wilderSum, wilderSum, ← List.map_take, ← List.map_drop, total, scan]

theorem directionalIndicator_scale {k : ℚ} (pos : 0 < k) (move range : ℚ) :
    directionalIndicator (k * move) (k * range) = directionalIndicator move range := by
  have sign : 0 < k * range ↔ 0 < range := mul_pos_iff_of_pos_left pos
  simp only [directionalIndicator, sign]
  split_ifs with positive
  · field_simp
  · rfl

theorem dxList_scale {k : ℚ} (pos : 0 < k) (plus minus ranges : List ℚ) (n : ℕ) :
    dxList (plus.map (k * ·)) (minus.map (k * ·)) (ranges.map (k * ·)) n =
      dxList plus minus ranges n := by
  simp only [dxList, wilderSum_scale, List.zipWith_map, directionalIndicator_scale pos]

theorem directionalIndex_comm (plus minus : ℚ) :
    directionalIndex plus minus = directionalIndex minus plus := by
  rw [directionalIndex, directionalIndex, add_comm, abs_sub_comm]

theorem dxList_comm (plus minus ranges : List ℚ) (n : ℕ) :
    dxList plus minus ranges n = dxList minus plus ranges n := by
  rw [dxList, dxList, List.zipWith_comm]
  simp only [directionalIndex_comm]

/-- Each price of the candles is there, before and after. -/
def Clear (a b : ℚ) (candles : List Bar) : Prop :=
  ∀ c ∈ candles, ∀ x ∈ [c.high, c.low, c.close], x ≠ 0 ∧ a * x + b ≠ 0

theorem steps_map (g : Bar → Bar) (candles : List Bar) :
    steps (candles.map g) = (steps candles).map (Prod.map g g) := by
  rw [steps, steps, ← List.map_tail, List.zip_map]

theorem priced_of_clear {candles : List Bar} (clear : Clear a b candles) {p : Bar × Bar}
    (mem : p ∈ steps candles) :
    priced p = true ∧ priced (p.map (Bar.affine a b) (Bar.affine a b)) = true := by
  obtain ⟨first, second⟩ := List.of_mem_zip mem
  have before := clear p.1 first
  have after := clear p.2 (List.mem_of_mem_tail second)
  simp only [List.mem_cons, List.not_mem_nil, or_false, forall_eq_or_imp, forall_eq] at before after
  simp only [priced, decide_eq_true_eq, Prod.map_fst, Prod.map_snd, Bar.affine]
  split_ifs <;> simp [before, after]

theorem directionalMove_scale {k : ℚ} (pos : 0 < k) (mine other : ℚ) :
    directionalMove (k * mine) (k * other) = k * directionalMove mine other := by
  have outdoes : k * other < k * mine ∧ 0 < k * mine ↔ other < mine ∧ 0 < mine := by
    rw [mul_lt_mul_iff_of_pos_left pos, mul_pos_iff_of_pos_left pos]
  simp only [directionalMove, outdoes]
  split_ifs
  · rfl
  · rw [mul_zero]

theorem rangeOf_affine (ne : a ≠ 0) (p : Bar × Bar) :
    rangeOf (p.map (Bar.affine a b) (Bar.affine a b)) = |a| * rangeOf p := by
  have scaled (x y : ℚ) : |a * x + b - (a * y + b)| = |a| * |x - y| := by
    rw [← abs_mul]
    congr 1
    ring
  simp only [rangeOf, trueRange, Prod.map_fst, Prod.map_snd, Bar.affine]
  rcases ne.lt_or_gt with neg | pos
  · simp only [not_lt.mpr neg.le, if_false, scaled, mul_max_of_nonneg _ _ (abs_nonneg a)]
    rw [show a * p.2.low + b - (a * p.2.high + b) = |a| * (p.2.high - p.2.low) by
      rw [abs_of_neg neg]; ring]
    rw [max_right_comm]
  · simp only [pos, if_true, scaled, mul_max_of_nonneg _ _ (abs_nonneg a)]
    rw [show a * p.2.high + b - (a * p.2.low + b) = |a| * (p.2.high - p.2.low) by
      rw [abs_of_pos pos]; ring]

theorem moves_affine_of_pos (pos : 0 < a) (p : Bar × Bar) :
    plusDm (p.map (Bar.affine a b) (Bar.affine a b)) = |a| * plusDm p ∧
      minusDm (p.map (Bar.affine a b) (Bar.affine a b)) = |a| * minusDm p := by
  have up : upMove (p.map (Bar.affine a b) (Bar.affine a b)) = a * upMove p := by
    simp only [upMove, Prod.map_fst, Prod.map_snd, Bar.affine, pos, if_true]
    ring
  have down : downMove (p.map (Bar.affine a b) (Bar.affine a b)) = a * downMove p := by
    simp only [downMove, Prod.map_fst, Prod.map_snd, Bar.affine, pos, if_true]
    ring
  rw [abs_of_pos pos, plusDm, minusDm, up, down]
  exact ⟨directionalMove_scale pos _ _, directionalMove_scale pos _ _⟩

theorem moves_affine_of_neg (neg : a < 0) (p : Bar × Bar) :
    plusDm (p.map (Bar.affine a b) (Bar.affine a b)) = |a| * minusDm p ∧
      minusDm (p.map (Bar.affine a b) (Bar.affine a b)) = |a| * plusDm p := by
  have up : upMove (p.map (Bar.affine a b) (Bar.affine a b)) = -a * downMove p := by
    simp only [upMove, downMove, Prod.map_fst, Prod.map_snd, Bar.affine, not_lt.mpr neg.le,
      if_false]
    ring
  have down : downMove (p.map (Bar.affine a b) (Bar.affine a b)) = -a * upMove p := by
    simp only [upMove, downMove, Prod.map_fst, Prod.map_snd, Bar.affine, not_lt.mpr neg.le,
      if_false]
    ring
  have pos : 0 < -a := neg_pos.mpr neg
  simp only [abs_of_neg neg, plusDm, minusDm, up, down]
  exact ⟨directionalMove_scale pos _ _, directionalMove_scale pos _ _⟩

/-- The index sees the shape of the candles only: on another scale, at another
level and with the prices turned over it is the same. -/
theorem computeAdx_affine {candles : List Bar} (ne : a ≠ 0) (clear : Clear a b candles)
    (period : ℕ) :
    computeAdx (candles.map (Bar.affine a b)) period = computeAdx candles period := by
  have whole : (steps candles).filter priced = steps candles :=
    List.filter_eq_self.mpr fun p mem => (priced_of_clear clear mem).1
  have whole' : ((steps candles).map (Prod.map (Bar.affine a b) (Bar.affine a b))).filter priced =
      (steps candles).map (Prod.map (Bar.affine a b) (Bar.affine a b)) :=
    List.filter_eq_self.mpr (List.forall_mem_map.mpr fun p mem => (priced_of_clear clear mem).2)
  have size : 0 < |a| := abs_pos.mpr ne
  have ranges : ((steps candles).map (Prod.map (Bar.affine a b) (Bar.affine a b))).map rangeOf =
      ((steps candles).map rangeOf).map (|a| * ·) := by
    simp only [List.map_map]
    exact List.map_congr_left fun p _ => rangeOf_affine ne p
  simp only [computeAdx, List.length_map, steps_map, whole, whole', ranges, adxOf]
  rcases ne.lt_or_gt with neg | pos
  · have plus : ((steps candles).map (Prod.map (Bar.affine a b) (Bar.affine a b))).map plusDm =
        ((steps candles).map minusDm).map (|a| * ·) := by
      simp only [List.map_map]
      exact List.map_congr_left fun p _ => (moves_affine_of_neg neg p).1
    have minus : ((steps candles).map (Prod.map (Bar.affine a b) (Bar.affine a b))).map minusDm =
        ((steps candles).map plusDm).map (|a| * ·) := by
      simp only [List.map_map]
      exact List.map_congr_left fun p _ => (moves_affine_of_neg neg p).2
    rw [plus, minus, dxList_scale size, dxList_comm]
  · have plus : ((steps candles).map (Prod.map (Bar.affine a b) (Bar.affine a b))).map plusDm =
        ((steps candles).map plusDm).map (|a| * ·) := by
      simp only [List.map_map]
      exact List.map_congr_left fun p _ => (moves_affine_of_pos pos p).1
    have minus : ((steps candles).map (Prod.map (Bar.affine a b) (Bar.affine a b))).map minusDm =
        ((steps candles).map minusDm).map (|a| * ·) := by
      simp only [List.map_map]
      exact List.map_congr_left fun p _ => (moves_affine_of_pos pos p).2
    rw [plus, minus, dxList_scale size]

theorem computeAdx_affine_of_rising :
    computeAdx (risingBars.map (Bar.affine (-1) 5000)) 14 = computeAdx risingBars 14 := by
  refine computeAdx_affine (by norm_num) (List.forall_mem_map.mpr fun i mem => ?_) 14
  have small : (i : ℚ) < 50 := by exact_mod_cast List.mem_range.mp mem
  have positive : (0 : ℚ) ≤ i := by positivity
  simp only [List.mem_cons, List.not_mem_nil, or_false, forall_eq_or_imp, forall_eq]
  refine ⟨⟨?_, ?_⟩, ⟨?_, ?_⟩, ?_, ?_⟩
  all_goals linarith

end Shape

end Forex
