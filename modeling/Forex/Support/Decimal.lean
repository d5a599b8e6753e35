import Mathlib.Algebra.Order.Round
import Mathlib.Data.Rat.Floor
import Mathlib.Tactic.FieldSimp
import Mathlib.Tactic.Linarith

/-!
Decimal rounding on exact rationals, ties to even, and the grid of whole
multiples of a power of ten. Amounts are exact here: binary rounding of a
single addition is not represented, only the explicit rounding calls are.
-/

namespace Support

def roundHalfEven (x : ℚ) : ℤ :=
  if x - ⌊x⌋ < 1 / 2 then ⌊x⌋
  else if 1 / 2 < x - ⌊x⌋ then ⌊x⌋ + 1
  else if ⌊x⌋ % 2 = 0 then ⌊x⌋ else ⌊x⌋ + 1

/-- `round(x, n)`: the nearest decimal with `n` places, ties to even. -/
def roundTo (n : ℕ) (x : ℚ) : ℚ :=
  roundHalfEven (x * 10 ^ n) / 10 ^ n

def OnGrid (n : ℕ) (x : ℚ) : Prop :=
  ∃ k : ℤ, x = k / 10 ^ n

theorem roundHalfEven_intCast (k : ℤ) : roundHalfEven (k : ℚ) = k := by
  simp [roundHalfEven]

theorem roundTo_onGrid (n : ℕ) (x : ℚ) : OnGrid n (roundTo n x) :=
  ⟨roundHalfEven (x * 10 ^ n), rfl⟩

theorem roundTo_of_onGrid {n : ℕ} {x : ℚ} (h : OnGrid n x) : roundTo n x = x := by
  obtain ⟨k, rfl⟩ := h
  have scale : ((k : ℚ) / 10 ^ n) * 10 ^ n = k := by field_simp
  rw [roundTo, scale, roundHalfEven_intCast]

theorem onGrid_zero (n : ℕ) : OnGrid n 0 := ⟨0, by simp⟩

theorem OnGrid.add {n : ℕ} {x y : ℚ} (hx : OnGrid n x) (hy : OnGrid n y) :
    OnGrid n (x + y) := by
  obtain ⟨j, rfl⟩ := hx
  obtain ⟨k, rfl⟩ := hy
  exact ⟨j + k, by push_cast; ring⟩

theorem OnGrid.sub {n : ℕ} {x y : ℚ} (hx : OnGrid n x) (hy : OnGrid n y) :
    OnGrid n (x - y) := by
  obtain ⟨j, rfl⟩ := hx
  obtain ⟨k, rfl⟩ := hy
  exact ⟨j - k, by push_cast; ring⟩

theorem OnGrid.mono {n m : ℕ} {x : ℚ} (h : OnGrid n x) (le : n ≤ m) : OnGrid m x := by
  obtain ⟨k, rfl⟩ := h
  obtain ⟨d, rfl⟩ := Nat.exists_eq_add_of_le le
  refine ⟨k * 10 ^ d, ?_⟩
  push_cast
  rw [pow_add]
  field_simp

theorem OnGrid.mul {n m : ℕ} {x y : ℚ} (hx : OnGrid n x) (hy : OnGrid m y) :
    OnGrid (n + m) (x * y) := by
  obtain ⟨j, rfl⟩ := hx
  obtain ⟨k, rfl⟩ := hy
  refine ⟨j * k, ?_⟩
  push_cast
  rw [pow_add]
  field_simp

theorem abs_roundHalfEven_sub_le (x : ℚ) : |(roundHalfEven x : ℚ) - x| ≤ 1 / 2 := by
  have below := Int.floor_le x
  have above := Int.lt_floor_add_one x
  rw [roundHalfEven, abs_le]
  split_ifs <;> push_cast <;> constructor <;> linarith

/-- No integer is nearer. -/
theorem abs_sub_roundHalfEven_le (x : ℚ) (k : ℤ) : |x - roundHalfEven x| ≤ |x - k| := by
  have near := abs_roundHalfEven_sub_le x
  rw [abs_sub_comm] at near
  by_cases same : k = roundHalfEven x
  · rw [same]
  · have apart : (1 : ℚ) ≤ |(k : ℚ) - roundHalfEven x| := by
      have whole : 1 ≤ |k - roundHalfEven x| := Int.one_le_abs (sub_ne_zero.mpr same)
      exact_mod_cast whole
    have between := abs_sub_le (k : ℚ) x (roundHalfEven x)
    rw [abs_sub_comm (k : ℚ) x] at between
    linarith

theorem abs_sub_roundHalfEven (x : ℚ) : |x - roundHalfEven x| = |x - round x| :=
  le_antisymm (abs_sub_roundHalfEven_le x _) (round_le x _)

theorem roundHalfEven_eq_iff (x : ℚ) (k : ℤ) :
    roundHalfEven x = k ↔ |x - k| < 1 / 2 ∨ |x - k| = 1 / 2 ∧ k % 2 = 0 := by
  have below := Int.floor_le x
  have above := Int.lt_floor_add_one x
  constructor
  · rintro rfl
    rw [roundHalfEven]
    split_ifs with low high even
    · exact .inl (by rw [abs_lt]; constructor <;> linarith)
    · exact .inl (by rw [abs_lt]; push_cast; constructor <;> linarith)
    · exact .inr ⟨by rw [abs_of_nonneg] <;> linarith, even⟩
    · refine .inr ⟨?_, by omega⟩
      rw [abs_of_nonpos] <;> push_cast <;> linarith
  · intro near
    rcases near with near | ⟨tie, even⟩
    · obtain ⟨least, most⟩ := abs_le.mp (abs_roundHalfEven_sub_le x)
      obtain ⟨left, right⟩ := abs_lt.mp near
      have up : (roundHalfEven x : ℚ) < k + 1 := by linarith
      have down : (k : ℚ) < roundHalfEven x + 1 := by linarith
      norm_cast at up down
      omega
    · rcases (abs_eq (by norm_num)).mp tie with up | down
      · have floor : ⌊x⌋ = k := Int.floor_eq_iff.mpr ⟨by linarith, by linarith⟩
        rw [roundHalfEven, floor, if_neg (by linarith), if_neg (by linarith), if_pos even]
      · have floor : ⌊x⌋ = k - 1 :=
          Int.floor_eq_iff.mpr ⟨by push_cast; linarith, by push_cast; linarith⟩
        rw [roundHalfEven, floor, if_neg (by push_cast; linarith),
          if_neg (by push_cast; linarith), if_neg (by omega)]
        omega

theorem roundTo_eq_div_iff (n : ℕ) (x : ℚ) (k : ℤ) :
    roundTo n x = k / 10 ^ n ↔
      |x * 10 ^ n - k| < 1 / 2 ∨ |x * 10 ^ n - k| = 1 / 2 ∧ k % 2 = 0 := by
  have scale : (10 : ℚ) ^ n ≠ 0 := by positivity
  rw [roundTo, div_left_inj' scale, Int.cast_inj, roundHalfEven_eq_iff]

theorem abs_roundTo_sub_le (n : ℕ) (x : ℚ) : |roundTo n x - x| ≤ 1 / (2 * 10 ^ n) := by
  have pos : (0 : ℚ) < 10 ^ n := by positivity
  have scaled : roundTo n x - x = (roundHalfEven (x * 10 ^ n) - x * 10 ^ n) / 10 ^ n := by
    rw [roundTo]
    field_simp
  rw [scaled, abs_div, abs_of_pos pos, ← div_div]
  exact div_le_div_of_nonneg_right (abs_roundHalfEven_sub_le _) pos.le

theorem floor_le_roundHalfEven (x : ℚ) : ⌊x⌋ ≤ roundHalfEven x := by
  rw [roundHalfEven]
  split_ifs <;> omega

theorem roundHalfEven_le_floor_add_one (x : ℚ) : roundHalfEven x ≤ ⌊x⌋ + 1 := by
  rw [roundHalfEven]
  split_ifs <;> omega

theorem roundHalfEven_mono {x y : ℚ} (le : x ≤ y) : roundHalfEven x ≤ roundHalfEven y := by
  rcases (Int.floor_le_floor le).eq_or_lt with same | less
  · rw [roundHalfEven, roundHalfEven, same]
    split_ifs <;> first | omega | linarith
  · have above := roundHalfEven_le_floor_add_one x
    have below := floor_le_roundHalfEven y
    omega

theorem roundTo_mono (n : ℕ) {x y : ℚ} (le : x ≤ y) : roundTo n x ≤ roundTo n y := by
  have pos : (0 : ℚ) < 10 ^ n := by positivity
  refine div_le_div_of_nonneg_right ?_ pos.le
  exact_mod_cast roundHalfEven_mono (mul_le_mul_of_nonneg_right le pos.le)

/-- A half is rounded down to an even number only. -/
theorem roundHalfEven_lt_iff (x : ℚ) (k : ℤ) :
    roundHalfEven x < k ↔ x < k - 1 / 2 ∨ x = k - 1 / 2 ∧ k % 2 = 1 := by
  have near := abs_le.mp (abs_roundHalfEven_sub_le x)
  constructor
  · intro below
    have under : (roundHalfEven x : ℚ) ≤ k - 1 := by exact_mod_cast Int.le_sub_one_of_lt below
    obtain less | same := lt_or_eq_of_le (show x ≤ k - 1 / 2 by linarith)
    · exact .inl less
    · refine .inr ⟨same, ?_⟩
      have value : roundHalfEven x = k - 1 := by
        have above : ((k - 1 : ℤ) : ℚ) ≤ roundHalfEven x := by push_cast; linarith
        have under' : (roundHalfEven x : ℚ) ≤ (k - 1 : ℤ) := by push_cast; exact under
        exact le_antisymm (by exact_mod_cast under') (by exact_mod_cast above)
      obtain strict | ⟨-, even⟩ := (roundHalfEven_eq_iff x (k - 1)).mp value
      · rw [same, abs_lt] at strict
        push_cast at strict
        linarith [strict.2]
      · omega
  · rintro (less | ⟨rfl, odd⟩)
    · have strict : (roundHalfEven x : ℚ) < k := by linarith
      exact_mod_cast strict
    · have value : roundHalfEven ((k : ℚ) - 1 / 2) = k - 1 := by
        refine (roundHalfEven_eq_iff _ (k - 1)).mpr (.inr ⟨?_, by omega⟩)
        push_cast
        rw [show (k : ℚ) - 1 / 2 - (k - 1) = 1 / 2 by ring, abs_of_pos (by norm_num)]
      omega

theorem roundHalfEven_neg (x : ℚ) : roundHalfEven (-x) = -roundHalfEven x := by
  refine (roundHalfEven_eq_iff (-x) _).mpr ?_
  have own := (roundHalfEven_eq_iff x (roundHalfEven x)).mp rfl
  have flip : -x - ((-roundHalfEven x : ℤ) : ℚ) = -(x - roundHalfEven x) := by
    push_cast
    ring
  rw [flip, abs_neg]
  exact own.imp_right fun tie => ⟨tie.1, by omega⟩

theorem roundTo_neg (n : ℕ) (x : ℚ) : roundTo n (-x) = -roundTo n x := by
  rw [roundTo, neg_mul, roundHalfEven_neg, roundTo, Int.cast_neg, neg_div]

/-- When a price is rounded below one on the grid. -/
theorem roundTo_lt_div_iff (n : ℕ) (x : ℚ) (k : ℤ) :
    roundTo n x < k / 10 ^ n ↔ x * 10 ^ n < k - 1 / 2 ∨ x * 10 ^ n = k - 1 / 2 ∧ k % 2 = 1 := by
  have pos : (0 : ℚ) < 10 ^ n := by positivity
  rw [roundTo, div_lt_div_iff_of_pos_right pos, Int.cast_lt, roundHalfEven_lt_iff]

/-- Further apart than a step, two numbers are not rounded to one. -/
theorem roundTo_lt_roundTo (n : ℕ) {x y : ℚ} (apart : x + 1 / 10 ^ n < y) :
    roundTo n x < roundTo n y := by
  have pos : (0 : ℚ) < 10 ^ n := by positivity
  have left := (abs_le.mp (abs_roundTo_sub_le n x)).2
  have right := (abs_le.mp (abs_roundTo_sub_le n y)).1
  have halves : 1 / (2 * (10 : ℚ) ^ n) + 1 / (2 * 10 ^ n) = 1 / 10 ^ n := by
    field_simp
    norm_num
  linarith

theorem roundTo_nonneg (n : ℕ) {x : ℚ} (nonneg : 0 ≤ x) : 0 ≤ roundTo n x := by
  rw [← roundTo_of_onGrid (onGrid_zero n)]
  exact roundTo_mono n nonneg

theorem OnGrid.min {n : ℕ} {x y : ℚ} (hx : OnGrid n x) (hy : OnGrid n y) : OnGrid n (min x y) := by
  rcases min_choice x y with left | right
  · rwa [left]
  · rwa [right]

theorem OnGrid.max {n : ℕ} {x y : ℚ} (hx : OnGrid n x) (hy : OnGrid n y) : OnGrid n (max x y) := by
  rcases max_choice x y with left | right
  · rwa [left]
  · rwa [right]

/-- Two points of a grid that are closer than its step are one. -/
theorem OnGrid.eq_of_abs_sub_lt {n : ℕ} {x y : ℚ} (hx : OnGrid n x) (hy : OnGrid n y)
    (near : |x - y| < 1 / 10 ^ n) : x = y := by
  obtain ⟨j, rfl⟩ := hx
  obtain ⟨k, rfl⟩ := hy
  have pos : (0 : ℚ) < 10 ^ n := by positivity
  rw [← sub_div, abs_div, abs_of_pos pos, div_lt_div_iff_of_pos_right pos] at near
  have same : j - k = 0 := Int.abs_lt_one_iff.mp (by exact_mod_cast near)
  rw [sub_eq_zero.mp same]

instance decidableOnGrid (n : ℕ) (x : ℚ) : Decidable (OnGrid n x) :=
  decidable_of_iff (roundTo n x = x)
    ⟨fun h => h ▸ roundTo_onGrid n x, roundTo_of_onGrid⟩

end Support
