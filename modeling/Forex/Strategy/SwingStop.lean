import Forex.Broker.Sides
import Forex.Support.Loop

/-!
The structural stop of the position manager, `find_swing_sl`: the latest swing between the
entry and the price, found by a walk back over the candles. The walk goes on to index zero,
where the candle before is `candles[-1]`, the newest one.
-/

namespace Forex
open Support

/-- A candle of the history; a missing or null price is read as zero. -/
structure SwingCandle where
  high : Option ℚ := none
  low : Option ℚ := none
  deriving DecidableEq

/-- The low of a candle for a buy, its high for a sell. -/
def SwingCandle.extreme (c : SwingCandle) : Direction → ℚ
  | .buy => c.low.getD 0
  | .sell => c.high.getD 0

/-- Lower for a buy, higher for a sell. -/
def Direction.Beyond : Direction → ℚ → ℚ → Prop
  | .buy, x, y => x < y
  | .sell, x, y => y < x

instance (d : Direction) (x y : ℚ) : Decidable (d.Beyond x y) :=
  match d with
  | .buy => inferInstanceAs (Decidable (x < y))
  | .sell => inferInstanceAs (Decidable (y < x))

section Swing
variable (candles : List SwingCandle) (d : Direction) (entryPrice currentPrice buffer : ℚ)

/-- `candles[i]`. -/
def candleAt (i : ℕ) : ℚ := (candles.getD i {}).extreme d

/-- `candles[i - 1]`, which for the first candle is the last one. -/
def candleBefore (i : ℕ) : ℚ :=
  if i = 0 then candleAt candles d (candles.length - 1) else candleAt candles d (i - 1)

def candleAfter (i : ℕ) : ℚ :=
  if i + 1 < candles.length then candleAt candles d (i + 1) else candleAt candles d i

/-- The buffer beyond the extreme of a candle, in cents. -/
def swingCandidate (i : ℕ) : ℚ :=
  match d with
  | .buy => roundTo 2 (candleAt candles d i - buffer)
  | .sell => roundTo 2 (candleAt candles d i + buffer)

def locksProfit (candidate : ℚ) : Prop :=
  d.Beyond entryPrice candidate ∧ d.Beyond candidate currentPrice

instance (candidate : ℚ) : Decidable (locksProfit d entryPrice currentPrice candidate) :=
  inferInstanceAs (Decidable (_ ∧ _))

/-- One step of the walk, for the candle before and the candle after it. -/
def swingBetween (before after : ℚ) (i : ℕ) : Option ℚ :=
  if d.Beyond (candleAt candles d i) before ∧ d.Beyond (candleAt candles d i) after ∧
      locksProfit d entryPrice currentPrice (swingCandidate candles d buffer i) then
    some (swingCandidate candles d buffer i)
  else none

def findSwingSl : Option ℚ :=
  if candles.length < 3 then none
  else
    (List.range (candles.length - 1)).reverse.findSome? fun i =>
      swingBetween candles d entryPrice currentPrice buffer (candleBefore candles d i)
        (candleAfter candles d i) i

/-- Candle `i` is more extreme than the candle before it and the candle after it, and the
level beyond it lies between the entry and the price. -/
structure QualifyingSwing (i : ℕ) (level : ℚ) : Prop where
  interior : 0 < i ∧ i + 1 < candles.length
  beyondBefore : d.Beyond (candleAt candles d i) (candleAt candles d (i - 1))
  beyondAfter : d.Beyond (candleAt candles d i) (candleAt candles d (i + 1))
  level_eq : level = swingCandidate candles d buffer i
  between : locksProfit d entryPrice currentPrice level

/-- A level is that of a swing with no qualifying one after it; no level means that there
is no qualifying swing. -/
def LatestSwing : Option ℚ → Prop
  | some level =>
      ∃ i, QualifyingSwing candles d entryPrice currentPrice buffer i level ∧
        ∀ j > i, ∀ other, ¬ QualifyingSwing candles d entryPrice currentPrice buffer j other
  | none => ∀ i level, ¬ QualifyingSwing candles d entryPrice currentPrice buffer i level

/-- The oldest candle makes a level, seen between the newest and the second one. -/
def WrapsAround : Prop :=
  d.Beyond (candleAt candles d 0) (candleAt candles d (candles.length - 1)) ∧
    d.Beyond (candleAt candles d 0) (candleAt candles d 1) ∧
      locksProfit d entryPrice currentPrice (swingCandidate candles d buffer 0)

instance : Decidable (WrapsAround candles d entryPrice currentPrice buffer) :=
  inferInstanceAs (Decidable (_ ∧ _ ∧ _))

variable {candles d entryPrice currentPrice buffer}

theorem swingBetween_eq_some {before after : ℚ} {i : ℕ} {level : ℚ} :
    swingBetween candles d entryPrice currentPrice buffer before after i = some level ↔
      d.Beyond (candleAt candles d i) before ∧ d.Beyond (candleAt candles d i) after ∧
        level = swingCandidate candles d buffer i ∧
          locksProfit d entryPrice currentPrice level := by
  rw [swingBetween]
  split_ifs with qualifies
  · rw [Option.some.injEq]
    constructor
    · rintro rfl
      exact ⟨qualifies.1, qualifies.2.1, rfl, qualifies.2.2⟩
    · rintro ⟨-, -, rfl, -⟩
      rfl
  · refine iff_of_false (fun found => nomatch found) ?_
    rintro ⟨before, after, rfl, between⟩
    exact qualifies ⟨before, after, between⟩

/-- Behind the first candle, the walk sees the neighbours in the order of time. -/
theorem swingBetween_interior {i : ℕ} (inside : 0 < i) (short : i < candles.length - 1)
    {level : ℚ} :
    swingBetween candles d entryPrice currentPrice buffer (candleBefore candles d i)
        (candleAfter candles d i) i = some level ↔
      QualifyingSwing candles d entryPrice currentPrice buffer i level := by
  have next : i + 1 < candles.length := by omega
  rw [swingBetween_eq_some, candleBefore, if_neg (Nat.ne_of_gt inside), candleAfter, if_pos next]
  constructor
  · rintro ⟨before, after, same, between⟩
    exact ⟨⟨inside, next⟩, before, after, same, between⟩
  · rintro ⟨-, before, after, same, between⟩
    exact ⟨before, after, same, between⟩

/-- The first candle is compared with the newest one. -/
theorem swingBetween_first (long : ¬ candles.length < 3) :
    (∃ level, swingBetween candles d entryPrice currentPrice buffer (candleBefore candles d 0)
        (candleAfter candles d 0) 0 = some level) ↔
      WrapsAround candles d entryPrice currentPrice buffer := by
  have next : 0 + 1 < candles.length := by omega
  simp only [swingBetween_eq_some, candleBefore, if_true, candleAfter, if_pos next, WrapsAround]
  constructor
  · rintro ⟨level, before, after, rfl, between⟩
    exact ⟨before, after, between⟩
  · rintro ⟨before, after, between⟩
    exact ⟨_, before, after, rfl, between⟩

/-- A level comes from the latest qualifying swing, or from the first candle where there is
none. -/
theorem findSwingSl_eq_some (long : ¬ candles.length < 3) {level : ℚ}
    (found : findSwingSl candles d entryPrice currentPrice buffer = some level) :
    LatestSwing candles d entryPrice currentPrice buffer (some level) ∨
      WrapsAround candles d entryPrice currentPrice buffer ∧
        ∀ i other, ¬ QualifyingSwing candles d entryPrice currentPrice buffer i other := by
  rw [findSwingSl, if_neg long, findSome?_range_reverse] at found
  obtain ⟨i, short, here, later⟩ := found
  have none_after : ∀ j > i, ∀ other,
      ¬ QualifyingSwing candles d entryPrice currentPrice buffer j other := by
    intro j after other swing
    have inside := swing.interior
    have last := (swingBetween_interior inside.1 (by omega)).mpr swing
    rw [later j after (by omega)] at last
    nomatch last
  rcases Nat.eq_zero_or_pos i with rfl | inside
  · refine .inr ⟨(swingBetween_first long).mp ⟨level, here⟩, fun j other swing => ?_⟩
    exact none_after j swing.interior.1 other swing
  · exact .inl ⟨i, (swingBetween_interior inside short).mp here, none_after⟩

theorem findSwingSl_eq_none (long : ¬ candles.length < 3)
    (none : findSwingSl candles d entryPrice currentPrice buffer = none) :
    (∀ i level, ¬ QualifyingSwing candles d entryPrice currentPrice buffer i level) ∧
      ¬ WrapsAround candles d entryPrice currentPrice buffer := by
  rw [findSwingSl, if_neg long, List.findSome?_eq_none_iff] at none
  constructor
  · intro i level swing
    have inside := swing.interior
    have found := (swingBetween_interior inside.1 (by omega)).mpr swing
    rw [none i (by rw [List.mem_reverse, List.mem_range]; omega)] at found
    nomatch found
  · intro wraps
    obtain ⟨level, found⟩ := (swingBetween_first long).mpr wraps
    rw [none 0 (by rw [List.mem_reverse, List.mem_range]; omega)] at found
    nomatch found

/-- The structural stop is that of the latest swing unless the only candle that looks like
one is the oldest, compared with the newest. -/
theorem latest_swing_iff (candles : List SwingCandle) (d : Direction)
    (entryPrice currentPrice buffer : ℚ) :
    LatestSwing candles d entryPrice currentPrice buffer
        (findSwingSl candles d entryPrice currentPrice buffer) ↔
      candles.length < 3 ∨
        (∃ i level, QualifyingSwing candles d entryPrice currentPrice buffer i level) ∨
          ¬ WrapsAround candles d entryPrice currentPrice buffer := by
  by_cases short : candles.length < 3
  · refine iff_of_true ?_ (.inl short)
    rw [findSwingSl, if_pos short]
    intro i level swing
    have inside := swing.interior
    omega
  · rw [or_iff_right short]
    cases result : findSwingSl candles d entryPrice currentPrice buffer with
    | none =>
        obtain ⟨none, noWrap⟩ := findSwingSl_eq_none short result
        exact iff_of_true none (.inr noWrap)
    | some level =>
        rcases findSwingSl_eq_some short result with latest | ⟨wraps, none⟩
        · obtain ⟨i, swing, -⟩ := id latest
          exact iff_of_true latest (.inl ⟨i, level, swing⟩)
        · refine iff_of_false ?_ ?_
          · rintro ⟨i, swing, -⟩
            exact none i level swing
          · rintro (⟨i, other, swing⟩ | noWrap)
            · exact none i other swing
            · exact noWrap wraps

/-- Rising lows have no swing, yet the oldest candle is taken for one. -/
theorem oldest_low_taken :
    findSwingSl [{ low := some 2005 }, { low := some 2010 }, { low := some 2008 }] .buy 2000 2020
        2 = some 2003 ∧
      ¬ LatestSwing [{ low := some 2005 }, { low := some 2010 }, { low := some 2008 }] .buy 2000
        2020 2 (some 2003) := by
  refine ⟨by decide +kernel, ?_⟩
  rintro ⟨i, swing, -⟩
  have inside := swing.interior
  rw [List.length_cons, List.length_cons, List.length_singleton] at inside
  obtain rfl : i = 1 := by omega
  exact absurd swing.beyondBefore (by decide +kernel)

end Swing

end Forex
