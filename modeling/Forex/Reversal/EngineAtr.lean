import Forex.Backtest.AtrLive
import Forex.Reversal.IctPatterns
import Mathlib.Algebra.Order.BigOperators.Group.List

/-!
The average true range of the engine, beside the two that the pattern detectors and
the backtest take. `_calc_atr` starts at the oldest candle and stops after a period
of ranges, so that on a longer list the newest candles are never looked at.
-/

namespace Forex
open Support

namespace OhlcCandle

/-- Neither price of the range is missing. -/
def priced (c : OhlcCandle) : Bool := decide (0 < c.high ∧ 0 < c.low)

end OhlcCandle

/-- The true ranges of a list, from its second candle on. -/
def candleRanges (candles : List OhlcCandle) : List ℚ :=
  (candles.zip candles.tail).map fun p => Backtest.trueRange p.1.toBar p.2.toBar

/-- `_calc_atr`. -/
def calcAtr (candles : List OhlcCandle) (period : ℕ) : ℚ :=
  if candles.length < 2 then 8
  else
    let trs := (((candles.zip candles.tail).take period).filter fun p => p.2.priced).map fun p =>
      Backtest.trueRange p.1.toBar p.2.toBar
    if trs = [] then 8 else roundTo 2 (mean trs)

/-- The candles that the ranges of the last `period` bars are taken from. -/
def atrWindow (period : ℕ) (candles : List OhlcCandle) : List OhlcCandle :=
  candles.drop (candles.length - (period + 1))

/-- The engine's ATR is the mean range of the most recent bars, as the other two are;
a newer bar may change it, and older ones do not. The mean is `read` as it is or in
cents. -/
structure ReadsRecent (read : ℚ → ℚ) (period : ℕ) (candles : List OhlcCandle) : Prop where
  recent : calcAtr candles period = read (mean (candleRanges (atrWindow period candles)))
  patterns : period < candles.length →
    calcAtr candles period = read (Ict.atr candles period)
  backtest : period = 14 → period < candles.length →
    calcAtr candles period =
      read (Backtest.atr14 (candles.map OhlcCandle.toBar) (candles.length - 1))
  follows : ∃ newer : OhlcCandle, newer.Valid ∧
    calcAtr (candles ++ [newer]) period ≠ calcAtr candles period
  forgets : ∀ other : List OhlcCandle, (∀ c ∈ other, c.Valid) → period < candles.length →
    period < other.length → atrWindow period other = atrWindow period candles →
    calcAtr other period = calcAtr candles period

section Ranges
variable {candles : List OhlcCandle} {period : ℕ}

theorem priced_of_valid {c : OhlcCandle} (valid : c.Valid) : c.priced = true :=
  decide_eq_true ⟨valid.positive.trans_le valid.ordered, valid.positive⟩

theorem length_candleRanges (candles : List OhlcCandle) :
    (candleRanges candles).length = candles.length - 1 := by
  rw [candleRanges, List.length_map, List.length_zip, List.length_tail]
  omega

/-- Of valid candles, the engine takes the first ranges. -/
theorem calcAtr_eq (valid : ∀ c ∈ candles, c.Valid) (pos : 1 ≤ period) (two : 2 ≤ candles.length) :
    calcAtr candles period = roundTo 2 (mean ((candleRanges candles).take period)) := by
  have all : ((candles.zip candles.tail).take period).filter (fun p => p.2.priced) =
      (candles.zip candles.tail).take period := by
    rw [List.filter_eq_self]
    intro p mem
    have inside := (List.of_mem_zip (List.mem_of_mem_take mem)).2
    exact priced_of_valid (valid p.2 (List.mem_of_mem_tail inside))
  have some_ : (candleRanges candles).take period ≠ [] := by
    rw [← List.length_pos_iff, List.length_take, length_candleRanges]
    omega
  rw [calcAtr, if_neg (Nat.not_lt.mpr two)]
  dsimp only
  rw [all, List.map_take, ← candleRanges, if_neg some_]

theorem zip_tail_append_take (long : period < candles.length) (newer : List OhlcCandle) :
    ((candles ++ newer).zip (candles ++ newer).tail).take period =
      (candles.zip candles.tail).take period := by
  rw [List.zip_eq_zipWith, List.zip_eq_zipWith, List.take_zipWith, List.take_zipWith,
    List.take_append_of_le_length (Nat.le_of_lt long)]
  cases candles with
  | nil => cases long
  | cons c rest =>
      rw [List.cons_append, List.tail_cons, List.tail_cons,
        List.take_append_of_le_length (Nat.lt_succ_iff.mp long)]

/-- Behind a full period, nothing that is appended is looked at. -/
theorem calcAtr_append (long : period < candles.length) (pos : 1 ≤ period)
    (newer : List OhlcCandle) : calcAtr (candles ++ newer) period = calcAtr candles period := by
  have two : ¬ candles.length < 2 := by omega
  have two' : ¬ (candles ++ newer).length < 2 := by
    rw [List.length_append]
    omega
  rw [calcAtr, calcAtr, if_neg two, if_neg two', zip_tail_append_take long]

theorem candleRanges_append (newer : OhlcCandle) (last : OhlcCandle) (init : List OhlcCandle) :
    candleRanges (init ++ [last] ++ [newer]) =
      candleRanges (init ++ [last]) ++ [Backtest.trueRange last.toBar newer.toBar] := by
  induction init with
  | nil => rfl
  | cons c init ih =>
      cases init with
      | nil => rfl
      | cons c' init => exact congrArg (_ :: ·) ih

theorem candleRanges_nonneg (valid : ∀ c ∈ candles, c.Valid) :
    ∀ r ∈ candleRanges candles, 0 ≤ r := by
  intro r mem
  obtain ⟨p, inside, rfl⟩ := List.mem_map.mp mem
  have here := valid p.2 (List.mem_of_mem_tail (List.of_mem_zip inside).2)
  exact le_max_of_le_left (le_max_of_le_left (sub_nonneg.mpr here.ordered))

/-- A bar whose range takes the mean past any bound. -/
theorem exists_newer (valid : ∀ c ∈ candles, c.Valid) (two : 2 ≤ candles.length)
    (short : candles.length ≤ period) :
    ∃ newer : OhlcCandle, newer.Valid ∧
      calcAtr (candles ++ [newer]) period ≠ calcAtr candles period := by
  have bars : (0 : ℚ) < candles.length := by
    exact_mod_cast Nat.lt_of_lt_of_le Nat.two_pos two
  obtain ⟨wide, size⟩ : ∃ wide : ℚ, wide = (|calcAtr candles period| + 1) * candles.length :=
    ⟨_, rfl⟩
  have wide_pos : 0 < wide := size ▸ mul_pos (by positivity) bars
  let newer : OhlcCandle := ⟨⟨1 + wide, 1, 1⟩, 0, 1⟩
  have fits : newer.Valid := ⟨one_pos, by change (1 : ℚ) ≤ 1 + wide; linarith⟩
  refine ⟨newer, fits, ne_of_gt ?_⟩
  have valid' : ∀ c ∈ candles ++ [newer], c.Valid := by
    intro c mem
    obtain old | new := List.mem_append.mp mem
    · exact valid c old
    · rw [List.mem_singleton.mp new]
      exact fits
  have two' : 2 ≤ (candles ++ [newer]).length := by
    rw [List.length_append]
    omega
  have all : (candleRanges (candles ++ [newer])).length ≤ period := by
    rw [length_candleRanges, List.length_append, List.length_singleton]
    omega
  have sum : |calcAtr candles period| + 1 ≤ mean (candleRanges (candles ++ [newer])) := by
    obtain rfl | ⟨init, last, rfl⟩ := List.eq_nil_or_concat candles
    · cases two
    · rw [List.concat_eq_append] at *
      have rest : 0 ≤ (candleRanges (init ++ [last])).sum :=
        List.sum_nonneg (candleRanges_nonneg valid)
      have range : wide ≤ Backtest.trueRange last.toBar newer.toBar := by
        refine le_max_of_le_left (le_max_of_le_left ?_)
        change wide ≤ 1 + wide - 1
        linarith
      have count : ((candleRanges (init ++ [last] ++ [newer])).length : ℚ) =
          (init ++ [last]).length := by
        rw [length_candleRanges, List.length_append, List.length_singleton, Nat.add_sub_cancel]
      rw [mean, count, candleRanges_append, List.sum_append, List.sum_singleton, le_div_iff₀ bars]
      calc (|calcAtr (init ++ [last]) period| + 1) * ((init ++ [last]).length : ℚ)
          = wide := size.symm
        _ ≤ Backtest.trueRange last.toBar newer.toBar := range
        _ ≤ _ := le_add_of_nonneg_left rest
  have close := (abs_le.mp (abs_roundTo_sub_le 2 (mean (candleRanges (candles ++ [newer]))))).1
  rw [calcAtr_eq valid' (Nat.one_le_of_lt (Nat.lt_of_lt_of_le two short)) two',
    List.take_of_length_le all]
  have above := le_abs_self (calcAtr candles period)
  norm_num at close
  linarith

end Ranges

section Others
variable {candles : List OhlcCandle} {period : ℕ}

theorem candleRanges_drop (n : ℕ) (candles : List OhlcCandle) :
    candleRanges (candles.drop n) = (candleRanges candles).drop n := by
  rw [candleRanges, candleRanges, List.zip_eq_zipWith, List.zip_eq_zipWith, ← List.map_drop,
    List.drop_zipWith, List.tail_drop, List.drop_tail]

theorem candleRanges_take (n : ℕ) (candles : List OhlcCandle) :
    candleRanges (candles.take (n + 1)) = (candleRanges candles).take n := by
  induction candles generalizing n with
  | nil => rw [List.take_nil, candleRanges, List.tail_nil, List.zip_nil_right, List.map_nil,
      List.take_nil]
  | cons c rest ih =>
      cases rest with
      | nil => cases n <;> rfl
      | cons c' rest =>
          cases n with
          | zero => rfl
          | succ n => exact congrArg (_ :: ·) (ih n)

theorem dropLast_zip_tail (w : List OhlcCandle) : w.dropLast.zip w.tail = w.zip w.tail := by
  induction w with
  | nil => rfl
  | cons c rest ih =>
      cases rest with
      | nil => rfl
      | cons c' rest =>
          cases rest with
          | nil => rfl
          | cons c'' rest => exact congrArg (_ :: ·) ih

/-- On a longer list the average of the detectors is the one of the window. -/
theorem ictAtr_eq (long : period < candles.length) (pos : 1 ≤ period) :
    Ict.atr candles period = mean (candleRanges (atrWindow period candles)) := by
  have two : ¬ candles.length < 2 := by omega
  have later : lastN period candles = (atrWindow period candles).tail := by
    rw [lastN, if_neg (by omega), atrWindow, List.tail_drop]
    congr 1
    omega
  have earlier : lastN (period + 1) candles = atrWindow period candles := by
    rw [lastN, if_neg (by omega), atrWindow]
  rw [Ict.atr, if_neg two, later, earlier, dropLast_zip_tail, candleRanges]

theorem toBar_steps (candles : List OhlcCandle) :
    (Backtest.steps (candles.map OhlcCandle.toBar)).map (fun p => Backtest.trueRange p.1 p.2) =
      candleRanges candles := by
  rw [Backtest.steps, ← List.map_tail, List.zip_map, List.map_map, candleRanges]
  rfl

/-- So is that of the backtest, at its period. -/
theorem atr14_eq (two : 2 ≤ candles.length) :
    Backtest.atr14 (candles.map OhlcCandle.toBar) (candles.length - 1) =
      mean (candleRanges (atrWindow 14 candles)) := by
  have bars : 2 ≤ (candles.map OhlcCandle.toBar).length := by
    rw [List.length_map]
    exact two
  have last := Backtest.atr14_last bars
  rw [Backtest.AtrTemplate.backtestAtr, Backtest.AtrTemplate.recentRanges, List.length_map,
    toBar_steps] at last
  rw [last, atrWindow, candleRanges_drop]
  congr 2

/-- On a longer list the three averages are over the same bars, except the engine's,
which is over the first ones. -/
theorem calcAtr_first (valid : ∀ c ∈ candles, c.Valid) (pos : 1 ≤ period)
    (long : period < candles.length) :
    calcAtr candles period = roundTo 2 (mean (candleRanges (candles.take (period + 1)))) := by
  have two : 2 ≤ candles.length := by omega
  rw [calcAtr_eq valid pos two, candleRanges_take]

end Others

/-- It holds of no list with more bars than the period, and of a shorter one as the
mean is in whole cents, or read in cents. -/
theorem engine_atr_recent_iff {candles : List OhlcCandle} {period : ℕ}
    (valid : ∀ c ∈ candles, c.Valid) (pos : 1 ≤ period) :
    (ReadsRecent (roundTo 2) period candles ↔ 2 ≤ candles.length ∧ candles.length ≤ period) ∧
      (ReadsRecent id period candles ↔
        2 ≤ candles.length ∧ candles.length ≤ period ∧
          OnGrid 2 (mean (candleRanges candles))) := by
  have window (short : candles.length ≤ period) : atrWindow period candles = candles := by
    rw [atrWindow, Nat.sub_eq_zero_of_le (Nat.le_succ_of_le short), List.drop_zero]
  have whole (two : 2 ≤ candles.length) (short : candles.length ≤ period) :
      calcAtr candles period = roundTo 2 (mean (candleRanges candles)) := by
    rw [calcAtr_eq valid pos two, List.take_of_length_le]
    rw [length_candleRanges]
    omega
  have short {read : ℚ → ℚ} (reads : ReadsRecent read period candles) :
      candles.length ≤ period := by
    by_contra long
    obtain ⟨newer, _, changes⟩ := reads.follows
    exact changes (calcAtr_append (not_le.mp long) pos [newer])
  have two {read : ℚ → ℚ} (zero : read 0 = 0) (reads : ReadsRecent read period candles) :
      2 ≤ candles.length := by
    by_contra few
    have none : candleRanges candles = [] := by
      rw [← List.length_eq_zero_iff, length_candleRanges]
      omega
    have value := reads.recent
    rw [window (short reads), none, calcAtr, if_pos (not_le.mp few), mean, List.sum_nil, zero_div,
      zero] at value
    norm_num at value
  have reads {read : ℚ → ℚ} (two : 2 ≤ candles.length) (short : candles.length ≤ period)
      (same : roundTo 2 (mean (candleRanges candles)) = read (mean (candleRanges candles))) :
      ReadsRecent read period candles := by
    refine ⟨?_, fun long => ?_, fun _ long => ?_, exists_newer valid two short, fun _ _ long => ?_⟩
    · rw [window short, whole two short, same]
    all_goals exact absurd long (not_lt.mpr short)
  have zero : roundTo 2 (0 : ℚ) = 0 := roundTo_of_onGrid (onGrid_zero 2)
  constructor
  · constructor
    · intro cents
      exact ⟨two zero cents, short cents⟩
    · rintro ⟨many, few⟩
      exact reads many few rfl
  · constructor
    · intro exactly
      have many := two rfl exactly
      have few := short exactly
      refine ⟨many, few, ?_⟩
      have value := exactly.recent
      rw [window few, whole many few, id_eq] at value
      exact value ▸ roundTo_onGrid 2 _
    · rintro ⟨many, few, grid⟩
      exact reads many few (roundTo_of_onGrid grid)

/-- A candle of the given range, closing at its high. -/
def rangeCandle (range : ℚ) : OhlcCandle := ⟨⟨2000 + range, 2000, 2000⟩, 0, 2000⟩

/-- Two candles of fifteen minutes each have one range. -/
theorem engine_atr_recent_of_two :
    ReadsRecent (roundTo 2) 14 [rangeCandle 3, rangeCandle 5] :=
  (engine_atr_recent_iff
    (by
      intro c mem
      obtain rfl | rfl : c = rangeCandle 3 ∨ c = rangeCandle 5 := by simpa using mem
      all_goals exact ⟨by decide, by decide +kernel⟩)
    (by decide)).1.mpr ⟨by decide, by decide⟩

/-- The last fourteen bars moved thirty points each, the fourteen before them three;
the engine says three. -/
theorem engine_atr_reads_oldest :
    let candles := List.replicate 15 (rangeCandle 3) ++ List.replicate 14 (rangeCandle 30)
    calcAtr candles 14 = 3 ∧ mean (candleRanges (atrWindow 14 candles)) = 30 ∧
      Ict.atr candles 14 = 30 ∧
      Backtest.atr14 (candles.map OhlcCandle.toBar) (candles.length - 1) = 30 ∧
      ¬ ReadsRecent (roundTo 2) 14 candles := by
  have first : calcAtr (List.replicate 15 (rangeCandle 3) ++
      List.replicate 14 (rangeCandle 30)) 14 = 3 := by decide +kernel
  have last : mean (candleRanges (atrWindow 14 (List.replicate 15 (rangeCandle 3) ++
      List.replicate 14 (rangeCandle 30)))) = 30 := by decide +kernel
  refine ⟨first, last, by decide +kernel, by decide +kernel, fun reads => ?_⟩
  have value := reads.recent
  rw [first, last] at value
  exact absurd value (by decide +kernel)

end Forex
