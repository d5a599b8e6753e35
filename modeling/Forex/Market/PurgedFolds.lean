import Mathlib
import Forex.Support.Blocks
import Forex.Support.Decimal
import Forex.Support.Tiling

/-!
The two splitters of `validation.py`: `purged_kfold`, which cuts the samples at rounded
bounds and takes out of each training set what touches the time of its test fold, and
`walk_forward_splits`, which trains on the past only.
-/

namespace Forex
open Support

/-- When a sample began, and when its label was known. -/
abbrev LabelSpan := ℚ × ℚ

structure Split where
  train : List ℕ
  test : List ℕ
deriving DecidableEq, Repr

/-- `spans[i]`. -/
def spanAt (spans : List LabelSpan) (i : ℕ) : LabelSpan := spans.getD i (0, 0)

/-- The span reaches into the time from `start` to `stop`. -/
def Touches (span : LabelSpan) (start stop : ℚ) : Prop := start ≤ span.2 ∧ span.1 ≤ stop

instance (span : LabelSpan) (start stop : ℚ) : Decidable (Touches span start stop) :=
  inferInstanceAs (Decidable (_ ∧ _))

section Splits
variable (n k : ℕ) (spans : List LabelSpan) (embargo : ℚ)

/-- `bounds[i]`. -/
def foldBound (i : ℕ) : ℕ := (roundHalfEven ((i : ℚ) * n / k)).toNat

def purgedFold (f : ℕ) : Option Split :=
  let test := block (foldBound n k) f
  if test = [] then none
  else
    let tStart := (test.map fun i => (spanAt spans i).1).min?.getD 0
    let tEnd := (test.map fun i => (spanAt spans i).2).max?.getD 0 + embargo
    some
      { train := (List.range n).filter fun i =>
          decide (i ∉ test) && !decide (Touches (spanAt spans i) tStart tEnd)
        test := test }

def purgedKfold : Except String (List Split) :=
  if k < 2 ∨ n < k then
    .error ("cannot make " ++ toString k ++ " folds from " ++ toString n ++ " samples")
  else if spans.length ≠ n then .error "one span per sample is required"
  else .ok ((List.range k).filterMap (purgedFold n k spans embargo))

def walkForwardSplit (n folds i : ℕ) : Option Split :=
  let size := n / (folds + 1)
  let start := size * i
  let stop := if i = folds then n else size * (i + 1)
  let test := List.range' start (stop - start)
  if test = [] then none else some { train := List.range start, test := test }

def walkForwardSplits (n folds : ℕ) : Except String (List Split) :=
  if folds < 1 ∨ n < folds + 1 then
    .error ("cannot make " ++ toString folds ++ " walk-forward folds from " ++ toString n)
  else .ok ((List.range' 1 folds).filterMap (walkForwardSplit n folds))

end Splits

/-- What is trained on besides a test fold is what does not touch the time from the first
start in the fold to its last end and the embargo; for spans that end after they start, this
is to have no moment in common with it. -/
structure PurgedOf (n : ℕ) (spans : List LabelSpan) (embargo start stop : ℚ) (s : Split) :
    Prop where
  earliest : IsLeast { t | ∃ i ∈ s.test, (spanAt spans i).1 = t } start
  latest : IsGreatest { t | ∃ i ∈ s.test, (spanAt spans i).2 = t } stop
  train : ∀ i, i ∈ s.train ↔
    i < n ∧ i ∉ s.test ∧ ¬ Touches (spanAt spans i) start (stop + embargo)
  apart : (∀ i, (spanAt spans i).1 ≤ (spanAt spans i).2) → 0 ≤ embargo → ∀ i,
    i ∈ s.train ↔ i < n ∧ Disjoint (Set.Icc (spanAt spans i).1 (spanAt spans i).2)
      (Set.Icc start (stop + embargo))

structure Purged (n k : ℕ) (spans : List LabelSpan) (embargo : ℚ) (folds : List Split) : Prop where
  count : folds.length = k
  tests : BlocksOf 0 n (folds.map Split.test)
  purged : ∀ s ∈ folds, ∃ start stop, PurgedOf n spans embargo start stop s

/-- Each test block is behind all that is trained on, and the blocks go on to the end. -/
structure WalksForward (n folds : ℕ) (splits : List Split) : Prop where
  count : splits.length = folds
  tests : ∃ first < n, BlocksOf first n (splits.map Split.test)
  behind : ∀ s ∈ splits, ∀ i ∈ s.train, ∀ j ∈ s.test, i < j

section Bounds
variable {n k : ℕ}

theorem roundHalfEven_nonneg {x : ℚ} (nonneg : 0 ≤ x) : 0 ≤ roundHalfEven x :=
  (Int.floor_nonneg.mpr nonneg).trans (floor_le_roundHalfEven x)

theorem foldBound_cast (i : ℕ) :
    ((foldBound n k i : ℕ) : ℤ) = roundHalfEven ((i : ℚ) * n / k) :=
  Int.toNat_of_nonneg (roundHalfEven_nonneg (by positivity))

theorem foldBound_of_eq {i m : ℕ} (whole : (i : ℚ) * n / k = m) : foldBound n k i = m := by
  rw [foldBound, whole, ← Int.cast_natCast, roundHalfEven_intCast, Int.toNat_natCast]

/-- More than one apart, two numbers have different roundings, in their order. -/
theorem roundHalfEven_lt {x y : ℚ} (apart : x + 1 < y) : roundHalfEven x < roundHalfEven y := by
  have below := (abs_le.mp (abs_roundHalfEven_sub_le x)).2
  have above := (abs_le.mp (abs_roundHalfEven_sub_le y)).1
  have lt : (roundHalfEven x : ℚ) < roundHalfEven y := by linarith
  exact_mod_cast lt

theorem foldBound_rises (few : k ≤ n) (pos : 0 < k) (f : ℕ) :
    foldBound n k f < foldBound n k (f + 1) := by
  have cast : (0 : ℚ) < k := Nat.cast_pos.mpr pos
  rcases Nat.lt_or_eq_of_le few with fewer | rfl
  · have wide : (k : ℚ) < n := Nat.cast_lt.mpr fewer
    have apart : (f : ℚ) * n / k + 1 < ((f + 1 : ℕ) : ℚ) * n / k := by
      rw [Nat.cast_succ, add_one_mul, add_div]
      exact (add_lt_add_iff_left _).mpr ((one_lt_div cast).mpr wide)
    have lt := roundHalfEven_lt apart
    rw [← foldBound_cast, ← foldBound_cast] at lt
    exact_mod_cast lt
  · -- one sample a fold: the bounds are whole numbers
    have whole : ∀ i : ℕ, foldBound k k i = i := fun i =>
      foldBound_of_eq (mul_div_cancel_right₀ _ (ne_of_gt cast))
    rw [whole, whole]
    exact f.lt_succ_self

theorem foldBound_zero : foldBound n k 0 = 0 := foldBound_of_eq (by simp)

theorem foldBound_last (pos : 0 < k) : foldBound n k k = n :=
  foldBound_of_eq (mul_div_cancel_left₀ _ (Nat.cast_ne_zero.mpr (Nat.ne_of_gt pos)))

end Bounds

section Purge
variable {n k : ℕ} {spans : List LabelSpan} {embargo : ℚ}

theorem touches_iff {span : LabelSpan} {start stop : ℚ} (ordered : span.1 ≤ span.2)
    (window : start ≤ stop) :
    Touches span start stop ↔ ¬ Disjoint (Set.Icc span.1 span.2) (Set.Icc start stop) := by
  rw [Set.not_disjoint_iff]
  constructor
  · rintro ⟨reaches, begins⟩
    exact ⟨max span.1 start, ⟨le_max_left _ _, max_le ordered reaches⟩,
      le_max_right _ _, max_le begins window⟩
  · rintro ⟨t, own, inside⟩
    exact ⟨inside.1.trans own.2, own.1.trans inside.2⟩

theorem isLeast_min? {is : List ℕ} (some : is ≠ []) (f : ℕ → ℚ) :
    IsLeast { t | ∃ i ∈ is, f i = t } ((is.map f).min?.getD 0) := by
  obtain ⟨least, isLeast⟩ := exists_min? f some
  rw [isLeast]
  exact isLeast_of_min? isLeast

theorem isGreatest_max? {is : List ℕ} (some : is ≠ []) (f : ℕ → ℚ) :
    IsGreatest { t | ∃ i ∈ is, f i = t } ((is.map f).max?.getD 0) := by
  obtain ⟨most, isMost⟩ := exists_max? f some
  rw [isMost]
  exact isGreatest_of_max? isMost

/-- What is kept by the filter of `purged_kfold` is purged of the fold. -/
theorem purgedOf_of_train {start stop : ℚ} {s : Split} (some : s.test ≠ [])
    (earliest : IsLeast { t | ∃ i ∈ s.test, (spanAt spans i).1 = t } start)
    (latest : IsGreatest { t | ∃ i ∈ s.test, (spanAt spans i).2 = t } stop)
    (train : ∀ i, i ∈ s.train ↔
      i < n ∧ i ∉ s.test ∧ ¬ Touches (spanAt spans i) start (stop + embargo)) :
    PurgedOf n spans embargo start stop s := by
  refine ⟨earliest, latest, train, fun ordered nonneg i => ?_⟩
  have inside : ∀ j ∈ s.test, start ≤ (spanAt spans j).1 ∧ (spanAt spans j).2 ≤ stop :=
    fun j mem => ⟨earliest.2 ⟨j, mem, rfl⟩, latest.2 ⟨j, mem, rfl⟩⟩
  obtain ⟨first, listed⟩ := List.exists_mem_of_ne_nil _ some
  have window : start ≤ stop + embargo :=
    ((inside first listed).1.trans ((ordered first).trans (inside first listed).2)).trans
      (le_add_of_nonneg_right nonneg)
  have apart := (touches_iff (ordered i) window).not_left
  rw [train, apart]
  refine and_congr_right fun _ => and_iff_right_of_imp fun outside mem => ?_
  exact apart.mpr outside ⟨(inside i mem).1.trans (ordered i),
    ((ordered i).trans (inside i mem).2).trans (le_add_of_nonneg_right nonneg)⟩

theorem purgedFold_eq_some (spans : List LabelSpan) (embargo : ℚ) {f : ℕ}
    (some : block (foldBound n k) f ≠ []) :
    ∃ s start stop, purgedFold n k spans embargo f = Option.some s ∧
      s.test = block (foldBound n k) f ∧ PurgedOf n spans embargo start stop s := by
  rw [purgedFold]
  dsimp only
  rw [if_neg some]
  refine ⟨_, _, _, rfl, rfl, purgedOf_of_train some (isLeast_min? some _) (isGreatest_max? some _)
    fun i => ?_⟩
  rw [List.mem_filter, List.mem_range, Bool.and_eq_true, decide_eq_true_iff,
    Bool.not_eq_true', decide_eq_false_iff_not]

theorem map_filterMap_eq {α β : Type} {f : ℕ → Option α} {g : α → β} {h : ℕ → β} {is : List ℕ}
    (there : ∀ i ∈ is, ∃ a, f i = some a ∧ g a = h i) :
    (is.filterMap f).map g = is.map h := by
  rw [List.map_filterMap, ← List.filterMap_eq_map]
  refine List.filterMap_congr fun i mem => ?_
  obtain ⟨a, found, same⟩ := there i mem
  rw [found, Option.map_some, same, Function.comp_apply]

theorem purgedKfold_purged (two : 2 ≤ k) (few : k ≤ n) (each : spans.length = n) :
    ∃ folds, purgedKfold n k spans embargo = .ok folds ∧ Purged n k spans embargo folds := by
  have pos : 0 < k := by omega
  have rises : ∀ f < k, foldBound n k f < foldBound n k (f + 1) :=
    fun f _ => foldBound_rises few pos f
  have tests : ((List.range k).filterMap (purgedFold n k spans embargo)).map Split.test =
      (List.range k).map (block (foldBound n k)) := by
    refine map_filterMap_eq fun f mem => ?_
    obtain ⟨s, -, -, found, test, -⟩ :=
      purgedFold_eq_some spans embargo (block_ne_nil rises (List.mem_range.mp mem))
    exact ⟨s, found, test⟩
  refine ⟨(List.range k).filterMap (purgedFold n k spans embargo), ?_, ?_, ?_, fun s mem => ?_⟩
  · rw [purgedKfold, if_neg (by omega), if_neg (not_not.mpr each)]
  · have count := congrArg List.length tests
    rwa [List.length_map, List.length_map, List.length_range] at count
  · have blocks := blocksOf_range rises
    rwa [foldBound_zero, foldBound_last pos, ← tests] at blocks
  · obtain ⟨f, inside, found⟩ := List.mem_filterMap.mp mem
    obtain ⟨s', start, stop, found', -, purged⟩ :=
      purgedFold_eq_some spans embargo (block_ne_nil rises (List.mem_range.mp inside))
    cases found.symm.trans found'
    exact ⟨start, stop, purged⟩

end Purge

section Walk
variable {n folds : ℕ}

/-- The starts of the test blocks, and the end of the last one. -/
def walkBound (n folds f : ℕ) : ℕ := if f = folds then n else n / (folds + 1) * (f + 1)

theorem walkBound_rises (few : folds + 1 ≤ n) (f : ℕ) (inside : f < folds) :
    walkBound n folds f < walkBound n folds (f + 1) := by
  have size : 0 < n / (folds + 1) := Nat.div_pos few folds.succ_pos
  rw [walkBound, walkBound, if_neg (Nat.ne_of_lt inside)]
  split_ifs with last
  · have parts := Nat.div_mul_le_self n (folds + 1)
    rw [← last] at parts size ⊢
    exact ((Nat.mul_lt_mul_left size).mpr (Nat.lt_succ_self _)).trans_le parts
  · exact (Nat.mul_lt_mul_left size).mpr (Nat.lt_succ_self _)

theorem walkForwardSplit_eq (few : folds + 1 ≤ n) {f : ℕ} (inside : f < folds) :
    walkForwardSplit n folds (f + 1) =
      some ⟨List.range (walkBound n folds f), block (walkBound n folds) f⟩ := by
  have start : n / (folds + 1) * (f + 1) = walkBound n folds f :=
    (if_neg (Nat.ne_of_lt inside)).symm
  have stop : (if f + 1 = folds then n else n / (folds + 1) * (f + 1 + 1)) =
      walkBound n folds (f + 1) := rfl
  rw [walkForwardSplit]
  rw [start, stop]
  exact if_neg (block_ne_nil (walkBound_rises few) inside)

theorem walkForward_walks (one : 1 ≤ folds) (few : folds + 1 ≤ n) :
    ∃ splits, walkForwardSplits n folds = .ok splits ∧ WalksForward n folds splits := by
  have rises := walkBound_rises few
  have last : walkBound n folds folds = n := if_pos rfl
  have splits : (List.range' 1 folds).filterMap (walkForwardSplit n folds) =
      (List.range folds).map fun f =>
        ⟨List.range (walkBound n folds f), block (walkBound n folds) f⟩ := by
    rw [List.range'_eq_map_range, List.filterMap_map, ← List.filterMap_eq_map]
    refine List.filterMap_congr fun f mem => ?_
    rw [Function.comp_apply, Nat.add_comm]
    exact walkForwardSplit_eq few (List.mem_range.mp mem)
  refine ⟨_, (if_neg (by omega)).trans (congrArg Except.ok splits), ?_, ?_, fun s mem => ?_⟩
  · rw [List.length_map, List.length_range]
  · have lt := (rises 0 one).trans_le (bound_le rises one le_rfl)
    have blocks := blocksOf_range rises
    rw [last] at lt blocks
    refine ⟨walkBound n folds 0, lt, ?_⟩
    rw [List.map_map]
    exact blocks
  · obtain ⟨f, -, rfl⟩ := List.mem_map.mp mem
    intro i trained j tested
    exact (List.mem_range.mp trained).trans_le (mem_block.mp tested).1

end Walk

/-- No fold is trained on what its test resolves, in either splitter. -/
theorem folds_do_not_leak (n k : ℕ) (spans : List LabelSpan) (embargo : ℚ) (folds : ℕ)
    (two : 2 ≤ k) (few : k ≤ n) (each : spans.length = n) (one : 1 ≤ folds)
    (short : folds + 1 ≤ n) :
    (∃ purged, purgedKfold n k spans embargo = .ok purged ∧ Purged n k spans embargo purged) ∧
      ∃ splits, walkForwardSplits n folds = .ok splits ∧ WalksForward n folds splits :=
  ⟨purgedKfold_purged two few each, walkForward_walks one short⟩

theorem folds_do_not_leak_five :
    (∃ purged, purgedKfold 5 2 [(0, 1), (1, 2), (2, 3), (3, 4), (4, 5)] (1 / 2) = .ok purged ∧
      Purged 5 2 [(0, 1), (1, 2), (2, 3), (3, 4), (4, 5)] (1 / 2) purged) ∧
      ∃ splits, walkForwardSplits 5 3 = .ok splits ∧ WalksForward 5 3 splits :=
  folds_do_not_leak 5 2 _ _ 3 (by decide) (by decide) rfl (by decide) (by decide)

end Forex
