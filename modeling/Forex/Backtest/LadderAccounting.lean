import Forex.Backtest.Accounting
import Forex.Backtest.WalkEnds
import Mathlib.Data.List.Induction

/-!
The accounts of a ladder. Every level is on the side of the profit and closes its share
or what is left, in ten-thousandths of a lot; a walk that the stop does not end closes
its last bar above the first stop.
-/

namespace Forex
namespace Backtest
open Support

namespace LadderTest
variable (t : LadderTest)

/-- A close of a level, by its price. -/
def priced (p : ℕ × ℚ) : ℚ × ℚ := ((t.tps.getD (p.1 - 1) none).getD 0, p.2)

def parts (s : LadderState) : List (ℚ × ℚ) := s.closes.map t.priced

/-- `partial_pnl`, in points times lots. -/
def banked (s : LadderState) : ℚ :=
  (s.closes.map fun p => t.direction.sign * ((t.priced p).1 - t.fillPrice) * p.2).sum

/-- What is closed is booked, and the stop is no lower than the first one. -/
structure Kept (s : LadderState) : Prop where
  parted : Parted t.lot ((t.parts s).map (inGain t.direction t.fillPrice)) s.remainingLot
    (t.banked s)
  grid : OnGrid 4 s.remainingLot
  stop : t.direction.sign * t.slStart ≤ t.direction.sign * s.slPrice

/-- One block of a bar keeps the books and does not take the stop back. -/
structure Ratchets (s s' : LadderState) : Prop where
  kept : t.Kept s'
  stop : t.direction.sign * s.slPrice ≤ t.direction.sign * s'.slPrice

section Levels
variable {t} {s : LadderState}

/-- A level has its price from its column, on the side of the profit. -/
theorem target_spec {p : ℕ × ℚ} (mem : p ∈ t.targets) :
    (t.tps.getD (p.1 - 1) none).getD 0 = p.2 ∧ 0 ≤ t.direction.sign * (p.2 - t.fillPrice) := by
  obtain ⟨found, side⟩ := List.mem_filter.mp mem
  constructor
  · obtain ⟨c, column, read⟩ := List.mem_filterMap.mp found
    obtain ⟨price, level, rfl⟩ := Option.map_eq_some_iff.mp read
    have at_ := (List.mk_mem_zipIdx_iff_le_and_getElem?_sub.mp column).2
    rw [List.getD_eq_getElem?_getD, at_, level]
    rfl
  · cases direction : t.direction with
    | buy =>
        have above := of_decide_eq_true (direction ▸ side)
        rw [Direction.sign]
        linarith
    | sell =>
        have below := of_decide_eq_true (direction ▸ side)
        rw [Direction.sign]
        linarith

theorem le_trail (beAtPos pos : ℕ) (slPrice : ℚ) :
    t.direction.sign * slPrice ≤ t.direction.sign * t.trail beAtPos pos slPrice := by
  rw [sign_trail]
  split
  · exact le_rfl
  · exact le_max_left _ _

theorem Kept.close (kept : t.Kept s) {l : (ℕ × ℚ) × ℕ} (mem : l ∈ t.levels) {size : ℚ}
    (nonneg : 0 ≤ size) (le : size ≤ s.remainingLot) (grid : OnGrid 4 size) {s' : LadderState}
    (left : s'.remainingLot = roundTo 4 (s.remainingLot - size))
    (closes : s'.closes = s.closes ++ [(l.1.1, size)])
    (stop : t.direction.sign * s.slPrice ≤ t.direction.sign * s'.slPrice) : t.Ratchets s s' := by
  obtain ⟨price, gain⟩ := target_spec (List.mem_of_getElem? (mem_levels mem).2)
  have rest := kept.grid.sub grid
  have exact_ : s'.remainingLot = s.remainingLot - size := left.trans (roundTo_of_onGrid rest)
  have closed := kept.parted.close gain nonneg le
  refine ⟨⟨?_, exact_ ▸ rest, kept.stop.trans stop⟩, stop⟩
  have parts : (t.parts s').map (inGain t.direction t.fillPrice) =
      (t.parts s).map (inGain t.direction t.fillPrice) ++
        [(t.direction.sign * (l.1.2 - t.fillPrice), size)] := by
    rw [LadderTest.parts, closes, List.map_append, List.map_append, List.map_singleton,
      List.map_singleton, priced, price]
    rfl
  have banked : t.banked s' =
      t.banked s + t.direction.sign * (l.1.2 - t.fillPrice) * size := by
    rw [LadderTest.banked, closes, List.map_append, List.sum_append, List.map_singleton,
      List.sum_singleton, priced, price]
    rfl
  rw [parts, banked, exact_]
  exact closed

theorem Kept.closeLevel (kept : t.Kept s) (bar : Bar) {l : (ℕ × ℚ) × ℕ} (mem : l ∈ t.levels) :
    t.Ratchets s (t.closeLevel bar s l) := by
  obtain ⟨share, own⟩ := share_spec mem
  have size : OnGrid 4 (min (t.lot * t.fracs.getD l.2 0) s.remainingLot) := own.min kept.grid
  have trail := le_trail (t := t) t.strategy.beAtPos l.2 s.slPrice
  rw [LadderTest.closeLevel, roundTo_of_onGrid size]
  dsimp only
  split_ifs with done missed some_
  · exact ⟨kept, le_rfl⟩
  · exact ⟨kept, le_rfl⟩
  · exact kept.close mem some_.le (min_le_right _ _) size rfl rfl trail
  · exact ⟨⟨kept.parted, kept.grid, kept.stop.trans trail⟩, trail⟩

theorem Kept.foldl (kept : t.Kept s) (bar : Bar) {ls : List ((ℕ × ℚ) × ℕ)}
    (inside : ∀ l ∈ ls, l ∈ t.levels) :
    t.Ratchets s (ls.foldl (t.closeLevel bar) s) := by
  induction ls generalizing s with
  | nil => exact ⟨kept, le_rfl⟩
  | cons l ls ih =>
      have first := kept.closeLevel bar (inside l List.mem_cons_self)
      have rest := ih first.kept fun l mem => inside l (List.mem_cons_of_mem _ mem)
      exact ⟨rest.kept, first.stop.trans rest.stop⟩

end Levels

/-- A walk over bars: running it has lots and has counted them all, and unless the stop
has ended it, its last bar closes above the first stop. -/
structure Stands (bars : List Bar) (s : LadderState) : Prop where
  kept : t.Kept s
  running : s.outcome = none → s.bars = min bars.length maxHoldBars ∧ 1 / 10 ^ 9 < s.remainingLot
  counted : s.bars ≤ bars.length ∧ (bars ≠ [] ∨ s.outcome ≠ none → 0 < s.bars)
  above : s.outcome = none ∨ s.outcome = some .allClosed → 0 < s.bars →
    ∃ bar, bars[s.bars - 1]? = some bar ∧
      t.direction.sign * t.slStart ≤ t.direction.sign * bar.close
  closed : s.outcome = some .allClosed → s.remainingLot = 0

section Walk
variable {t} {bars : List Bar} {s : LadderState}

theorem stands_start : t.Stands [] t.start where
  kept :=
    { parted := Parted.start (le_trans (by norm_num) t.minLot)
      grid := t.cents.mono (by omega)
      stop := le_rfl }
  running _ := ⟨rfl, lt_of_lt_of_le (by norm_num) t.minLot⟩
  counted := ⟨le_rfl, fun some_ => absurd some_ (by simp [start])⟩
  above _ some_ := absurd some_ (lt_irrefl 0)
  closed out := nomatch out

/-- Nothing is left of lots on the grid that are too small to go on with. -/
theorem Kept.left_eq_zero (kept : t.Kept s) (none : s.remainingLot ≤ 1 / 10 ^ 9) :
    s.remainingLot = 0 := by
  refine kept.grid.eq_of_abs_sub_lt (onGrid_zero 4) ?_
  rw [sub_zero, abs_of_nonneg kept.parted.left_nonneg]
  exact lt_of_le_of_lt none (by norm_num)

/-- The pass over a bar that the walk still runs at. -/
theorem step_running (running : (s.outcome.isSome || decide (maxHoldBars ≤ s.bars)) = false)
    (more : 1 / 10 ^ 9 < s.remainingLot) (bar : Bar) :
    (barStopped t.direction bar s.slPrice = true ∧
      ∃ out, (out = .sl ∨ out = .slAfterPartial) ∧
        t.step s bar = { s with bars := s.bars + 1, outcome := some out }) ∨
    (barStopped t.direction bar s.slPrice = false ∧
      ∃ v, v = t.levels.foldl (t.closeLevel bar) { s with bars := s.bars + 1 } ∧
        ((v.remainingLot ≤ 1 / 10 ^ 9 ∧ t.step s bar = { v with outcome := some .allClosed }) ∨
          (1 / 10 ^ 9 < v.remainingLot ∧ t.step s bar = v))) := by
  rw [step, running, if_neg Bool.false_ne_true]
  dsimp only
  rw [decide_eq_true more, Bool.and_true]
  split
  · next stopped =>
    refine .inl ⟨stopped, _, ?_, rfl⟩
    split
    · exact .inr rfl
    · exact .inl rfl
  · next open_ =>
    refine .inr ⟨eq_false_of_ne_true open_, _, rfl, ?_⟩
    split
    · next none => exact .inl ⟨none, rfl⟩
    · next some_ => exact .inr ⟨not_le.mp some_, rfl⟩

/-- A walk that no longer runs is left as it is. -/
theorem Stands.over (stands : t.Stands bars s)
    (ended : (s.outcome.isSome || decide (maxHoldBars ≤ s.bars)) = true) (bar : Bar) :
    t.Stands (bars ++ [bar]) s where
  kept := stands.kept
  running none := by
    obtain ⟨counted, more⟩ := stands.running none
    have late : maxHoldBars ≤ s.bars := by simpa [none] using ended
    refine ⟨?_, more⟩
    rw [List.length_append]
    omega
  counted := by
    refine ⟨le_trans stands.counted.1 (by simp), fun _ => ?_⟩
    by_cases none : s.outcome = none
    · have late : maxHoldBars ≤ s.bars := by simpa [none] using ended
      exact lt_of_lt_of_le (by decide) late
    · exact stands.counted.2 (.inr none)
  above goes some_ := by
    obtain ⟨b, at_, above⟩ := stands.above goes some_
    have inside := stands.counted.1
    exact ⟨b, by rwa [List.getElem?_append_left (by omega)], above⟩
  closed := stands.closed

theorem Stands.stopped (stands : t.Stands bars s) (here : s.bars = bars.length)
    {out : LadderOutcome} (stop : out = .sl ∨ out = .slAfterPartial) (bar : Bar) :
    t.Stands (bars ++ [bar]) { s with bars := s.bars + 1, outcome := some out } where
  kept := ⟨stands.kept.parted, stands.kept.grid, stands.kept.stop⟩
  running goes := nomatch goes
  counted := by
    refine ⟨?_, fun _ => Nat.succ_pos _⟩
    rw [List.length_append, here]
    rfl
  above goes := by rcases stop with rfl | rfl <;> simp at goes
  closed closed := by rcases stop with rfl | rfl <;> cases closed

theorem foldl_outcome (bar : Bar) (ls : List ((ℕ × ℚ) × ℕ)) (s : LadderState) :
    (ls.foldl (t.closeLevel bar) s).outcome = s.outcome := by
  induction ls generalizing s with
  | nil => rfl
  | cons l ls ih =>
      rw [List.foldl_cons, ih, LadderTest.closeLevel]
      split_ifs <;> rfl

/-- The levels of a bar that the stop does not end. -/
theorem Stands.climbed (stands : t.Stands bars s) (none : s.outcome = none)
    (early : s.bars < maxHoldBars) {bar : Bar} (valid : bar.Valid)
    (open_ : barStopped t.direction bar s.slPrice = false) {v s' : LadderState}
    (climbed : v = t.levels.foldl (t.closeLevel bar) { s with bars := s.bars + 1 })
    (counts : s'.bars = s.bars + 1)
    (rest : (v.remainingLot ≤ 1 / 10 ^ 9 ∧ s' = { v with outcome := some .allClosed }) ∨
      (1 / 10 ^ 9 < v.remainingLot ∧ s' = v)) :
    t.Stands (bars ++ [bar]) s' ∧
      t.direction.sign * s.slPrice ≤ t.direction.sign * s'.slPrice := by
  have here : s.bars = bars.length := by
    have counted := (stands.running none).1
    omega
  have last : (bars ++ [bar])[s'.bars - 1]? = some bar := by
    rw [counts, Nat.add_sub_cancel, here, List.getElem?_concat_length]
  have begin_ : t.Kept { s with bars := s.bars + 1 } :=
    ⟨stands.kept.parted, stands.kept.grid, stands.kept.stop⟩
  have climbs := begin_.foldl bar fun l (mem : l ∈ t.levels) => mem
  rw [← climbed] at climbs
  have going : v.outcome = .none := by rw [climbed, foldl_outcome, none]
  have above : t.direction.sign * t.slStart ≤ t.direction.sign * bar.close :=
    stands.kept.stop.trans (Simulator.above_of_not_stopped valid open_)
  have counted : s'.bars ≤ (bars ++ [bar]).length ∧
      (bars ++ [bar] ≠ [] ∨ s'.outcome ≠ .none → 0 < s'.bars) := by
    rw [counts, List.length_append, here]
    exact ⟨le_rfl, fun _ => Nat.succ_pos _⟩
  rcases rest with ⟨gone, rfl⟩ | ⟨more, rfl⟩
  · exact ⟨⟨⟨climbs.kept.parted, climbs.kept.grid, climbs.kept.stop⟩, (fun goes => nomatch goes),
      counted, fun _ _ => ⟨bar, last, above⟩, fun _ => climbs.kept.left_eq_zero gone⟩, climbs.stop⟩
  · refine ⟨⟨climbs.kept, fun _ => ⟨?_, more⟩, counted, fun _ _ => ⟨bar, last, above⟩,
      fun closed => nomatch going.symm.trans closed⟩, climbs.stop⟩
    rw [counts, List.length_append, List.length_singleton]
    omega

theorem Stands.step (stands : t.Stands bars s) {bar : Bar} (valid : bar.Valid) :
    t.Stands (bars ++ [bar]) (t.step s bar) ∧
      t.direction.sign * s.slPrice ≤ t.direction.sign * (t.step s bar).slPrice := by
  cases running : (s.outcome.isSome || decide (maxHoldBars ≤ s.bars)) with
  | true =>
      rw [LadderTest.step, if_pos running]
      exact ⟨stands.over running bar, le_rfl⟩
  | false =>
      obtain ⟨goes, held⟩ := Bool.or_eq_false_iff.mp running
      have none : s.outcome = none := Option.isNone_iff_eq_none.mp (by simpa using goes)
      have early : s.bars < maxHoldBars := not_le.mp (of_decide_eq_false held)
      obtain ⟨counted, more⟩ := stands.running none
      rcases step_running running more bar with
        ⟨-, out, stopped, next⟩ | ⟨open_, v, climbed, rest⟩
      · rw [next]
        exact ⟨stands.stopped (by omega) stopped bar, le_rfl⟩
      · exact stands.climbed none early valid open_ climbed (t.step_bars running bar) rest

theorem stands_run (valid : ∀ bar ∈ bars, bar.Valid) :
    t.Stands bars (t.runLadderStrategy bars) := by
  induction bars using List.reverseRecOn with
  | nil => exact stands_start
  | append_singleton bars bar ih =>
      rw [runLadderStrategy, List.foldl_append]
      exact ((ih fun b mem => valid b (List.mem_append_left _ mem)).step
        (valid bar (List.mem_append_right _ (List.mem_singleton_self bar)))).1

end Walk

/-- The book of a ladder. -/
def walkBook (bars : List Bar) : WalkBook :=
  let s := t.runLadderStrategy bars
  { parts := t.parts s
    left := s.remainingLot
    stops := (visited t.body t.start (bars.take maxHoldBars)).map fun s => s.slPrice
    slDist := t.slDist }

section Accounts
variable {t} {bars : List Bar}

theorem body_goes {s s' : LadderState} {bar : Bar} (goes : t.body s bar = .inr s') :
    s' = t.step s bar := by
  rw [body] at goes
  split at goes
  · cases goes
  · exact (Sum.inr.inj goes).symm

theorem neg_slDist_le {price : ℚ}
    (le : t.direction.sign * t.slStart ≤ t.direction.sign * price) :
    -t.slDist ≤ t.direction.sign * (price - t.fillPrice) := by
  have square : t.direction.sign * t.direction.sign = 1 := by
    cases t.direction <;> norm_num [Direction.sign]
  rw [slStart] at le
  linear_combination le + t.slDist * square

theorem partialPnl_eq (s : LadderState) :
    (s.closes.map fun p => t.direction.sign * ((t.tps.getD (p.1 - 1) none).getD 0 - t.fillPrice) *
      p.2 * 100).sum = t.banked s * 100 := by
  rw [banked, ← List.sum_map_mul_right]
  rfl

/-- How a ladder ends, in the variables of its loop. -/
theorem result_spec (some_ : bars ≠ []) (valid : ∀ bar ∈ bars, bar.Valid) :
    (t.result bars).2.pnlUsd =
        (t.banked (t.runLadderStrategy bars) +
          t.direction.sign * ((t.result bars).2.closePrice - t.fillPrice) *
            (t.runLadderStrategy bars).remainingLot) * 100 ∧
      -t.slDist ≤ t.direction.sign * ((t.result bars).2.closePrice - t.fillPrice) := by
  have stands := stands_run (t := t) valid
  rw [result]
  dsimp only
  rw [partialPnl_eq]
  obtain ⟨s, eq⟩ : ∃ s, s = t.runLadderStrategy bars := ⟨_, rfl⟩
  rw [← eq] at stands ⊢
  have lastClose : s.outcome = none ∨ s.outcome = some .allClosed →
      -t.slDist ≤ t.direction.sign *
        (((bars[s.bars - 1]?).map Bar.close).getD 0 - t.fillPrice) := by
    intro goes
    obtain ⟨bar, at_, above⟩ := stands.above goes (stands.counted.2 (.inl some_))
    rw [at_]
    exact neg_slDist_le above
  cases out : s.outcome with
  | none =>
      refine ⟨?_, lastClose (.inl out)⟩
      simp only [closeTrade]
      ring
  | some o =>
      cases o with
      | sl | slAfterPartial =>
          refine ⟨?_, neg_slDist_le stands.kept.stop⟩
          simp only [closeTrade]
          ring
      | allClosed =>
          refine ⟨?_, lastClose (.inr out)⟩
          rw [stands.closed out, mul_zero, add_zero]

theorem stops_pairwise (valid : ∀ bar ∈ bars, bar.Valid) :
    ((visited t.body t.start (bars.take maxHoldBars)).map
      fun s => t.direction.sign * s.slPrice).Pairwise (· ≤ ·) := by
  refine (@visited_pairwise _ _ _ t.body (fun s => ∃ before, t.Stands before s)
    (bars.take maxHoldBars) ℚ _ (fun s => t.direction.sign * s.slPrice) ?_ t.start
    ⟨[], stands_start⟩).1
  rintro s bar mem ⟨before, stands⟩ s' goes
  obtain ⟨next, rises⟩ := stands.step (valid bar (List.mem_of_mem_take mem))
  rw [body_goes goes]
  exact ⟨⟨_, next⟩, rises⟩

theorem result_accounts (some_ : bars ≠ []) (valid : ∀ bar ∈ bars, bar.Valid) :
    (t.walkBook bars).Accounts t.direction t.fillPrice t.lot (t.result bars).2 := by
  obtain ⟨pnl, least⟩ := result_spec (t := t) some_ valid
  refine WalkBook.accounts (stands_run valid).kept.parted ?_ ?_ t.behind.le pnl least
  · rw [walkBook, List.head?_map, visited_head?]
    rfl
  · rw [walkBook, List.map_map]
    exact stops_pairwise valid

end Accounts

end LadderTest
end Backtest
end Forex
