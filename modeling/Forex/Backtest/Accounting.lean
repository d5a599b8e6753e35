import Forex.Backtest.Simulators
import Forex.Support.Parts

/-!
The accounts of a simulated trade: the lots that were closed at the levels, the lots
that were closed at the end, and the stops that were in force. One proof over the shared
loop serves the seven simulators that are not ladders; each of them gives what it has
closed by the variables of its loop.
-/

namespace Forex
namespace Backtest
open Support

structure Bar.Valid (bar : Bar) : Prop where
  low : bar.low ≤ bar.close
  high : bar.close ≤ bar.high

/-- What a walk has closed at levels, by price and lots, what it closes at its end, and
the stop before each of its bars. -/
structure WalkBook where
  parts : List (ℚ × ℚ)
  left : ℚ
  stops : List ℚ
  slDist : ℚ
deriving DecidableEq, Repr

/-- The accounts of a trade are in order. -/
structure WalkBook.Accounts (book : WalkBook) (direction : Direction) (fillPrice lot : ℚ)
    (exit : SimExit) : Prop where
  whole : (book.parts.map Prod.snd).sum + book.left = lot
  remainder : ∀ n, 0 ≤ lot - ((book.parts.take n).map Prod.snd).sum
  left_nonneg : 0 ≤ book.left
  first : book.stops.head? = some (fillPrice - direction.sign * book.slDist)
  stops : book.stops.Pairwise fun stop later => direction.sign * stop ≤ direction.sign * later
  pnl : exit.pnlUsd = ((book.parts ++ [(exit.closePrice, book.left)]).map fun p =>
    p.2 * (direction.sign * (p.1 - fillPrice)) * 100).sum
  bound : -(lot * book.slDist * 100) ≤ exit.pnlUsd

/-- A part in its gain. -/
def inGain (direction : Direction) (fillPrice : ℚ) (p : ℚ × ℚ) : ℚ × ℚ :=
  (direction.sign * (p.1 - fillPrice), p.2)

/-- The accounts of a walk that knows its parts and ends no lower than its first stop. -/
theorem WalkBook.accounts {book : WalkBook} {direction : Direction} {fillPrice lot banked : ℚ}
    {exit : SimExit}
    (parted : Parted lot (book.parts.map (inGain direction fillPrice)) book.left banked)
    (first : book.stops.head? = some (fillPrice - direction.sign * book.slDist))
    (stops : (book.stops.map fun stop => direction.sign * stop).Pairwise (· ≤ ·))
    (nonneg : 0 ≤ book.slDist)
    (pnl : exit.pnlUsd =
      (banked + direction.sign * (exit.closePrice - fillPrice) * book.left) * 100)
    (least : -book.slDist ≤ direction.sign * (exit.closePrice - fillPrice)) :
    book.Accounts direction fillPrice lot exit where
  whole := by
    have whole := parted.whole
    rwa [List.map_map] at whole
  remainder n := by
    have taken := parted.sum_take_le n
    rw [← List.map_take, List.map_map] at taken
    exact sub_nonneg.mpr taken
  left_nonneg := parted.left_nonneg
  first := first
  stops := List.pairwise_map.mp stops
  pnl := by
    have each : (book.parts.map fun p => p.2 * (direction.sign * (p.1 - fillPrice)) * 100).sum =
        banked * 100 := by
      rw [parted.banked_eq, List.map_map, ← List.sum_map_mul_right]
      congr 1
      refine List.map_congr_left fun p _ => ?_
      rw [Function.comp_apply, inGain]
      ring
    rw [pnl, List.map_append, List.sum_append, each, List.map_singleton, List.sum_singleton]
    ring
  bound := by
    have most := parted.neg_mul_le nonneg least
    rw [pnl]
    linarith

namespace Simulator
variable (sim : Simulator)

/-- What a simulator has closed by its variables; `after` are the variables at the end of
a bar that the stop does not end, however it ends. -/
structure CloseBook where
  after : SimVars → Bar → SimVars
  closes : SimVars → List (ℚ × ℚ)
  Inv : SimVars → Prop
  start : Inv (.start sim.sl sim.lot)
  keep : ∀ {v} bar, Inv v → Inv (after v bar) ∧
    sim.direction.sign * v.currentSl ≤ sim.direction.sign * (after v bar).currentSl
  parted : ∀ {v}, Inv v → Parted sim.lot ((closes v).map (inGain sim.direction sim.fillPrice))
    v.remainingLot (v.partialPnl / 100)
  goes : ∀ {v bar v'}, sim.manage v bar = .inr v' → v' = after v bar
  leaves : ∀ {v bar exit}, Inv v → sim.manage v bar = .inl exit →
    0 ≤ sim.direction.sign * (exit.closePrice - sim.fillPrice) ∧
      exit.pnlUsd = (after v bar).partialPnl +
        sim.direction.sign * (exit.closePrice - sim.fillPrice) * (after v bar).remainingLot * 100

/-- The variables at the end of a bar. -/
def ending (after : SimVars → Bar → SimVars) (v : SimVars) (bar : Bar) : SimVars :=
  if barStopped sim.direction bar v.currentSl then v else after v bar

/-- The book of a run. -/
def walkBook (after : SimVars → Bar → SimVars) (closes : SimVars → List (ℚ × ℚ)) (slDist : ℚ)
    (bars : List Bar) : WalkBook :=
  let held := bars.take simulatorHoldBars
  let last := lastVars sim.bar (sim.ending after) (.start sim.sl sim.lot) held
  { parts := closes last
    left := last.remainingLot
    stops := (visited sim.bar (.start sim.sl sim.lot) held).map fun v => v.currentSl
    slDist := slDist }

section Run
variable {sim} (cb : sim.CloseBook)

/-- A bar that does not stop the trade closes above the stop. -/
theorem above_of_not_stopped {direction : Direction} {bar : Bar} (valid : bar.Valid) {stop : ℚ}
    (above : barStopped direction bar stop = false) :
    direction.sign * stop ≤ direction.sign * bar.close := by
  have low := valid.low
  have high := valid.high
  cases direction with
  | buy =>
      have out := of_decide_eq_false above
      rw [Direction.sign]
      linarith
  | sell =>
      have out := of_decide_eq_false above
      rw [Direction.sign]
      linarith

/-- The book is kept, and the stop is no lower than the first one. -/
def CloseBook.Kept (v : SimVars) : Prop :=
  cb.Inv v ∧ sim.direction.sign * sim.sl ≤ sim.direction.sign * v.currentSl

theorem CloseBook.bar_goes {v v' : SimVars} {bar : Bar} (kept : cb.Kept v)
    (goes : sim.bar v bar = .inr v') :
    cb.Kept v' ∧ sim.direction.sign * v.currentSl ≤ sim.direction.sign * v'.currentSl := by
  rw [Simulator.bar] at goes
  split at goes
  · cases goes
  · obtain rfl := cb.goes goes
    obtain ⟨next, rises⟩ := cb.keep bar kept.1
    exact ⟨⟨next, kept.2.trans rises⟩, rises⟩

/-- An end of a walk, in the variables that it ends with. -/
structure EndsIn (sim : Simulator) (slDist : ℚ) (exit : SimExit) (v : SimVars) : Prop where
  pnl : exit.pnlUsd = v.partialPnl +
    sim.direction.sign * (exit.closePrice - sim.fillPrice) * v.remainingLot * 100
  least : -slDist ≤ sim.direction.sign * (exit.closePrice - sim.fillPrice)

variable {slDist : ℚ} (start : sim.sl = sim.fillPrice - sim.direction.sign * slDist)

include start in
/-- A price that is no lower than the first stop. -/
theorem neg_slDist_le {price : ℚ} (le : sim.direction.sign * sim.sl ≤ sim.direction.sign * price) :
    -slDist ≤ sim.direction.sign * (price - sim.fillPrice) := by
  have square : sim.direction.sign * sim.direction.sign = 1 := by
    cases sim.direction <;> norm_num [Direction.sign]
  rw [start] at le
  linear_combination le + slDist * square

include start in
theorem CloseBook.bar_leaves (nonneg : 0 ≤ slDist) {v : SimVars} {bar : Bar} {exit : SimExit}
    (kept : cb.Kept v) (leaves : sim.bar v bar = .inl exit) :
    cb.Inv (sim.ending cb.after v bar) ∧ sim.EndsIn slDist exit (sim.ending cb.after v bar) := by
  rw [Simulator.bar] at leaves
  rw [ending]
  split at leaves
  · next stopped =>
    cases leaves
    rw [if_pos stopped]
    exact ⟨kept.1, rfl, neg_slDist_le start kept.2⟩
  · next above =>
    obtain ⟨gain, pnl⟩ := cb.leaves kept.1 leaves
    rw [if_neg above]
    exact ⟨(cb.keep bar kept.1).1, pnl, by linarith⟩

include start in
/-- The bars have run out, and the last of them has not stopped the trade. -/
theorem CloseBook.timeout {last : SimVars} (kept : cb.Kept last) {held : List Bar}
    (some_ : held ≠ []) (valid : ∀ bar ∈ held, bar.Valid)
    (lastBar : ∀ bar, held.getLast? = some bar → ∃ v, cb.Kept v ∧ sim.bar v bar = .inr last) :
    cb.Inv last ∧ sim.EndsIn slDist
      (closeTrade sim.direction sim.fillPrice ((held.getLast?.map Bar.close).getD 0)
        last.remainingLot last.partialPnl .timeout) last := by
  refine ⟨kept.1, rfl, neg_slDist_le start ?_⟩
  rw [List.getLast?_eq_some_getLast some_]
  obtain ⟨v, before, goes⟩ := lastBar _ (List.getLast?_eq_some_getLast some_)
  rw [Simulator.bar] at goes
  split at goes
  · cases goes
  · next above =>
    exact before.2.trans
      (above_of_not_stopped (valid _ (List.getLast_mem some_)) (eq_false_of_ne_true above))

include start in
theorem CloseBook.run_accounts (nonneg : 0 ≤ slDist) {bars : List Bar} (some_ : bars ≠ [])
    (valid : ∀ bar ∈ bars, bar.Valid) :
    (sim.walkBook cb.after cb.closes slDist bars).Accounts sim.direction sim.fillPrice sim.lot
      (sim.run bars).2 := by
  obtain ⟨held, eq⟩ : ∃ held, held = bars.take simulatorHoldBars := ⟨_, rfl⟩
  have someHeld : held ≠ [] := by
    rw [eq, ne_eq, List.take_eq_nil_iff, not_or]
    exact ⟨by decide, some_⟩
  have validHeld : ∀ bar ∈ held, bar.Valid := fun bar mem =>
    valid bar (List.mem_of_mem_take (eq ▸ mem))
  have fresh : cb.Kept (.start sim.sl sim.lot) := ⟨cb.start, le_rfl⟩
  have ended : cb.Inv (lastVars sim.bar (sim.ending cb.after) (.start sim.sl sim.lot) held) ∧
      sim.EndsIn slDist (sim.run bars).2
        (lastVars sim.bar (sim.ending cb.after) (.start sim.sl sim.lot) held) := by
    rw [run, ← eq]
    cases ended : loop sim.bar 0 (.start sim.sl sim.lot) held with
    | inl out =>
        obtain ⟨j, exit⟩ := out
        obtain ⟨v, bar, kept, -, leaves, last⟩ :=
          @loop_left _ _ _ _ (sim.ending cb.after) cb.Kept held
            (fun v bar _ kept v' goes => (cb.bar_goes kept goes).1) _ _ _ _ fresh ended
        rw [last]
        exact cb.bar_leaves start nonneg kept leaves
    | inr last =>
        obtain ⟨isLast, kept, lastBar⟩ := @loop_over _ _ _ _ (sim.ending cb.after) cb.Kept held
          (fun v bar _ kept v' goes => (cb.bar_goes kept goes).1) _ _ _ fresh ended
        rw [isLast]
        exact cb.timeout start kept someHeld validHeld lastBar
  have stops : ((visited sim.bar (.start sim.sl sim.lot) held).map
      fun v => sim.direction.sign * v.currentSl).Pairwise (· ≤ ·) :=
    (visited_pairwise (fun v bar _ kept v' goes => cb.bar_goes kept goes) fresh).1
  have pnl := ended.2.pnl
  rw [eq] at ended pnl stops
  refine WalkBook.accounts (cb.parted ended.1) ?_ ?_ nonneg ?_ ended.2.least
  · rw [walkBook, List.head?_map, visited_head?, ← start]
    rfl
  · rw [walkBook, List.map_map]
    exact stops
  · rw [pnl, walkBook]
    ring

end Run
end Simulator
end Backtest
end Forex
