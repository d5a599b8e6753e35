import Forex.Backtest.TemplateWalk
import Forex.Strategy.LadderStop
import Mathlib.Algebra.BigOperators.Ring.List
import Mathlib.Data.List.GetD
import Mathlib.Tactic.IntervalCases

/-!
`_run_ladder_strategy`: the walk of the ladder strategies over bars, with the
stop checked first and every level that the bar reaches closed in turn. The
levels of a signal are those on the profit side of the fill.
-/

namespace Forex
namespace Backtest
open Support

/-- The strategies whose simulators call `_run_ladder_strategy`. -/
inductive LadderStrategy where
  | reversalRunner
  | signalClimber
  | adaptiveRunner
deriving DecidableEq, Repr

/-- `_CLIMBER_PCTS` of the backtest engine. -/
def engineClimberPcts : List (ℕ × List ℚ) :=
  [(1, [1]),
   (2, [2 / 5, 3 / 5]),
   (3, [3 / 10, 3 / 10, 2 / 5]),
   (4, [1 / 5, 1 / 4, 1 / 4, 3 / 10]),
   (5, [1 / 5, 3 / 20, 3 / 20, 1 / 5, 3 / 10]),
   (6, [1 / 5, 3 / 20, 3 / 20, 3 / 20, 1 / 5, 3 / 20]),
   (7, [1 / 5, 1 / 10, 1 / 10, 3 / 20, 3 / 20, 1 / 5, 1 / 10]),
   (8, [1 / 5, 1 / 10, 1 / 10, 1 / 10, 3 / 20, 3 / 20, 1 / 10, 1 / 10])]

/-- `_GDVR_PCTS` of the backtest engine. -/
def engineGdvrPcts : List (ℕ × List ℚ) :=
  [(1, [1]),
   (2, [3 / 10, 7 / 10]),
   (3, [3 / 20, 1 / 4, 3 / 5]),
   (4, [1 / 10, 3 / 20, 1 / 4, 1 / 2]),
   (5, [1 / 10, 1 / 10, 3 / 20, 1 / 4, 2 / 5]),
   (6, [2 / 25, 2 / 25, 3 / 25, 17 / 100, 1 / 5, 7 / 20]),
   (7, [7 / 100, 7 / 100, 1 / 10, 13 / 100, 13 / 100, 1 / 5, 3 / 10]),
   (8, [1 / 20, 1 / 20, 1 / 10, 1 / 10, 3 / 20, 3 / 20, 3 / 20, 1 / 4])]

namespace LadderStrategy

def pctsTable : LadderStrategy → List (ℕ × List ℚ)
  | .reversalRunner => engineGdvrPcts
  | .signalClimber => engineClimberPcts
  | .adaptiveRunner => engineGdvrPcts

def beAtPos : LadderStrategy → ℕ
  | .reversalRunner => 1
  | .signalClimber => 0
  | .adaptiveRunner => 0

end LadderStrategy

/-- `_GDVR_MAX_HOLD_BARS` and `_ADAPTIVE_MAX_HOLD_BARS`. -/
def maxHoldBars : ℕ := 288

/-- `_lot_size`. -/
def lotSize (balance slDist riskPct fixedLots : ℚ) : ℚ :=
  if 0 < fixedLots then roundTo 2 (min 5 (max (1 / 100) fixedLots))
  else if slDist ≤ 0 then 1 / 100
  else roundTo 2 (min 5 (max (1 / 100) (balance * riskPct / 100 / (slDist * 100))))

structure BtSignal where
  direction : Direction
  stopLoss : ℚ
  tps : List (Option ℚ)
  eight : tps.length = 8

/-- `_lot_size`'s account: balance, risk percentage and fixed lots. -/
structure BtAccount where
  balance : ℚ
  riskPct : ℚ
  fixedLots : ℚ

/-- The arguments of `_run_ladder_strategy`, as its callers make them. -/
structure LadderTest where
  strategy : LadderStrategy
  direction : Direction
  fillPrice : ℚ
  slDist : ℚ
  lot : ℚ
  tps : List (Option ℚ)
  eight : tps.length = 8
  cents : OnGrid 2 lot
  minLot : 1 / 100 ≤ lot
  behind : 0 < slDist

theorem onGrid_cent : OnGrid 2 (1 / 100 : ℚ) := ⟨1, by norm_num⟩

theorem cent_le_roundTo {x : ℚ} (le : 1 / 100 ≤ x) : 1 / 100 ≤ roundTo 2 x := by
  rw [← roundTo_of_onGrid onGrid_cent]
  exact roundTo_mono 2 le

theorem lotSize_onGrid (balance slDist riskPct fixedLots : ℚ) :
    OnGrid 2 (lotSize balance slDist riskPct fixedLots) := by
  rw [lotSize]
  split_ifs
  · exact roundTo_onGrid 2 _
  · exact onGrid_cent
  · exact roundTo_onGrid 2 _

theorem cent_le_lotSize (balance slDist riskPct fixedLots : ℚ) :
    1 / 100 ≤ lotSize balance slDist riskPct fixedLots := by
  have clamp : ∀ x : ℚ, 1 / 100 ≤ min 5 (max (1 / 100) x) := fun x =>
    le_min (by norm_num) (le_max_left _ x)
  rw [lotSize]
  split_ifs
  · exact cent_le_roundTo (clamp _)
  · exact le_rfl
  · exact cent_le_roundTo (clamp _)

/-- `abs(fill_price - sig.stop_loss) if sig.stop_loss else 0.0`. -/
def BtSignal.statedDist (sig : BtSignal) (fillPrice : ℚ) : ℚ :=
  if sig.stopLoss = 0 then 0 else |fillPrice - sig.stopLoss|

/-- A stated distance that the simulators do not use. -/
def badDist (dist : ℚ) : Prop := dist < 1 / 2 ∨ 50 < dist

instance (dist : ℚ) : Decidable (badDist dist) := inferInstanceAs (Decidable (_ ∨ _))

theorem pos_of_not_badDist {dist : ℚ} (good : ¬ badDist dist) : 0 < dist := by
  rw [badDist, not_or, not_lt] at good
  linarith [good.1]

/-- The levels on the profit side of the fill, with the numbers of their columns. -/
def validTps (direction : Direction) (fillPrice : ℚ) (tps : List (Option ℚ)) : List (ℕ × ℚ) :=
  ((tps.zipIdx 1).filterMap fun p => p.1.map fun price => (p.2, price)).filter fun p =>
    match direction with
    | .buy => decide (fillPrice < p.2)
    | .sell => decide (p.2 < fillPrice)

def reversalRunnerDist (sig : BtSignal) (fillPrice : ℚ) : ℚ :=
  let stated := sig.statedDist fillPrice
  if badDist stated then 8 else min (stated * 4) 20

def signalClimberDist (sig : BtSignal) (fillPrice : ℚ) : ℚ :=
  let stated := sig.statedDist fillPrice
  if badDist stated then 8 else stated

/-- The widened distance, capped at half the way to the furthest level. -/
def adaptiveRunnerDist (sig : BtSignal) (fillPrice : ℚ) : ℚ :=
  let stated := sig.statedDist fillPrice
  if badDist stated then 8
  else
    let widened := min (stated * 4) 20
    let dists := (validTps sig.direction fillPrice sig.tps).map fun p => |p.2 - fillPrice|
    let finalTpDist := dists.foldl max 0
    if 0 < finalTpDist then max stated (min widened (finalTpDist * (1 / 2))) else widened

section Callers
variable (sig : BtSignal) (fillPrice : ℚ) (account : BtAccount)

def LadderTest.of (strategy : LadderStrategy) (slDist : ℚ) (behind : 0 < slDist) : LadderTest where
  strategy := strategy
  direction := sig.direction
  fillPrice := fillPrice
  slDist := slDist
  lot := lotSize account.balance slDist account.riskPct account.fixedLots
  tps := sig.tps
  eight := sig.eight
  cents := lotSize_onGrid _ _ _ _
  minLot := cent_le_lotSize _ _ _ _
  behind := behind

theorem reversalRunnerDist_pos : 0 < reversalRunnerDist sig fillPrice := by
  rw [reversalRunnerDist]
  split_ifs with bad
  · norm_num
  · have := pos_of_not_badDist bad
    exact lt_min (by linarith) (by norm_num)

theorem signalClimberDist_pos : 0 < signalClimberDist sig fillPrice := by
  rw [signalClimberDist]
  split_ifs with bad
  · norm_num
  · exact pos_of_not_badDist bad

theorem adaptiveRunnerDist_pos : 0 < adaptiveRunnerDist sig fillPrice := by
  rw [adaptiveRunnerDist]
  dsimp only
  split_ifs with bad
  · norm_num
  · exact lt_max_of_lt_left (pos_of_not_badDist bad)
  · have := pos_of_not_badDist bad
    exact lt_min (by linarith) (by norm_num)

def simulateReversalRunner : LadderTest :=
  .of sig fillPrice account .reversalRunner _ (reversalRunnerDist_pos sig fillPrice)

def simulateSignalClimber : LadderTest :=
  .of sig fillPrice account .signalClimber _ (signalClimberDist_pos sig fillPrice)

def simulateAdaptiveRunner : LadderTest :=
  .of sig fillPrice account .adaptiveRunner _ (adaptiveRunnerDist_pos sig fillPrice)

end Callers

inductive LadderOutcome where
  | sl
  | slAfterPartial
  | allClosed
deriving DecidableEq, Repr

/-- The variables of the loop. `closes` are the parts that `partial_pnl` adds
up, each with the number of its level. -/
structure LadderState where
  tpDone : ℕ → Bool
  slPrice : ℚ
  remainingLot : ℚ
  closes : List (ℕ × ℚ)
  outcome : Option LadderOutcome
  bars : ℕ

/-- What the rows of a table have in common: a share for each level that is not
too small, and all of the lot shared out. -/
def Whole (fracs : List ℚ) : Prop :=
  fracs.sum = 1 ∧ ∀ x ∈ fracs, 1 / 20 ≤ x ∧ OnGrid 2 x

instance (fracs : List ℚ) : Decidable (Whole fracs) := inferInstanceAs (Decidable (_ ∧ _))

theorem pctsTable_rows (strategy : LadderStrategy) (n : ℕ) (some : 0 < n) (eight : n ≤ 8) :
    ∃ fracs, strategy.pctsTable.find? (fun p => decide (p.1 = n)) = .some (n, fracs) ∧
      fracs.length = n ∧ Whole fracs := by
  cases strategy with
  | reversalRunner | signalClimber | adaptiveRunner =>
      interval_cases n <;> exact ⟨_, rfl, rfl, by decide +kernel⟩

namespace LadderTest
variable (t : LadderTest)

def targets : List (ℕ × ℚ) := validTps t.direction t.fillPrice t.tps

def levels : List ((ℕ × ℚ) × ℕ) := t.targets.zipIdx

/-- `pcts_table.get(tp_count) or pcts_table[max(pcts_table)][:tp_count]`. -/
def fracs : List ℚ :=
  match t.strategy.pctsTable.find? fun p => decide (p.1 = t.targets.length) with
  | some p => p.2
  | none =>
      ((t.strategy.pctsTable.foldl (fun best p => if best.1 < p.1 then p else best) (0, [])).2).take
      t.targets.length

def start : LadderState where
  tpDone _ := false
  slPrice := t.fillPrice - t.direction.sign * t.slDist
  remainingLot := t.lot
  closes := []
  outcome := none
  bars := 0

/-- The stop after the close of a level: breakeven at `be_at_pos`, behind it the
price of the level before. -/
def trail (beAtPos pos : ℕ) (slPrice : ℚ) : ℚ :=
  if pos < beAtPos then slPrice
  else
    let newSl := if pos = beAtPos then t.fillPrice else (t.targets.getD (pos - 1) (0, 0)).2
    if t.direction.tighter newSl slPrice then newSl else slPrice

def closeLevel (bar : Bar) (s : LadderState) (l : (ℕ × ℚ) × ℕ) : LadderState :=
  if s.tpDone l.2 then s
  else if !barReached t.direction bar l.1.2 then s
  else
    let closeLot := roundTo 4 (min (t.lot * t.fracs.getD l.2 0) s.remainingLot)
    { s with
      tpDone := Function.update s.tpDone l.2 true
      slPrice := t.trail t.strategy.beAtPos l.2 s.slPrice
      remainingLot :=
        if 0 < closeLot then roundTo 4 (s.remainingLot - closeLot) else s.remainingLot
      closes := if 0 < closeLot then s.closes ++ [(l.1.1, closeLot)] else s.closes }

/-- One pass of the loop over the bars; after a return, or past the last bar that
the position is held for, there is none. -/
def step (s : LadderState) (bar : Bar) : LadderState :=
  if s.outcome.isSome || decide (maxHoldBars ≤ s.bars) then s
  else
    let s := { s with bars := s.bars + 1 }
    if barStopped t.direction bar s.slPrice && decide (1 / 10 ^ 9 < s.remainingLot) then
      let done := (List.range t.targets.length).any s.tpDone
      { s with outcome := some (if done then .slAfterPartial else .sl) }
    else
      let s := t.levels.foldl (t.closeLevel bar) s
      if s.remainingLot ≤ 1 / 10 ^ 9 then { s with outcome := some .allClosed } else s

/-- `_run_ladder_strategy`, up to the close of a remainder at the last bar. -/
def runLadderStrategy (bars : List Bar) : LadderState := bars.foldl t.step t.start

theorem length_targets_le : t.targets.length ≤ 8 := by
  have kept := List.length_filter_le
    (fun p : ℕ × ℚ =>
      match t.direction with
      | .buy => decide (t.fillPrice < p.2)
      | .sell => decide (p.2 < t.fillPrice))
    ((t.tps.zipIdx 1).filterMap fun p => p.1.map fun price => (p.2, price))
  have mapped := List.length_filterMap_le
    (fun p : Option ℚ × ℕ => p.1.map fun price => (p.2, price)) (t.tps.zipIdx 1)
  rw [List.length_zipIdx, t.eight] at mapped
  exact kept.trans mapped

theorem fracs_spec (some : 0 < t.targets.length) :
    t.fracs.length = t.targets.length ∧ Whole t.fracs := by
  obtain ⟨fracs, row, length, whole⟩ :=
    pctsTable_rows t.strategy t.targets.length some t.length_targets_le
  have same : t.fracs = fracs := by rw [LadderTest.fracs, row]
  rw [same]
  exact ⟨length, whole⟩

def share (pos : ℕ) : ℚ := t.lot * t.fracs.getD pos 0

def sharesOf (ls : List ((ℕ × ℚ) × ℕ)) : ℚ := (ls.map fun l => t.share l.2).sum

/-- The lots that no level has a share of: all of them without a level. -/
def spare : ℚ := t.lot - t.sharesOf t.levels

section Shares
variable {t}

theorem mem_levels {l : (ℕ × ℚ) × ℕ} (mem : l ∈ t.levels) :
    l.2 < t.targets.length ∧ t.targets[l.2]? = some l.1 := by
  have at_ : t.targets[l.2]? = some l.1 := List.mem_zipIdx_iff_getElem?.mp mem
  exact ⟨(List.getElem?_eq_some_iff.mp at_).1, at_⟩

theorem share_spec {l : (ℕ × ℚ) × ℕ} (mem : l ∈ t.levels) :
    1 / 2000 ≤ t.share l.2 ∧ OnGrid 4 (t.share l.2) := by
  have inside := (mem_levels mem).1
  obtain ⟨length, -, each⟩ := t.fracs_spec (Nat.zero_lt_of_lt inside)
  rw [← length] at inside
  obtain ⟨least, grid⟩ := each _ (List.getElem_mem inside)
  rw [share, List.getD_eq_getElem _ _ inside]
  refine ⟨?_, t.cents.mul grid⟩
  calc (1 / 2000 : ℚ) = 1 / 100 * (1 / 20) := by norm_num
    _ ≤ t.lot * t.fracs[l.2] := by
      apply mul_le_mul t.minLot least (by norm_num)
      linarith [t.minLot]

theorem sharesOf_cons (l : (ℕ × ℚ) × ℕ) (ls : List ((ℕ × ℚ) × ℕ)) :
    t.sharesOf (l :: ls) = t.share l.2 + t.sharesOf ls := rfl

theorem sharesOf_spec {ls : List ((ℕ × ℚ) × ℕ)} (inside : ∀ l ∈ ls, l ∈ t.levels) :
    0 ≤ t.sharesOf ls ∧ OnGrid 4 (t.sharesOf ls) := by
  induction ls with
  | nil => exact ⟨le_rfl, onGrid_zero 4⟩
  | cons l ls ih =>
      obtain ⟨nonneg, grid⟩ := ih fun l mem => inside l (List.mem_cons_of_mem _ mem)
      obtain ⟨least, own⟩ := share_spec (inside l List.mem_cons_self)
      rw [sharesOf_cons]
      exact ⟨by linarith, own.add grid⟩

variable (t) in
theorem positions_levels : t.levels.map Prod.snd = List.range t.targets.length := by
  rw [levels, List.zipIdx_map_snd, List.range_eq_range']

theorem sharesOf_levels (some : 0 < t.targets.length) : t.sharesOf t.levels = t.lot := by
  obtain ⟨length, sum, -⟩ := t.fracs_spec some
  have positions : t.levels.map (fun l => t.fracs.getD l.2 0) = t.fracs := by
    have split : t.levels.map (fun l => t.fracs.getD l.2 0) =
        (t.levels.map Prod.snd).map fun i => t.fracs.getD i 0 := by
      rw [List.map_map]
      rfl
    rw [split, t.positions_levels]
    apply List.ext_getElem
    · rw [List.length_map, List.length_range, length]
    · intro i _ inside
      rw [List.getElem_map, List.getElem_range, List.getD_eq_getElem _ _ inside]
  calc t.sharesOf t.levels = (t.levels.map fun l => t.lot * t.fracs.getD l.2 0).sum := rfl
    _ = t.lot * (t.levels.map fun l => t.fracs.getD l.2 0).sum := List.sum_map_mul_left ..
    _ = t.lot := by rw [positions, sum, mul_one]

variable (t) in
theorem spare_spec : 0 ≤ t.spare ∧ OnGrid 4 t.spare := by
  rw [spare]
  by_cases some : 0 < t.targets.length
  · rw [sharesOf_levels some, sub_self]
    exact ⟨le_rfl, onGrid_zero 4⟩
  · have none : t.levels = [] := by
      rw [levels, List.length_eq_zero_iff.mp (Nat.eq_zero_of_not_pos some)]
      rfl
    rw [none]
    refine ⟨?_, ?_⟩
    · simp only [sharesOf, List.map_nil, List.sum_nil, sub_zero]
      linarith [t.minLot]
    · simp only [sharesOf, List.map_nil, List.sum_nil, sub_zero]
      exact t.cents.mono (by omega)

end Shares

def hits (bar : Bar) (l : (ℕ × ℚ) × ℕ) : Bool := barReached t.direction bar l.1.2

/-- The closes of levels in full, with the numbers of their columns. -/
def closesOf (ls : List ((ℕ × ℚ) × ℕ)) : List (ℕ × ℚ) := ls.map fun l => (l.1.1, t.share l.2)

/-- The stop behind the closes of levels, from a stop before them. -/
def trailAll (beAtPos : ℕ) (slPrice : ℚ) (ls : List ((ℕ × ℚ) × ℕ)) : ℚ :=
  ls.foldl (fun sl l => t.trail beAtPos l.2 sl) slPrice

section Closing
variable {t} {bar : Bar}

theorem closeLevel_done {s : LadderState} {l : (ℕ × ℚ) × ℕ} (done : s.tpDone l.2 = true) :
    t.closeLevel bar s l = s := by
  rw [closeLevel, if_pos done]

theorem closeLevel_missed {s : LadderState} {l : (ℕ × ℚ) × ℕ} (missed : t.hits bar l = false) :
    t.closeLevel bar s l = s := by
  rw [hits] at missed
  rw [closeLevel, missed, Bool.not_false, if_pos rfl]
  split_ifs <;> rfl

/-- A level that is reached closes its share, where the rest holds it. -/
theorem closeLevel_hit {s : LadderState} {l : (ℕ × ℚ) × ℕ} (mem : l ∈ t.levels)
    (fresh : s.tpDone l.2 = false) (hit : t.hits bar l = true) {rest : ℚ}
    (held : s.remainingLot = t.share l.2 + rest) (nonneg : 0 ≤ rest) (grid : OnGrid 4 rest) :
    t.closeLevel bar s l =
      { s with
        tpDone := Function.update s.tpDone l.2 true
        slPrice := t.trail t.strategy.beAtPos l.2 s.slPrice
        remainingLot := rest
        closes := s.closes ++ [(l.1.1, t.share l.2)] } := by
  obtain ⟨least, own⟩ := share_spec mem
  have lot : roundTo 4 (min (t.lot * t.fracs.getD l.2 0) s.remainingLot) = t.share l.2 := by
    rw [← share, min_eq_left (by linarith), roundTo_of_onGrid own]
  have some : 0 < t.share l.2 := by linarith
  have left : roundTo 4 (s.remainingLot - t.share l.2) = rest := by
    rw [held, add_sub_cancel_left, roundTo_of_onGrid grid]
  rw [hits] at hit
  simp only [closeLevel, fresh, hit, lot, left, if_pos some, Bool.false_eq_true, Bool.not_true,
    if_false]

theorem foldl_done {s : LadderState} {ls : List ((ℕ × ℚ) × ℕ)}
    (done : ∀ l ∈ ls, s.tpDone l.2 = true) : ls.foldl (t.closeLevel bar) s = s := by
  induction ls with
  | nil => rfl
  | cons l ls ih =>
      rw [List.foldl_cons, closeLevel_done (done l List.mem_cons_self)]
      exact ih fun l mem => done l (List.mem_cons_of_mem _ mem)

/-- The loop over levels none of which is done: those that the bar reaches are
closed, whatever lies between them. -/
theorem foldl_closeLevel {ls : List ((ℕ × ℚ) × ℕ)} (inside : ∀ l ∈ ls, l ∈ t.levels)
    (apart : (ls.map Prod.snd).Nodup) {s : LadderState} {c : ℚ}
    (fresh : ∀ l ∈ ls, s.tpDone l.2 = false) (held : s.remainingLot = t.sharesOf ls + c)
    (nonneg : 0 ≤ c) (grid : OnGrid 4 c) :
    ls.foldl (t.closeLevel bar) s =
      { s with
        tpDone := fun i =>
          s.tpDone i || (ls.filter (t.hits bar)).any fun l => decide (l.2 = i)
        slPrice := t.trailAll t.strategy.beAtPos s.slPrice (ls.filter (t.hits bar))
        remainingLot := t.sharesOf (ls.filter fun l => !t.hits bar l) + c
        closes := s.closes ++ t.closesOf (ls.filter (t.hits bar)) } := by
  induction ls generalizing s c with
  | nil =>
      simp only [List.foldl_nil, List.filter_nil, List.any_nil, Bool.or_false, closesOf,
        List.map_nil, List.append_nil, trailAll, ← held]
  | cons l ls ih =>
      have rest := sharesOf_spec (t := t) fun l mem => inside l (List.mem_cons_of_mem _ mem)
      have own := share_spec (inside l List.mem_cons_self)
      rw [List.map_cons, List.nodup_cons] at apart
      rw [sharesOf_cons] at held
      cases hit : t.hits bar l with
      | false =>
          rw [List.foldl_cons, closeLevel_missed hit,
            ih (fun l mem => inside l (List.mem_cons_of_mem _ mem)) apart.2
              (fun l mem => fresh l (List.mem_cons_of_mem _ mem)) (c := t.share l.2 + c)
              (by rw [held]; ring) (by linarith [own.1]) (own.2.add grid)]
          simp only [List.filter_cons, hit, Bool.false_eq_true, if_false, Bool.not_false, if_true,
            sharesOf_cons]
          congr 1
          ring
      | true =>
          have fresh' : ∀ l' ∈ ls, Function.update s.tpDone l.2 true l'.2 = false := by
            intro l' mem
            have other : l'.2 ≠ l.2 := fun same =>
              apart.1 (same ▸ List.mem_map_of_mem mem)
            rw [Function.update_of_ne other]
            exact fresh l' (List.mem_cons_of_mem _ mem)
          have split : s.remainingLot = t.share l.2 + (t.sharesOf ls + c) := by
            rw [held]
            ring
          rw [List.foldl_cons, closeLevel_hit (inside l List.mem_cons_self)
            (fresh l List.mem_cons_self) hit split (by linarith [rest.1]) (rest.2.add grid),
            ih (fun l mem => inside l (List.mem_cons_of_mem _ mem)) apart.2 fresh' rfl nonneg grid]
          simp only [List.filter_cons, hit, Bool.not_true, Bool.false_eq_true, if_false, if_true,
            List.any_cons, closesOf, List.map_cons, List.append_assoc, List.singleton_append,
            trailAll, List.foldl_cons]
          congr 1
          funext i
          by_cases same : i = l.2
          · rw [same, Function.update_self]
            simp
          · rw [Function.update_of_ne same, decide_eq_false (Ne.symm same), Bool.false_or]

end Closing

/-- The lots that are left once the first levels are closed. -/
def held (m : ℕ) : ℚ := t.sharesOf (t.levels.drop m) + t.spare

def slStart : ℚ := t.fillPrice - t.direction.sign * t.slDist

/-- The state of the loop with the first levels closed. -/
structure At (m : ℕ) (s : LadderState) : Prop where
  done : s.tpDone = fun i => decide (i < m)
  stop : s.slPrice = t.trailAll t.strategy.beAtPos t.slStart (t.levels.take m)
  held : s.remainingLot = t.held m
  closes : s.closes = t.closesOf (t.levels.take m)

def openLevels (s : LadderState) : List ((ℕ × ℚ) × ℕ) := t.levels.filter fun l => !s.tpDone l.2

section Steps
variable {t} {bar : Bar} {m : ℕ} {s : LadderState}

theorem at_start : t.At 0 t.start := by
  refine ⟨rfl, rfl, ?_, rfl⟩
  rw [LadderTest.held, List.drop_zero, spare, add_sub_cancel]
  rfl

theorem position_of_mem_take {l : (ℕ × ℚ) × ℕ} (mem : l ∈ t.levels.take m) : l.2 < m := by
  have position : l.2 ∈ (t.levels.take m).map Prod.snd := List.mem_map_of_mem mem
  rw [List.map_take, t.positions_levels, List.take_range, List.mem_range] at position
  omega

theorem position_of_mem_drop {l : (ℕ × ℚ) × ℕ} (mem : l ∈ t.levels.drop m) : m ≤ l.2 := by
  have position : l.2 ∈ (t.levels.drop m).map Prod.snd := List.mem_map_of_mem mem
  rw [List.map_drop, t.positions_levels, List.range_eq_range', List.drop_range',
    List.mem_range'_1] at position
  omega

theorem At.openLevels (at_ : t.At m s) : t.openLevels s = t.levels.drop m := by
  have split := List.take_append_drop m t.levels
  have none : (t.levels.take m).filter (fun l => !s.tpDone l.2) = [] := by
    refine List.filter_eq_nil_iff.mpr fun l mem => ?_
    simp only [at_.done, position_of_mem_take mem, decide_true, Bool.not_true, Bool.false_eq_true,
      not_false_iff]
  have all : (t.levels.drop m).filter (fun l => !s.tpDone l.2) = t.levels.drop m := by
    refine List.filter_eq_self.mpr fun l mem => ?_
    have above := position_of_mem_drop mem
    simp only [at_.done, decide_eq_false (not_lt.mpr above), Bool.not_false]
  calc t.openLevels s
    _ = (t.levels.take m ++ t.levels.drop m).filter (fun l => !s.tpDone l.2) := by
      rw [split, LadderTest.openLevels]
    _ = t.levels.drop m := by rw [List.filter_append, none, all, List.nil_append]

theorem take_levels_add (m r : ℕ) :
    t.levels.take (m + r) = t.levels.take m ++ (t.levels.drop m).take r := List.take_add

/-- The loop over the levels, with the first of them closed. -/
theorem At.foldl (at_ : t.At m s) :
    t.levels.foldl (t.closeLevel bar) s =
      { s with
        tpDone := fun i =>
          s.tpDone i || ((t.levels.drop m).filter (t.hits bar)).any fun l => decide (l.2 = i)
        slPrice := t.trailAll t.strategy.beAtPos s.slPrice ((t.levels.drop m).filter (t.hits bar))
        remainingLot :=
          t.sharesOf ((t.levels.drop m).filter fun l => !t.hits bar l) + t.spare
        closes := s.closes ++ t.closesOf ((t.levels.drop m).filter (t.hits bar)) } := by
  have done : ∀ l ∈ t.levels.take m, s.tpDone l.2 = true := by
    intro l mem
    rw [at_.done]
    exact decide_eq_true (position_of_mem_take mem)
  have fresh : ∀ l ∈ t.levels.drop m, s.tpDone l.2 = false := by
    intro l mem
    rw [at_.done]
    exact decide_eq_false (not_lt.mpr (position_of_mem_drop mem))
  have apart : ((t.levels.drop m).map Prod.snd).Nodup := by
    rw [List.map_drop, t.positions_levels]
    exact List.nodup_range.sublist (List.drop_sublist _ _)
  conv_lhs => rw [← List.take_append_drop m t.levels, List.foldl_append, foldl_done done]
  exact foldl_closeLevel (fun l mem => List.mem_of_mem_drop mem) apart fresh at_.held
    t.spare_spec.1 t.spare_spec.2

/-- Of a list whose members after the first that fails all fail, the filter
keeps the first ones. -/
theorem filter_of_orderly {α : Type} {p : α → Bool} {l : List α}
    (orderly : ∀ x ∈ l.dropWhile p, p x = false) :
    l.filter p = l.takeWhile p ∧ (l.filter fun x => !p x) = l.dropWhile p := by
  have keep : (l.takeWhile p).filter p = l.takeWhile p :=
    List.filter_eq_self.mpr fun x mem => List.mem_takeWhile_imp mem
  have leave : (l.takeWhile p).filter (fun x => !p x) = [] :=
    List.filter_eq_nil_iff.mpr fun x mem => by simp [List.mem_takeWhile_imp mem]
  have none : (l.dropWhile p).filter p = [] :=
    List.filter_eq_nil_iff.mpr fun x mem => by simp [orderly x mem]
  have all : (l.dropWhile p).filter (fun x => !p x) = l.dropWhile p :=
    List.filter_eq_self.mpr fun x mem => by simp [orderly x mem]
  constructor
  · conv_lhs => rw [← List.takeWhile_append_dropWhile (p := p) (l := l)]
    rw [List.filter_append, keep, none, List.append_nil]
  · conv_lhs => rw [← List.takeWhile_append_dropWhile (p := p) (l := l)]
    rw [List.filter_append, leave, all, List.nil_append]

theorem takeWhile_eq_take {α : Type} (p : α → Bool) (l : List α) :
    l.takeWhile p = l.take (l.takeWhile p).length ∧
      l.dropWhile p = l.drop (l.takeWhile p).length := by
  constructor
  · exact List.prefix_iff_eq_take.mp (List.takeWhile_prefix p)
  · conv_rhs => rw [← List.takeWhile_append_dropWhile (p := p) (l := l)]
    rw [List.drop_left' (by rw [List.takeWhile_append_dropWhile])]

/-- How many levels the walk closes at a bar that it does not leave the loop at,
when each level that is reached comes before the first one that is not. -/
def reach (t : LadderTest) (m : ℕ) (bar : Bar) : ℕ :=
  ((t.levels.drop m).takeWhile (t.hits bar)).length

variable (t) in
theorem length_levels : t.levels.length = t.targets.length := List.length_zipIdx

variable (t) in
theorem reach_le (m : ℕ) (bar : Bar) : t.reach m bar ≤ t.targets.length - m := by
  have le := (List.takeWhile_prefix (l := t.levels.drop m) (t.hits bar)).length_le
  rw [List.length_drop, t.length_levels] at le
  exact le

theorem mem_positions_take {k i : ℕ} :
    (∃ l ∈ t.levels.take k, l.2 = i) ↔ i < k ∧ i < t.targets.length := by
  rw [← List.mem_map, List.map_take, t.positions_levels, List.take_range, List.mem_range,
    lt_min_iff]

theorem at_foldl (at_ : t.At m s)
    (orderly : ∀ l ∈ (t.levels.drop m).dropWhile (t.hits bar), t.hits bar l = false) :
    t.At (m + t.reach m bar) (t.levels.foldl (t.closeLevel bar) s) := by
  obtain ⟨kept, left⟩ := filter_of_orderly orderly
  obtain ⟨taken, dropped⟩ := takeWhile_eq_take (t.hits bar) (t.levels.drop m)
  rw [at_.foldl, kept, left]
  constructor
  · funext i
    have among : ((t.levels.drop m).takeWhile (t.hits bar)).any (fun l => decide (l.2 = i)) = true ↔
        ∃ l ∈ (t.levels.drop m).take (t.reach m bar), l.2 = i := by
      rw [reach, ← taken, List.any_eq_true]
      simp only [decide_eq_true_eq]
    have split := mem_positions_take (t := t) (k := m + t.reach m bar) (i := i)
    have first := mem_positions_take (t := t) (k := m) (i := i)
    simp only [take_levels_add, List.mem_append, or_and_right, exists_or] at split
    have within := t.reach_le m bar
    dsimp only
    rw [at_.done, Bool.eq_iff_iff, Bool.or_eq_true, among, decide_eq_true_eq, decide_eq_true_eq]
    constructor
    · rintro (below | found)
      · omega
      · exact (split.mp (.inr found)).1
    · intro below
      by_cases old : i < m
      · exact .inl old
      · rcases split.mpr ⟨below, by omega⟩ with found | found
        · exact absurd (first.mp found).1 old
        · exact .inr found
  · dsimp only
    rw [at_.stop, take_levels_add, trailAll, trailAll, trailAll, List.foldl_append, reach, ← taken]
  · dsimp only
    rw [LadderTest.held, dropped, List.drop_drop, reach]
  · dsimp only
    rw [at_.closes, take_levels_add, closesOf, closesOf, closesOf, List.map_append, reach, ← taken]

end Steps

/-- The loop goes no further: it has returned, it is past the last bar, or the
bar is at the stop. -/
def Ends (s : LadderState) (bar : Bar) : Prop :=
  s.outcome.isSome = true ∨ maxHoldBars ≤ s.bars ∨ barStopped t.direction bar s.slPrice = true

instance (s : LadderState) (bar : Bar) : Decidable (t.Ends s bar) :=
  inferInstanceAs (Decidable (_ ∨ _ ∨ _))

section Steps
variable {t} {bar : Bar} {m : ℕ} {s : LadderState}

theorem At.same {s' : LadderState} (at_ : t.At m s) (done : s'.tpDone = s.tpDone)
    (stop : s'.slPrice = s.slPrice) (held : s'.remainingLot = s.remainingLot)
    (closes : s'.closes = s.closes) : t.At m s' :=
  ⟨done.trans at_.done, stop.trans at_.stop, held.trans at_.held, closes.trans at_.closes⟩

/-- A lot that is left is far from the tolerance of the loop. -/
theorem drop_eq_nil_of_held_le (small : t.held m ≤ 1 / 10 ^ 9) : t.levels.drop m = [] := by
  cases rest : t.levels.drop m with
  | nil => rfl
  | cons l ls =>
      have inside : ∀ l' ∈ l :: ls, l' ∈ t.levels := fun l' mem =>
        List.mem_of_mem_drop (rest ▸ mem)
      have own := (share_spec (inside l List.mem_cons_self)).1
      have others := (@sharesOf_spec t ls fun l' mem => inside l' (List.mem_cons_of_mem _ mem)).1
      rw [held, rest, sharesOf_cons] at small
      norm_num at small
      linarith [t.spare_spec.1]

/-- A pass of the loop that neither is over nor returns at the stop. -/
theorem step_onward (running : s.outcome.isSome = false) (early : s.bars < maxHoldBars)
    (ahead : (barStopped t.direction bar s.slPrice && decide (1 / 10 ^ 9 < s.remainingLot)) =
      false) :
    ∃ outcome, t.step s bar =
      { t.levels.foldl (t.closeLevel bar) { s with bars := s.bars + 1 } with
        outcome := outcome } := by
  rw [step, running, decide_eq_false (not_le.mpr early), Bool.or_false, if_neg Bool.false_ne_true]
  dsimp only
  rw [ahead, if_neg Bool.false_ne_true]
  split_ifs
  · exact ⟨_, rfl⟩
  · exact ⟨_, rfl⟩

theorem At.counted (at_ : t.At m s) : t.At m { s with bars := s.bars + 1 } :=
  at_.same rfl rfl rfl rfl

theorem step_of_ends (at_ : t.At m s) (ends : t.Ends s bar) : t.At m (t.step s bar) := by
  by_cases ended : s.outcome.isSome = true ∨ maxHoldBars ≤ s.bars
  · rw [step, if_pos (by simpa using ended)]
    exact at_
  · have stopped := (ends.resolve_left fun h => ended (.inl h)).resolve_left fun h => ended (.inr h)
    rw [not_or, Bool.not_eq_true, not_le] at ended
    cases lots : decide (1 / 10 ^ 9 < s.remainingLot) with
    | true =>
        rw [step, if_neg (by simpa using ended)]
        dsimp only
        rw [stopped, lots, Bool.true_and, if_pos rfl]
        exact at_.same rfl rfl rfl rfl
    | false =>
        obtain ⟨outcome, after⟩ := step_onward ended.1 ended.2 (by rw [lots, Bool.and_false])
        rw [decide_eq_false_iff_not, not_lt, at_.held] at lots
        have none := drop_eq_nil_of_held_le lots
        have quiet : ∀ l ∈ (t.levels.drop m).dropWhile (t.hits bar), t.hits bar l = false := by
          rw [none]
          exact fun l mem => nomatch mem
        have closed := at_foldl at_.counted quiet
        rw [reach, none, List.takeWhile_nil, List.length_nil, Nat.add_zero] at closed
        rw [after]
        exact closed.same rfl rfl rfl rfl

theorem onward_of_not_ends (goes : ¬ t.Ends s bar) :
    ∃ outcome, t.step s bar =
      { t.levels.foldl (t.closeLevel bar) { s with bars := s.bars + 1 } with
        outcome := outcome } := by
  rw [Ends, not_or, not_or, Bool.not_eq_true, not_le, Bool.not_eq_true] at goes
  obtain ⟨running, early, ahead⟩ := goes
  exact step_onward running early (by rw [ahead, Bool.false_and])

theorem step_closes (at_ : t.At m s) (goes : ¬ t.Ends s bar) :
    (t.step s bar).closes =
      t.closesOf (t.levels.take m) ++ t.closesOf ((t.levels.drop m).filter (t.hits bar)) := by
  obtain ⟨outcome, after⟩ := onward_of_not_ends goes
  rw [after, at_.counted.foldl]
  dsimp only
  rw [at_.closes]

theorem step_of_orderly (at_ : t.At m s) (goes : ¬ t.Ends s bar)
    (orderly : ∀ l ∈ (t.levels.drop m).dropWhile (t.hits bar), t.hits bar l = false) :
    t.At (m + t.reach m bar) (t.step s bar) := by
  have closed := at_foldl at_.counted orderly
  obtain ⟨outcome, after⟩ := onward_of_not_ends goes
  rw [after]
  exact closed.same rfl rfl rfl rfl

end Steps

/-! The stops of two walks that close the same levels. -/

/-- The price that the close of a level moves the stop to. -/
def target (beAtPos pos : ℕ) : ℚ :=
  if pos = beAtPos then t.fillPrice else (t.targets.getD (pos - 1) (0, 0)).2

theorem trail_eq (beAtPos pos : ℕ) (sl : ℚ) :
    t.trail beAtPos pos sl =
      if pos < beAtPos then sl
      else if t.direction.tighter (t.target beAtPos pos) sl then t.target beAtPos pos
      else sl := rfl

section Stops
variable {t}

theorem sign_trail (beAtPos pos : ℕ) (sl : ℚ) :
    t.direction.sign * t.trail beAtPos pos sl =
      if pos < beAtPos then t.direction.sign * sl
      else max (t.direction.sign * sl) (t.direction.sign * t.target beAtPos pos) := by
  rw [trail_eq]
  by_cases before : pos < beAtPos
  · rw [if_pos before, if_pos before]
  · rw [if_neg before, if_neg before]
    cases better : t.direction.tighter (t.target beAtPos pos) sl with
    | true => rw [if_pos rfl, max_eq_right (t.direction.tighter_eq_true_iff.mp better).le]
    | false =>
        rw [if_neg Bool.false_ne_true, max_eq_left (t.direction.tighter_eq_false_iff.mp better)]

theorem trailAll_concat (beAtPos : ℕ) (sl : ℚ) (ls : List ((ℕ × ℚ) × ℕ)) (l : (ℕ × ℚ) × ℕ) :
    t.trailAll beAtPos sl (ls ++ [l]) = t.trail beAtPos l.2 (t.trailAll beAtPos sl ls) := by
  rw [trailAll, List.foldl_append]
  rfl

theorem take_levels_succ {m : ℕ} (more : m < t.targets.length) :
    t.levels.take (m + 1) = t.levels.take m ++ [(t.targets[m], m)] := by
  rw [List.take_add_one, levels, List.getElem?_zipIdx, List.getElem?_eq_getElem more, zero_add]
  rfl

/-- How tight the stop is behind closes: as the one before them, or as one of
the prices that they move it to. -/
theorem le_trailAll (beAtPos : ℕ) (sl x : ℚ) (m : ℕ) :
    x ≤ t.direction.sign * t.trailAll beAtPos sl (t.levels.take m) ↔
      x ≤ t.direction.sign * sl ∨
        ∃ i < m, i < t.targets.length ∧ beAtPos ≤ i ∧
          x ≤ t.direction.sign * t.target beAtPos i := by
  induction m with
  | zero => simp [trailAll]
  | succ m ih =>
      by_cases more : m < t.targets.length
      · rw [take_levels_succ more, trailAll_concat, sign_trail]
        split_ifs with before
        · rw [ih]
          refine or_congr_right ⟨?_, ?_⟩
          · rintro ⟨i, below, rest⟩
            exact ⟨i, by omega, rest⟩
          · rintro ⟨i, below, inside, past, le⟩
            exact ⟨i, by omega, inside, past, le⟩
        · rw [le_max_iff, ih, or_assoc]
          refine or_congr_right ⟨?_, ?_⟩
          · rintro (⟨i, below, rest⟩ | le)
            · exact ⟨i, by omega, rest⟩
            · exact ⟨m, by omega, more, by omega, le⟩
          · rintro ⟨i, below, inside, past, le⟩
            rcases Nat.lt_succ_iff_lt_or_eq.mp below with below | rfl
            · exact .inl ⟨i, below, inside, past, le⟩
            · exact .inr le
      · have same : t.levels.take (m + 1) = t.levels.take m := by
          rw [List.take_of_length_le, List.take_of_length_le]
          · rw [t.length_levels]
            omega
          · rw [t.length_levels]
            omega
        rw [same, ih]
        refine or_congr_right ⟨?_, ?_⟩
        · rintro ⟨i, below, rest⟩
          exact ⟨i, by omega, rest⟩
        · rintro ⟨i, below, inside, rest⟩
          exact ⟨i, by omega, inside, rest⟩

end Stops

end LadderTest
end Backtest
end Forex
