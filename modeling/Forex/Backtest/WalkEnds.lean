import Forex.Backtest.RunBacktest

/-!
A walk that ends by a bar, otherwise than for want of bars, is the same over all
bars that agree up to there. Each walk is a loop that a result leaves: what it
has seen when it ends is what lies before.
-/

namespace Forex
namespace Backtest
open Support

/-- Ended by a bar: the bars behind it played no part. -/
def Ended (k : ℕ) (r : ℕ × SimExit) : Prop := r.1 ≤ k ∧ (r.2.outcome = .timeout → r.1 < k)

instance (k : ℕ) (r : ℕ × SimExit) : Decidable (Ended k r) := inferInstanceAs (Decidable (_ ∧ _))

variable {k : ℕ} {bars bars' : List Bar}

theorem Simulator.run_of_agreeTo (sim : Simulator) (agree : AgreeTo k bars bars')
    (ended : Ended k (sim.run bars)) : sim.run bars' = sim.run bars := by
  have held := agree.take simulatorHoldBars
  rw [Simulator.run] at ended
  rw [Simulator.run, Simulator.run]
  generalize bars.take simulatorHoldBars = b at *
  generalize bars'.take simulatorHoldBars = b' at *
  cases walked : loop sim.bar 0 (.start sim.sl sim.lot) b with
  | inl left =>
      rw [walked] at ended
      rw [loop_of_agreeTo walked (held.mono ended.1)]
  | inr v =>
      rw [walked] at ended
      have short : b.length - 1 < k := ended.2 rfl
      rw [← held.eq_of_length_le (by omega), walked]

section Ladder
namespace LadderTest
variable (t : LadderTest)

/-- A pass of the ladder's loop, as a body that a result leaves. -/
def body (s : LadderState) (bar : Bar) : LadderState ⊕ LadderState :=
  if (t.step s bar).outcome.isSome then .inl (t.step s bar) else .inr (t.step s bar)

theorem step_ended {s : LadderState}
    (ended : (s.outcome.isSome || decide (maxHoldBars ≤ s.bars)) = true) (bars : List Bar) :
    bars.foldl t.step s = s := by
  induction bars with
  | nil => rfl
  | cons bar bars ih =>
      have stays : t.step s bar = s := by rw [step, if_pos ended]
      rw [List.foldl_cons, stays, ih]

theorem step_bars {s : LadderState}
    (running : (s.outcome.isSome || decide (maxHoldBars ≤ s.bars)) = false) (bar : Bar) :
    (t.step s bar).bars = s.bars + 1 := by
  have levels : ∀ (ls : List ((ℕ × ℚ) × ℕ)) (s : LadderState),
      (ls.foldl (t.closeLevel bar) s).bars = s.bars := by
    intro ls
    induction ls with
    | nil => exact fun _ => rfl
    | cons l ls ih =>
        intro s
        rw [List.foldl_cons, ih, closeLevel]
        split_ifs <;> rfl
  rw [step, if_neg (by rw [running]; exact Bool.false_ne_true)]
  dsimp only
  split_ifs
  · rfl
  · rfl
  · exact levels _ _
  · exact levels _ _

/-- The ladder is its loop over the bars it may be held for. -/
theorem foldl_eq_loop (bars : List Bar) {s : LadderState} (none : s.outcome = none) :
    bars.foldl t.step s =
      Sum.elim Prod.snd id (loop t.body s.bars s (bars.take (maxHoldBars - s.bars))) := by
  induction bars generalizing s with
  | nil => rw [List.take_nil]; rfl
  | cons bar bars ih =>
      by_cases late : maxHoldBars ≤ s.bars
      · rw [Nat.sub_eq_zero_of_le late, List.take_zero, t.step_ended (by simp [late])]
        rfl
      · have running : (s.outcome.isSome || decide (maxHoldBars ≤ s.bars)) = false := by
          simp [none, late]
        have counted := t.step_bars running bar
        obtain ⟨left, enough⟩ : ∃ n, maxHoldBars - s.bars = n + 1 :=
          Nat.exists_eq_succ_of_ne_zero (by omega)
        rw [enough, List.take_succ_cons, List.foldl_cons, loop, body]
        cases out : (t.step s bar).outcome with
        | some o =>
            rw [t.step_ended (by simp [out])]
            simp
        | none =>
            rw [ih out, counted]
            have rest : maxHoldBars - (s.bars + 1) = left := by omega
            simp [rest]

/-- Where the loop is left or ends, its count of the bars. -/
def Counted (last : ℕ) : (ℕ × LadderState) ⊕ LadderState → Prop
  | .inl left => left.2.bars = left.1 + 1
  | .inr e => e.bars = last ∧ e.outcome = none

/-- Each pass counts a bar, and the loop goes on without an outcome. -/
theorem loop_counted (bars : List Bar) {i : ℕ} {s : LadderState} (none : s.outcome = none)
    (counted : s.bars = i) (short : i + bars.length ≤ maxHoldBars) :
    Counted (i + bars.length) (loop t.body i s bars) := by
  induction bars generalizing i s with
  | nil => exact ⟨counted, none⟩
  | cons bar bars ih =>
      rw [List.length_cons] at short
      have running : (s.outcome.isSome || decide (maxHoldBars ≤ s.bars)) = false := by
        simp only [none, Option.isSome_none, Bool.false_or, decide_eq_false_iff_not]
        omega
      have next := t.step_bars running bar
      rw [loop, body]
      cases out : (t.step s bar).outcome with
      | some o =>
          rw [Option.isSome_some, if_pos rfl]
          exact next.trans (by rw [counted])
      | none =>
          have rest := ih out (next.trans (by rw [counted])) (by omega)
          rw [Option.isSome_none, if_neg Bool.false_ne_true, List.length_cons,
            ← Nat.add_assoc, Nat.add_right_comm]
          exact rest

theorem result_of_agreeTo (agree : AgreeTo k bars bars') (ended : Ended k (t.result bars)) :
    t.result bars' = t.result bars := by
  have held := agree.take maxHoldBars
  have short : 0 + (bars.take maxHoldBars).length ≤ maxHoldBars := by
    rw [List.length_take]
    omega
  have counts : Counted _ (loop t.body 0 t.start (bars.take maxHoldBars)) :=
    t.loop_counted (bars.take maxHoldBars) rfl rfl short
  have ends : ∀ bars, t.runLadderStrategy bars =
      Sum.elim Prod.snd id (loop t.body 0 t.start (bars.take maxHoldBars)) := fun bars =>
    t.foldl_eq_loop bars rfl
  have same : t.runLadderStrategy bars' = t.runLadderStrategy bars := by
    rw [ends, ends]
    cases walked : loop t.body 0 t.start (bars.take maxHoldBars) with
    | inl left =>
        obtain ⟨j, e⟩ := left
        rw [walked] at counts
        have last : j ≤ k := by
          have le : (t.runLadderStrategy bars).bars - 1 ≤ k := ended.1
          have counted : e.bars = j + 1 := counts
          rw [ends, walked, Sum.elim_inl, counted] at le
          exact le
        rw [loop_of_agreeTo walked (held.mono last)]
    | inr e =>
        rw [walked] at counts
        obtain ⟨counted, out⟩ := counts
        have last : (bars.take maxHoldBars).length - 1 < k := by
          have timeout := ended.2
          rw [result] at timeout
          dsimp only at timeout
          rw [ends, walked, Sum.elim_inr, id, out, counted, Nat.zero_add] at timeout
          exact timeout rfl
        rw [← held.eq_of_length_le (by omega), walked]
  have seen : (t.runLadderStrategy bars).bars - 1 ≤ k := ended.1
  rw [result, result, same, agree _ seen]

end LadderTest
end Ladder

section Templates
variable (t : Template) (direction : Direction) (entry lot : ℚ)

/-- Lots are left and nothing has ended the trade, or the last were closed at a bar. -/
def TemplateResult.OpenOrClosed (idx : ℕ) (res : TemplateResult) : Prop :=
  (res.outcome = .timeout ∧ 0 < res.remainingLots) ∨ (res.remainingLots ≤ 0 ∧ res.closeBar = idx)

theorem barLadder_openOrClosed (idx : ℕ) (bar : Bar) (rungs : List Rung) {res : TemplateResult}
    (before : res.OpenOrClosed idx) :
    (barLadder t direction lot idx bar rungs res).2.OpenOrClosed idx := by
  induction rungs generalizing res with
  | nil => exact before
  | cons r rungs ih =>
      rw [barLadder]
      dsimp only
      split_ifs with triggered missed last whole none
      · exact ih before
      · exact before
      · exact .inr ⟨le_rfl, rfl⟩
      · exact before
      · exact ih before
      · refine ih ?_
        rcases before with ⟨out, left⟩ | ⟨gone, -⟩
        · by_cases rest : roundTo 2 (res.remainingLots -
              min (roundTo 2 (lot * r.pct)) res.remainingLots) ≤ 0
          · exact .inr ⟨rest, if_pos rest⟩
          · exact .inl ⟨out, not_le.mp rest⟩
        · exact absurd ((min_le_right _ _).trans gone) none

/-- Nothing has ended the trade of the walk. -/
def Walk.Running (w : Walk) : Prop := w.res.outcome = .timeout ∧ 0 < w.res.remainingLots

/-- A bar ends the trade there and then, or leaves it running. -/
theorem barStep_spec (idx : ℕ) (prev : Option Bar) (bar : Bar) {w : Walk} (running : w.Running) :
    ((barStep t direction entry lot idx prev bar w).2 = true →
      (barStep t direction entry lot idx prev bar w).1.res.closeBar = idx ∧
        (barStep t direction entry lot idx prev bar w).1.res.outcome ≠ .timeout) ∧
    ((barStep t direction entry lot idx prev bar w).2 = false →
      (barStep t direction entry lot idx prev bar w).1.Running) := by
  rw [barStep]
  split
  · exact ⟨fun _ => ⟨rfl, by simp [TemplateResult.stopOut]⟩, fun no => by cases no⟩
  · have climbed : (barClimb t direction lot idx bar w).res.OpenOrClosed idx := by
      rw [barClimb]
      split_ifs
      · exact barLadder_openOrClosed t direction lot idx bar _ (.inl running)
      · exact .inl running
    dsimp only
    split_ifs with gone out
    · refine ⟨fun _ => ?_, fun no => by cases no⟩
      rcases climbed with ⟨-, left⟩ | ⟨-, here⟩
      · exact absurd gone (not_le.mpr left)
      · exact ⟨here, by simp⟩
    · refine ⟨fun _ => ?_, fun no => by cases no⟩
      rcases climbed with ⟨-, left⟩ | ⟨-, here⟩
      · exact absurd gone (not_le.mpr left)
      · exact ⟨here, out⟩
    · refine ⟨False.elim, fun _ => ?_⟩
      exact climbed.resolve_right fun closed => gone closed.1

/-- A pass of the walk, as a body that a result leaves. -/
def barBody (v : ℕ × Option Bar × Walk) (bar : Bar) : Walk ⊕ (ℕ × Option Bar × Walk) :=
  let next := barStep t direction entry lot v.1 v.2.1 bar v.2.2
  if next.2 then .inl next.1 else .inr (v.1 + 1, some bar, next.1)

theorem walkBars_eq_loop (bars : List Bar) (idx : ℕ) (prev : Option Bar) (w : Walk) :
    walkBars t direction entry lot idx prev bars w =
      Sum.elim Prod.snd (fun v => v.2.2)
        (loop (barBody t direction entry lot) idx (idx, prev, w) bars) := by
  induction bars generalizing idx prev w with
  | nil => rfl
  | cons bar bars ih =>
      rw [walkBars, loop, barBody]
      dsimp only
      split_ifs
      · rfl
      · exact ih _ _ _

/-- Where the walk is left or ends, whether its trade has ended. -/
def Walk.Stands : (ℕ × Walk) ⊕ (ℕ × Option Bar × Walk) → Prop
  | .inl left => left.2.res.closeBar = left.1 ∧ left.2.res.outcome ≠ .timeout
  | .inr v => v.2.2.Running

theorem loop_stands (bars : List Bar) (idx : ℕ) (prev : Option Bar) {w : Walk}
    (running : w.Running) :
    Walk.Stands (loop (barBody t direction entry lot) idx (idx, prev, w) bars) := by
  induction bars generalizing idx prev w with
  | nil => exact running
  | cons bar bars ih =>
      have spec := barStep_spec t direction entry lot idx prev bar running
      rw [loop, barBody]
      dsimp only
      cases left : (barStep t direction entry lot idx prev bar w).2 with
      | true =>
          rw [if_pos rfl]
          exact spec.1 left
      | false =>
          rw [if_neg Bool.false_ne_true]
          exact ih _ _ (spec.2 left)

theorem finish_of_ended {res : TemplateResult} (out : res.outcome ≠ .timeout) (sign : ℚ)
    (last : Option ℚ) (count : ℕ) :
    res.finish sign last count = { res with pnlUsd := roundTo 2 (res.pnlPrice * 100) } := by
  cases last with
  | none => rfl
  | some close => simp only [TemplateResult.finish, out, and_false, if_false]

theorem finish_of_running {res : TemplateResult} (out : res.outcome = .timeout)
    (left : 0 < res.remainingLots) (sign close : ℚ) (count : ℕ) :
    (res.finish sign (some close) count).outcome = .timeout ∧
      (res.finish sign (some close) count).closeBar = count - 1 := by
  rw [TemplateResult.finish]
  dsimp only
  rw [if_pos ⟨left, out⟩]
  exact ⟨out, rfl⟩

theorem cent_le_lotFor (slDistance balance : ℚ) : 1 / 100 ≤ lotFor t slDistance balance := by
  rw [lotFor]
  exact cent_le_roundTo (le_min (by norm_num) (le_max_left _ _))

theorem simulate_of_agreeTo {res : TemplateResult} {balance atr : ℚ} (some : bars ≠ [])
    (agree : AgreeTo k bars bars')
    (walked : simulate t bars entry direction balance atr = .ok res)
    (ended : Ended k res.result) :
    simulate t bars' entry direction balance atr = .ok res := by
  rw [simulate] at walked ⊢
  dsimp only at walked ⊢
  split_ifs at walked ⊢ with refused
  have start : (Walk.start direction entry (lotFor t (slDistanceOf t atr) balance)
      (slDistanceOf t atr) (ladder t entry direction.sign atr)).Running := by
    refine ⟨rfl, ?_⟩
    have least := cent_le_lotFor t (slDistanceOf t atr) balance
    exact lt_of_lt_of_le (by norm_num) least
  generalize lotFor t (slDistanceOf t atr) balance = lot at *
  generalize Walk.start direction entry lot (slDistanceOf t atr)
    (ladder t entry direction.sign atr) = w at *
  have stands := loop_stands t direction entry lot bars 0 none start
  rw [walkBars_eq_loop] at walked ⊢
  cases went : loop (barBody t direction entry lot) 0 (0, none, w) bars with
  | inl left =>
      rw [went] at walked stands
      obtain ⟨here, out⟩ := stands
      rw [Sum.elim_inl, finish_of_ended out] at walked
      have last : left.1 ≤ k := by
        have le := ended.1
        rw [← Except.ok.inj walked] at le
        exact here ▸ le
      rw [loop_of_agreeTo went (agree.mono last), Sum.elim_inl, finish_of_ended out]
      exact walked
  | inr v =>
      rw [went] at walked stands
      obtain ⟨out, left⟩ := stands
      have close : bars.getLast?.map Bar.close = .some ((bars.getLast some).close) := by
        rw [List.getLast?_eq_some_getLast some, Option.map_some]
      have finished := finish_of_running out left direction.sign (bars.getLast some).close
        bars.length
      have short : bars.length ≤ k := by
        have timeout := ended.2
        rw [← Except.ok.inj walked, close] at timeout
        have at_ : bars.length - 1 < k := by
          rw [TemplateResult.result] at timeout
          simp only [Sum.elim_inr, finished.1, finished.2] at timeout
          exact timeout True.intro
        omega
      rw [← agree.eq_of_length_le short, went]
      exact walked

end Templates

end Backtest
end Forex
