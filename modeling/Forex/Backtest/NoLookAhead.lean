import Forex.Backtest.WalkEnds

/-!
Two backtests over candles that agree up to a bar. A trade that has ended by
that bar saw no other candle; but the lot it was given comes from the account,
and the account has the result of every earlier trade of the list, also of one
that is still open. Where a trade is sized from the account, the earlier ones
have to have ended.
-/

namespace Forex
namespace Backtest
open Support

namespace BtTrade

/-- Ended by a bar, and not for want of candles. -/
def SettledBy (k : ℕ) (t : BtTrade) : Prop :=
  t.closeBarIdx ≤ k ∧ (t.outcome = .timeout → t.closeBarIdx < k)

instance (k : ℕ) : DecidablePred (SettledBy k) := fun _ => inferInstanceAs (Decidable (_ ∧ _))

/-- Closed by a bar, other than by timeout. -/
def ClosedBy (k : ℕ) (t : BtTrade) : Prop := t.closeBarIdx ≤ k ∧ t.outcome ≠ .timeout

instance (k : ℕ) : DecidablePred (ClosedBy k) := fun _ => inferInstanceAs (Decidable (_ ∧ _))

theorem ClosedBy.settledBy {k : ℕ} {t : BtTrade} (closed : t.ClosedBy k) : t.SettledBy k :=
  ⟨closed.1, fun out => absurd out closed.2⟩

end BtTrade

section Fill
variable {k : ℕ}

theorem findIdx?_of_agreeTo {α : Type} (p : α → Bool) {as bs : List α} (agree : AgreeTo k as bs)
    {f : ℕ} (found : as.findIdx? p = some f) (le : f ≤ k) : bs.findIdx? p = some f := by
  induction as generalizing k bs f with
  | nil => cases found
  | cons a as ih =>
      obtain ⟨rest, rfl, later⟩ := agree.head_tail
      rw [List.findIdx?_cons] at found ⊢
      by_cases here : p a = true
      · rwa [if_pos here] at found ⊢
      · rw [if_neg here] at found ⊢
        obtain ⟨g, there, rfl⟩ := Option.map_eq_some_iff.mp found
        rw [ih (later (k - 1) (by omega)) there (by omega)]
        rfl

theorem fillBar_of_agreeTo {sig : ZoneSignal} {candles candles' : List Candle}
    (agree : AgreeTo k candles candles') {f : ℕ} (fill : sig.fillBar candles = some f)
    (le : f ≤ k) : sig.fillBar candles' = some f :=
  findIdx?_of_agreeTo sig.touchedBy agree fill le

theorem atr14_of_agreeTo {bars bars' : List Bar} (agree : AgreeTo k bars bars') {f : ℕ}
    (le : f ≤ k) : atr14 bars' f = atr14 bars f := by
  rw [atr14, atr14, agree.take_eq (by omega)]

end Fill

theorem LadderTest.of_congr {sig : BtSignal} {price slDist : ℚ} {account account' : BtAccount}
    {strategy : LadderStrategy} {behind : 0 < slDist}
    (same : account.lotFor slDist = account'.lotFor slDist) :
    LadderTest.of sig price account strategy slDist behind =
      LadderTest.of sig price account' strategy slDist behind := by
  rw [BtAccount.lotFor, BtAccount.lotFor] at same
  simp only [LadderTest.of, same]

namespace BtSettings
variable {S : BtSettings} {strategy : Strategy} {sig : ZoneSignal} {k : ℕ}

theorem walkFrom_of_agreeTo {balance atr : ℚ} {bars bars' : List Bar} (some : bars ≠ [])
    (agree : AgreeTo k bars bars') {r : ℚ × ℕ × SimExit}
    (walked : S.walkFrom strategy sig balance atr bars = .some r) (ended : Ended k r.2) :
    S.walkFrom strategy sig balance atr bars' = .some r := by
  have plain : ∀ sim : Simulator, .some (sim.lot, sim.run bars) = Option.some r →
      .some (sim.lot, sim.run bars') = Option.some r := by
    intro sim walked
    obtain rfl := Option.some.inj walked
    rw [sim.run_of_agreeTo agree ended]
  have ladder : ∀ t : LadderTest, .some (t.lot, t.result bars) = Option.some r →
      .some (t.lot, t.result bars') = Option.some r := by
    intro t walked
    obtain rfl := Option.some.inj walked
    rw [t.result_of_agreeTo agree ended]
  cases strategy with
  | conservative | conservativeTrial | noSlScale | beRunner | scaleOut | protectedScale
  | trailStop => exact plain _ walked
  | reversalRunner | signalClimber | adaptiveRunner => exact ladder _ walked
  | template name =>
      rw [walkFrom] at walked ⊢
      cases found : S.getEaTemplate name with
      | none =>
          rw [found] at walked
          cases walked
      | some t =>
          rw [found] at walked
          dsimp only at walked ⊢
          cases ran : Backtest.simulate t bars (S.fillPrice sig) sig.direction balance atr with
          | error e =>
              rw [ran] at walked
              cases walked
          | ok res =>
              rw [ran] at walked
              obtain rfl := Option.some.inj walked
              rw [simulate_of_agreeTo t sig.direction (S.fillPrice sig) some agree ran ended]
  | _ => cases walked

/-- A trade that has ended by a bar is the same over all candles that agree up to there. -/
theorem simulate_of_agree {balance : ℚ} {candles candles' : List Candle}
    (agree : AgreeTo k candles candles') {t : BtTrade}
    (made : S.simulate strategy candles balance sig = some t) (settled : t.SettledBy k) :
    S.simulate strategy candles' balance sig = some t := by
  rw [simulate] at made ⊢
  split_ifs at made ⊢ with misplaced
  cases fill : sig.fillBar candles with
  | none =>
      rw [fill] at made
      cases made
  | some f =>
      rw [fill] at made
      obtain ⟨r, walked, rfl⟩ := Option.map_eq_some_iff.mp made
      have bars := agree.map Candle.toBar
      have inside : f < candles.length := by
        obtain ⟨inside, -⟩ := List.findIdx?_eq_some_iff_getElem.mp fill
        exact inside
      have filled : f ≤ k := (Nat.le_add_right f r.2.1).trans settled.1
      have ended : Ended (k - f) r.2 := by
        obtain ⟨le, out⟩ := settled
        exact ⟨Nat.le_sub_of_add_le' le, fun timeout => by
          have := out timeout
          simp only [tradeOf] at this
          omega⟩
      have some : (candles.map Candle.toBar).drop f ≠ [] := by
        rw [← List.length_pos_iff, List.length_drop, List.length_map]
        omega
      rw [fillBar_of_agreeTo agree fill filled]
      dsimp only
      rw [atr14_of_agreeTo bars filled, walkFrom_of_agreeTo some (bars.drop filled) walked ended]
      rfl

theorem fill_of_settled {balance : ℚ} {candles : List Candle} {t : BtTrade}
    (made : S.simulate strategy candles balance sig = some t) (settled : t.SettledBy k) :
    ∃ f ≤ k, sig.fillBar candles = some f := by
  rw [simulate] at made
  split_ifs at made
  cases fill : sig.fillBar candles with
  | none =>
      rw [fill] at made
      cases made
  | some f =>
      rw [fill] at made
      obtain ⟨r, -, rfl⟩ := Option.map_eq_some_iff.mp made
      exact ⟨f, (Nat.le_add_right f r.2.1).trans settled.1, rfl⟩

/-- The lots of the strategy are a share of the account. -/
def sizesByEquity (S : BtSettings) : Strategy → Bool
  | .template name => (S.getEaTemplate name).any fun t => decide (0 < t.riskPct)
  | _ => decide (S.lotsPerTrade ≤ 0) && decide (S.riskPct ≠ 0)

theorem lotFor_of_fixed (fixed : 0 < S.lotsPerTrade ∨ S.riskPct = 0) (b b' slDist : ℚ) :
    (S.account b).lotFor slDist = (S.account b').lotFor slDist := by
  rw [BtAccount.lotFor, BtAccount.lotFor, lotSize, lotSize, account, account]
  rcases fixed with lots | risk
  · rw [if_pos lots, if_pos lots]
  · simp only [risk, mul_zero]

/-- Lots that are not a share of the account do not depend on it. -/
theorem walkFrom_of_fixed (fixed : S.sizesByEquity strategy = false) (b b' atr : ℚ)
    (bars : List Bar) :
    S.walkFrom strategy sig b atr bars = S.walkFrom strategy sig b' atr bars := by
  have same : (decide (S.lotsPerTrade ≤ 0) && decide (S.riskPct ≠ 0)) = false →
      ∀ slDist, (S.account b).lotFor slDist = (S.account b').lotFor slDist := by
    intro settings
    have fixed : 0 < S.lotsPerTrade ∨ S.riskPct = 0 := by
      rw [Bool.and_eq_false_iff] at settings
      simpa using settings
    exact lotFor_of_fixed fixed b b'
  cases strategy with
  | template name =>
      rw [walkFrom, walkFrom]
      cases found : S.getEaTemplate name with
      | none => rfl
      | some t =>
          rw [sizesByEquity, found, Option.any_some, decide_eq_false_iff_not] at fixed
          simp only [Backtest.simulate, Backtest.lotFor, fixed, false_and, if_false]
  | conservative | conservativeTrial | noSlScale | beRunner | scaleOut | protectedScale
  | trailStop =>
      simp only [walkFrom, simulateConservative, simulateCt, simulateNss, simulateBeRunner,
        simulateScaleOut, simulateProtectedScale, simulateTrailStop, same fixed]
  | reversalRunner | signalClimber | adaptiveRunner =>
      simp only [walkFrom, simulateReversalRunner, simulateSignalClimber,
        simulateAdaptiveRunner, LadderTest.of_congr (same fixed _)]
  | _ => rfl

theorem simulate_of_fixed (fixed : S.sizesByEquity strategy = false) (b b' : ℚ)
    (candles : List Candle) :
    S.simulate strategy candles b sig = S.simulate strategy candles b' sig := by
  rw [simulate, simulate]
  split_ifs
  · rfl
  · cases sig.fillBar candles with
    | none => rfl
    | some f =>
        dsimp only
        rw [walkFrom_of_fixed fixed b b']

/-- The condition on a signal: where it is filled by the bar and sized from the account,
every trade booked before it has ended by then. -/
def Clear (S : BtSettings) (strategy : Strategy) (k : ℕ) (candles : List Candle) (s : BtRun)
    (sig : ZoneSignal) : Prop :=
  S.sizesByEquity strategy = true → (sig.fillBar candles).any (fun f => decide (f ≤ k)) = true →
    ∀ t ∈ s.trades, t.SettledBy k

instance (S : BtSettings) (strategy : Strategy) (k : ℕ) (candles : List Candle) (s : BtRun)
    (sig : ZoneSignal) : Decidable (S.Clear strategy k candles s sig) :=
  inferInstanceAs (Decidable (_ → _ → _))

/-- The account after trades in their order. -/
def balanceAfter (S : BtSettings) (trades : List BtTrade) : ℚ :=
  trades.foldl (fun balance t => max (balance + t.pnlUsd) 1) S.startingBalance

/-- Two runs that a bar does not tell apart. -/
structure Alike (S : BtSettings) (k : ℕ) (s s' : BtRun) : Prop where
  settled : s.trades.filter (fun t => decide (t.SettledBy k)) =
    s'.trades.filter (fun t => decide (t.SettledBy k))
  left : s.currentBalance = S.balanceAfter s.trades
  right : s'.currentBalance = S.balanceAfter s'.trades

variable {candles candles' : List Candle} {s s' : BtRun}

theorem alike_start (S : BtSettings) (k : ℕ) : S.Alike k S.start S.start := ⟨rfl, rfl, rfl⟩

namespace Alike

theorem symm (alike : S.Alike k s s') : S.Alike k s' s :=
  ⟨alike.settled.symm, alike.right, alike.left⟩

/-- With every trade ended, the accounts are the same. -/
theorem balance (alike : S.Alike k s s') (all : ∀ t ∈ s.trades, t.SettledBy k)
    (all' : ∀ t ∈ s'.trades, t.SettledBy k) : s.currentBalance = s'.currentBalance := by
  have same := alike.settled
  rw [List.filter_eq_self.mpr fun t mem => decide_eq_true (all t mem),
    List.filter_eq_self.mpr fun t mem => decide_eq_true (all' t mem)] at same
  rw [alike.left, alike.right, same]

theorem simulate (alike : S.Alike k s s') (agree : AgreeTo k candles candles')
    (clear : S.Clear strategy k candles s sig) (clear' : S.Clear strategy k candles' s' sig)
    {t : BtTrade} (made : S.simulate strategy candles s.currentBalance sig = some t)
    (settled : t.SettledBy k) :
    S.simulate strategy candles' s'.currentBalance sig = some t := by
  have kept := simulate_of_agree agree made settled
  cases sized : S.sizesByEquity strategy with
  | false => rwa [simulate_of_fixed sized _ s.currentBalance]
  | true =>
      obtain ⟨f, le, fill⟩ := fill_of_settled made settled
      have fill' := fillBar_of_agreeTo agree fill le
      have same := alike.balance (clear sized (by simp [fill, le]))
        (clear' sized (by simp [fill', le]))
      rwa [← same]

end Alike

theorem step_trades (s : BtRun) :
    (S.step strategy candles s sig).trades =
      s.trades ++ (S.simulate strategy candles s.currentBalance sig).toList := by
  rw [step]
  cases S.simulate strategy candles s.currentBalance sig with
  | none => rw [Option.toList_none, List.append_nil]
  | some t => rfl

theorem step_balance (at_ : s.currentBalance = S.balanceAfter s.trades) :
    (S.step strategy candles s sig).currentBalance =
      S.balanceAfter (S.step strategy candles s sig).trades := by
  rw [step]
  cases S.simulate strategy candles s.currentBalance sig with
  | none => exact at_
  | some t => rw [balanceAfter, List.foldl_append, ← balanceAfter, ← at_]; rfl

theorem Alike.step (alike : S.Alike k s s') (agree : AgreeTo k candles candles')
    (clear : S.Clear strategy k candles s sig) (clear' : S.Clear strategy k candles' s' sig) :
    S.Alike k (S.step strategy candles s sig) (S.step strategy candles' s' sig) where
  settled := by
    have trade : (S.simulate strategy candles s.currentBalance sig).filter
          (fun t => decide (t.SettledBy k)) =
        (S.simulate strategy candles' s'.currentBalance sig).filter
          (fun t => decide (t.SettledBy k)) := by
      apply Option.ext
      intro t
      rw [Option.filter_eq_some_iff, Option.filter_eq_some_iff, decide_eq_true_iff]
      constructor
      · rintro ⟨made, settled⟩
        exact ⟨alike.simulate agree clear clear' made settled, settled⟩
      · rintro ⟨made, settled⟩
        exact ⟨alike.symm.simulate agree.symm clear' clear made settled, settled⟩
    rw [step_trades, step_trades, List.filter_append, List.filter_append, alike.settled,
      ← Option.toList_filter, ← Option.toList_filter, trade]
  left := step_balance alike.left
  right := step_balance alike.right

/-- Two backtests over candles that agree up to a bar. If in neither of them a trade is sized
from an account with a trade on it that has not ended by the bar, then the trades that close
by the bar are the same. -/
theorem no_look_ahead (S : BtSettings) (strategies : List Strategy) (signals : List ZoneSignal)
    (candles candles' : List Candle) (k : ℕ) (agree : AgreeTo k candles candles')
    (clear : ∀ strategy ∈ strategies,
      Meets (S.step strategy candles) (S.Clear strategy k candles) S.start signals)
    (clear' : ∀ strategy ∈ strategies,
      Meets (S.step strategy candles') (S.Clear strategy k candles') S.start signals) :
    (S.runBacktest candles signals strategies).map (fun r =>
        (r.1, r.2.filter fun t => decide (t.ClosedBy k))) =
      (S.runBacktest candles' signals strategies).map (fun r =>
        (r.1, r.2.filter fun t => decide (t.ClosedBy k))) := by
  rw [runBacktest, runBacktest, List.map_map, List.map_map]
  refine List.map_congr_left fun strategy mem => ?_
  have alike : S.Alike k (signals.foldl (S.step strategy candles) S.start)
      (signals.foldl (S.step strategy candles') S.start) :=
    foldl_related (fun _ _ _ alike clear clear' => alike.step agree clear clear')
      (alike_start S k) (clear strategy mem) (clear' strategy mem)
  have closed : ∀ trades : List BtTrade,
      (trades.filter fun t => decide (t.SettledBy k)).filter (fun t => decide (t.ClosedBy k)) =
        trades.filter fun t => decide (t.ClosedBy k) := by
    intro trades
    rw [List.filter_filter]
    refine List.filter_congr fun t _ => ?_
    rw [Bool.and_eq_left_iff_imp]
    exact fun closed => decide_eq_true (of_decide_eq_true closed).settledBy
  simp only [Function.comp_apply, tradesOf]
  rw [← closed, alike.settled, closed]

/-- The defaults of `run_backtest`, but for the starting balance. -/
def onePercent : BtSettings where
  getEaTemplate _ := none
  startingBalance := 100000
  riskPct := 1
  spreadPts := 2 / 5
  lotsPerTrade := 0
  commissionPerLot := 7

def zoneBuy (signalId : String) (createdTs stopLoss : ℚ) : ZoneSignal where
  direction := .buy
  stopLoss := stopLoss
  tps := some 2100 :: List.replicate 7 none
  eight := rfl
  signalId := signalId
  entryLow := 1999
  entryHigh := 2001
  createdTs := createdTs

/-- Two buys, the second with the nearer stop, which the third candle takes. -/
def twoBuys : List ZoneSignal := [zoneBuy "a" 0 1985, zoneBuy "b" 300 1990]

def untilStop : List Candle :=
  [⟨⟨2001, 1999, 2000⟩, 10800⟩, ⟨⟨2001, 1999, 2000⟩, 11100⟩, ⟨⟨2000, 1989, 1990⟩, 11400⟩]

def thenFall : Candle := ⟨⟨1990, 1980, 1981⟩, 11700⟩
def thenRise : Candle := ⟨⟨2101, 1990, 2100⟩, 11700⟩

theorem looks_ahead :
    ¬ ∀ (S : BtSettings) (strategies : List Strategy) (signals : List ZoneSignal)
      (candles candles' : List Candle) (k : ℕ),
      signals.Pairwise (fun a b => a.createdTs ≤ b.createdTs) → AgreeTo k candles candles' →
      (S.runBacktest candles signals strategies).map (fun r =>
          (r.1, r.2.filter fun t => decide (t.ClosedBy k))) =
        (S.runBacktest candles' signals strategies).map (fun r =>
          (r.1, r.2.filter fun t => decide (t.ClosedBy k))) := by
  intro all
  have same := all onePercent [.beRunner] twoBuys (untilStop ++ [thenFall])
    (untilStop ++ [thenRise]) 2 (by decide) (.append (by decide) _ _)
  exact absurd same (by decide +kernel)

/-- The second buy comes when the first is closed. -/
theorem no_look_ahead_in_turn :
    (onePercent.runBacktest (untilStop ++ [thenFall])
        [zoneBuy "a" 0 1990, zoneBuy "b" 900 1985] [.beRunner]).map
        (fun r => (r.1, r.2.filter fun t => decide (t.ClosedBy 2))) =
      (onePercent.runBacktest (untilStop ++ [thenRise])
        [zoneBuy "a" 0 1990, zoneBuy "b" 900 1985] [.beRunner]).map
        (fun r => (r.1, r.2.filter fun t => decide (t.ClosedBy 2))) :=
  no_look_ahead onePercent [.beRunner] _ _ _ 2 (.append (by decide) _ _)
    (List.forall_mem_singleton.mpr (by decide +kernel))
    (List.forall_mem_singleton.mpr (by decide +kernel))

end BtSettings

end Backtest
end Forex
