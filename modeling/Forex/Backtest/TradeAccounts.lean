import Forex.Backtest.LadderAccounting
import Forex.Backtest.SimulatorBooks

/-!
The accounts of the trades of `_simulate`. An admitted signal has its stop behind the
fill, so that each of the ten simulators starts its book in order and keeps it.
-/

namespace Forex
namespace Backtest
open Support

namespace BtSettings
variable (S : BtSettings) (strategy : Strategy)

/-- The book of a walk; none for the templates, which have books of their own, and for a
strategy that has no simulator. -/
def bookFrom (sig : ZoneSignal) (balance : ℚ) (bars : List Bar) : Option WalkBook :=
  let account := S.account balance
  let price := S.fillPrice sig
  let stated := sig.slDist price
  let emergency := stated * (3 / 2)
  match strategy with
  | .conservative =>
      some ((simulateConservative sig price account).walkBook
        (fun v bar =>
          trailAfterTp1 sig price 3 bar (conservativeFirst sig price (account.lotFor 5) bar v))
        (conservativeParts sig price (account.lotFor 5)) 5 bars)
  | .conservativeTrial =>
      some ((simulateCt sig price account).walkBook
        (fun v bar => ctEnd sig price (account.lotFor 10) bar (ctLevels.drop v.tpIdx) v)
        (fun v => ctParts sig price (account.lotFor 10) v.tpIdx) 10 bars)
  | .noSlScale =>
      some ((simulateNss sig price account).walkBook
        (fun v bar =>
          nssSecond sig price (account.lotFor emergency) bar
            (nssFirst sig price (account.lotFor emergency) bar v))
        (nssParts sig price (account.lotFor emergency)) emergency bars)
  | .beRunner =>
      some ((simulateBeRunner sig price account).walkBook
        (fun v bar => beRunnerBar sig price bar v) (fun _ => []) stated bars)
  | .scaleOut =>
      some ((simulateScaleOut sig price account).walkBook
        (fun v bar =>
          scaleOutSecond sig price (account.lotFor stated) bar
            (scaleOutFirst sig price (account.lotFor stated) bar v))
        (scaleOutParts sig price (account.lotFor stated)) stated bars)
  | .protectedScale =>
      some ((simulateProtectedScale sig price account).walkBook
        (fun v bar => protectedScaleBar sig price bar v) (fun _ => []) stated bars)
  | .trailStop =>
      some ((simulateTrailStop sig price account).walkBook
        (fun v bar => trailAfterTp1 sig price 5 bar (toBreakEven sig price bar v))
        (fun _ => []) stated bars)
  | .reversalRunner => some ((simulateReversalRunner sig.toBtSignal price account).walkBook bars)
  | .signalClimber => some ((simulateSignalClimber sig.toBtSignal price account).walkBook bars)
  | .adaptiveRunner => some ((simulateAdaptiveRunner sig.toBtSignal price account).walkBook bars)
  | _ => none

section Admitted
variable {S} {strategy} {sig : ZoneSignal}

/-- A stop outside the zone is behind the fill. -/
theorem behind_of_placed (spread : 0 ≤ S.spreadPts) (zone : sig.entryLow ≤ sig.entryHigh)
    (placed : sig.misplaced = false) :
    sig.direction.sign * sig.stopLoss ≤ sig.direction.sign * S.fillPrice sig := by
  rw [fillPrice, ZoneSignal.entryMid]
  rw [ZoneSignal.misplaced] at placed
  cases direction : sig.direction with
  | buy =>
      rw [direction] at placed
      have below := not_le.mp (of_decide_eq_false placed)
      rw [Direction.sign]
      linarith
  | sell =>
      rw [direction] at placed
      have above := not_le.mp (of_decide_eq_false placed)
      rw [Direction.sign]
      linarith

/-- The stop of an admitted signal is its distance behind the fill. -/
theorem stopLoss_eq {price : ℚ}
    (behind : sig.direction.sign * sig.stopLoss ≤ sig.direction.sign * price) :
    sig.stopLoss = price - sig.direction.sign * sig.slDist price := by
  rw [ZoneSignal.slDist]
  cases direction : sig.direction with
  | buy =>
      rw [direction, Direction.sign] at behind
      rw [abs_of_nonneg (by linarith), Direction.sign]
      ring
  | sell =>
      rw [direction, Direction.sign] at behind
      rw [abs_of_nonpos (by linarith), Direction.sign]
      ring

theorem walkFrom_accounts {balance atr : ℚ} {bars : List Bar}
    (behind : strategy ≠ .conservative → strategy ≠ .conservativeTrial →
      sig.direction.sign * sig.stopLoss ≤ sig.direction.sign * S.fillPrice sig)
    (builtin : ∀ name, strategy ≠ .template name) (some_ : bars ≠ [])
    (valid : ∀ bar ∈ bars, bar.Valid) {walked : ℚ × ℕ × SimExit}
    (made : S.walkFrom strategy sig balance atr bars = some walked) :
    ∃ book, S.bookFrom strategy sig balance bars = some book ∧
      book.Accounts sig.direction (S.fillPrice sig) walked.1 walked.2.2 := by
  have stated : 0 ≤ sig.slDist (S.fillPrice sig) := abs_nonneg _
  cases strategy with
  | template name => exact absurd rfl (builtin name)
  | conservative =>
      obtain rfl := Option.some.inj made
      exact ⟨_, rfl, (conservativeBook sig _ _).run_accounts rfl (by norm_num) some_ valid⟩
  | conservativeTrial =>
      obtain rfl := Option.some.inj made
      exact ⟨_, rfl, (ctBook sig _ _).run_accounts rfl (by norm_num) some_ valid⟩
  | noSlScale =>
      obtain rfl := Option.some.inj made
      exact ⟨_, rfl, (nssBook sig _ _).run_accounts rfl (by linarith) some_ valid⟩
  | beRunner =>
      obtain rfl := Option.some.inj made
      have behind := behind (by decide) (by decide)
      exact ⟨_, rfl, (beRunnerBook _ behind).run_accounts (stopLoss_eq behind) stated some_ valid⟩
  | scaleOut =>
      obtain rfl := Option.some.inj made
      have behind := behind (by decide) (by decide)
      exact ⟨_, rfl, (scaleOutBook _ behind).run_accounts (stopLoss_eq behind) stated some_ valid⟩
  | protectedScale =>
      obtain rfl := Option.some.inj made
      have behind := behind (by decide) (by decide)
      exact ⟨_, rfl,
        (protectedScaleBook _ behind).run_accounts (stopLoss_eq behind) stated some_ valid⟩
  | trailStop =>
      obtain rfl := Option.some.inj made
      have behind := behind (by decide) (by decide)
      exact ⟨_, rfl, (trailStopBook _ behind).run_accounts (stopLoss_eq behind) stated some_ valid⟩
  | reversalRunner | signalClimber | adaptiveRunner =>
      obtain rfl := Option.some.inj made
      exact ⟨_, rfl, LadderTest.result_accounts some_ valid⟩
  | _ => cases made

end Admitted

/-- The trade of an admitted signal has its accounts in order, over all candles. -/
theorem simulate_accounts (candles : List Candle) (balance : ℚ) (sig : ZoneSignal) (t : BtTrade)
    (spread : 0 ≤ S.spreadPts) (zone : sig.entryLow ≤ sig.entryHigh)
    (valid : ∀ c ∈ candles, c.toBar.Valid) (builtin : ∀ name, strategy ≠ .template name)
    (made : S.simulate strategy candles balance sig = some t) :
    ∃ fill exit book,
      sig.fillBar candles = some fill ∧
      S.walkFrom strategy sig balance (atr14 (candles.map Candle.toBar) fill)
        ((candles.map Candle.toBar).drop fill) = some (t.lotSize, t.holdBars, exit) ∧
      t = S.tradeOf strategy sig fill (t.lotSize, t.holdBars, exit) ∧
      S.bookFrom strategy sig balance ((candles.map Candle.toBar).drop fill) = some book ∧
      book.Accounts sig.direction t.fillPrice t.lotSize exit := by
  rw [simulate] at made
  split_ifs at made with misplaced
  cases filled : sig.fillBar candles with
  | none =>
      rw [filled] at made
      cases made
  | some fill =>
      rw [filled] at made
      obtain ⟨⟨lot, hold, exit⟩, walked, rfl⟩ := Option.map_eq_some_iff.mp made
      have behind : strategy ≠ .conservative → strategy ≠ .conservativeTrial →
          sig.direction.sign * sig.stopLoss ≤ sig.direction.sign * S.fillPrice sig := by
        intro plain trial
        refine behind_of_placed spread zone (eq_false_of_ne_true fun wrong => ?_)
        exact misplaced ⟨plain, trial, wrong⟩
      have some_ : (candles.map Candle.toBar).drop fill ≠ [] := by
        obtain ⟨inside, -⟩ := List.findIdx?_eq_some_iff_getElem.mp filled
        rw [← List.length_pos_iff, List.length_drop, List.length_map]
        omega
      have validBars : ∀ bar ∈ (candles.map Candle.toBar).drop fill, bar.Valid := by
        intro bar mem
        obtain ⟨c, candle, rfl⟩ := List.mem_map.mp (List.mem_of_mem_drop mem)
        exact valid c candle
      obtain ⟨book, kept, accounts⟩ := walkFrom_accounts behind builtin some_ validBars walked
      exact ⟨fill, exit, book, rfl, walked, rfl, kept, accounts⟩

def onePercentRisk : BtSettings where
  getEaTemplate _ := none
  startingBalance := 10000
  riskPct := 1
  spreadPts := 2 / 5
  lotsPerTrade := 0
  commissionPerLot := 7

def threeTps : ZoneSignal where
  direction := .buy
  stopLoss := 1990
  tps := [some 2010, some 2020, some 2040, none, none, none, none, none]
  eight := rfl
  signalId := "a"
  entryLow := 1999
  entryHigh := 2001
  createdTs := 0

/-- Two levels, a bar after the other, and then back to the fill. -/
def upAndBack : List Candle :=
  [⟨⟨2001, 1999, 2000⟩, 10800⟩, ⟨⟨2012, 2000, 2011⟩, 11100⟩, ⟨⟨2021, 2011, 2019⟩, 11400⟩,
    ⟨⟨2019, 1999, 2000⟩, 11700⟩]

def scaledOut : BtTrade where
  signalId := "a"
  strategy := .scaleOut
  direction := .buy
  fillPrice := 10001 / 5
  fillBarIdx := 0
  lotSize := 1 / 10
  pnlPts := 0
  pnlUsd := 979 / 10
  commission := 7 / 10
  closePrice := 10001 / 5
  closeBarIdx := 3
  outcome := .tp1Only
  holdBars := 3

theorem simulate_accounts_scaleOut :
    onePercentRisk.simulate .scaleOut upAndBack 10000 threeTps = some scaledOut ∧
      ∃ fill exit book,
        threeTps.fillBar upAndBack = some fill ∧
        onePercentRisk.walkFrom .scaleOut threeTps 10000
          (atr14 (upAndBack.map Candle.toBar) fill)
          ((upAndBack.map Candle.toBar).drop fill) = some (1 / 10, 3, exit) ∧
        scaledOut = onePercentRisk.tradeOf .scaleOut threeTps fill (1 / 10, 3, exit) ∧
        onePercentRisk.bookFrom .scaleOut threeTps 10000
          ((upAndBack.map Candle.toBar).drop fill) = some book ∧
        book.Accounts .buy (10001 / 5) (1 / 10) exit :=
  have made : onePercentRisk.simulate .scaleOut upAndBack 10000 threeTps = some scaledOut := by
    decide +kernel
  have valid : ∀ c ∈ upAndBack, c.toBar.Valid := by
    simp only [upAndBack, List.forall_mem_cons]
    refine ⟨⟨?_, ?_⟩, ⟨?_, ?_⟩, ⟨?_, ?_⟩, ⟨?_, ?_⟩, List.forall_mem_nil _⟩ <;> norm_num
  ⟨made, simulate_accounts onePercentRisk .scaleOut upAndBack 10000 threeTps scaledOut
    (by norm_num [onePercentRisk]) (by norm_num [threeTps]) valid (fun _ => nofun) made⟩

end BtSettings
end Backtest
end Forex
