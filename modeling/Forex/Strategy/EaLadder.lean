import Forex.Close.TpLadder
import Forex.Monitor.Dispatch
import Mathlib.Algebra.Order.Floor.Ring
import Mathlib.Data.Rat.Floor

/-!
The ladder that `open_trade` hands to the EA and the ladder of the Python
handler that reclaims the trade: for each level its fraction of the lot, the
position that moves the stop to breakeven, and the rule of the trail behind it.
-/

namespace Forex

def maxTp : ℕ := 8

/-- `int` of a float. -/
def truncated (q : ℚ) : ℤ := if 0 ≤ q then ⌊q⌋ else ⌈q⌉

/-- `get_strategy_params` of the strategies whose ladder reads it. -/
structure LadderParams where
  climberBeAtPos : ℚ
  limitBeAtPos : ℚ
  runnerReservePct : ℚ

inductive TrailMode where
  | prevTp
  | midpointLag2
deriving DecidableEq

/-- The branches of `ManageLadder`, after the level `be_at_pos`. -/
def TrailMode.slRule : TrailMode → ℕ → List (ℕ × ℚ) → ℚ
  | .prevTp => trailToPrevious
  | .midpointLag2 => adaptiveRunner2SlRule

structure LadderPlan where
  /-- The numbers of the levels with the fractions closed there. -/
  fractions : List (ℕ × ℚ)
  beAtPos : ℕ
  slRule : ℕ → List (ℕ × ℚ) → ℚ

def planFor (tps : List (ℕ × ℚ)) (table : List (ℕ × List ℚ)) (beAtPos : ℕ)
    (slRule : ℕ → List (ℕ × ℚ) → ℚ) : Option LadderPlan :=
  if tps = [] then none
  else some ⟨(tps.map Prod.fst).zip (pctsFor table tps.length), beAtPos, slRule⟩

def eaLadderPcts : Strategy → Option (List (ℕ × List ℚ))
  | .signalClimber => some climberPcts
  | .reversalRunner => some gdvrPcts
  | .adaptiveRunner => some gdvrPcts
  | .adaptiveRunner2 => some gdvrPcts
  | _ => none

def eaLadderBeAtPos : Strategy → ℕ
  | .signalClimber => 0
  | .reversalRunner => 1
  | .adaptiveRunner => 0
  | .adaptiveRunner2 => 1
  | _ => 0

def eaLadderTrailMode : Strategy → TrailMode
  | .adaptiveRunner2 => .midpointLag2
  | _ => .prevTp

/-- `_tps`: the levels that are not `None`. -/
def definedTps (tps : List (Option ℚ)) : List (ℕ × ℚ) :=
  (tps.zipIdx 1).filterMap fun p => p.1.map fun price => (p.2, price)

/-- The ladder arguments of `open_trade`; without fractions it sends neither
the position nor the trail mode. -/
def eaLadder (strategy : Strategy) (tps : List (Option ℚ)) : Option LadderPlan :=
  match eaLadderPcts strategy with
  | none => none
  | some table =>
      planFor (definedTps tps) table (eaLadderBeAtPos strategy)
        (eaLadderTrailMode strategy).slRule

/-- The rule each handler calls `run_tp_ladder` with. -/
def ladderRule (params : LadderParams) (trade : Trade) : Strategy → Option LadderRule
  | .signalClimber => some (signalClimberRule (truncated params.climberBeAtPos).toNat)
  | .reversalRunner => some reversalRunnerRule
  | .adaptiveRunner => some adaptiveRunnerRule
  | .adaptiveRunner2 => some adaptiveRunner2Rule
  | .limitRunner =>
      some (limitRunnerRule trade (truncated params.limitBeAtPos).toNat params.runnerReservePct)
  | _ => none

def pythonLadder (params : LadderParams) (strategy : Strategy) (trade : Trade) :
    Option LadderPlan :=
  match ladderRule params trade strategy with
  | none => none
  | some rule => planFor (ladderTps trade) rule.pcts rule.beAtPos rule.slRule

def onProfitSide (trade : Trade) (price : ℚ) : Bool :=
  match trade.direction with
  | .buy => decide (trade.entryPrice < price)
  | .sell => decide (price < trade.entryPrice)

/-- No defined level is behind the entry, and Signal Climber, when it has a
level, still has its breakeven at TP1. Limit Runner, for which nothing is sent,
has no level ahead of the entry. -/
def SharesLadder (params : LadderParams) (trade : Trade) : Strategy → Prop
  | .signalClimber =>
      (∀ p ∈ definedTps trade.tps, onProfitSide trade p.2 = true) ∧
        (definedTps trade.tps = [] ∨ params.climberBeAtPos < 2)
  | .limitRunner => ∀ p ∈ definedTps trade.tps, onProfitSide trade p.2 = false
  | _ => ∀ p ∈ definedTps trade.tps, onProfitSide trade p.2 = true

theorem ladderTps_eq (trade : Trade) :
    ladderTps trade = (definedTps trade.tps).filter fun p => onProfitSide trade p.2 := rfl

theorem length_definedTps_le (tps : List (Option ℚ)) : (definedTps tps).length ≤ tps.length := by
  have fewer := List.length_filterMap_le
    (fun p : Option ℚ × ℕ => p.1.map fun price => (p.2, price)) (tps.zipIdx 1)
  rwa [List.length_zipIdx] at fewer

/-- Each table has a fraction for every one of up to eight levels. -/
def FullTable (table : List (ℕ × List ℚ)) : Prop :=
  ∀ n ≤ maxTp, n ≠ 0 → (pctsFor table n).length = n

instance (table : List (ℕ × List ℚ)) : Decidable (FullTable table) :=
  inferInstanceAs (Decidable (∀ n ≤ 8, n ≠ 0 → (pctsFor table n).length = n))

theorem fullTable_climber : FullTable climberPcts := by decide

theorem fullTable_gdvr : FullTable gdvrPcts := by decide

theorem planFor_nil (table : List (ℕ × List ℚ)) (beAtPos : ℕ)
    (slRule : ℕ → List (ℕ × ℚ) → ℚ) : planFor [] table beAtPos slRule = none := rfl

theorem map_fst_fractions {table : List (ℕ × List ℚ)} (full : FullTable table)
    {tps : List (ℕ × ℚ)} (some : tps ≠ []) (few : tps.length ≤ maxTp) :
    ((tps.map Prod.fst).zip (pctsFor table tps.length)).map Prod.fst = tps.map Prod.fst := by
  apply List.map_fst_zip
  rw [List.length_map, full tps.length few (by simpa using some)]

/-- Two plans from one table that agree have the same levels. -/
theorem planFor_filter_iff {table : List (ℕ × List ℚ)} (full : FullTable table)
    {tps : List (ℕ × ℚ)} (few : tps.length ≤ maxTp) (ahead : ℕ × ℚ → Bool) (be be' : ℕ)
    (slRule : ℕ → List (ℕ × ℚ) → ℚ) :
    planFor tps table be slRule = planFor (tps.filter ahead) table be' slRule ↔
      (∀ p ∈ tps, ahead p = true) ∧ (tps = [] ∨ be = be') := by
  constructor
  · intro same
    by_cases none : tps = []
    · rw [none]
      exact ⟨fun p mem => absurd mem List.not_mem_nil, .inl rfl⟩
    · by_cases noneAhead : tps.filter ahead = []
      · rw [noneAhead, planFor_nil, planFor, if_neg none] at same
        cases same
      · rw [planFor, planFor, if_neg none, if_neg noneAhead] at same
        have plan := Option.some.inj same
        have numbers := congrArg (fun plan => plan.fractions.map Prod.fst) plan
        dsimp only at numbers
        rw [map_fst_fractions full none few, map_fst_fractions full noneAhead
          ((List.length_filter_le ahead tps).trans few)] at numbers
        have length := congrArg List.length numbers
        rw [List.length_map, List.length_map] at length
        have all := List.length_filter_eq_length_iff.mp length.symm
        exact ⟨all, .inr (congrArg LadderPlan.beAtPos plan)⟩
  · intro agree
    rw [List.filter_eq_self.mpr agree.1]
    cases agree.2 with
    | inl none => rw [none, planFor_nil, planFor_nil]
    | inr be => rw [be]

theorem planFor_eq_none {tps : List (ℕ × ℚ)} {table : List (ℕ × List ℚ)} {be : ℕ}
    {slRule : ℕ → List (ℕ × ℚ) → ℚ} : planFor tps table be slRule = none ↔ tps = [] := by
  rw [planFor]
  split
  · next none => exact ⟨fun _ => none, fun _ => rfl⟩
  · next some => exact ⟨fun h => (nomatch h), fun h => absurd h some⟩

/-- `max(int(be_at_pos) - 1, 0)` is the first position below 2 only. -/
theorem truncated_sub_one_eq_zero {q : ℚ} : 0 = (truncated q).toNat - 1 ↔ q < 2 := by
  rw [truncated]
  split
  · next h =>
      have floor := Int.floor_lt (a := q) (z := 2)
      push_cast at floor
      rw [← floor]
      omega
  · next h =>
      have negative : q < 0 := not_le.mp h
      have ceil : ⌈q⌉ ≤ 0 := Int.ceil_le.mpr (by exact_mod_cast negative.le)
      constructor
      · intro _
        exact negative.trans (by norm_num)
      · intro _
        omega

/-- The EA and the Python handler run the same ladder exactly when no level of
the trade is behind its entry and the breakeven of Signal Climber is at TP1;
they never do so for a Limit Runner with a level ahead of its entry. -/
theorem ea_runs_python_ladder_iff (params : LadderParams) (strategy : Strategy) (trade : Trade)
    (ladder : strategy ∈ tpLadderStrategies) (columns : trade.tps.length = maxTp) :
    eaLadder strategy trade.tps = pythonLadder params strategy trade ↔
      SharesLadder params trade strategy := by
  have few : (definedTps trade.tps).length ≤ maxTp := columns ▸ length_definedTps_le trade.tps
  -- the four strategies of the tables differ in their table and position only
  have tables : ∀ {table : List (ℕ × List ℚ)} (be be' : ℕ) (slRule : ℕ → List (ℕ × ℚ) → ℚ),
      FullTable table →
      (planFor (definedTps trade.tps) table be slRule =
          planFor (ladderTps trade) table be' slRule ↔
        (∀ p ∈ definedTps trade.tps, onProfitSide trade p.2 = true) ∧
          (definedTps trade.tps = [] ∨ be = be')) := by
    intro table be be' slRule full
    rw [ladderTps_eq]
    exact planFor_filter_iff full few (fun p => onProfitSide trade p.2) be be' slRule
  simp only [tpLadderStrategies, List.mem_cons, List.not_mem_nil, or_false] at ladder
  obtain rfl | rfl | rfl | rfl | rfl := ladder
  · rw [SharesLadder, ← truncated_sub_one_eq_zero]
    exact tables 0 _ trailToPrevious fullTable_climber
  · refine (tables 1 1 trailToPrevious fullTable_gdvr).trans ?_
    exact and_iff_left (.inr rfl)
  · refine (tables 0 0 trailToPrevious fullTable_gdvr).trans ?_
    exact and_iff_left (.inr rfl)
  · refine (tables 1 1 adaptiveRunner2SlRule fullTable_gdvr).trans ?_
    exact and_iff_left (.inr rfl)
  · have empty := List.filter_eq_nil_iff (p := fun p => onProfitSide trade p.2)
      (l := definedTps trade.tps)
    rw [← ladderTps_eq] at empty
    simp only [Bool.not_eq_true] at empty
    rw [SharesLadder, ← empty]
    exact eq_comm.trans planFor_eq_none

def eightTps (direction : Direction) (tps : List (Option ℚ)) : Trade :=
  .fresh "t1" "s1" (some 7) direction 2000 (1 / 10) 1990 tps 0 .adaptiveRunner .ea false none none

theorem ea_runs_python_ladder_ahead :
    eaLadder .adaptiveRunner [some 2005, none, some 2010, none, none, none, none, none] =
      pythonLadder ⟨1, 1, 25⟩ .adaptiveRunner
        (eightTps .buy [some 2005, none, some 2010, none, none, none, none, none]) :=
  (ea_runs_python_ladder_iff ⟨1, 1, 25⟩ .adaptiveRunner
    (eightTps .buy [some 2005, none, some 2010, none, none, none, none, none])
    (by decide) rfl).mpr (by
      rw [SharesLadder]
      · decide
      · exact Strategy.noConfusion
      · exact Strategy.noConfusion)

/-- Signal Climber with its breakeven set to TP2 goes to breakeven at TP1 under
the EA. -/
theorem ea_keeps_climber_breakeven :
    ¬ ∀ (params : LadderParams) (strategy : Strategy) (trade : Trade),
      strategy ∈ tpLadderStrategies → trade.tps.length = maxTp →
        eaLadder strategy trade.tps = pythonLadder params strategy trade := by
  intro all
  have same := all ⟨2, 1, 25⟩ .signalClimber
    (eightTps .buy [some 2005, some 2010, none, none, none, none, none, none]) (by decide) rfl
  have position := congrArg (fun plan => plan.map LadderPlan.beAtPos) same
  revert position
  decide +kernel

/-- A first level behind the fill: the EA splits the lot over two levels, of
which Python sees one. -/
example :
    (eaLadder .adaptiveRunner
        [some 1999, some 2010, none, none, none, none, none, none]).map LadderPlan.fractions =
      some [(1, 3 / 10), (2, 7 / 10)] ∧
    (pythonLadder ⟨1, 1, 25⟩ .adaptiveRunner
        (eightTps .buy [some 1999, some 2010, none, none, none, none, none, none])).map
        LadderPlan.fractions = some [(2, 1)] := by
  decide +kernel

end Forex
