import Forex.Broker.Sides
import Forex.Reversal.Profile
import Forex.Reversal.UnicornSetup
import Forex.Telegram.Levels

/-!
The levels that `build_signal` returns. The zone is fixed by the level, the stop and the
targets come from fixed distances or from the volatility; a small multiple of a small
ATR does not reach the edge of the zone.
-/

namespace Forex
open Support

/-- What `build_signal` returns of the levels of a signal. -/
structure SignalLevels where
  entryLow : ℚ
  entryHigh : ℚ
  stopLoss : ℚ
  slDist : ℚ
  rrTp1 : ℚ
  tps : List ℚ
deriving DecidableEq, Repr

namespace CandidateLevel
variable (level : CandidateLevel) (direction : Direction) (context : BuildContext)

/-- The middle of the zone, in cents. -/
def entryMid : ℚ :=
  let zone := level.entryZone ((unlessFalsy context.atr).getD 8) direction
  roundTo 2 ((zone.1 + zone.2) / 2)

/-- `_fitted`. -/
def fitted : Option (ℚ × List ℚ) :=
  if level.isGd2 then none else atrBarriers context.atr context.atrBarriers

def slDist : ℚ :=
  let zone := level.entryZone ((unlessFalsy context.atr).getD 8) direction
  let byScore := slDistanceForLevel (level.score.getD (1 / 2))
  if level.isGd2 then max |zone.2 - zone.1| byScore
  else ((level.fitted context).map Prod.fst).getD byScore

/-- The levels of `build_signal`. -/
def signalLevels : SignalLevels :=
  let zone := level.entryZone ((unlessFalsy context.atr).getD 8) direction
  let mid := level.entryMid direction context
  let dist := level.slDist direction context
  let tps :=
    if level.isGd2 then calculateGd2TpStructure direction mid dist
    else calculateTpCascade direction mid ((level.fitted context).map Prod.snd)
  { entryLow := zone.1
    entryHigh := zone.2
    stopLoss := roundTo 2 (mid - direction.sign * dist)
    slDist := dist
    rrTp1 := if 0 < dist then roundTo 2 (|tps.headD 0 - mid| / dist) else 0
    tps := tps }

/-- They are the levels that the books store. -/
theorem buildSignal_levels (aliases : ChannelAliases) (signalRef : String) (now : ℚ)
    (activeStrategy : String) :
    let sig := level.buildSignal aliases direction context signalRef now activeStrategy
    let levels := level.signalLevels direction context
    sig.entryLow = levels.entryLow ∧ sig.entryHigh = levels.entryHigh ∧
      sig.stopLoss = levels.stopLoss ∧ sig.tp1 = levels.tps.headD 0 ∧ sig.tp2 = levels.tps[1]? ∧
      sig.tp3 = levels.tps[2]? ∧ sig.tp4 = levels.tps[3]? ∧ sig.tp7 = levels.tps[6]? ∧
      sig.tp8 = levels.tps[7]? :=
  ⟨rfl, rfl, rfl, rfl, rfl, rfl, rfl, rfl, rfl⟩

/-- As the detectors give it: a price in cents, and for a unicorn setup a zone in cents
of half a point or more. -/
structure Detected : Prop where
  cents : OnGrid 2 level.price
  zone : level.isGd2 = true → ∃ low high, level.entryZoneLow = some low ∧
    level.entryZoneHigh = some high ∧ OnGrid 2 low ∧ OnGrid 2 high ∧ low + 1 / 2 ≤ high

/-- The candidate of a unicorn setup. -/
def ofSetup (s : Ict.Setup) (score : ℚ) : CandidateLevel :=
  ⟨s.entryMid, some score, some "gd2", some s.zoneLow, some s.zoneHigh⟩

theorem detected_ofSetup {candles : List OhlcCandle} {pools : Option (List Ict.Pool)}
    {s : Ict.Setup} (found : Ict.findUnicornSetup candles pools = some s) (score : ℚ) :
    (ofSetup s score).Detected := by
  obtain ⟨zone, low, high⟩ := Ict.setup_zone found
  have wide := (Ict.degenerate_eq_false.mp (Ict.entryZone_some zone).1).1
  obtain ⟨_, _, _, _, -, -, -, rfl⟩ := Ict.findUnicornSetup_some found
  refine ⟨roundTo_onGrid 2 _, fun _ => ⟨_, _, rfl, rfl, low, high, ?_⟩⟩
  dsimp only at wide ⊢
  linarith

end CandidateLevel

/-- Multiples that the settings admit. -/
structure BarrierConfig.Admitted (cfg : BarrierConfig) : Prop where
  enabled : cfg.enabled = true
  stop : ∃ m, cfg.stopMult = some m ∧ 1 / 5 ≤ m ∧ m ≤ 5
  tp1 : ∃ m, cfg.tp1Mult = some m ∧ 1 / 5 ≤ m ∧ m ≤ 10

/-- An ATR that passes the gate of the engine, and barriers as the settings have them. -/
structure BuildContext.WithinGate (context : BuildContext) : Prop where
  atr : ∃ a, context.atr = some a ∧ 2 ≤ a ∧ a ≤ 80
  barriers : ∀ cfg, context.atrBarriers = some cfg → cfg.Admitted

/-- The middle of the zone, in cents. -/
def SignalLevels.middle (l : SignalLevels) : ℚ := roundTo 2 ((l.entryLow + l.entryHigh) / 2)

/-- A signal as it should be. -/
structure SignalLevels.WellFormed (direction : Direction) (l : SignalLevels) : Prop where
  zone : l.entryLow < l.entryHigh
  stop : direction.behind l.entryLow l.entryHigh l.stopLoss
  targets : l.tps ≠ [] ∧ ∀ tp ∈ l.tps, direction.beyond l.entryLow l.entryHigh tp
  order : l.tps.Pairwise direction.precedes
  ratio : |l.rrTp1 - (|l.tps.headD 0 - l.middle| / l.slDist)| ≤ 1 / 200
  distance : 0 < l.slDist ∧ |l.slDist - (|l.stopLoss - l.middle|)| ≤ 1 / 200

/-- A distance from the middle of the zone that is rounded past an edge. -/
def Clears (reach halfWidth edge : ℚ) : Prop :=
  halfWidth + 1 / 200 < reach ∨
    reach = halfWidth + 1 / 200 ∧ ∃ k : ℤ, edge = (2 * k + 1) / 100

/-- Half the width of the zone around a level. -/
def halfWidth (atr : ℚ) : ℚ := if 15 < atr then 2 else 3 / 2

/-- The edges of the zone of a level, on the losing side and on the winning side. -/
def losingEdge (price : ℚ) (direction : Direction) : ℚ := price - direction.sign

def winningEdge (price atr : ℚ) (direction : Direction) : ℚ :=
  price + direction.sign * (2 * halfWidth atr - 1)

/-- The multiples of the ATR reach past the edges of the zone, or nothing is sized
from it. -/
def BarriersClear (level : CandidateLevel) (direction : Direction) (context : BuildContext) :
    Prop :=
  level.isGd2 = false → ∀ atr cfg stopMult tp1Mult, context.atr = some atr →
    context.atrBarriers = some cfg → cfg.stopMult = some stopMult → cfg.tp1Mult = some tp1Mult →
      Clears (atr * stopMult) (halfWidth atr) (losingEdge level.price direction) ∧
        Clears (atr * tp1Mult) (halfWidth atr) (winningEdge level.price atr direction)

section Rounding
variable {direction : Direction} {mid reach width edge : ℚ}

/-- Past an edge in cents, after rounding. -/
theorem precedes_round_iff (grid : OnGrid 2 edge) (place : edge = mid + direction.sign * width) :
    direction.precedes edge (roundTo 2 (mid + direction.sign * reach)) ↔
      Clears reach width edge := by
  obtain ⟨k, rfl⟩ := grid
  have odd : (∃ j : ℤ, (k : ℚ) / 10 ^ 2 = (2 * j + 1) / 100) ↔ k % 2 = 1 := by
    constructor
    · rintro ⟨j, same⟩
      have int : (k : ℚ) = ((2 * j + 1 : ℤ) : ℚ) := by
        push_cast
        linarith
      have : k = 2 * j + 1 := by exact_mod_cast int
      omega
    · intro rest
      refine ⟨k / 2, ?_⟩
      have int : k = 2 * (k / 2) + 1 := by omega
      have cast : (k : ℚ) = 2 * ((k / 2 : ℤ) : ℚ) + 1 := by exact_mod_cast int
      rw [cast]
      norm_num
  have tie (x : ℚ) (kk : ℤ) (shift : x * 10 ^ 2 = kk - 100 * (reach - width)) :
      roundTo 2 x < kk / 10 ^ 2 ↔
        width + 1 / 200 < reach ∨ reach = width + 1 / 200 ∧ kk % 2 = 1 := by
    rw [roundTo_lt_div_iff, shift]
    refine or_congr ⟨fun h => by linarith, fun h => by linarith⟩ (and_congr_left fun _ => ?_)
    exact ⟨fun h => by linarith, fun h => by linarith⟩
  rw [Clears, odd]
  cases direction with
  | buy =>
      -- the mirror image: rounding is odd, and the parity stays
      have mirror := tie (-(mid + reach)) (-k) (by
        have place' : (k : ℚ) / 10 ^ 2 = mid + width := by
          rw [place, Direction.sign, one_mul]
        push_cast
        linarith)
      rw [roundTo_neg, Int.cast_neg, neg_div, neg_lt_neg_iff] at mirror
      rw [Direction.precedes, Direction.sign, one_mul, mirror]
      refine or_congr_right (and_congr_right fun _ => ?_)
      omega
  | sell =>
      have place' : (k : ℚ) / 10 ^ 2 = mid - width := by
        rw [place, Direction.sign]
        ring
      rw [Direction.precedes, Direction.sign, show mid + -1 * reach = mid - reach by ring]
      exact tie (mid - reach) k (by linarith)

/-- Targets further out by more than a cent stay in order. -/
theorem precedes_of_lt {o o' : ℚ} (apart : o + 1 / 100 < o') :
    direction.precedes (roundTo 2 (mid + direction.sign * o))
      (roundTo 2 (mid + direction.sign * o')) := by
  cases direction with
  | buy =>
      refine roundTo_lt_roundTo 2 ?_
      rw [Direction.sign]
      linarith
  | sell =>
      refine roundTo_lt_roundTo 2 ?_
      rw [Direction.sign]
      linarith

end Rounding
section Ladder
variable {direction : Direction} {zone : ℚ × ℚ} {dist : ℚ} {offsets : List ℚ}

/-- A stop and targets at distances from the middle of a zone. -/
def ladderAt (direction : Direction) (zone : ℚ × ℚ) (dist : ℚ) (offsets : List ℚ) : SignalLevels :=
  let mid := roundTo 2 ((zone.1 + zone.2) / 2)
  let tps := offsets.map fun o => roundTo 2 (mid + direction.sign * o)
  { entryLow := zone.1
    entryHigh := zone.2
    stopLoss := roundTo 2 (mid - direction.sign * dist)
    slDist := dist
    rrTp1 := if 0 < dist then roundTo 2 (|tps.headD 0 - mid| / dist) else 0
    tps := tps }

/-- Order, ratio and distance come with the shape; the sides have to be seen to. -/
theorem ladderAt_wellFormed_iff (pos : 0 < dist) (some_ : offsets ≠ [])
    (apart : offsets.Pairwise fun o o' => o + 1 / 100 < o') :
    (ladderAt direction zone dist offsets).WellFormed direction ↔
      zone.1 < zone.2 ∧
        direction.behind zone.1 zone.2 (ladderAt direction zone dist offsets).stopLoss ∧
        ∀ tp ∈ (ladderAt direction zone dist offsets).tps, direction.beyond zone.1 zone.2 tp := by
  constructor
  · intro well
    exact ⟨well.zone, well.stop, well.targets.2⟩
  · rintro ⟨width, stop, targets⟩
    refine ⟨width, stop, ⟨fun none => some_ (List.map_eq_nil_iff.mp none), targets⟩, ?_, ?_,
      pos, ?_⟩
    · exact List.pairwise_map.mpr (apart.imp fun less => precedes_of_lt less)
    · unfold ladderAt SignalLevels.middle
      dsimp only
      rw [if_pos pos]
      refine (abs_roundTo_sub_le 2 _).trans (le_of_eq ?_)
      norm_num
    · unfold ladderAt SignalLevels.middle
      dsimp only
      generalize roundTo 2 ((zone.1 + zone.2) / 2) = mid
      have near := abs_roundTo_sub_le 2 (mid - direction.sign * dist)
      have exactly : |(mid - direction.sign * dist) - mid| = dist := by
        rw [sub_sub_cancel_left, abs_neg, direction.abs_sign_mul, abs_of_pos pos]
      have off := abs_abs_sub_abs_le (mid - direction.sign * dist - mid)
        (roundTo 2 (mid - direction.sign * dist) - mid)
      rw [exactly, sub_sub_sub_cancel_right, abs_sub_comm _ (roundTo 2 _)] at off
      refine (off.trans near).trans (le_of_eq ?_)
      norm_num

end Ladder

section Ref
variable {direction : Direction} {price atr dist first : ℚ} {rest : List ℚ}

theorem halfWidth_cases (atr : ℚ) : halfWidth atr = 2 ∨ halfWidth atr = 3 / 2 := by
  rw [halfWidth]
  split_ifs
  · exact .inl rfl
  · exact .inr rfl

/-- How far the zone reaches on the winning side of the level. -/
theorem zone_reach (atr : ℚ) :
    (if 15 < atr then 3 else zoneHalf) = 2 * halfWidth atr - 1 ∧ OnGrid 2 (2 * halfWidth atr - 1) ∧
      OnGrid 2 (halfWidth atr - 1) := by
  rw [zoneHalf, halfWidth]
  split_ifs
  · exact ⟨by norm_num, ⟨300, by norm_num⟩, ⟨100, by norm_num⟩⟩
  · exact ⟨by norm_num, ⟨200, by norm_num⟩, ⟨50, by norm_num⟩⟩

theorem onGrid_one : OnGrid 2 (1 : ℚ) := ⟨100, by norm_num⟩

theorem sign_mul_onGrid {x : ℚ} (grid : OnGrid 2 x) : OnGrid 2 (direction.sign * x) := by
  cases direction with
  | buy =>
      rw [Direction.sign, one_mul]
      exact grid
  | sell =>
      rw [Direction.sign, neg_one_mul, ← zero_sub]
      exact (onGrid_zero 2).sub grid

/-- The zone around a level in cents. -/
theorem entryZone_buy (cents : OnGrid 2 price) :
    entryZoneFromLevel price atr .buy = (losingEdge price .buy, winningEdge price atr .buy) := by
  obtain ⟨reach, grid, -⟩ := zone_reach atr
  rw [entryZoneFromLevel, losingEdge, winningEdge, Direction.sign, reach, one_mul,
    roundTo_of_onGrid (cents.sub onGrid_one), roundTo_of_onGrid (cents.add grid)]

theorem entryZone_sell (cents : OnGrid 2 price) :
    entryZoneFromLevel price atr .sell = (winningEdge price atr .sell, losingEdge price .sell) := by
  obtain ⟨reach, grid, -⟩ := zone_reach atr
  rw [entryZoneFromLevel, losingEdge, winningEdge, Direction.sign, reach, neg_one_mul,
    roundTo_of_onGrid (cents.sub grid), roundTo_of_onGrid (cents.add onGrid_one), sub_neg_eq_add,
    ← sub_eq_add_neg]

theorem winningEdge_onGrid (cents : OnGrid 2 price) :
    OnGrid 2 (winningEdge price atr direction) :=
  cents.add (sign_mul_onGrid (zone_reach atr).2.1)

theorem losingEdge_onGrid (cents : OnGrid 2 price) : OnGrid 2 (losingEdge price direction) := by
  rw [losingEdge, ← mul_one direction.sign]
  exact cents.sub (sign_mul_onGrid onGrid_one)

/-- The middle of the zone is half its width from either edge. -/
theorem middle_eq (cents : OnGrid 2 price) :
    roundTo 2 (((entryZoneFromLevel price atr direction).1 +
      (entryZoneFromLevel price atr direction).2) / 2) =
        price + direction.sign * (halfWidth atr - 1) := by
  have grid : OnGrid 2 (price + direction.sign * (halfWidth atr - 1)) :=
    cents.add (sign_mul_onGrid (zone_reach atr).2.2)
  refine Eq.trans (congrArg (roundTo 2) ?_) (roundTo_of_onGrid grid)
  cases direction with
  | buy =>
      rw [entryZone_buy cents, losingEdge, winningEdge, Direction.sign]
      ring
  | sell =>
      rw [entryZone_sell cents, losingEdge, winningEdge, Direction.sign]
      ring

theorem behind_iff (cents : OnGrid 2 price) (stop : ℚ) :
    direction.behind (entryZoneFromLevel price atr direction).1
        (entryZoneFromLevel price atr direction).2 stop ↔
      direction.opposite.precedes (losingEdge price direction) stop := by
  cases direction with
  | buy => rw [entryZone_buy cents]; rfl
  | sell => rw [entryZone_sell cents]; rfl

theorem beyond_iff (cents : OnGrid 2 price) (tp : ℚ) :
    direction.beyond (entryZoneFromLevel price atr direction).1
        (entryZoneFromLevel price atr direction).2 tp ↔
      direction.precedes (winningEdge price atr direction) tp := by
  cases direction with
  | buy => rw [entryZone_buy cents]; rfl
  | sell => rw [entryZone_sell cents]; rfl

theorem zone_ordered (cents : OnGrid 2 price) :
    (entryZoneFromLevel price atr direction).1 < (entryZoneFromLevel price atr direction).2 := by
  have wide : 1 < halfWidth atr := by
    obtain width | width := halfWidth_cases atr
    · rw [width]; norm_num
    · rw [width]; norm_num
  cases direction with
  | buy =>
      rw [entryZone_buy cents, losingEdge, winningEdge, Direction.sign]
      dsimp only
      linarith
  | sell =>
      rw [entryZone_sell cents, losingEdge, winningEdge, Direction.sign]
      dsimp only
      linarith

theorem sign_opposite (direction : Direction) : direction.opposite.sign = -direction.sign := by
  cases direction with
  | buy => rfl
  | sell => exact (neg_neg 1).symm

theorem Clears.mono {reach reach' width edge : ℚ} (clears : Clears reach width edge)
    (further : reach < reach') : Clears reach' width edge := by
  refine .inl ?_
  obtain above | ⟨same, -⟩ := clears
  · exact above.trans further
  · exact same ▸ further

/-- A stop and targets around a level are outside its zone when the stop and the first
target are. -/
theorem ref_wellFormed_iff (cents : OnGrid 2 price) (pos : 0 < dist)
    (apart : (first :: rest).Pairwise fun o o' => o + 1 / 100 < o') :
    (ladderAt direction (entryZoneFromLevel price atr direction) dist
        (first :: rest)).WellFormed direction ↔
      Clears dist (halfWidth atr) (losingEdge price direction) ∧
        Clears first (halfWidth atr) (winningEdge price atr direction) := by
  obtain ⟨mid, middle⟩ : ∃ mid, mid = price + direction.sign * (halfWidth atr - 1) := ⟨_, rfl⟩
  have losing : losingEdge price direction = mid + direction.opposite.sign * halfWidth atr := by
    rw [middle, sign_opposite, losingEdge]
    ring
  have winning : winningEdge price atr direction = mid + direction.sign * halfWidth atr := by
    rw [middle, winningEdge]
    ring
  have stop : direction.behind (entryZoneFromLevel price atr direction).1
      (entryZoneFromLevel price atr direction).2 (roundTo 2 (mid - direction.sign * dist)) ↔
        Clears dist (halfWidth atr) (losingEdge price direction) := by
    rw [behind_iff cents, ← precedes_round_iff (losingEdge_onGrid cents) losing, sign_opposite,
      neg_mul, ← sub_eq_add_neg]
  have target (o : ℚ) : direction.beyond (entryZoneFromLevel price atr direction).1
      (entryZoneFromLevel price atr direction).2 (roundTo 2 (mid + direction.sign * o)) ↔
        Clears o (halfWidth atr) (winningEdge price atr direction) := by
    rw [beyond_iff cents, precedes_round_iff (winningEdge_onGrid cents) winning]
  have levels : (ladderAt direction (entryZoneFromLevel price atr direction) dist
      (first :: rest)).stopLoss = roundTo 2 (mid - direction.sign * dist) ∧
      (ladderAt direction (entryZoneFromLevel price atr direction) dist (first :: rest)).tps =
        (first :: rest).map fun o => roundTo 2 (mid + direction.sign * o) := by
    rw [ladderAt, middle_eq cents, ← middle]
    exact ⟨rfl, rfl⟩
  rw [ladderAt_wellFormed_iff pos (List.cons_ne_nil _ _) apart, and_iff_right (zone_ordered cents),
    levels.1, levels.2, stop, List.forall_mem_map]
  refine and_congr_right fun _ => ⟨fun all => (target first).mp (all first List.mem_cons_self), ?_⟩
  intro clears o mem
  refine (target o).mpr ?_
  obtain rfl | later := List.mem_cons.mp mem
  · exact clears
  · have further := (List.pairwise_cons.mp apart).1 o later
    exact clears.mono (by linarith)

end Ref
section Profiles
variable {level : CandidateLevel} {direction : Direction} {context : BuildContext}

theorem slDistance_bounds (score : ℚ) :
    4 ≤ slDistanceForLevel score ∧ slDistanceForLevel score ≤ 7 := by
  rw [slDistanceForLevel]
  split_ifs
  · norm_num
  · norm_num
  · norm_num

theorem signalLevels_ref (ref : level.isGd2 = false) :
    level.signalLevels direction context =
      ladderAt direction
        (entryZoneFromLevel level.price ((unlessFalsy context.atr).getD 8) direction)
        (level.slDist direction context)
        (((atrBarriers context.atr context.atrBarriers).map Prod.snd).getD tpOffsets) := by
  unfold CandidateLevel.signalLevels CandidateLevel.entryMid CandidateLevel.fitted
    CandidateLevel.entryZone
  simp only [ref, Bool.false_eq_true, if_false]
  rfl

theorem signalLevels_gd2 (gd2 : level.isGd2 = true) {low high : ℚ}
    (isLow : level.entryZoneLow = some low) (isHigh : level.entryZoneHigh = some high) :
    level.signalLevels direction context =
      ladderAt direction (low, high) (level.slDist direction context)
        ([gd2Tp1R, gd2Tp2R, gd2RunnerR].map fun r => r * level.slDist direction context) := by
  unfold CandidateLevel.signalLevels CandidateLevel.entryMid CandidateLevel.entryZone ladderAt
    calculateGd2TpStructure
  simp only [gd2, if_true, isLow, isHigh, Option.getD_some, List.map_map, Function.comp_def,
    mul_assoc]

/-- As far from the middle as the zone is wide, and four points or more. -/
theorem outside_of_far {low high dist : ℚ} (width : high - low ≤ dist) (four : 4 ≤ dist) :
    direction.behind low high
      (roundTo 2 (roundTo 2 ((low + high) / 2) - direction.sign * dist)) := by
  have near := abs_le.mp (abs_roundTo_sub_le 2 ((low + high) / 2))
  generalize roundTo 2 ((low + high) / 2) = mid at near
  have stop := abs_le.mp (abs_roundTo_sub_le 2 (mid - direction.sign * dist))
  norm_num at near stop
  cases direction with
  | buy =>
      rw [Direction.sign] at stop
      rw [Direction.behind, Direction.sign]
      linarith
  | sell =>
      rw [Direction.sign] at stop
      rw [Direction.behind, Direction.sign]
      linarith

theorem beyond_of_far {low high dist o : ℚ} (width : high - low ≤ dist) (four : 4 ≤ dist)
    (further : dist ≤ o) :
    direction.beyond low high
      (roundTo 2 (roundTo 2 ((low + high) / 2) + direction.sign * o)) := by
  have near := abs_le.mp (abs_roundTo_sub_le 2 ((low + high) / 2))
  generalize roundTo 2 ((low + high) / 2) = mid at near
  have target := abs_le.mp (abs_roundTo_sub_le 2 (mid + direction.sign * o))
  norm_num at near target
  cases direction with
  | buy =>
      rw [Direction.sign] at target
      rw [Direction.beyond, Direction.sign]
      linarith
  | sell =>
      rw [Direction.sign] at target
      rw [Direction.beyond, Direction.sign]
      linarith

/-- The stop and the targets of a unicorn setup are its own width away, or more. -/
theorem gd2_wellFormed (gd2 : level.isGd2 = true) (detected : level.Detected) :
    (level.signalLevels direction context).WellFormed direction := by
  obtain ⟨low, high, isLow, isHigh, lowCents, highCents, wide⟩ := detected.zone gd2
  rw [signalLevels_gd2 gd2 isLow isHigh]
  have dist : level.slDist direction context =
      max |high - low| (slDistanceForLevel (level.score.getD (1 / 2))) := by
    unfold CandidateLevel.slDist CandidateLevel.entryZone
    simp only [gd2, if_true, isLow, isHigh, Option.getD_some]
  have width : high - low ≤ level.slDist direction context :=
    dist ▸ (le_abs_self _).trans (le_max_left _ _)
  have four : 4 ≤ level.slDist direction context :=
    dist ▸ (slDistance_bounds _).1.trans (le_max_right _ _)
  generalize level.slDist direction context = dist at width four
  have apart : ([gd2Tp1R, gd2Tp2R, gd2RunnerR].map fun r => r * dist).Pairwise
      fun o o' => o + 1 / 100 < o' := by
    rw [gd2Tp1R, gd2Tp2R, gd2RunnerR]
    refine List.pairwise_cons.mpr ⟨fun o mem => ?_, List.pairwise_cons.mpr ⟨fun o mem => ?_,
      List.pairwise_singleton _ _⟩⟩
    · obtain rfl | rfl : o = 2 * dist ∨ o = 6 * dist := by simpa using mem
      · linarith
      · linarith
    · obtain rfl : o = 6 * dist := by simpa using mem
      linarith
  have further : ∀ o ∈ [gd2Tp1R, gd2Tp2R, gd2RunnerR].map fun r => r * dist, dist ≤ o := by
    rw [gd2Tp1R, gd2Tp2R, gd2RunnerR]
    intro o mem
    obtain rfl | rfl | rfl : o = 1 * dist ∨ o = 2 * dist ∨ o = 6 * dist := by simpa using mem
    · linarith
    · linarith
    · linarith
  refine (ladderAt_wellFormed_iff (by linarith) (List.cons_ne_nil _ _) apart).mpr
    ⟨by dsimp only; linarith, ?_, ?_⟩
  · exact outside_of_far width four
  · intro tp mem
    obtain ⟨o, offset, rfl⟩ := List.mem_map.mp mem
    exact beyond_of_far width four (further o offset)

/-- Barriers that the settings admit. -/
theorem atrBarriers_of {atr stopMult tp1Mult : ℚ} {cfg : BarrierConfig} (admitted : cfg.Admitted)
    (high : 2 ≤ atr) (isStop : cfg.stopMult = some stopMult) (isTp1 : cfg.tp1Mult = some tp1Mult) :
    1 / 5 ≤ stopMult ∧ 1 / 5 ≤ tp1Mult ∧ atrBarriers (some atr) (some cfg) =
      some (atr * stopMult, tpOffsets.map fun o => o * (atr * tp1Mult / 3)) := by
  obtain ⟨m, stop, low, -⟩ := admitted.stop
  obtain ⟨m', tp1, low', -⟩ := admitted.tp1
  obtain rfl := Option.some.inj (stop.symm.trans isStop)
  obtain rfl := Option.some.inj (tp1.symm.trans isTp1)
  refine ⟨low, low', ?_⟩
  have positive : ¬ (atr ≤ 0 ∨ m ≤ 0 ∨ m' ≤ 0) := by
    rintro (none | none | none)
    · linarith
    · linarith
    · linarith
  rw [atrBarriers]
  simp only [stop, tp1, Option.getD_some, admitted.enabled, Bool.not_true, Bool.false_or,
    decide_eq_true_eq, if_neg positive]

theorem tpOffsets_apart {scale : ℚ} (large : 1 / 10 ≤ scale) :
    (tpOffsets.map fun o => o * scale).Pairwise fun o o' => o + 1 / 100 < o' := by
  have steps : tpOffsets.Pairwise fun o o' => o + 1 ≤ o' := by decide +kernel
  refine List.pairwise_map.mpr (steps.imp fun {o o'} step => ?_)
  nlinarith

end Profiles

/-- Everything holds of every signal but for the sides of the zone, which a stop and
targets sized from the volatility have to clear. -/
theorem signal_wellFormed_iff {level : CandidateLevel} {context : BuildContext}
    (direction : Direction) (detected : level.Detected) (gate : context.WithinGate) :
    (level.signalLevels direction context).WellFormed direction ↔
      BarriersClear level direction context := by
  rcases profile : level.isGd2 with _ | _
  · obtain ⟨atr, isAtr, low, -⟩ := gate.atr
    have used : (unlessFalsy context.atr).getD 8 = atr := by
      rw [isAtr, unlessFalsy, Option.filter_some,
        if_pos (decide_eq_true (show atr ≠ 0 by linarith)), Option.getD_some]
    rw [signalLevels_ref profile, used]
    unfold BarriersClear CandidateLevel.slDist CandidateLevel.fitted
    simp only [profile, Bool.false_eq_true, if_false, forall_const]
    rcases barriers : context.atrBarriers with _ | cfg
    · -- the distances of the score and of the table are wider than any zone
      have fixed := (slDistance_bounds (level.score.getD (1 / 2))).1
      have wide {reach : ℚ} (edge : ℚ) (three : 3 ≤ reach) : Clears reach (halfWidth atr) edge := by
        obtain width | width := halfWidth_cases atr
        · exact .inl (by rw [width]; linarith)
        · exact .inl (by rw [width]; linarith)
      refine iff_of_true ((ref_wellFormed_iff detected.cents ?_ ?_).mpr ⟨?_, ?_⟩)
        fun _ _ _ _ _ none => by cases none
      · change (0 : ℚ) < slDistanceForLevel _
        linarith
      · decide +kernel
      · exact wide _ (by change (3 : ℚ) ≤ slDistanceForLevel _; linarith)
      · exact wide _ le_rfl
    · have admitted := gate.barriers cfg barriers
      obtain ⟨stopMult, isStop, -⟩ := admitted.stop
      obtain ⟨tp1Mult, isTp1, -⟩ := admitted.tp1
      obtain ⟨least, least', sized⟩ := atrBarriers_of admitted low isStop isTp1
      have scale : 1 / 10 ≤ atr * tp1Mult / 3 := by
        have : 2 / 5 ≤ atr * tp1Mult := by nlinarith
        linarith
      have first : 3 * (atr * tp1Mult / 3) = atr * tp1Mult := by ring
      rw [isAtr, sized, Option.map_some, Option.map_some, Option.getD_some, Option.getD_some]
      refine (ref_wellFormed_iff detected.cents (by nlinarith) (tpOffsets_apart scale)).trans ?_
      dsimp only
      rw [first]
      constructor
      · intro clears atr' cfg' stopMult' tp1Mult' isAtr' isCfg isStop' isTp1'
        obtain rfl := Option.some.inj isAtr'
        obtain rfl := Option.some.inj isCfg
        obtain rfl := Option.some.inj (isStop.symm.trans isStop')
        obtain rfl := Option.some.inj (isTp1.symm.trans isTp1')
        exact clears
      · intro clears
        exact clears atr cfg stopMult tp1Mult rfl rfl isStop isTp1
  · exact iff_of_true (gd2_wellFormed profile detected) fun ref =>
      absurd (profile.symm.trans ref) (by decide)

/-- A level of the reference profile at a round price. -/
def roundLevel : CandidateLevel := ⟨2000, some (78 / 100), none, none, none⟩

/-- Volatility barriers with one multiple for both. -/
def barriersOf (atr mult : ℚ) : BuildContext := ⟨some atr, some ⟨true, some mult, some mult⟩⟩

theorem barriersOf_withinGate {atr mult : ℚ} (gate : 2 ≤ atr ∧ atr ≤ 80)
    (mults : 1 / 5 ≤ mult ∧ mult ≤ 5) : (barriersOf atr mult).WithinGate := by
  refine ⟨⟨atr, rfl, gate⟩, fun cfg some_ => ?_⟩
  obtain rfl := Option.some.inj some_
  exact ⟨rfl, ⟨mult, rfl, mults⟩, ⟨mult, rfl, mults.1, mults.2.trans (by norm_num)⟩⟩

theorem signal_wellFormed_default :
    (roundLevel.signalLevels .buy (barriersOf 8 (6 / 5))).WellFormed .buy :=
  (signal_wellFormed_iff .buy ⟨⟨200000, by decide +kernel⟩, fun gd2 => absurd gd2 (by decide)⟩
    (barriersOf_withinGate (by norm_num) (by norm_num))).mpr (by
      rintro - atr cfg stopMult tp1Mult isAtr isCfg isStop isTp1
      obtain rfl := Option.some.inj isAtr
      obtain rfl := Option.some.inj isCfg
      obtain rfl := Option.some.inj isStop
      obtain rfl := Option.some.inj isTp1
      exact ⟨.inl (by decide +kernel), .inl (by decide +kernel)⟩)

/-- The smallest ATR of the gate and the smallest multiple of the settings put the stop
and the first target of a buy between 1999 and 2002 into the zone. -/
theorem barriers_inside_zone :
    (barriersOf 2 (1 / 5)).WithinGate ∧ roundLevel.Detected ∧
      roundLevel.signalLevels .buy (barriersOf 2 (1 / 5)) =
        ⟨1999, 2002, 2000.1, 0.4, 1, [2000.9, 2001.03, 2001.17, 2001.3, 2001.57, 2001.83, 2002.5,
          2004.5]⟩ ∧
      ¬ (roundLevel.signalLevels .buy (barriersOf 2 (1 / 5))).WellFormed .buy := by
  have levels : roundLevel.signalLevels .buy (barriersOf 2 (1 / 5)) =
      ⟨1999, 2002, 2000.1, 0.4, 1, [2000.9, 2001.03, 2001.17, 2001.3, 2001.57, 2001.83, 2002.5,
        2004.5]⟩ := by decide +kernel
  refine ⟨barriersOf_withinGate (by norm_num) (by norm_num),
    ⟨⟨200000, by decide +kernel⟩, fun gd2 => absurd gd2 (by decide)⟩, levels, fun well => ?_⟩
  have stop := well.stop
  rw [levels] at stop
  exact absurd stop (by decide +kernel)

end Forex
