import Forex.Backtest.LadderWalk

/-!
The walk of a ladder strategy over flat bars beside `run_tp_ladder`, called with
the same prices and a broker that closes what it is asked. The live walk closes
the levels in order and stops at the first one that is not reached; the one of
the backtest looks at every level, and ends at the stop.
-/

namespace Forex
namespace Backtest
open Support

/-- The handler of a strategy; `beAtPos` is the parameter of Signal Climber. -/
def LadderStrategy.liveRule (beAtPos : ℕ) : LadderStrategy → LadderRule
  | .reversalRunner => reversalRunnerRule
  | .signalClimber => signalClimberRule beAtPos
  | .adaptiveRunner => adaptiveRunnerRule

/-- A bar of one price. -/
def flatBar (price : ℚ) : Bar := ⟨price, price, price⟩

/-- A price, and the time of the call that sees it. -/
structure Quote where
  price : ℚ
  now : ℚ

/-- One call: no spread, and each close filled at the price for the lots asked. -/
def Quote.tick (rule : LadderRule) (q : Quote) : LadderTick where
  tick := ⟨q.price, q.price⟩
  rule := rule
  reply _ := .answered ⟨some true, none, some q.price, none⟩
  now := q.now

/-- What the two walks are compared by: the levels closed with the lots of each,
the lots that remain, and the stop while some do. -/
structure LadderView where
  closed : List (ℕ × ℚ)
  remaining : ℚ
  stop : Option ℚ
deriving DecidableEq, Repr

def LadderView.of (closed : List (ℕ × ℚ)) (remaining stop : ℚ) : LadderView :=
  ⟨closed, remaining, if 0 < remaining then some stop else none⟩

def LadderState.view (s : LadderState) : LadderView := .of s.closes s.remainingLot s.slPrice

/-- The levels a trade has bookings of, with the lots. -/
def liveCloses (db : Db) (tradeId : String) : List (ℕ × ℚ) :=
  (db.partials.filter fun p => decide (p.tradeId = tradeId)).filterMap fun p =>
    (tpNumOf p.reason).map fun n => (n, p.lotsClosed)

def liveView (tradeId : String) (s : LadderDesk) : Option LadderView :=
  (s.db.getTrade tradeId).map fun trade =>
    .of (liveCloses s.db tradeId) trade.remainingLots trade.stopLoss

namespace LadderTest
variable (t : LadderTest)

abbrev call (beAtPos : ℕ) (q : Quote) : LadderTick := q.tick (t.strategy.liveRule beAtPos)

abbrev liveBe (beAtPos : ℕ) : ℕ := (t.strategy.liveRule beAtPos).beAtPos

/-- `run_tp_ladder`, called once per price. -/
def liveRun (tradeId : String) (beAtPos : ℕ) (s : LadderDesk) (qs : List Quote) : LadderDesk :=
  qs.foldl (fun s q => s.step tradeId (t.call beAtPos q)) s

/-- The trade of a test as it is opened. -/
structure OpensAs (row : Trade) (db : Db) : Prop extends row.Opened db where
  isOpen : row.isOpen = true
  direction : row.direction = t.direction
  entry : row.entryPrice = t.fillPrice
  stop : row.stopLoss = t.fillPrice - t.direction.sign * t.slDist
  size : row.lotSize = t.lot
  tps : row.tps = t.tps
  unmoved : row.slMovedToBe = false

/-- The booking of the first level moves the stored stop to the entry: the
setting asks for it, and the level is TP1. -/
def bookingMoves (db : Db) : Bool :=
  db.moveSlToBeAfterTp1 && decide (t.targets.head?.map Prod.fst = some 1)

def priceAt (i : ℕ) : ℚ := (t.targets.getD i (0, 0)).2

/-- With the first levels closed, the stops agree: both are at breakeven or
neither is, and a level that only the backtest trails the stop to is no tighter
than one that both do. -/
def Trails (beAtPos : ℕ) (moves : Bool) (m : ℕ) : Prop :=
  (t.strategy.beAtPos < m ↔ beAtPos < m ∨ (moves = true ∧ 0 < m)) ∧
    ∀ i < beAtPos, t.strategy.beAtPos ≤ i → i + 2 ≤ m →
      ∃ j < m - 1, beAtPos ≤ j ∧ t.direction.tighter (t.priceAt i) (t.priceAt j) = false

instance (beAtPos : ℕ) (moves : Bool) (m : ℕ) : Decidable (t.Trails beAtPos moves m) :=
  inferInstanceAs (Decidable (_ ∧ _))

/-- One bar: where the backtest ends, no level that is next is reached; otherwise
no level is reached behind one that is not, and the stops agree if lots are left. -/
def Follows (beAtPos : ℕ) (moves : Bool) (s : LadderState) (bar : Bar) : Prop :=
  let reached := (t.openLevels s).takeWhile (t.hits bar)
  if t.Ends s bar then reached = []
  else
    (∀ l ∈ (t.openLevels s).dropWhile (t.hits bar), t.hits bar l = false) ∧
      (reached.length < (t.openLevels s).length →
        t.Trails beAtPos moves (s.closes.length + reached.length))

instance (beAtPos : ℕ) (moves : Bool) (s : LadderState) (bar : Bar) :
    Decidable (t.Follows beAtPos moves s bar) :=
  inferInstanceAs (Decidable (if t.Ends s bar then _ else _))

/-- The stored stop that the live trail starts from. -/
def liveBase (moves : Bool) (m : ℕ) : ℚ :=
  if moves = true ∧ 0 < m then t.fillPrice else t.slStart

def liveStop (beAtPos : ℕ) (moves : Bool) (m : ℕ) : ℚ :=
  t.trailAll beAtPos (t.liveBase moves m) (t.levels.take m)

/-- The stored stop once the next level is booked, before any trail. -/
def bookedStop (beAtPos : ℕ) (moves : Bool) (m : ℕ) : ℚ :=
  if moves && decide (m = 0) then t.fillPrice else t.liveStop beAtPos moves m

section Stops
variable {t} {beAtPos m i : ℕ} {moves : Bool}

theorem ahead_priceAt (inside : i < t.targets.length) :
    t.direction.sign * t.fillPrice < t.direction.sign * t.priceAt i := by
  have mem : t.targets[i] ∈ t.targets := List.getElem_mem inside
  have side := (List.mem_filter.mp mem).2
  rw [priceAt, List.getD_eq_getElem _ _ inside]
  cases direction : t.direction with
  | buy =>
      rw [direction] at side
      simpa [Direction.sign] using of_decide_eq_true side
  | sell =>
      rw [direction] at side
      simpa [Direction.sign] using of_decide_eq_true side

variable (t) in
theorem slStart_behind :
    t.direction.sign * t.slStart < t.direction.sign * t.fillPrice := by
  have behind := t.behind
  rw [slStart]
  cases t.direction with
  | buy => simpa [Direction.sign] using behind
  | sell => simpa [Direction.sign] using behind

theorem target_self : t.target beAtPos beAtPos = t.fillPrice := if_pos rfl

theorem target_of_lt (past : beAtPos < i) : t.target beAtPos i = t.priceAt (i - 1) :=
  if_neg (by omega)

theorem entry_le_target (inside : i < t.targets.length) (past : beAtPos ≤ i) :
    t.direction.sign * t.fillPrice ≤ t.direction.sign * t.target beAtPos i := by
  rcases Nat.eq_or_lt_of_le past with rfl | past
  · rw [target_self]
  · rw [target_of_lt past]
    exact (ahead_priceAt (by omega)).le

theorem liveBase_cases (t : LadderTest) (moves : Bool) (m : ℕ) :
    (t.liveBase moves m = t.fillPrice ∧ moves = true ∧ 0 < m) ∨
      t.liveBase moves m = t.slStart := by
  rw [liveBase]
  split_ifs with early
  · exact .inl ⟨rfl, early⟩
  · exact .inr rfl

/-- A price ahead of the entry that the stop has come up to is that of a level. -/
theorem exists_of_priceAt_le (inside : i < t.targets.length)
    (le : t.direction.sign * t.priceAt i ≤ t.direction.sign * t.liveStop beAtPos moves m) :
    ∃ k < m, k < t.targets.length ∧ beAtPos < k ∧
      t.direction.sign * t.priceAt i ≤ t.direction.sign * t.priceAt (k - 1) := by
  have ahead := ahead_priceAt inside
  have behind := t.slStart_behind
  rcases (le_trailAll beAtPos _ _ m).mp le with base | ⟨k, below, inside', past, le⟩
  · rcases liveBase_cases t moves m with ⟨entry, -⟩ | start
    · rw [entry] at base
      linarith
    · rw [start] at base
      linarith
  · rcases Nat.eq_or_lt_of_le past with rfl | past
    · rw [target_self] at le
      linarith
    · rw [target_of_lt past] at le
      exact ⟨k, below, inside', past, le⟩

/-- The live stop is at breakeven or beyond. -/
theorem entry_le_liveStop (within : m ≤ t.targets.length) :
    t.direction.sign * t.fillPrice ≤ t.direction.sign * t.liveStop beAtPos moves m ↔
      beAtPos < m ∨ (moves = true ∧ 0 < m) := by
  have behind := t.slStart_behind
  rw [liveStop, le_trailAll]
  constructor
  · rintro (base | ⟨i, below, -, past, -⟩)
    · rcases liveBase_cases t moves m with ⟨-, early⟩ | start
      · exact .inr early
      · rw [start] at base
        linarith
    · exact .inl (by omega)
  · rintro (past | early)
    · exact .inr ⟨beAtPos, past, by omega, le_rfl, by rw [target_self]⟩
    · refine .inl ?_
      rw [liveBase, if_pos early]

theorem liveStop_false (t : LadderTest) (beAtPos m : ℕ) :
    t.liveStop beAtPos false m = t.trailAll beAtPos t.slStart (t.levels.take m) := by
  rw [liveStop, liveBase, if_neg fun early => Bool.false_ne_true early.1]

theorem target_le_liveStop (below : i < m) (inside : i < t.targets.length) (past : beAtPos ≤ i) :
    t.direction.sign * t.target beAtPos i ≤ t.direction.sign * t.liveStop beAtPos moves m :=
  (le_trailAll _ _ _ m).mpr (.inr ⟨i, below, inside, past, le_rfl⟩)

/-- The stop has come up to every level before the last that it trails to. -/
theorem priceAt_le_liveStop (below : i + 1 < m) (inside : i + 1 < t.targets.length)
    (past : beAtPos ≤ i) :
    t.direction.sign * t.priceAt i ≤ t.direction.sign * t.liveStop beAtPos moves m := by
  have moved := @target_le_liveStop t beAtPos m (i + 1) moves below inside (by omega)
  rwa [target_of_lt (by omega), Nat.add_sub_cancel] at moved

/-- A stop is no tighter than a price ahead of which are its base and every target
it trails to. -/
theorem liveStop_le {bound : ℚ}
    (base : t.direction.sign * t.liveBase moves m ≤ t.direction.sign * bound)
    (entry : beAtPos < m → t.direction.sign * t.fillPrice ≤ t.direction.sign * bound)
    (levels : ∀ i, i + 1 < m → i + 1 < t.targets.length → beAtPos ≤ i →
      t.direction.sign * t.priceAt i ≤ t.direction.sign * bound) :
    t.direction.sign * t.liveStop beAtPos moves m ≤ t.direction.sign * bound := by
  rcases (le_trailAll _ _ _ m).mp
    (le_refl (t.direction.sign * t.liveStop beAtPos moves m)) with
    first | ⟨i, below, inside, past, le⟩
  · exact first.trans base
  · refine le.trans ?_
    rcases Nat.eq_or_lt_of_le past with rfl | past
    · rw [target_self]
      exact entry below
    · obtain ⟨j, rfl⟩ : ∃ j, i = j + 1 := ⟨i - 1, by omega⟩
      rw [target_of_lt past, Nat.add_sub_cancel]
      exact levels j below inside (by omega)

theorem trails_of_stops_eq (within : m ≤ t.targets.length)
    (same : t.liveStop t.strategy.beAtPos false m = t.liveStop beAtPos moves m) :
    t.Trails beAtPos moves m := by
  have entry := @entry_le_liveStop t t.strategy.beAtPos m false within
  have entry' := @entry_le_liveStop t beAtPos m moves within
  simp only [Bool.false_eq_true, false_and, or_false] at entry
  rw [same] at entry
  refine ⟨entry.symm.trans entry', fun i early past closed => ?_⟩
  have moved := @priceAt_le_liveStop t t.strategy.beAtPos m i false (by omega) (by omega) past
  rw [same] at moved
  obtain ⟨k, below, -, past', le⟩ := exists_of_priceAt_le (by omega) moved
  exact ⟨k - 1, by omega, by omega, t.direction.tighter_eq_false_iff.mpr le⟩

theorem Trails.backtest_le (within : m ≤ t.targets.length) (trails : t.Trails beAtPos moves m) :
    t.direction.sign * t.liveStop t.strategy.beAtPos false m ≤
      t.direction.sign * t.liveStop beAtPos moves m := by
  have behind := t.slStart_behind
  have entry := @entry_le_liveStop t beAtPos m moves within
  refine liveStop_le ?_ (fun early => entry.mpr (trails.1.mp early)) fun i below inside past => ?_
  · rw [liveBase, if_neg fun early => Bool.false_ne_true early.1]
    refine (le_trailAll _ _ _ m).mpr (.inl ?_)
    rcases liveBase_cases t moves m with ⟨entry, -⟩ | start
    · rw [entry]
      exact behind.le
    · rw [start]
  · by_cases both : beAtPos ≤ i
    · exact priceAt_le_liveStop below inside both
    · obtain ⟨j, below', past', loose⟩ := trails.2 i (by omega) past (by omega)
      exact (t.direction.tighter_eq_false_iff.mp loose).trans
        (priceAt_le_liveStop (by omega) (by omega) past')

theorem Trails.live_le (within : m ≤ t.targets.length) (first : t.strategy.beAtPos ≤ beAtPos)
    (trails : t.Trails beAtPos moves m) :
    t.direction.sign * t.liveStop beAtPos moves m ≤
      t.direction.sign * t.liveStop t.strategy.beAtPos false m := by
  have entry := @entry_le_liveStop t t.strategy.beAtPos m false within
  simp only [Bool.false_eq_true, false_and, or_false] at entry
  refine liveStop_le ?_ (fun early => entry.mpr (trails.1.mpr (.inl early)))
    fun i below inside past => priceAt_le_liveStop below inside (first.trans past)
  rcases liveBase_cases t moves m with ⟨entryBase, early⟩ | start
  · rw [entryBase]
    exact entry.mpr (trails.1.mpr (.inr early))
  · rw [start, liveStop_false]
    exact (le_trailAll _ _ _ m).mpr (.inl le_rfl)

/-- Where one trail begins at a level of the other or before it, and both are at
breakeven or neither, the stops agree just when they are trailed alike. -/
theorem stops_eq_iff (within : m ≤ t.targets.length) (first : t.strategy.beAtPos ≤ beAtPos) :
    t.trailAll t.strategy.beAtPos t.slStart (t.levels.take m) = t.liveStop beAtPos moves m ↔
      t.Trails beAtPos moves m := by
  rw [← liveStop_false]
  refine ⟨trails_of_stops_eq within, fun trails => ?_⟩
  exact t.direction.eq_of_not_tighter
    (t.direction.tighter_eq_false_iff.mpr (trails.backtest_le within))
    (t.direction.tighter_eq_false_iff.mpr (trails.live_le within first))

end Stops

/-! The live walk: after any calls it has closed the first levels. -/

section Live
variable {t} {beAtPos m : ℕ} {moves : Bool} {row trade : Trade} {q : Quote}

/-- The row of a trade with the first levels closed, at a stop. -/
structure RowAt (t : LadderTest) (m : ℕ) (stop : ℚ) (now : Trade) : Prop where
  direction : now.direction = t.direction
  entry : now.entryPrice = t.fillPrice
  size : now.lotSize = t.lot
  tps : now.tps = t.tps
  held : now.remainingLots = t.held m
  isOpen : now.isOpen = decide (0 < t.held m)
  stop : 0 < t.held m → now.stopLoss = stop
  unmoved : m = 0 → now.slMovedToBe = false

structure LiveAt (t : LadderTest) (row : Trade) (moves : Bool) (m : ℕ) (stop : ℚ) (db : Db) :
    Prop where
  found : ∃ now, db.getTrade row.tradeId = some now ∧ t.RowAt m stop now
  moves : t.bookingMoves db = moves
  closes : liveCloses db row.tradeId = t.closesOf (t.levels.take m)

theorem ladderTps_eq {stop : ℚ} (at_ : t.RowAt m stop trade) : ladderTps trade = t.targets := by
  rw [ladderTps, at_.direction, at_.entry, at_.tps]
  rfl

theorem drop_levels (more : m < t.targets.length) :
    t.levels.drop m = (t.targets[m], m) :: t.levels.drop (m + 1) := by
  have inside : m < t.levels.length := by rw [t.length_levels]; exact more
  rw [List.drop_eq_getElem_cons inside]
  congr 1
  simp only [levels, List.getElem_zipIdx, zero_add]

theorem drop_levels_of_le (none : t.targets.length ≤ m) : t.levels.drop m = [] :=
  List.drop_of_length_le (by rw [t.length_levels]; exact none)

theorem reach_of_missed {bar : Bar} (more : m < t.targets.length)
    (missed : t.hits bar (t.targets[m], m) = false) : t.reach m bar = 0 := by
  rw [reach, drop_levels more, List.takeWhile_cons, missed]
  rfl

theorem reach_of_hit {bar : Bar} (more : m < t.targets.length)
    (hit : t.hits bar (t.targets[m], m) = true) : t.reach m bar = t.reach (m + 1) bar + 1 := by
  rw [reach, drop_levels more, List.takeWhile_cons, hit]
  rfl

theorem held_of_lt (more : m < t.targets.length) :
    t.held m = t.share m + t.held (m + 1) := by
  rw [held, drop_levels more, sharesOf_cons, held, add_assoc]

theorem held_spec (t : LadderTest) (m : ℕ) : 0 ≤ t.held m ∧ OnGrid 4 (t.held m) := by
  have rest := @sharesOf_spec t (t.levels.drop m) fun l mem => List.mem_of_mem_drop mem
  exact ⟨add_nonneg rest.1 t.spare_spec.1, rest.2.add t.spare_spec.2⟩

theorem held_last (last : m + 1 = t.targets.length) : t.held (m + 1) = 0 := by
  have some : 0 < t.targets.length := by omega
  rw [held, drop_levels_of_le last.ge, spare, sharesOf_levels some, sub_self, add_zero]
  rfl

theorem mem_levels_of_lt (more : m < t.targets.length) : (t.targets[m], m) ∈ t.levels :=
  List.mem_zipIdx_iff_getElem?.mpr (List.getElem?_eq_getElem more)

theorem held_pos_iff (some : 0 < t.targets.length) :
    0 < t.held m ↔ m < t.targets.length := by
  constructor
  · intro held
    by_contra none
    rw [LadderTest.held, drop_levels_of_le (not_lt.mp none), spare, sharesOf_levels some, sub_self,
      add_zero] at held
    exact lt_irrefl _ held
  · intro more
    have own := (share_spec (mem_levels_of_lt more)).1
    have rest := (t.held_spec (m + 1)).1
    rw [held_of_lt more]
    linarith

theorem liveRule_eq (strategy : LadderStrategy) (beAtPos : ℕ) :
    (strategy.liveRule beAtPos).pcts = strategy.pctsTable ∧
      (strategy.liveRule beAtPos).slRule = trailToPrevious ∧
      (strategy.liveRule beAtPos).closeFullOnLast = true ∧
      strategy.beAtPos ≤ (strategy.liveRule beAtPos).beAtPos := by
  cases strategy with
  | reversalRunner | adaptiveRunner => exact ⟨rfl, rfl, rfl, le_rfl⟩
  | signalClimber => exact ⟨rfl, rfl, rfl, Nat.zero_le _⟩

/-- Each level is asked for its share, the last one for what is left of it. -/
theorem lotsAt_eq (size : trade.lotSize = t.lot) (more : m < t.targets.length) :
    lotsAt trade (t.strategy.liveRule beAtPos) t.targets m (t.held m) = some (t.share m) := by
  obtain ⟨pcts, -, full, -⟩ := liveRule_eq t.strategy beAtPos
  rw [lotsAt, full, pcts]
  by_cases last : m + 1 = t.targets.length
  · rw [if_pos ⟨last, rfl⟩, held_of_lt more, held_last last, add_zero]
  · obtain ⟨fracs, found, length, -⟩ :=
      pctsTable_rows t.strategy t.targets.length (by omega) t.length_targets_le
    have same : t.fracs = fracs := by rw [LadderTest.fracs, found]
    have inside : m < fracs.length := by omega
    have own := share_spec (mem_levels_of_lt more)
    have share : t.lot * fracs[m] = t.share m := by
      rw [LadderTest.share, same, List.getD_eq_getElem _ _ inside]
    have rest := (t.held_spec (m + 1)).1
    rw [if_neg fun h => last h.1, pctsFor, found]
    dsimp only
    rw [List.getElem?_eq_getElem inside, Option.map_some, size, share, roundTo_of_onGrid own.2,
      min_eq_left]
    rw [held_of_lt more]
    linarith

/-- The numbers of the levels ascend, from 1 on. -/
theorem ascending_targets (t : LadderTest) :
    (t.targets.map Prod.fst).Pairwise (· < ·) ∧ ∀ p ∈ t.targets, 1 ≤ p.1 := by
  have columns : ((t.tps.zipIdx 1).map Prod.snd).Pairwise (· < ·) := by
    rw [List.zipIdx_map_snd]
    exact List.pairwise_lt_range'
  constructor
  · rw [targets, validTps, List.pairwise_map]
    apply List.Pairwise.filter
    refine List.pairwise_filterMap.mpr ((List.pairwise_map.mp columns).imp ?_)
    intro a b lt x hx y hy
    obtain ⟨-, -, rfl⟩ := Option.map_eq_some_iff.mp hx
    obtain ⟨-, -, rfl⟩ := Option.map_eq_some_iff.mp hy
    exact lt
  · intro p mem
    obtain ⟨c, column, read⟩ := List.mem_filterMap.mp (List.mem_of_mem_filter mem)
    obtain ⟨-, -, rfl⟩ := Option.map_eq_some_iff.mp read
    exact List.le_snd_of_mem_zipIdx column

theorem number_lt {l : (ℕ × ℚ) × ℕ} (mem : l ∈ t.levels.take m) (more : m < t.targets.length) :
    l.1.1 < t.targets[m].1 := by
  have before := position_of_mem_take mem
  obtain ⟨inside, at_⟩ := mem_levels (List.mem_of_mem_take mem)
  have apart := List.pairwise_iff_getElem.mp (List.pairwise_map.mp t.ascending_targets.1) l.2 m
    inside more before
  rw [(List.getElem?_eq_some_iff.mp at_).2] at apart
  exact apart

/-- Only the booking of the first level can be that of TP1. -/
theorem number_eq_one_iff (more : m < t.targets.length) :
    t.targets[m].1 = 1 ↔ m = 0 ∧ t.targets.head?.map Prod.fst = some 1 := by
  constructor
  · intro one
    have first : m = 0 := by
      by_contra later
      have earlier := number_lt (t := t) (m := m) (l := (t.targets[0], 0))
        (List.mem_take_iff_getElem.mpr ⟨0, by rw [t.length_levels]; omega, by simp [levels]⟩) more
      have least := t.ascending_targets.2 _ (List.getElem_mem (show 0 < t.targets.length by omega))
      dsimp only at earlier
      omega
    subst first
    refine ⟨rfl, ?_⟩
    rw [List.head?_eq_getElem?, List.getElem?_eq_getElem more, Option.map_some, one]
  · rintro ⟨rfl, head⟩
    rw [List.head?_eq_getElem?, List.getElem?_eq_getElem more, Option.map_some] at head
    exact Option.some.inj head

theorem tpReason_eq_tp1_iff (n : ℕ) : tpReason n = "TP1" ↔ n = 1 := by
  constructor
  · intro same
    exact tpReason_injective (same.trans (by decide))
  · rintro rfl
    decide

/-- What a booking of the next level leaves of the row, before any trail. -/
theorem RowAt.booked {stop price partialPnl time : ℚ} {moves : Bool} (at_ : t.RowAt m stop trade)
    (more : m < t.targets.length) (moved : moves = true → m = 0) :
    t.RowAt (m + 1) (if moves then t.fillPrice else stop)
      (Trade.afterPartial moves time price partialPnl (t.held (m + 1)) trade.entryPrice trade) := by
  have was : 0 < t.held m := (held_pos_iff (by omega)).mpr more
  rw [Trade.afterPartial]
  by_cases closes : t.held (m + 1) ≤ 0
  · have none : t.held (m + 1) = 0 := le_antisymm closes (t.held_spec (m + 1)).1
    rw [if_pos closes]
    constructor
    · cases moves <;> exact at_.direction
    · cases moves <;> exact at_.entry
    · cases moves <;> exact at_.size
    · cases moves <;> exact at_.tps
    · exact none.symm
    · rw [none]
      rfl
    · exact fun left => absurd left (not_lt.mpr closes)
    · exact fun zero => absurd zero (Nat.succ_ne_zero m)
  · have isOpen := at_.isOpen
    rw [decide_eq_true was] at isOpen
    rw [if_neg closes]
    constructor
    · cases moves <;> exact at_.direction
    · cases moves <;> exact at_.entry
    · cases moves <;> exact at_.size
    · cases moves <;> exact at_.tps
    · cases moves <;> rfl
    · rw [decide_eq_true (not_le.mp closes)]
      cases moves <;> exact isOpen
    · intro _
      cases moves with
      | true => exact at_.entry
      | false => exact at_.stop was
    · exact fun zero => absurd zero (Nat.succ_ne_zero m)

theorem moveSlToBeAfterTp1_apply (p : PartialWrite) (db : Db) :
    (p.apply db).moveSlToBeAfterTp1 = db.moveSlToBeAfterTp1 := by
  rw [PartialWrite.apply, applyPartialCloseWithReason]
  dsimp only [Db.setTrade, Db.addToBalance]
  generalize movesToBreakeven db.moveSlToBeAfterTp1 p.row p.reason = moves
  cases moves <;> split_ifs <;> rfl

theorem liveCloses_append {db db' : Db} {b : PartialClose} {tradeId : String} {n : ℕ}
    (partials : db'.partials = db.partials ++ [b]) (own : b.tradeId = tradeId)
    (reason : b.reason = tpReason n) :
    liveCloses db' tradeId = liveCloses db tradeId ++ [(n, b.lotsClosed)] := by
  have kept : [b].filter (fun p => decide (p.tradeId = tradeId)) = [b] :=
    List.filter_eq_self.mpr fun p mem => by rw [List.mem_singleton.mp mem, own, decide_eq_true rfl]
  rw [liveCloses, partials, List.filter_append, List.filterMap_append, kept, ← liveCloses]
  congr 1
  rw [List.filterMap_cons, reason, tpNumOf_tpReason]
  rfl

/-- The bookings are those of the levels closed. -/
theorem LiveAt.known {stop : ℚ} {db : Db} (at_ : t.LiveAt row moves m stop db) :
    Known db row.tradeId ((t.levels.take m).map fun l => l.1.1) := by
  intro p mem own n number
  have close : (n, p.lotsClosed) ∈ liveCloses db row.tradeId :=
    List.mem_filterMap.mpr ⟨p, List.mem_filter.mpr ⟨mem, decide_eq_true own⟩, by
      rw [number, Option.map_some]⟩
  rw [at_.closes] at close
  obtain ⟨l, taken, same⟩ := List.mem_map.mp close
  exact List.mem_map.mpr ⟨l, taken, congrArg Prod.fst same⟩

theorem next_notMem (more : m < t.targets.length) :
    t.targets[m].1 ∉ (t.levels.take m).map fun l => l.1.1 := by
  intro mem
  obtain ⟨l, taken, same⟩ := List.mem_map.mp mem
  exact absurd same (number_lt taken more).ne

theorem LiveAt.booked {stop price time : ℚ} {db : Db} (at_ : t.LiveAt row moves m stop db)
    (found : db.getTrade row.tradeId = some trade) (more : m < t.targets.length)
    {p : PartialWrite}
    (write : p = ⟨trade, t.share m, price, tpReason t.targets[m].1, time⟩) :
    p.newRemaining = t.held (m + 1) ∧
      t.LiveAt row moves (m + 1) (if moves && decide (m = 0) then t.fillPrice else stop)
        (p.apply db) := by
  obtain ⟨now, here, rowAt⟩ := at_.found
  rw [found] at here
  obtain rfl := Option.some.inj here
  have rest := t.held_spec (m + 1)
  have lots : p.lots = t.share m := by
    rw [write, PartialWrite.lots, rowAt.held, held_of_lt more]
    exact min_eq_left (by linarith [rest.1])
  have remaining : p.newRemaining = t.held (m + 1) := by
    have row' : p.row = trade := by rw [write]
    rw [PartialWrite.newRemaining, lots, row', rowAt.held, held_of_lt more, add_sub_cancel_left,
      roundTo_of_onGrid rest.2]
  refine ⟨remaining, ?_⟩
  have own : trade.tradeId = row.tradeId := Table.key_of_find found
  have new : db.alreadyRecorded p.booking = false := by
    have known : Known db trade.tradeId _ := own ▸ at_.known
    refine known.write_new (p := p) (next_notMem more) ?_ (by rw [write])
    rw [own, found, write]
  have ledger := PartialWrite.apply_of_new new
  have flag : movesToBreakeven db.moveSlToBeAfterTp1 trade (tpReason t.targets[m].1) =
      (moves && decide (m = 0)) := by
    have tp1 : tpReason t.targets[m].1 = "TP1" ↔
        m = 0 ∧ t.targets.head?.map Prod.fst = some 1 :=
      (tpReason_eq_tp1_iff _).trans (number_eq_one_iff more)
    rw [← at_.moves, bookingMoves, movesToBreakeven, Bool.eq_iff_iff]
    simp only [Bool.and_eq_true, decide_eq_true_eq, tp1, Bool.not_eq_true']
    constructor
    · rintro ⟨⟨⟨first, head⟩, setting⟩, -⟩
      exact ⟨⟨setting, head⟩, first⟩
    · rintro ⟨⟨setting, head⟩, first⟩
      exact ⟨⟨⟨first, head⟩, setting⟩, rowAt.unmoved first⟩
  constructor
  · have early : (moves && decide (m = 0)) = true → m = 0 := fun both =>
      of_decide_eq_true (Bool.and_eq_true_iff.mp both).2
    refine ⟨_, ?_, @RowAt.booked t m trade _ price p.partialPnl time _ rowAt more early⟩
    have after := ledger.getTrade_self
    rw [remaining] at after
    rw [write] at after ⊢
    dsimp only at after
    rw [own, found, flag] at after
    exact after
  · rw [← at_.moves, bookingMoves, bookingMoves, moveSlToBeAfterTp1_apply]
  · have partials : (p.apply db).partials = db.partials ++ [p.booking] := ledger.partials
    have closed : p.booking.lotsClosed = t.share m := lots
    have owner : p.booking.tradeId = row.tradeId := by rw [write]; exact own
    have reason : p.booking.reason = tpReason t.targets[m].1 := by rw [write]; rfl
    rw [liveCloses_append partials owner reason, at_.closes, closed, take_levels_succ more,
      closesOf, closesOf, List.map_append]
    rfl

theorem liveStop_succ (beAtPos : ℕ) (moves : Bool) (more : m < t.targets.length) :
    t.liveStop beAtPos moves (m + 1) = t.trail beAtPos m (t.bookedStop beAtPos moves m) := by
  rw [liveStop, take_levels_succ more, trailAll_concat, bookedStop]
  congr 1
  cases m with
  | zero =>
      rw [decide_eq_true rfl, Bool.and_true, liveStop, List.take_zero, liveBase, liveBase]
      simp [trailAll]
  | succ m =>
      have late : (moves && decide (m + 1 = 0)) = false := by simp
      rw [late, if_neg Bool.false_ne_true, liveStop, liveBase, liveBase]
      simp

end Live

end LadderTest

end Backtest
end Forex
