import Forex.Backtest.LadderLive

/-!
The two walks of a ladder strategy side by side. After any calls each has closed
the first levels, and they have closed the same ones where the backtest's loop
follows the live ladder.
-/

namespace Forex
namespace Backtest
open Support

namespace LadderTest
variable (t : LadderTest)

section Live
variable {t} {beAtPos m : ℕ} {moves : Bool} {row trade : Trade} {q : Quote}

/-- The walk of one call, with the first levels closed. Its stop is the stored
one, or is behind the entry that the booking of TP1 has stored. -/
structure WalkAt (t : LadderTest) (row : Trade) (beAtPos : ℕ) (moves : Bool) (m : ℕ)
    (w : LadderWalk) : Prop where
  live : t.LiveAt row moves m (t.liveStop beAtPos moves m) w.db
  triggered : ∀ n, n ∈ w.triggered ↔ n ∈ (t.levels.take m).map fun l => l.1.1
  own : 0 < t.held m →
    w.currentSl = t.liveStop beAtPos moves m ∨
      (t.liveStop beAtPos moves m = t.fillPrice ∧
        t.direction.sign * w.currentSl ≤ t.direction.sign * t.fillPrice)

theorem tpHit_eq (direction : Direction) (price : ℚ) (l : (ℕ × ℚ) × ℕ)
    (same : direction = t.direction) :
    tpHit direction ⟨price, price⟩ l.1.2 = t.hits (flatBar price) l := by
  rw [hits, same]
  cases t.direction <;> rfl

theorem trailTarget_eq (entry : trade.entryPrice = t.fillPrice) (pos : ℕ) :
    LadderTick.trailTarget trade (t.strategy.liveRule beAtPos) t.targets pos =
      t.target (t.liveBe beAtPos) pos := by
  rw [LadderTick.trailTarget, target, entry, (liveRule_eq t.strategy beAtPos).2.1]
  rfl

section Call
variable (beAtPos) {w : LadderWalk} {b : ℕ}

theorem WalkAt.level_done (at_ : t.WalkAt row b moves m w) {l : (ℕ × ℚ) × ℕ}
    (mem : l ∈ t.levels.take m) :
    (t.call beAtPos q).level trade t.targets w l = .next w := by
  have done := (at_.triggered l.1.1).mpr (List.mem_map_of_mem mem)
  rw [LadderTick.level_eq, if_pos done]

theorem WalkAt.fresh (at_ : t.WalkAt row b moves m w) (more : m < t.targets.length) :
    t.targets[m].1 ∉ w.triggered := fun old =>
  next_notMem more ((at_.triggered _).mp old)

theorem WalkAt.level_missed (at_ : t.WalkAt row b moves m w)
    (direction : trade.direction = t.direction)
    (more : m < t.targets.length) (missed : t.hits (flatBar q.price) (t.targets[m], m) = false) :
    (t.call beAtPos q).level trade t.targets w (t.targets[m], m) =
      .stop w := by
  have short : tpHit trade.direction (t.call beAtPos q).tick t.targets[m].2 =
      false := (tpHit_eq trade.direction q.price (t.targets[m], m) direction).trans missed
  rw [LadderTick.level_eq, if_neg (at_.fresh more), short, Bool.not_false, if_pos rfl]

theorem confirmedClose_tick (q : Quote) (rule : LadderRule) (tpPrice lots : ℚ) (n : ℕ) :
    ∃ price, confirmedClose trade tpPrice lots ((q.tick rule).reply n) = some (lots, price) := by
  unfold confirmedClose
  cases linkedTicket trade.mt5Ticket with
  | none => exact ⟨_, rfl⟩
  | some ticket => exact ⟨_, rfl⟩

/-- The next level, when it is reached, books its share. -/
theorem WalkAt.levelWrite_hit (at_ : t.WalkAt row b moves m w)
    (snapshot : ∃ m' stop, t.RowAt m' stop trade) (own : trade.tradeId = row.tradeId)
    (more : m < t.targets.length) (hit : t.hits (flatBar q.price) (t.targets[m], m) = true) :
    ∃ now price, w.db.getTrade row.tradeId = some now ∧
      (t.call beAtPos q).levelWrite trade t.targets w (t.targets[m], m) =
        some ⟨now, t.share m, price, tpReason t.targets[m].1, q.now⟩ := by
  obtain ⟨m', stop, was⟩ := snapshot
  obtain ⟨now, found, rowAt⟩ := at_.live.found
  have some' : 0 < t.held m := (held_pos_iff (by omega)).mpr more
  have least := (share_spec (mem_levels_of_lt more)).1
  dsimp only at least
  obtain ⟨price, confirmed⟩ := @confirmedClose_tick trade q
    (t.strategy.liveRule beAtPos) t.targets[m].2 (t.share m) t.targets[m].1
  refine ⟨now, price, found, ?_⟩
  have reached : tpHit trade.direction (t.call beAtPos q).tick t.targets[m].2 =
      true := (tpHit_eq trade.direction q.price (t.targets[m], m) was.direction).trans hit
  have left : remainingLotsOf w.db trade.tradeId = t.held m := by
    rw [remainingLotsOf, own, found, Option.map_some, Option.getD_some, rowAt.held]
  have isOpen : now.isOpen = true := by rw [rowAt.isOpen, decide_eq_true some']
  have asked : lotsAt trade (t.call beAtPos q).rule t.targets m (t.held m) =
      some (t.share m) := lotsAt_eq was.size more
  rw [LadderTick.levelWrite, if_neg (at_.fresh more), reached, Bool.not_true,
    if_neg Bool.false_ne_true, left, if_neg (not_le.mpr some'), asked]
  dsimp only
  rw [if_neg (by linarith), closeWrite, confirmed]
  dsimp only
  rw [partialCloseTrade, own, found]
  dsimp only
  rw [if_pos isOpen]
  rfl

/-- The stop of a closed trade is of no account. -/
theorem LiveAt.restop {stop stop' : ℚ} {db : Db} (at_ : t.LiveAt row moves m stop db)
    (closed : ¬ 0 < t.held m) : t.LiveAt row moves m stop' db := by
  obtain ⟨now, found, rowAt⟩ := at_.found
  exact ⟨⟨now, found, { rowAt with stop := fun left => absurd left closed }⟩, at_.moves, at_.closes⟩

theorem LiveAt.trailed {stop : ℚ} {db : Db} (at_ : t.LiveAt row moves (m + 1) stop db)
    (stop' : ℚ) (flag : Bool) :
    t.LiveAt row moves (m + 1) stop'
      (db.setTrade row.tradeId (Trade.setStopLossBeFlag stop' flag)) := by
  obtain ⟨now, found, rowAt⟩ := at_.found
  refine ⟨⟨Trade.setStopLossBeFlag stop' flag now, ?_, ?_⟩, at_.moves, at_.closes⟩
  · rw [Db.getTrade, Db.setTrade, Table.find_update_self, ← Db.getTrade, found]
    rfl
  · exact ⟨rowAt.direction, rowAt.entry, rowAt.size, rowAt.tps, rowAt.held, rowAt.isOpen,
      fun _ => rfl, fun zero => absurd zero (Nat.succ_ne_zero m)⟩

/-- A trail from a stop that may lag behind a stored breakeven: what it stores is
what a trail from the stored stop would. -/
theorem trail_of_lagging {pos : ℕ} {stored own : ℚ} (inside : pos < t.targets.length)
    (lagging : own = stored ∨
      (stored = t.fillPrice ∧ t.direction.sign * own ≤ t.direction.sign * t.fillPrice)) :
    (pos < b → t.trail b pos stored = stored) ∧
      (b ≤ pos → t.direction.tighter (t.target b pos) own = true →
        t.trail b pos stored = t.target b pos) ∧
      (t.direction.tighter (t.target b pos) own = false → t.trail b pos stored = stored) := by
  refine ⟨fun before => if_pos before, fun past tight => ?_, fun loose => ?_⟩
  · rw [trail_eq, if_neg (not_lt.mpr past)]
    cases better : t.direction.tighter (t.target b pos) stored with
    | true => exact if_pos rfl
    | false =>
        rw [if_neg Bool.false_ne_true]
        rcases lagging with rfl | ⟨rfl, -⟩
        · rw [tight] at better
          cases better
        · exact t.direction.eq_of_not_tighter
            (t.direction.tighter_eq_false_iff.mpr (entry_le_target inside past)) better
  · rw [trail_eq]
    split_ifs with before better
    · rfl
    · rw [t.direction.tighter_eq_false_iff] at loose
      rw [t.direction.tighter_eq_true_iff] at better
      rcases lagging with rfl | ⟨rfl, behind⟩
      · linarith
      · linarith
    · rfl

theorem WalkAt.lagging (at_ : t.WalkAt row b moves m w) (some : 0 < t.held m) :
    w.currentSl = t.bookedStop b moves m ∨
      (t.bookedStop b moves m = t.fillPrice ∧
        t.direction.sign * w.currentSl ≤ t.direction.sign * t.fillPrice) := by
  have before := at_.own some
  rw [bookedStop]
  split_ifs with both
  · refine .inr ⟨rfl, ?_⟩
    rw [Bool.and_eq_true, decide_eq_true_eq] at both
    rcases before with same | ⟨-, behind⟩
    · rw [same, both.2, liveStop, List.take_zero, liveBase, if_neg fun early => lt_irrefl 0 early.2]
      exact t.slStart_behind.le
    · exact behind
  · exact before

/-- The walk behind a booking, at a stop that agrees with the trail. -/
theorem WalkAt.of_booked {w' : LadderWalk} (at_ : t.WalkAt row b moves m w)
    (more : m < t.targets.length)
    (triggered : w'.triggered = t.targets[m].1 :: w.triggered)
    (live : t.LiveAt row moves (m + 1) (t.liveStop b moves (m + 1)) w'.db)
    (own : 0 < t.held (m + 1) →
      w'.currentSl = t.liveStop b moves (m + 1) ∨
        (t.liveStop b moves (m + 1) = t.fillPrice ∧
          t.direction.sign * w'.currentSl ≤ t.direction.sign * t.fillPrice)) :
    t.WalkAt row b moves (m + 1) w' := by
  refine ⟨live, fun n => ?_, own⟩
  rw [triggered, take_levels_succ more, List.map_append, List.mem_append, ← at_.triggered n,
    List.mem_cons, or_comm]
  simp

/-- The booking of a level behind which lots are left, with its trail. -/
theorem WalkAt.level_hit_open (at_ : t.WalkAt row (t.liveBe beAtPos) moves m w)
    (snapshot : ∃ m' stop, t.RowAt m' stop trade) (own : trade.tradeId = row.tradeId)
    (more : m < t.targets.length) (hit : t.hits (flatBar q.price) (t.targets[m], m) = true)
    (left : 0 < t.held (m + 1)) :
    ∃ w', t.WalkAt row (t.liveBe beAtPos) moves (m + 1) w' ∧
      (t.call beAtPos q).level trade t.targets w (t.targets[m], m) = .next w' := by
  obtain ⟨now, price, found, write⟩ := at_.levelWrite_hit beAtPos snapshot own more hit
  obtain ⟨remaining, booked⟩ := at_.live.booked found more (p := ⟨now, _, price, _, q.now⟩) rfl
  obtain ⟨m', stop, was⟩ := snapshot
  have lagging := at_.lagging ((held_pos_iff (by omega)).mpr more)
  obtain ⟨before, tight, loose⟩ := trail_of_lagging more lagging
  have stops := liveStop_succ (t.liveBe beAtPos) moves more
  have target := @trailTarget_eq t beAtPos _ was.entry m
  have level := LadderTick.level_of_write write
  rw [← bookedStop] at booked
  rw [remaining, decide_eq_false (not_le.mpr left), Bool.false_and,
    if_neg Bool.false_ne_true] at level
  rcases LadderTick.trailStop_cases trade t.targets (t.call beAtPos q).rule m t.targets[m].1
    (LadderTick.booked w (t.targets[m], m) ⟨now, t.share m, price, _, q.now⟩) with
    ⟨kept, why⟩ | ⟨past, better, flag, moved⟩
  · have same : t.liveStop (t.liveBe beAtPos) moves (m + 1) =
        t.bookedStop (t.liveBe beAtPos) moves m := by
      rw [stops]
      rcases why with early | short
      · exact before early
      · rw [was.direction] at short
        exact loose (target ▸ short)
    refine ⟨_, at_.of_booked more rfl ?_ fun _ => ?_, level.trans kept⟩
    · rw [same]
      exact booked
    · rw [same]
      exact lagging
  · rw [was.direction] at better
    have same : t.liveStop (t.liveBe beAtPos) moves (m + 1) = t.target (t.liveBe beAtPos) m :=
      stops.trans (tight past (target ▸ better))
    refine ⟨_, at_.of_booked more rfl ?_ fun _ => .inl ?_, level.trans moved⟩
    · rw [same, ← target, LadderTick.trailed, own]
      exact booked.trailed _ flag
    · exact target.trans same.symm

/-- The booking of the last level closes the trade. -/
theorem WalkAt.level_hit_last (at_ : t.WalkAt row (t.liveBe beAtPos) moves m w)
    (snapshot : ∃ m' stop, t.RowAt m' stop trade) (own : trade.tradeId = row.tradeId)
    (more : m < t.targets.length) (hit : t.hits (flatBar q.price) (t.targets[m], m) = true)
    (closes : ¬ 0 < t.held (m + 1)) :
    t.WalkAt row (t.liveBe beAtPos) moves (m + 1)
      ((t.call beAtPos q).level trade t.targets w (t.targets[m], m)).walk := by
  obtain ⟨now, price, found, write⟩ := at_.levelWrite_hit beAtPos snapshot own more hit
  obtain ⟨-, booked⟩ := at_.live.booked found more (p := ⟨now, _, price, _, q.now⟩) rfl
  rcases LadderTick.level_walk_of_write write with kept | ⟨flag, moved⟩
  · rw [kept]
    exact at_.of_booked more rfl (booked.restop closes) fun left => absurd left closes
  · rw [moved]
    refine at_.of_booked more rfl ?_ fun left => absurd left closes
    rw [LadderTick.trailed, own]
    exact (booked.trailed _ flag).restop closes

/-- The walk of a call, from any level up to the next one: it closes the levels
that are reached before one that is not. -/
theorem WalkAt.levels (snapshot : ∃ m' stop, t.RowAt m' stop trade)
    (own : trade.tradeId = row.tradeId) (k : ℕ) :
    ∀ {pos m : ℕ} {w : LadderWalk}, t.targets.length ≤ pos + k → pos ≤ m →
      t.WalkAt row (t.liveBe beAtPos) moves m w →
        t.WalkAt row (t.liveBe beAtPos) moves (m + t.reach m (flatBar q.price))
          ((t.call beAtPos q).levels trade t.targets w (t.levels.drop pos)) := by
  induction k with
  | zero =>
      intro pos m w all below at_
      have none : t.reach m (flatBar q.price) = 0 := by
        rw [reach, drop_levels_of_le (by omega)]
        rfl
      rw [drop_levels_of_le (by omega), none]
      exact at_
  | succ k ih =>
      intro pos m w all below at_
      by_cases full : t.targets.length ≤ pos
      · exact ih (by omega) below at_
      · have more : pos < t.targets.length := by omega
        rw [drop_levels more, LadderTick.levels_cons]
        rcases Nat.lt_or_eq_of_le below with before | rfl
        · have mem : (t.targets[pos], pos) ∈ t.levels.take m := by
            refine List.mem_take_iff_getElem.mpr ⟨pos, ?_, by simp [LadderTest.levels]⟩
            rw [t.length_levels]
            omega
          rw [at_.level_done beAtPos mem]
          exact ih (by omega) before at_
        · obtain ⟨m', stop, was⟩ := snapshot
          cases hit : t.hits (flatBar q.price) (t.targets[pos], pos) with
          | false =>
              rw [at_.level_missed beAtPos was.direction more hit, reach_of_missed more hit]
              exact at_
          | true =>
              rw [reach_of_hit more hit, ← Nat.add_assoc, Nat.add_right_comm]
              by_cases left : 0 < t.held (pos + 1)
              · obtain ⟨w', after, onward⟩ :=
                  at_.level_hit_open beAtPos ⟨m', stop, was⟩ own more hit left
                rw [onward]
                exact ih (by omega) le_rfl after
              · have after := at_.level_hit_last beAtPos ⟨m', stop, was⟩ own more hit left
                have last : t.targets.length ≤ pos + 1 := by
                  by_contra more'
                  exact left ((held_pos_iff (by omega)).mpr (by omega))
                have none : t.reach (pos + 1) (flatBar q.price) = 0 := by
                  rw [reach, drop_levels_of_le last]
                  rfl
                rw [none, drop_levels_of_le last]
                cases result : (t.call beAtPos q).level trade t.targets w (t.targets[pos], pos) with
                | stop w' =>
                    rw [result] at after
                    exact after
                | next w' =>
                    rw [result] at after
                    exact after

end Call

structure DeskAt (t : LadderTest) (row : Trade) (beAtPos : ℕ) (moves : Bool) (m : ℕ)
    (s : LadderDesk) : Prop where
  live : t.LiveAt row moves m (t.liveStop beAtPos moves m) s.db
  cache : ∀ cached, s.cache = some cached →
    ∀ n, n ∈ cached.1 ↔ n ∈ (t.levels.take m).map fun l => l.1.1

theorem tpMarkers_eq (db : Db) (tradeId : String) :
    tpMarkers db tradeId = (liveCloses db tradeId).map Prod.fst := by
  rw [tpMarkers, liveCloses, List.map_filterMap]
  congr 1
  funext p
  cases tpNumOf p.reason <;> rfl

/-- The numbers that a call finds triggered, in memory or in the bookings. -/
theorem DeskAt.triggered {s : LadderDesk} {b : ℕ} (at_ : t.DeskAt row b moves m s) (now : ℚ)
    (n : ℕ) :
    n ∈ (getTriggeredTps s.cache s.db row.tradeId now).1 ↔
      n ∈ (t.levels.take m).map fun l => l.1.1 := by
  have read : n ∈ tpMarkers s.db row.tradeId ↔ n ∈ (t.levels.take m).map fun l => l.1.1 := by
    rw [tpMarkers_eq, at_.live.closes, closesOf, List.map_map]
    rfl
  cases cache : s.cache with
  | none => exact read
  | some cached =>
      rw [getTriggeredTps]
      split
      · exact at_.cache cached cache n
      · exact read

/-- One call of `run_tp_ladder`. -/
theorem DeskAt.step {s : LadderDesk} (at_ : t.DeskAt row (t.liveBe beAtPos) moves m s) :
    t.DeskAt row (t.liveBe beAtPos) moves (m + t.reach m (flatBar q.price))
      (s.step row.tradeId (t.call beAtPos q)) := by
  obtain ⟨now, found, rowAt⟩ := at_.live.found
  by_cases held : 0 < t.held m
  · have isOpen : now.isOpen = true := by rw [rowAt.isOpen, decide_eq_true held]
    have own : now.tradeId = row.tradeId := Table.key_of_find found
    obtain ⟨db, ts, cache⟩ := LadderDesk.step_of_open (t := t.call beAtPos q) found isOpen
    have start : t.WalkAt row (t.liveBe beAtPos) moves m (s.start (t.call beAtPos q) now) := by
      refine ⟨at_.live, fun n => ?_, fun left => .inl (rowAt.stop left)⟩
      rw [LadderDesk.start, own]
      exact at_.triggered _ n
    have all : t.targets.length ≤ 0 + t.targets.length := by omega
    have walked := @WalkAt.levels t beAtPos moves row now q ⟨m, _, rowAt⟩ own _ 0 m _ all
      (Nat.zero_le m) start
    rw [List.drop_zero] at walked
    rw [ladderTps_eq rowAt] at db cache
    constructor
    · rw [db]
      exact walked.live
    · intro cached same n
      rw [cache] at same
      rw [← Option.some.inj same]
      exact walked.triggered n
  · have closed : now.isOpen = false := by rw [rowAt.isOpen, decide_eq_false held]
    have none : t.reach m (flatBar q.price) = 0 := by
      by_cases some : 0 < t.targets.length
      · have full := not_lt.mp fun more => held ((held_pos_iff some).mpr more)
        rw [reach, drop_levels_of_le full]
        rfl
      · rw [reach, drop_levels_of_le (by omega)]
        rfl
    rw [LadderDesk.step_of_closed found closed, none]
    exact at_

theorem deskAt_start {db : Db} (opens : t.OpensAs row db) (b : ℕ) :
    t.DeskAt row b (t.bookingMoves db) 0 ⟨db, none⟩ := by
  have whole : t.held 0 = t.lot := by
    rw [held, List.drop_zero, spare, add_sub_cancel]
  have some : 0 < t.held 0 := by
    rw [whole]
    linarith [t.minLot]
  have stop : row.stopLoss = t.liveStop b (t.bookingMoves db) 0 := by
    rw [opens.stop, liveStop, List.take_zero, liveBase, if_neg fun early => lt_irrefl 0 early.2]
    rfl
  have unbooked : db.partials.filter (fun p => decide (p.tradeId = row.tradeId)) = [] :=
    List.filter_eq_nil_iff.mpr fun p mem own => opens.unbooked p mem (of_decide_eq_true own)
  refine ⟨⟨⟨row, opens.found, ?_⟩, rfl, ?_⟩, fun _ none => by cases none⟩
  · refine ⟨opens.direction, opens.entry, opens.size, opens.tps, ?_, ?_, fun _ => stop,
      fun _ => opens.unmoved⟩
    · rw [opens.whole, opens.size, whole]
    · rw [opens.isOpen, decide_eq_true some]
  · rw [liveCloses, unbooked]
    rfl

theorem DeskAt.view {s : LadderDesk} {b : ℕ} (at_ : t.DeskAt row b moves m s) :
    liveView row.tradeId s =
      some (.of (t.closesOf (t.levels.take m)) (t.held m) (t.liveStop b moves m)) := by
  obtain ⟨now, found, rowAt⟩ := at_.live.found
  rw [liveView, found, Option.map_some, at_.live.closes, rowAt.held, LadderView.of, LadderView.of]
  by_cases held : 0 < t.held m
  · rw [if_pos held, if_pos held, rowAt.stop held]
  · rw [if_neg held, if_neg held]

theorem At.view {s : LadderState} (at_ : t.At m s) :
    s.view = .of (t.closesOf (t.levels.take m)) (t.held m)
      (t.trailAll t.strategy.beAtPos t.slStart (t.levels.take m)) := by
  rw [LadderState.view, at_.closes, at_.held, at_.stop]

end Live

/-- Both walks have closed the same levels, at the same stop if lots are left. -/
structure Abreast (t : LadderTest) (row : Trade) (beAtPos : ℕ) (moves : Bool)
    (s : LadderState × LadderDesk) : Prop where
  at_ : ∃ m ≤ t.targets.length, t.At m s.1 ∧ t.DeskAt row (t.liveBe beAtPos) moves m s.2 ∧
    (0 < t.held m →
      t.trailAll t.strategy.beAtPos t.slStart (t.levels.take m) =
        t.liveStop (t.liveBe beAtPos) moves m)

section Together
variable {t} {row : Trade} {beAtPos : ℕ} {moves : Bool} {s : LadderState × LadderDesk} {q : Quote}

def both (t : LadderTest) (row : Trade) (beAtPos : ℕ) (s : LadderState × LadderDesk) (q : Quote) :
    LadderState × LadderDesk :=
  (t.step s.1 (flatBar q.price), s.2.step row.tradeId (t.call beAtPos q))

def Same (row : Trade) (s : LadderState × LadderDesk) : Prop :=
  some s.1.view = liveView row.tradeId s.2

theorem Abreast.same (abreast : t.Abreast row beAtPos moves s) : Same row s := by
  obtain ⟨m, -, at_, desk, stops⟩ := abreast.at_
  rw [Same, at_.view, desk.view, LadderView.of, LadderView.of]
  by_cases held : 0 < t.held m
  · rw [if_pos held, if_pos held, stops held]
  · rw [if_neg held, if_neg held]

theorem Abreast.step (abreast : t.Abreast row beAtPos moves s)
    (ok : t.Follows (t.liveBe beAtPos) moves s.1 (flatBar q.price)) :
    t.Abreast row beAtPos moves (t.both row beAtPos s q) := by
  obtain ⟨m, within, at_, desk, stops⟩ := abreast.at_
  have first := (liveRule_eq t.strategy beAtPos).2.2.2
  have onward := desk.step (q := q)
  rw [Follows, at_.openLevels, at_.closes] at ok
  by_cases ends : t.Ends s.1 (flatBar q.price)
  · rw [if_pos ends] at ok
    have none : t.reach m (flatBar q.price) = 0 := by rw [reach, ok]; rfl
    rw [none] at onward
    exact ⟨m, within, step_of_ends at_ ends, onward, stops⟩
  · rw [if_neg ends] at ok
    obtain ⟨orderly, trails⟩ := ok
    have room := t.reach_le m (flatBar q.price)
    have closed : (t.closesOf (t.levels.take m)).length = m := by
      rw [closesOf, List.length_map, List.length_take, t.length_levels, min_eq_left within]
    refine ⟨m + t.reach m (flatBar q.price), by omega, step_of_orderly at_ ends orderly, onward, ?_⟩
    intro left
    by_cases some : 0 < t.targets.length
    · have more := (held_pos_iff some).mp left
      refine (stops_eq_iff (by omega) first).mpr ?_
      rw [closed, List.length_drop, t.length_levels] at trails
      exact trails (by rw [← reach]; omega)
    · have zero : m + t.reach m (flatBar q.price) = 0 := by omega
      rw [zero, liveStop, List.take_zero, liveBase, if_neg fun early => lt_irrefl 0 early.2]
      rfl

theorem length_closesOf_take {m : ℕ} (within : m ≤ t.targets.length) :
    (t.closesOf (t.levels.take m)).length = m := by
  rw [closesOf, List.length_map, List.length_take, t.length_levels, min_eq_left within]

/-- As many levels pass a filter as come before the first that fails it: none
after that one passes. -/
theorem orderly_of_length {α : Type} {p : α → Bool} {l : List α}
    (same : (l.filter p).length = (l.takeWhile p).length) :
    ∀ x ∈ l.dropWhile p, p x = false := by
  have keep : (l.takeWhile p).filter p = l.takeWhile p :=
    List.filter_eq_self.mpr fun x mem => List.mem_takeWhile_imp mem
  have split : l.filter p = l.takeWhile p ++ (l.dropWhile p).filter p := by
    conv_lhs => rw [← List.takeWhile_append_dropWhile (p := p) (l := l)]
    rw [List.filter_append, keep]
  rw [split, List.length_append] at same
  have none : (l.dropWhile p).filter p = [] := List.length_eq_zero_iff.mp (by omega)
  exact fun x mem => by simpa using List.filter_eq_nil_iff.mp none x mem

theorem Abreast.follows (abreast : t.Abreast row beAtPos moves s)
    (same : Same row (t.both row beAtPos s q)) :
    t.Follows (t.liveBe beAtPos) moves s.1 (flatBar q.price) := by
  obtain ⟨m, within, at_, desk, -⟩ := abreast.at_
  have first := (liveRule_eq t.strategy beAtPos).2.2.2
  have room := t.reach_le m (flatBar q.price)
  rw [Same, both, (desk.step (q := q)).view] at same
  have views := Option.some.inj same
  have closed : (t.step s.1 (flatBar q.price)).closes =
      t.closesOf (t.levels.take (m + t.reach m (flatBar q.price))) :=
    congrArg LadderView.closed views
  rw [Follows, at_.openLevels, at_.closes, length_closesOf_take within]
  by_cases ends : t.Ends s.1 (flatBar q.price)
  · rw [if_pos ends]
    rw [(step_of_ends at_ ends).closes] at closed
    have lengths := congrArg List.length closed
    rw [length_closesOf_take within, length_closesOf_take (by omega)] at lengths
    have none : t.reach m (flatBar q.price) = 0 := by omega
    exact List.length_eq_zero_iff.mp none
  · rw [if_neg ends]
    have lengths := congrArg List.length closed
    rw [step_closes at_ ends, List.length_append, length_closesOf_take within,
      length_closesOf_take (by omega), closesOf, List.length_map, reach] at lengths
    have orderly := orderly_of_length (p := t.hits (flatBar q.price)) (l := t.levels.drop m)
      (by omega)
    refine ⟨orderly, fun short => ?_⟩
    rw [List.length_drop, t.length_levels, ← reach] at short
    have left : 0 < t.held (m + t.reach m (flatBar q.price)) :=
      (held_pos_iff (by omega)).mpr (by omega)
    have stops := congrArg LadderView.stop views
    rw [(step_of_orderly at_ ends orderly).view, LadderView.of, LadderView.of, if_pos left,
      if_pos left] at stops
    have inside : m + t.reach m (flatBar q.price) ≤ t.targets.length := by omega
    exact (stops_eq_iff inside first).mp (Option.some.inj stops)

theorem abreast_start {db : Db} (opens : t.OpensAs row db) (beAtPos : ℕ) :
    t.Abreast row beAtPos (t.bookingMoves db) (t.start, ⟨db, none⟩) := by
  refine ⟨0, Nat.zero_le _, at_start, deskAt_start opens _, fun _ => ?_⟩
  rw [liveStop, List.take_zero, liveBase, if_neg fun early => lt_irrefl 0 early.2]
  rfl

theorem foldl_both (qs : List Quote) (s : LadderState × LadderDesk) :
    qs.foldl (t.both row beAtPos) s =
      ((qs.map fun q => flatBar q.price).foldl t.step s.1,
        t.liveRun row.tradeId beAtPos s.2 qs) := by
  induction qs generalizing s with
  | nil => rfl
  | cons q qs ih =>
      rw [List.foldl_cons, ih]
      rfl

end Together

/-- After each price, the backtest and the live ladder have closed the same
levels for the same lots, hold the same remainder and have it at the same stop,
just when every bar follows the live walk. -/
theorem runLadderStrategy_eq_live_iff (row : Trade) (db : Db) (opens : t.OpensAs row db)
    (beAtPos : ℕ) (quotes : List Quote) :
    (∀ qs, qs <+: quotes →
        some (t.runLadderStrategy (qs.map fun q => flatBar q.price)).view =
          liveView row.tradeId (t.liveRun row.tradeId beAtPos ⟨db, none⟩ qs)) ↔
      Meets t.step (t.Follows (t.liveBe beAtPos) (t.bookingMoves db)) t.start
        (quotes.map fun q => flatBar q.price) := by
  have image : ∀ (s : LadderState × LadderDesk) (q : Quote),
      (t.both row beAtPos s q).1 = t.step s.1 (flatBar q.price) := fun s q => rfl
  rw [← meets_image image (t.start, (⟨db, none⟩ : LadderDesk)) quotes,
    ← states_iff (P := Same row) (fun s => Abreast.same)
      (fun s q abreast ok => abreast.step ok) (fun s q abreast same => abreast.follows same) quotes
      (abreast_start opens beAtPos)]
  constructor
  · intro all s mem
    obtain ⟨qs, short, rfl⟩ := mem_states_iff.mp mem
    rw [foldl_both]
    exact all qs short
  · intro all qs short
    have here := all _ (mem_states_iff.mpr ⟨qs, short, rfl⟩)
    rw [foldl_both] at here
    exact here

end LadderTest

def threeLevels : BtSignal :=
  ⟨.buy, 1995, [some 2010, some 2020, some 2030, none, none, none, none, none], rfl⟩

def tenthOfALot : BtAccount := ⟨1000, 1, 1 / 10⟩

def climbsTo (tps : List (Option ℚ)) (stop : ℚ) (strategy : Strategy) : Trade :=
  .fresh "t1" "s1" (some 7001) .buy 2000 (1 / 10) stop tps 0 strategy .python false none none

/-- The first level of three, under Reversal Runner: the backtest keeps the wide
stop until TP2, and the booking of TP1 stores the entry. -/
theorem runLadderStrategy_ne_live :
    ¬ ∀ (t : LadderTest) (row : Trade) (db : Db) (beAtPos : ℕ) (qs : List Quote),
      t.OpensAs row db →
        some (t.runLadderStrategy (qs.map fun q => flatBar q.price)).view =
          liveView row.tradeId (t.liveRun row.tradeId beAtPos ⟨db, none⟩ qs) := by
  intro all
  have same := all (simulateReversalRunner threeLevels 2000 tenthOfALot)
    (climbsTo threeLevels.tps 1980 .reversalRunner)
    (Db.single (climbsTo threeLevels.tps 1980 .reversalRunner) Table.empty) 1 [⟨2010, 1⟩]
    ⟨⟨rfl, by decide, rfl, by decide +kernel⟩, rfl, rfl, rfl, by decide +kernel, by decide +kernel,
      rfl, rfl⟩
  exact absurd same (by decide +kernel)

theorem runLadderStrategy_eq_live_adaptive :
    some ((simulateAdaptiveRunner threeLevels 2000 tenthOfALot).runLadderStrategy
        ([⟨2005, 1⟩, ⟨2021, 2⟩, ⟨2015, 3⟩, ⟨2031, 4⟩].map fun q : Quote => flatBar q.price)).view =
      liveView "t1" ((simulateAdaptiveRunner threeLevels 2000 tenthOfALot).liveRun "t1" 1
        ⟨Db.single (climbsTo threeLevels.tps 1985 .adaptiveRunner) Table.empty, none⟩
        [⟨2005, 1⟩, ⟨2021, 2⟩, ⟨2015, 3⟩, ⟨2031, 4⟩]) :=
  (LadderTest.runLadderStrategy_eq_live_iff (simulateAdaptiveRunner threeLevels 2000 tenthOfALot)
    (climbsTo threeLevels.tps 1985 .adaptiveRunner) _
    ⟨⟨rfl, by decide, rfl, by decide +kernel⟩, rfl, rfl, rfl, by decide +kernel, by decide +kernel,
      rfl, rfl⟩ 1 _).mpr (by decide +kernel) _ (List.prefix_refl _)

end Backtest
end Forex
