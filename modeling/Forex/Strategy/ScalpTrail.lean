import Mathlib.Algebra.Order.Group.MinMax
import Forex.Broker.Sides
import Forex.Strategy.Ratchet

/-!
The trail of `scalp_runner` over ticks and restarts. That TP2 has been reached is known
only to the cached set of triggered levels: no booking has its number, and the set read
from the bookings again is without it.
-/

namespace Forex
open Support

/-- `_CONSERVATIVE_TRAIL_PT`. -/
def scalpTrailPt : ℚ := 3

inductive ScalpEvent where
  | restart
  | tick (t : StopTick)

structure ScalpRun where
  desk : StopDesk
  /-- A tick that was processed has been at TP2. -/
  reached : Bool

namespace StopDesk
variable (trade : Trade) (t : StopTick) (s : StopDesk)

/-- The price of the side of the trade, less the trail, towards its profit. -/
def trailFloor : ℚ := trade.direction.sign * t.tick.closePrice trade.direction - scalpTrailPt

/-- The close of TP1 is booked, and moves the stop to the entry with it. -/
def movesAtTp1 : Bool :=
  decide (1 ∉ s.triggered) &&
    (tpHitAt trade t 1).any fun price => (firstClose trade t (1 / 2) s price).moves s.db

/-- The stop behind a call, towards the profit of the trade. -/
def scalpStop : ℚ :=
  let stop := trade.direction.sign * trade.stopLoss
  let entry := trade.direction.sign * trade.entryPrice
  if 1 ∈ s.triggered then
    if 2 ∈ s.triggered then
      max stop (trade.direction.sign * trailLevel trade t.tick scalpTrailPt)
    else if (tpHitAt trade t 2).isSome then max stop entry
    else stop
  else if s.movesAtTp1 trade t then entry
  else stop

/-- The stop of a trade past TP2 covers the tick: it is there already, or the set of this
call has both levels and the trail is not rounded away from the price, or the stop goes to
the entry in this call and the price is no further than the trail from it. -/
def Covered : Prop :=
  let stop := trade.direction.sign * trade.stopLoss
  let entry := trade.direction.sign * trade.entryPrice
  (entry ≤ stop ∧ trailFloor trade t ≤ stop) ∨
    (1 ∈ s.triggered ∧ 2 ∈ s.triggered ∧
      (trailFloor trade t ≤ roundTo 2 (trailFloor trade t) ∨ trailFloor trade t ≤ entry)) ∨
    (1 ∈ s.triggered ∧ 2 ∉ s.triggered ∧ (tpHitAt trade t 2).isSome = true ∧
      trailFloor trade t ≤ entry) ∨
    (s.movesAtTp1 trade t = true ∧ trailFloor trade t ≤ entry)

instance : Decidable (s.Covered trade t) := inferInstanceAs (Decidable (_ ∨ _ ∨ _ ∨ _))

end StopDesk

namespace ScalpRun
variable (tradeId : String) (r : ScalpRun)

def start (row : Trade) (db : Db) (cache : Option (List ℕ × ℚ)) (lastFail : ℕ → Option ℚ) :
    ScalpRun :=
  ⟨.opened row db cache lastFail, false⟩

/-- A restart loses what is only in memory. -/
def step (r : ScalpRun) : ScalpEvent → ScalpRun
  | .restart => { r with desk := { r.desk with cache := none, lastFail := fun _ => none } }
  | .tick t =>
      { desk := r.desk.step tradeId (.scalpRunner, t)
        reached := r.reached || (r.desk.db.getTrade tradeId).any fun row =>
          row.isOpen && (StopDesk.tpHitAt row t 2).isSome }

/-- What a tick does to the stop of the open trade: it does not take it back, and once TP2
has been reached it leaves it at the entry and within the trail at least. -/
def Trails : ScalpEvent → Prop
  | .restart => True
  | .tick t => ∀ row ∈ r.desk.db.getTrade tradeId, row.isOpen = true →
      ∀ after ∈ (r.step tradeId (.tick t)).desk.db.getTrade tradeId,
        row.direction.sign * row.stopLoss ≤ row.direction.sign * after.stopLoss ∧
          (r.reached = true →
            row.direction.sign * row.entryPrice ≤ row.direction.sign * after.stopLoss ∧
              StopDesk.trailFloor row t ≤ row.direction.sign * after.stopLoss)

/-- The tick is covered once TP2 has been reached, and the booking of TP1 does not take the
stop back to the entry. -/
def Remembers : ScalpEvent → Prop
  | .restart => True
  | .tick t => ∀ row ∈ r.desk.db.getTrade tradeId, row.isOpen = true →
      let s := r.desk.readTriggered row t.now
      (s.movesAtTp1 row t = true →
        row.direction.sign * row.stopLoss ≤ row.direction.sign * row.entryPrice) ∧
      (r.reached = true → s.Covered row t)

instance decidableTrails : ∀ e, Decidable (r.Trails tradeId e)
  | .restart => isTrue True.intro
  | .tick _ => inferInstanceAs (Decidable (∀ row ∈ r.desk.db.getTrade tradeId, _))

instance decidableRemembers : ∀ e, Decidable (r.Remembers tradeId e)
  | .restart => isTrue True.intro
  | .tick _ => inferInstanceAs (Decidable (∀ row ∈ r.desk.db.getTrade tradeId, _))

end ScalpRun

namespace StopDesk
variable {trade : Trade} {t : StopTick} {s : StopDesk}

/-- A level that is taken only where it is tighter. -/
theorem sign_of_tightens {sl : ℚ} {after : StopDesk}
    (moved : tightens trade sl = true → after.stops.stop = sl)
    (kept : tightens trade sl = false → after.stops.stop = trade.stopLoss) :
    trade.direction.sign * after.stops.stop =
      max (trade.direction.sign * trade.stopLoss) (trade.direction.sign * sl) := by
  cases better : tightens trade sl with
  | true =>
      rw [moved better, max_eq_right (trade.direction.tighter_eq_true_iff.mp better).le]
  | false =>
      rw [kept better, max_eq_left (trade.direction.tighter_eq_false_iff.mp better)]

theorem trail_tracks (h : Tracks trade s) (fresh : s.stops.stop = trade.stopLoss) (dist : ℚ) :
    Tracks trade (s.trail trade t dist) ∧
      trade.direction.sign * (s.trail trade t dist).stops.stop =
        max (trade.direction.sign * trade.stopLoss)
          (trade.direction.sign * trailLevel trade t.tick dist) := by
  constructor
  · rw [trail]
    split
    · exact (h.modifyOrder _ _).setStopLoss _
    · exact h
  · refine sign_of_tightens (fun better => ?_) fun worse => ?_
    · rw [trail]
      exact congrArg (fun s : StopDesk => s.stops.stop) (if_pos better)
    · rw [trail, worse]
      exact fresh

theorem breakeven_tracks (h : Tracks trade s) (fresh : s.stops.stop = trade.stopLoss) (n : ℕ) :
    Tracks trade (s.breakeven trade t n) ∧
      trade.direction.sign * (s.breakeven trade t n).stops.stop =
        max (trade.direction.sign * trade.stopLoss)
          (trade.direction.sign * trade.entryPrice) := by
  constructor
  · rw [breakeven]
    split
    · exact (h.modifyOrder _ _).setStopLossBe _
    · exact h
  · refine sign_of_tightens (fun better => ?_) fun worse => ?_
    · rw [breakeven, better]
      rfl
    · rw [breakeven, worse]
      exact fresh

/-- The stop behind a call of `scalp_runner`. -/
theorem handleScalpRunner_stop (h : Tracks trade s) (fresh : s.stops.stop = trade.stopLoss) :
    Tracks trade (s.handleScalpRunner trade t) ∧
      trade.direction.sign * (s.handleScalpRunner trade t).stops.stop =
        (s.readTriggered trade t.now).scalpStop trade t := by
  have read : Tracks trade (s.readTriggered trade t.now) := h.of_same rfl rfl
  have same : (s.readTriggered trade t.now).stops.stop = trade.stopLoss := fresh
  rw [handleScalpRunner, scalpStop]
  generalize s.readTriggered trade t.now = s at read same ⊢
  by_cases first : 1 ∈ s.triggered
  · rw [if_pos first, if_pos first]
    by_cases second : 2 ∈ s.triggered
    · rw [if_pos second, if_pos second]
      exact trail_tracks read same 3
    · rw [if_neg second, if_neg second]
      cases hit : tpHitAt trade t 2 with
      | none => exact ⟨read, congrArg (trade.direction.sign * ·) same⟩
      | some price =>
          have added : Tracks trade (s.addTriggered 2) := read.of_same rfl rfl
          exact breakeven_tracks added same 2
  · rw [if_neg first, if_neg first]
    have waits : trade.direction.sign * s.stops.stop = trade.direction.sign * trade.stopLoss :=
      congrArg (trade.direction.sign * ·) same
    have moves : s.movesAtTp1 trade t = (tpHitAt trade t 1).any fun price =>
        (firstClose trade t (1 / 2) s price).moves s.db := by
      rw [movesAtTp1, decide_eq_true first, Bool.true_and]
    cases hit : tpHitAt trade t 1 with
    | none =>
        rw [hit] at moves
        rw [moves]
        exact ⟨read, waits⟩
    | some price =>
        rw [hit, Option.any_some] at moves
        dsimp only
        cases close : firstClose trade t (1 / 2) s price with
        | raised =>
            rw [moves, close]
            exact ⟨read, waits⟩
        | skipped =>
            rw [moves, close]
            exact ⟨read, waits⟩
        | booked p =>
            obtain ⟨lots, reply, write⟩ := firstClose_write close
            obtain ⟨recorded, entry⟩ := read.record write
            have moved : s.movesAtTp1 trade t = p.movesStop s.db := moves.trans (close ▸ rfl)
            refine ⟨recorded.of_same rfl rfl, ?_⟩
            rw [moved]
            dsimp only [addTriggered, record]
            split_ifs
            · exact congrArg (trade.direction.sign * ·) entry
            · exact waits

theorem sign_trailLevel (dist : ℚ) :
    trade.direction.sign * trailLevel trade t.tick dist =
      max (roundTo 2 (trade.direction.sign * t.tick.closePrice trade.direction - dist))
        (trade.direction.sign * trade.entryPrice) := by
  rw [trailLevel]
  cases trade.direction with
  | buy => simp [Direction.sign, Tick.closePrice]
  | sell =>
      have mirrored : -(t.tick.ask + dist) = -1 * t.tick.ask - dist := by ring
      simp only [Direction.sign, Tick.closePrice, ← mirrored, roundTo_neg]
      rw [neg_one_mul, neg_one_mul, max_neg_neg]

/-- Only the booking of TP1 can take the stop back. -/
theorem scalpStop_forward_iff :
    trade.direction.sign * trade.stopLoss ≤ s.scalpStop trade t ↔
      (s.movesAtTp1 trade t = true →
        trade.direction.sign * trade.stopLoss ≤ trade.direction.sign * trade.entryPrice) := by
  rw [scalpStop]
  by_cases first : 1 ∈ s.triggered
  · simp only [movesAtTp1, first, not_true, decide_false, Bool.false_and, Bool.false_eq_true,
      false_imp_iff, iff_true, if_true]
    split_ifs
    · exact le_max_left _ _
    · exact le_max_left _ _
    · exact le_rfl
  · rw [if_neg first]
    cases moves : s.movesAtTp1 trade t with
    | true => simp
    | false => simp

/-- A price is within the higher of two levels. -/
theorem within_max_iff {stop entry floor : ℚ} :
    (entry ≤ stop ∧ floor ≤ stop) ∨ floor ≤ entry ↔ floor ≤ max stop entry := by
  rw [le_max_iff]
  constructor
  · exact Or.imp_left And.right
  · rintro (within | within)
    · exact (le_total entry stop).imp (⟨·, within⟩) within.trans
    · exact .inr within

/-- The stop behind a call covers the tick exactly in these cases. -/
theorem scalpStop_covers_iff
    (forward : s.movesAtTp1 trade t = true →
      trade.direction.sign * trade.stopLoss ≤ trade.direction.sign * trade.entryPrice) :
    (trade.direction.sign * trade.entryPrice ≤ s.scalpStop trade t ∧
        trailFloor trade t ≤ s.scalpStop trade t) ↔ s.Covered trade t := by
  have trail : trade.direction.sign * trailLevel trade t.tick scalpTrailPt =
      max (roundTo 2 (trailFloor trade t)) (trade.direction.sign * trade.entryPrice) :=
    sign_trailLevel scalpTrailPt
  have stays : 1 ∈ s.triggered → s.movesAtTp1 trade t = false := fun first => by
    rw [movesAtTp1, decide_eq_false (not_not_intro first), Bool.false_and]
  rw [scalpStop, Covered, trail]
  generalize trade.direction.sign * trade.stopLoss = stop at *
  generalize trade.direction.sign * trade.entryPrice = entry at *
  generalize trailFloor trade t = floor at *
  by_cases first : 1 ∈ s.triggered
  · simp only [stays first, Bool.false_eq_true, false_and, or_false, first, true_and]
    by_cases second : 2 ∈ s.triggered
    · simp only [second, if_true, true_and, not_true, false_and, or_false]
      rw [or_left_comm, within_max_iff]
      grind
    · simp only [second, if_false, false_and, not_false_eq_true, true_and, false_or]
      cases (tpHitAt trade t 2).isSome with
      | true => simp [within_max_iff]
      | false => simp
  · simp only [first, false_and, false_or]
    cases moves : s.movesAtTp1 trade t with
    | true => simp [within_max_iff, max_eq_right (forward moves)]
    | false => simp

end StopDesk

namespace ScalpRun
variable {tradeId : String} {r : ScalpRun} {row : Trade}

/-- The row of the trade, with the stop stored last. -/
def Stored (tradeId : String) (r : ScalpRun) : Prop :=
  ∃ row, r.desk.db.getTrade tradeId = some row ∧ row.stopLoss = r.desk.stops.stop

/-- A tick on the open trade, and the stop of its row behind it. -/
theorem tick_stop (found : r.desk.db.getTrade tradeId = some row) (isOpen : row.isOpen = true)
    (stop : row.stopLoss = r.desk.stops.stop) (t : StopTick) :
    ∃ after, (r.step tradeId (.tick t)).desk.db.getTrade tradeId = some after ∧
      after.stopLoss = (r.step tradeId (.tick t)).desk.stops.stop ∧
      row.direction.sign * after.stopLoss =
        (r.desk.readTriggered row t.now).scalpStop row t := by
  have own : row.tradeId = tradeId := Table.key_of_find found
  have tracks : StopDesk.Tracks row r.desk := ⟨row, own ▸ found, .refl row, stop⟩
  obtain ⟨⟨after, found', -, stop'⟩, level⟩ :=
    StopDesk.handleScalpRunner_stop (t := t) tracks stop.symm
  rw [own] at found'
  simp only [step, StopDesk.step, found, isOpen, if_true, StopHandler.handle]
  exact ⟨after, found', stop', stop' ▸ level⟩

theorem Stored.step (h : r.Stored tradeId) : ∀ e, (r.step tradeId e).Stored tradeId
  | .restart => h
  | .tick t => by
      obtain ⟨row, found, stop⟩ := h
      cases isOpen : row.isOpen with
      | true =>
          obtain ⟨after, found', stop', -⟩ := tick_stop found isOpen stop t
          exact ⟨after, found', stop'⟩
      | false =>
          have same : (r.step tradeId (.tick t)).desk = r.desk := by
            simp [ScalpRun.step, StopDesk.step, found, isOpen]
          rw [Stored, same]
          exact ⟨row, found, stop⟩

theorem Stored.trails_iff (h : r.Stored tradeId) :
    ∀ e, r.Trails tradeId e ↔ r.Remembers tradeId e
  | .restart => Iff.rfl
  | .tick t => by
      obtain ⟨row, found, stop⟩ := h
      rw [Trails, Remembers, found]
      simp only [Option.mem_def, Option.some.injEq, forall_eq']
      refine forall_congr' fun isOpen => ?_
      obtain ⟨after, found', -, level⟩ := tick_stop found isOpen stop t
      simp only [found', Option.some.injEq, forall_eq', level]
      rw [← StopDesk.scalpStop_forward_iff]
      exact and_congr_right fun forward => imp_congr_right fun _ =>
        StopDesk.scalpStop_covers_iff (StopDesk.scalpStop_forward_iff.mp forward)

end ScalpRun

/-- Over any run of ticks and restarts, from any cache: the stop of a Scalp Runner never
moves back and, once TP2 has been reached, ends every tick at the entry and within the trail
at least, exactly if every tick finds the two levels in the set it reads, or the stop far
enough already. -/
theorem scalp_trail_iff (row : Trade) (db : Db) (cache : Option (List ℕ × ℚ))
    (lastFail : ℕ → Option ℚ) (events : List ScalpEvent)
    (found : db.getTrade row.tradeId = some row) :
    Meets (ScalpRun.step row.tradeId) (ScalpRun.Trails row.tradeId)
        (.start row db cache lastFail) events ↔
      Meets (ScalpRun.step row.tradeId) (ScalpRun.Remembers row.tradeId)
        (.start row db cache lastFail) events := by
  have start : (ScalpRun.start row db cache lastFail).Stored row.tradeId := ⟨row, found, rfl⟩
  have anything : Meets (ScalpRun.step row.tradeId) (fun _ _ => True)
      (.start row db cache lastFail) events := meets_of_forall (fun _ _ => True.intro) _ _
  exact meets_iff_of_invariant (fun _ e stored _ => stored.step e)
    (fun _ e stored _ => stored.trails_iff e) start anything

/-- A trade of a tenth of a lot, with a stop of ten. -/
def scalpTrade : Trade :=
  Trade.fresh "t1" "s1" (some 7001) .buy 2000 (1 / 10) 1990 [some 2003, some 2006] 0 .scalpRunner
    .python false (some 1990) none

theorem scalp_trail_together :
    Meets (ScalpRun.step "t1") (ScalpRun.Trails "t1")
      (.start scalpTrade (Db.single scalpTrade Table.empty) none fun _ => none)
      [.tick (ratchetTick 2003 0), .tick (ratchetTick 2006 1), .tick (ratchetTick 2006 2)] :=
  (scalp_trail_iff scalpTrade _ none _ _ rfl).mpr (by decide +kernel)

/-- The set is read again three seconds after TP2, from bookings that are without it. -/
theorem scalp_trail_forgotten :
    ¬ ∀ (row : Trade) (db : Db) (cache : Option (List ℕ × ℚ)) (lastFail : ℕ → Option ℚ)
      (events : List ScalpEvent), db.getTrade row.tradeId = some row →
        Meets (ScalpRun.step row.tradeId) (ScalpRun.Trails row.tradeId)
          (.start row db cache lastFail) events := by
  intro all
  let run := [ScalpEvent.tick (ratchetTick 2003 0), .tick (ratchetTick 2006 1),
    .tick (ratchetTick (4011 / 2) 4)]
  have trails := all scalpTrade (Db.single scalpTrade Table.empty) none (fun _ => none) run rfl
  exact absurd trails.2.2.1 (by decide +kernel)

end Forex
