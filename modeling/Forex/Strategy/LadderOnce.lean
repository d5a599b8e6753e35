import Forex.Strategy.LadderRun
import Forex.Support.Run

/-!
What the ladder records over a run of ticks: one real close for a level, and no
more lots than the trade was opened with. A level that is booked joins the set
of triggered levels, and its marker row brings it back when the set is read
again; the lots are bounded by the booked and the remaining ones together.
-/

namespace Forex
open Support

/-- The real closes recorded at a level. -/
def closesAt (db : Db) (tradeId : String) (n : ℕ) : List PartialClose :=
  db.partials.filter fun p =>
    decide (p.tradeId = tradeId ∧ 0 < p.lotsClosed ∧ p.reason = tpReason n)

def lastTp (trade : Trade) : Option ℕ := (ladderTps trade).getLast?.map Prod.fst

/-- A trade as it is opened: nothing of it is booked. -/
structure Trade.Opened (row : Trade) (db : Db) : Prop where
  found : db.getTrade row.tradeId = some row
  unbooked : ∀ p ∈ db.partials, p.tradeId ≠ row.tradeId
  whole : row.remainingLots = row.lotSize
  lots : 0 ≤ row.lotSize

/-- Rounding does not raise what a booking leaves, and a booking of the last
level leaves nothing. -/
def LadderTick.coversLevel (t : LadderTick) (trade : Trade) (tps : List (ℕ × ℚ)) (w : LadderWalk)
    (l : (ℕ × ℚ) × ℕ) : Bool :=
  (t.levelWrite trade tps w l).all fun p =>
    let rest := p.row.remainingLots - p.lots
    decide (roundTo 4 rest ≤ rest) &&
      (decide (l.2 + 1 ≠ tps.length) || !t.rule.closeFullOnLast || decide (roundTo 4 rest ≤ 0))

/-- `lots_closed` of `_partial_close`, which rounds to two decimals whatever the
volume step of the symbol is. -/
def brokerLots (lotStep volume lots : ℚ) : ℚ :=
  max lotStep (min volume (roundTo 2 (roundHalfEven (lots / lotStep) * lotStep)))

namespace LadderDesk

/-- The walk of a tick, from the row as it is and the triggered levels. -/
def start (s : LadderDesk) (t : LadderTick) (trade : Trade) : LadderWalk :=
  ⟨s.db, (getTriggeredTps s.cache s.db trade.tradeId t.now).1, trade.stopLoss⟩

def Covered (tradeId : String) (s : LadderDesk) (t : LadderTick) : Prop :=
  ∀ trade ∈ s.db.getTrade tradeId, trade.isOpen = true →
    t.LevelsMeet trade (ladderTps trade)
      (fun w l => t.coversLevel trade (ladderTps trade) w l = true) (s.start t trade)
      (ladderTps trade).zipIdx

instance (tradeId : String) (s : LadderDesk) (t : LadderTick) : Decidable (s.Covered tradeId t) :=
  inferInstanceAs (Decidable (∀ trade ∈ s.db.getTrade tradeId, _))

/-- A tick that records the close of the last level, where that closes
everything, leaves the trade closed. -/
def ClosesAtLast (row : Trade) (s : LadderDesk) (t : LadderTick) : Prop :=
  t.rule.closeFullOnLast = true → ∀ n, lastTp row = some n →
    closesAt s.db row.tradeId n = [] →
      closesAt (s.step row.tradeId t).db row.tradeId n ≠ [] →
        ∀ row' ∈ (s.step row.tradeId t).db.getTrade row.tradeId,
          row'.isOpen = false ∧ row'.remainingLots = 0

theorem step_of_closed {s : LadderDesk} {t : LadderTick} {tradeId : String} {trade : Trade}
    (found : s.db.getTrade tradeId = some trade) (closed : trade.isOpen = false) :
    s.step tradeId t = s := by
  rw [step, found]
  dsimp only
  rw [closed]
  rfl

theorem step_of_open {s : LadderDesk} {t : LadderTick} {tradeId : String} {trade : Trade}
    (found : s.db.getTrade tradeId = some trade) (isOpen : trade.isOpen = true) :
    (s.step tradeId t).db =
        (t.levels trade (ladderTps trade) (s.start t trade) (ladderTps trade).zipIdx).db ∧
      ∃ ts, (s.step tradeId t).cache =
        some ((t.levels trade (ladderTps trade) (s.start t trade)
          (ladderTps trade).zipIdx).triggered, ts) := by
  have own : trade.tradeId = tradeId := Table.key_of_find found
  rw [step, found]
  dsimp only
  rw [if_pos isOpen, start, own]
  exact ⟨rfl, _, rfl⟩

end LadderDesk

/-- The books of the trade that was opened as `row`, and the levels triggered. -/
structure LadderBooks (row : Trade) (db : Db) (triggered : List ℕ) : Prop where
  known : Known db row.tradeId triggered
  once : ∀ n, (closesAt db row.tradeId n).length ≤ 1
  lots : ∃ now, db.getTrade row.tradeId = some now ∧ ladderTps now = ladderTps row ∧
    0 ≤ now.remainingLots ∧ db.bookedLots row.tradeId + now.remainingLots ≤ row.lotSize

section Books
variable {row trade : Trade} {db : Db} {triggered : List ℕ}

theorem closesAt_append {db' : Db} {b : PartialClose} (tradeId : String) (n : ℕ)
    (partials : db'.partials = db.partials ++ [b]) :
    closesAt db' tradeId n = closesAt db tradeId n ++
      if b.tradeId = tradeId ∧ 0 < b.lotsClosed ∧ b.reason = tpReason n then [b] else [] := by
  rw [closesAt, partials, List.filter_append, ← closesAt]
  congr 1
  by_cases own : b.tradeId = tradeId ∧ 0 < b.lotsClosed ∧ b.reason = tpReason n
  · rw [if_pos own]
    exact List.filter_eq_self.mpr fun q mem => List.mem_singleton.mp mem ▸ decide_eq_true own
  · rw [if_neg own]
    refine List.filter_eq_nil_iff.mpr fun q mem => ?_
    rw [List.mem_singleton.mp mem, decide_eq_true_eq]
    exact own

theorem Known.closesAt_eq_nil {n : ℕ} (known : Known db row.tradeId triggered)
    (fresh : n ∉ triggered) : closesAt db row.tradeId n = [] := by
  refine List.filter_eq_nil_iff.mpr fun p mem own => fresh ?_
  have fields := of_decide_eq_true own
  exact known p mem fields.1 n (by rw [fields.2.2, tpNumOf_tpReason])

/-- The lots and the rest of a booking that rounding does not raise. -/
theorem LadderBooks.booked (books : LadderBooks row db triggered) {p : PartialWrite} {n : ℕ}
    (fresh : n ∉ triggered) (found : db.getTrade row.tradeId = some p.row)
    (reason : p.reason = tpReason n) (new : db.alreadyRecorded p.booking = false)
    (covered : p.newRemaining ≤ p.row.remainingLots - p.lots) :
    LadderBooks row (p.apply db) (n :: triggered) := by
  have own : p.row.tradeId = row.tradeId := Table.key_of_find found
  have write := PartialWrite.apply_of_new new
  have partials : (p.apply db).partials = db.partials ++ [p.booking] := write.partials
  constructor
  · exact books.known.booked partials reason
  · intro m
    rw [closesAt_append row.tradeId m partials, List.length_append]
    by_cases same : n = m
    · rw [← same, books.known.closesAt_eq_nil fresh, List.length_nil, Nat.zero_add]
      split
      · exact le_rfl
      · exact Nat.zero_le 1
    · have other : ¬(p.booking.tradeId = row.tradeId ∧ 0 < p.booking.lotsClosed ∧
          p.booking.reason = tpReason m) :=
        fun h => same (tpReason_injective (reason.symm.trans h.2.2))
      rw [if_neg other]
      exact books.once m
  · obtain ⟨now, foundNow, levels, -, sum⟩ := books.lots
    rw [found] at foundNow
    cases Option.some.inj foundNow
    have after := write.getTrade_self
    rw [own, found] at after
    refine ⟨_, after, ?_, ?_, ?_⟩
    · rw [ladderTps_afterPartial]
      exact levels
    · rw [Trade.afterPartial_remainingLots]
      split_ifs with closes
      · exact le_rfl
      · exact (not_le.mp closes).le
    · have lots := bookedLots_append db (p.apply db) p.booking row.tradeId partials
      have booked : p.booking.lotsClosed = p.lots := rfl
      have whose : p.booking.tradeId = row.tradeId := own
      have atMost : p.lots ≤ p.row.remainingLots := min_le_right _ _
      rw [if_pos whose, booked] at lots
      rw [lots, Trade.afterPartial_remainingLots]
      split_ifs <;> linarith

theorem LadderBooks.trailed (books : LadderBooks row db triggered) (sl : ℚ) (moved : Bool) :
    LadderBooks row (db.setTrade row.tradeId (Trade.setStopLossBeFlag sl moved)) triggered := by
  constructor
  · exact books.known
  · exact books.once
  · obtain ⟨now, found, levels, left, sum⟩ := books.lots
    refine ⟨Trade.setStopLossBeFlag sl moved now, ?_, levels, left, sum⟩
    rw [Db.getTrade, Db.setTrade, Table.find_update_self, ← Db.getTrade, found]
    rfl

end Books

section Tick
variable {row trade : Trade} {t : LadderTick} {w : LadderWalk} {l : (ℕ × ℚ) × ℕ}

theorem LadderBooks.level (own : trade.tradeId = row.tradeId)
    (books : LadderBooks row w.db w.triggered)
    (covered : t.coversLevel trade (ladderTps trade) w l = true) :
    LadderBooks row (t.level trade (ladderTps trade) w l).walk.db
      (t.level trade (ladderTps trade) w l).walk.triggered := by
  cases LadderTick.level_walk_cases t trade (ladderTps trade) w l with
  | inl idle =>
      rw [idle]
      exact books
  | inr wrote =>
      obtain ⟨p, write, result⟩ := wrote
      obtain ⟨fresh, -, -, lots, -, -, close⟩ := LadderTick.levelWrite_eq_some write
      obtain ⟨found, isOpen, reason, -⟩ := closeWrite_eq_some close
      rw [LadderTick.coversLevel, write, Option.all_some, Bool.and_eq_true] at covered
      have known : Known w.db trade.tradeId w.triggered := own ▸ books.known
      have booked := books.booked fresh (own ▸ found) reason (known.write_new fresh found reason)
        (of_decide_eq_true covered.1)
      cases result with
      | inl kept =>
          rw [kept]
          exact booked
      | inr moved =>
          obtain ⟨flag, moved⟩ := moved
          rw [moved]
          have after := booked.trailed
            (LadderTick.trailTarget trade t.rule (ladderTps trade) l.2) flag
          rw [← own] at after
          exact after

theorem lastTp_iff (mem : l ∈ (ladderTps row).zipIdx) :
    lastTp row = some l.1.1 ↔ l.2 + 1 = (ladderTps row).length := by
  have at_ : (ladderTps row)[l.2]? = some l.1 := List.mem_zipIdx_iff_getElem?.mp mem
  have inside : l.2 < (ladderTps row).length := (List.getElem?_eq_some_iff.mp at_).1
  rw [lastTp, List.getLast?_eq_getElem?]
  constructor
  · intro last
    obtain ⟨q, found, number⟩ := Option.map_eq_some_iff.mp last
    have numbers : ((ladderTps row).map Prod.fst)[l.2]? =
        ((ladderTps row).map Prod.fst)[(ladderTps row).length - 1]? := by
      rw [List.getElem?_map, List.getElem?_map, at_, found, Option.map_some, Option.map_some,
        number]
    have some : l.2 < ((ladderTps row).map Prod.fst).length := by
      rw [List.length_map]
      exact inside
    have same := (List.getElem?_inj some (nodup_ladderTps row)).mp numbers
    omega
  · intro last
    have index : (ladderTps row).length - 1 = l.2 := by omega
    rw [index, at_]
    rfl

/-- A closed last level means a closed trade. -/
def LastMeansClosed (row : Trade) (db : Db) : Prop :=
  ∀ n, lastTp row = some n → closesAt db row.tradeId n ≠ [] →
    ∀ now ∈ db.getTrade row.tradeId, now.isOpen = false ∧ now.remainingLots = 0

theorem LastMeansClosed.trailed {db : Db} (h : LastMeansClosed row db) (sl : ℚ) (moved : Bool) :
    LastMeansClosed row (db.setTrade row.tradeId (Trade.setStopLossBeFlag sl moved)) := by
  intro n last closed now found
  rw [Db.getTrade, Db.setTrade, Table.find_update_self] at found
  obtain ⟨before, here, rfl⟩ := Option.map_eq_some_iff.mp found
  exact h n last closed before here

theorem LastMeansClosed.level (h : LastMeansClosed row w.db) (own : trade.tradeId = row.tradeId)
    (levels : ladderTps trade = ladderTps row) (mem : l ∈ (ladderTps trade).zipIdx)
    (full : t.rule.closeFullOnLast = true) (known : Known w.db row.tradeId w.triggered)
    (covered : t.coversLevel trade (ladderTps trade) w l = true) :
    LastMeansClosed row (t.level trade (ladderTps trade) w l).walk.db := by
  cases LadderTick.level_walk_cases t trade (ladderTps trade) w l with
  | inl idle =>
      rw [idle]
      exact h
  | inr wrote =>
      obtain ⟨p, write, result⟩ := wrote
      obtain ⟨fresh, -, -, lots, -, -, close⟩ := LadderTick.levelWrite_eq_some write
      obtain ⟨found, isOpen, reason, -⟩ := closeWrite_eq_some close
      rw [LadderTick.coversLevel, write, Option.all_some, Bool.and_eq_true] at covered
      have new := Known.write_new (own ▸ known : Known w.db trade.tradeId w.triggered) fresh found
        reason
      have ledger := PartialWrite.apply_of_new new
      have rowId : p.row.tradeId = row.tradeId := (Table.key_of_find found).trans own
      have booked : LastMeansClosed row (p.apply w.db) := by
        intro n last closed now after
        have none : closesAt w.db row.tradeId n = [] := by
          by_contra some
          have shut := (h n last some p.row (own ▸ found)).1
          rw [isOpen] at shut
          cases shut
        rw [closesAt_append row.tradeId n ledger.partials, none, List.nil_append] at closed
        have booking : p.booking.tradeId = row.tradeId ∧ 0 < p.booking.lotsClosed ∧
            p.booking.reason = tpReason n := by
          by_contra other
          rw [if_neg other] at closed
          exact closed rfl
        have number : l.1.1 = n := tpReason_injective (reason.symm.trans booking.2.2)
        have position : l.2 + 1 = (ladderTps trade).length := by
          rw [levels] at mem ⊢
          exact (lastTp_iff mem).mp (number ▸ last)
        have empties : p.newRemaining ≤ 0 := by
          have rest := covered.2
          rw [decide_eq_false (not_not.mpr position), full, Bool.not_true, Bool.false_or,
            Bool.false_or] at rest
          exact of_decide_eq_true rest
        have here := ledger.getTrade_self
        rw [rowId, ← own, found] at here
        rw [← own, here] at after
        rw [← Option.some.inj after]
        refine ⟨?_, ?_⟩
        · rw [Trade.afterPartial, if_pos empties]
          rfl
        · rw [Trade.afterPartial_remainingLots, if_pos empties]
      cases result with
      | inl kept =>
          rw [kept]
          exact booked
      | inr moved =>
          obtain ⟨flag, moved⟩ := moved
          rw [moved]
          have after := booked.trailed
            (LadderTick.trailTarget trade t.rule (ladderTps trade) l.2) flag
          rw [← own] at after
          exact after

end Tick

structure LadderDesk.Sound (row : Trade) (s : LadderDesk) : Prop where
  cache : ∀ cached, s.cache = some cached → Known s.db row.tradeId cached.1
  books : LadderBooks row s.db (tpMarkers s.db row.tradeId)

theorem LadderBooks.retrigger {row : Trade} {db : Db} {triggered triggered' : List ℕ}
    (books : LadderBooks row db triggered) (known : Known db row.tradeId triggered') :
    LadderBooks row db triggered' :=
  ⟨known, books.once, books.lots⟩

namespace LadderDesk
variable {row : Trade} {s : LadderDesk} {t : LadderTick}

theorem Sound.start (sound : s.Sound row) {trade : Trade} (own : trade.tradeId = row.tradeId) :
    LadderBooks row (s.start t trade).db (s.start t trade).triggered := by
  rw [LadderDesk.start, own]
  exact sound.books.retrigger (known_getTriggeredTps sound.cache t.now)

/-- The row of the trade at a tick, with the levels it was opened with. -/
theorem Sound.found (sound : s.Sound row) :
    ∃ trade, s.db.getTrade row.tradeId = some trade ∧ trade.tradeId = row.tradeId ∧
      ladderTps trade = ladderTps row := by
  obtain ⟨trade, found, levels, -⟩ := sound.books.lots
  exact ⟨trade, found, Table.key_of_find found, levels⟩

theorem Sound.step (sound : s.Sound row) (covered : s.Covered row.tradeId t) :
    (s.step row.tradeId t).Sound row := by
  obtain ⟨trade, found, own, levels⟩ := sound.found
  cases isOpen : trade.isOpen with
  | false =>
      rw [step_of_closed found isOpen]
      exact sound
  | true =>
      obtain ⟨db, ts, cache⟩ := step_of_open (t := t) found isOpen
      have walked : LadderBooks row _ _ := LadderTick.levels_invariant
        (I := fun w => LadderBooks row w.db w.triggered)
        (fun w l _ books ok => books.level own ok) (sound.start own) (covered trade found isOpen)
      rw [← db] at walked
      constructor
      · intro cached same
        rw [cache] at same
        rw [← Option.some.inj same]
        exact walked.known
      · exact walked.retrigger (known_tpMarkers _ _)

theorem Sound.closesAtLast (sound : s.Sound row) (covered : s.Covered row.tradeId t) :
    s.ClosesAtLast row t := by
  intro full n last none closed row' found'
  obtain ⟨trade, found, own, levels⟩ := sound.found
  cases isOpen : trade.isOpen with
  | false =>
      rw [step_of_closed found isOpen] at closed
      exact absurd none closed
  | true =>
      obtain ⟨db, -⟩ := step_of_open (t := t) found isOpen
      have vacuous : LastMeansClosed row (s.start t trade).db := by
        intro m lastM some
        rw [Option.some.inj (last.symm.trans lastM)] at none
        exact absurd none some
      have walked := LadderTick.levels_invariant
        (I := fun w => LadderBooks row w.db w.triggered ∧ LastMeansClosed row w.db)
        (fun w l mem h ok =>
          ⟨h.1.level own ok, h.2.level own levels mem full h.1.known ok⟩)
        ⟨sound.start own, vacuous⟩ (covered trade found isOpen)
      rw [← db] at walked
      exact walked.2 n last closed row' found'

theorem sound_opened {db : Db} (opened : row.Opened db) : Sound row ⟨db, none⟩ := by
  have unbooked : ∀ p ∈ db.partials, decide (p.tradeId = row.tradeId) ≠ true := by
    intro p mem own
    exact opened.unbooked p mem (of_decide_eq_true own)
  constructor
  · intro cached h
    cases h
  · constructor
    · exact known_tpMarkers db row.tradeId
    · intro n
      have none : closesAt db row.tradeId n = [] := by
        refine List.filter_eq_nil_iff.mpr fun p mem own => ?_
        exact opened.unbooked p mem (of_decide_eq_true own).1
      dsimp only
      rw [none]
      exact Nat.zero_le 1
    · refine ⟨row, opened.found, rfl, ?_, ?_⟩
      · rw [opened.whole]
        exact opened.lots
      · dsimp only [Db.bookedLots]
        rw [List.filter_eq_nil_iff.mpr unbooked, opened.whole, List.map_nil, List.sum_nil, zero_add]

end LadderDesk

/-- Over any run of ticks in which rounding raises no rest and the close of the
last level takes all that is tracked, each level is closed once, the recorded
lots stay within the lots of the trade, and the last level closes it. -/
theorem ladder_closes_each_level_once (row : Trade) (db : Db) (ticks : List LadderTick)
    (opened : row.Opened db)
    (covered :
      Meets (LadderDesk.step row.tradeId) (LadderDesk.Covered row.tradeId) ⟨db, none⟩ ticks) :
    (∀ s ∈ states (LadderDesk.step row.tradeId) ⟨db, none⟩ ticks,
      (∀ n, (closesAt s.db row.tradeId n).length ≤ 1) ∧
        s.db.bookedLots row.tradeId ≤ row.lotSize) ∧
      Meets (LadderDesk.step row.tradeId) (LadderDesk.ClosesAtLast row) ⟨db, none⟩ ticks := by
  have start := LadderDesk.sound_opened opened
  have keep : ∀ (s : LadderDesk) t, s.Sound row → s.Covered row.tradeId t →
      (s.step row.tradeId t).Sound row := fun s t sound ok => sound.step ok
  constructor
  · intro s mem
    have sound := states_invariant keep start covered s mem
    obtain ⟨now, -, -, left, sum⟩ := sound.books.lots
    exact ⟨sound.books.once, by linarith⟩
  · exact meets_of_invariant keep (fun s t sound ok => sound.closesAtLast ok) start covered

def adaptiveTrade (lots : ℚ) (tps : List (Option ℚ)) : Trade :=
  .fresh "t1" "s1" (some 7001) .buy 2000 lots 1990 tps 0 .adaptiveRunner .python false none none

/-- A tick at which the broker closes at the bid what `_partial_close` makes of
each level's lots. -/
def adaptiveTick (lotStep volume bid now : ℚ) (lots : ℕ → ℚ) : LadderTick where
  tick := ⟨bid, bid⟩
  rule := adaptiveRunnerRule
  reply n := .answered ⟨some true, none, some bid, some (brokerLots lotStep volume (lots n))⟩
  now := now

theorem ladder_closes_two_levels :
    let row := adaptiveTrade (1 / 10) [some 2010, some 2020]
    let db := Db.single row Table.empty
    let ticks :=
      [adaptiveTick (1 / 100) (1 / 10) 2010 1 fun _ => 3 / 100,
        adaptiveTick (1 / 100) (7 / 100) 2020 5 fun _ => 7 / 100]
    (∀ s ∈ states (LadderDesk.step row.tradeId) ⟨db, none⟩ ticks,
      (∀ n, (closesAt s.db row.tradeId n).length ≤ 1) ∧
        s.db.bookedLots row.tradeId ≤ row.lotSize) ∧
      Meets (LadderDesk.step row.tradeId) (LadderDesk.ClosesAtLast row) ⟨db, none⟩ ticks :=
  ladder_closes_each_level_once _ _ _ ⟨rfl, by decide, rfl, by decide +kernel⟩ (by decide +kernel)

/-- With a volume step of 0.001 the last close of 0.012 lots takes 0.01 of them,
and the rest has no level left. -/
theorem last_level_leaves_lots :
    ¬ ∀ (row : Trade) (db : Db) (ticks : List LadderTick), row.Opened db →
      (∀ s ∈ states (LadderDesk.step row.tradeId) ⟨db, none⟩ ticks,
        (∀ n, (closesAt s.db row.tradeId n).length ≤ 1) ∧
          s.db.bookedLots row.tradeId ≤ row.lotSize) ∧
        Meets (LadderDesk.step row.tradeId) (LadderDesk.ClosesAtLast row) ⟨db, none⟩ ticks := by
  intro all
  have opened : (adaptiveTrade (12 / 1000) [some 2010]).Opened
      (Db.single (adaptiveTrade (12 / 1000) [some 2010]) Table.empty) :=
    ⟨rfl, by decide, rfl, by decide +kernel⟩
  have closes := (all _ _
    [adaptiveTick (1 / 1000) (12 / 1000) 2010 1 fun _ => 12 / 1000] opened).2.1 rfl 1
  have left := closes (by decide +kernel) (by decide +kernel) (by decide +kernel)
  revert left
  decide +kernel

end Forex
