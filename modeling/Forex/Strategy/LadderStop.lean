import Forex.Strategy.LadderOnce

/-!
The stop of a trade under the ladder, level by level: left alone until the level
at `be_at_pos` is closed, at breakeven by that close, and only tightened from
then on. The walk keeps the stop in memory, and the transaction that books TP1
may move the stored one without it.
-/

namespace Forex
open Support

/-- The level at the breakeven position has a booking. -/
def beClosed (db : Db) (tradeId : String) (tps : List (ℕ × ℚ)) (beAtPos : ℕ) : Bool :=
  (tps[beAtPos]?).any fun q =>
    db.partials.any fun b => decide (b.tradeId = tradeId ∧ b.reason = tpReason q.1)

namespace Direction
variable (d : Direction) {a b c : ℚ}

theorem tighter_irrefl (a : ℚ) : d.tighter a a = false := by
  cases d <;> simp [tighter]

theorem tighter_eq_false_iff : d.tighter a b = false ↔ (d.sign * a ≤ d.sign * b) := by
  cases d <;> simp [tighter, sign]

theorem tighter_eq_true_iff : d.tighter a b = true ↔ (d.sign * b < d.sign * a) := by
  cases d <;> simp [tighter, sign]

theorem eq_of_not_tighter (h : d.tighter a b = false) (h' : d.tighter b a = false) : a = b := by
  rw [tighter_eq_false_iff] at h h'
  cases d <;> simp only [sign] at h h' <;> linarith

end Direction

/-- What one level may do to the stop of a trade that is open after it, by
whether the breakeven level is closed before and after. -/
structure StopDiscipline (trade before after : Trade) (closed closed' : Bool) : Prop where
  unchanged : closed' = false → after.stopLoss = before.stopLoss
  breakeven : closed = false → closed' = true → after.stopLoss = trade.entryPrice
  ratchet : closed = true → trade.direction.tighter before.stopLoss after.stopLoss = false

namespace LadderTick

def Disciplined (t : LadderTick) (trade : Trade) (tps : List (ℕ × ℚ)) (w : LadderWalk)
    (l : (ℕ × ℚ) × ℕ) : Prop :=
  let w' := (t.level trade tps w l).walk
  ∀ before ∈ w.db.getTrade trade.tradeId, ∀ after ∈ w'.db.getTrade trade.tradeId,
    after.isOpen = true →
      StopDiscipline trade before after (beClosed w.db trade.tradeId tps t.rule.beAtPos)
        (beClosed w'.db trade.tradeId tps t.rule.beAtPos)

/-- Unless the close empties the trade: the booking of TP1 moves the stop to
breakeven only at the breakeven level, or where it is there already; the stop
is not past the entry when the breakeven level is closed; and no later level
trails the stop before that. -/
def inOrder (t : LadderTick) (trade : Trade) (tps : List (ℕ × ℚ)) (w : LadderWalk)
    (l : (ℕ × ℚ) × ℕ) : Bool :=
  (t.levelWrite trade tps w l).all fun p =>
    let closed := beClosed w.db trade.tradeId tps t.rule.beAtPos
    let moves := movesToBreakeven w.db.moveSlToBeAfterTp1 p.row p.reason
    let past := trade.direction.tighter p.row.stopLoss trade.entryPrice
    decide (roundTo 4 (p.row.remainingLots - p.lots) ≤ 0) ||
      ((!moves || decide (l.2 = t.rule.beAtPos) || decide (p.row.stopLoss = trade.entryPrice)) &&
        (decide (l.2 ≠ t.rule.beAtPos) || moves || !past) &&
        (decide (l.2 ≤ t.rule.beAtPos) || closed ||
          !trade.direction.tighter (t.rule.slRule l.2 tps) w.currentSl))

end LadderTick

namespace LadderDesk

def StopInOrder (tradeId : String) (s : LadderDesk) (t : LadderTick) : Prop :=
  ∀ trade ∈ s.db.getTrade tradeId, trade.isOpen = true →
    t.LevelsMeet trade (ladderTps trade)
      (fun w l => t.inOrder trade (ladderTps trade) w l = true) (s.start t trade)
      (ladderTps trade).zipIdx

instance (tradeId : String) (s : LadderDesk) (t : LadderTick) :
    Decidable (s.StopInOrder tradeId t) :=
  inferInstanceAs (Decidable (∀ trade ∈ s.db.getTrade tradeId, _))

def Disciplined (tradeId : String) (s : LadderDesk) (t : LadderTick) : Prop :=
  ∀ trade ∈ s.db.getTrade tradeId, trade.isOpen = true →
    t.LevelsMeet trade (ladderTps trade) (t.Disciplined trade (ladderTps trade)) (s.start t trade)
      (ladderTps trade).zipIdx

end LadderDesk

/-- The walk knows what is booked, and while the trade is open its stop in
memory is the stored one until the breakeven level is closed, and not behind it
afterwards. -/
structure StopInMemory (trade : Trade) (tps : List (ℕ × ℚ)) (beAtPos : ℕ) (w : LadderWalk) :
    Prop where
  known : Known w.db trade.tradeId w.triggered
  row : ∃ now, w.db.getTrade trade.tradeId = some now ∧ now.entryPrice = trade.entryPrice ∧
    (now.isOpen = true → trade.direction.tighter now.stopLoss w.currentSl = false ∧
      (beClosed w.db trade.tradeId tps beAtPos = false → now.stopLoss = w.currentSl))

section Level
variable {t : LadderTick} {trade : Trade} {w : LadderWalk} {l : (ℕ × ℚ) × ℕ}

theorem afterPartial_stopLoss ( be : Bool) (now closePrice partialPnl newRemaining entryPrice : ℚ)
    (row : Trade) :
    (Trade.afterPartial be now closePrice partialPnl newRemaining entryPrice row).stopLoss =
      if be then entryPrice else row.stopLoss := by
  rw [Trade.afterPartial]
  split_ifs <;> rfl

theorem afterPartial_entryPrice ( be : Bool) (now closePrice partialPnl newRemaining entryPrice : ℚ)
    (row : Trade) :
    (Trade.afterPartial be now closePrice partialPnl newRemaining entryPrice row).entryPrice =
      row.entryPrice := by
  rw [Trade.afterPartial]
  split_ifs <;> rfl

theorem afterPartial_isOpen ( be : Bool) (now closePrice partialPnl newRemaining entryPrice : ℚ)
    (row : Trade) :
    (Trade.afterPartial be now closePrice partialPnl newRemaining entryPrice row).isOpen =
      (row.isOpen && !decide (newRemaining ≤ 0)) := by
  rw [Trade.afterPartial]
  split_ifs with closes be be
  · rw [decide_eq_true closes, Bool.not_true, Bool.and_false]
    rfl
  · rw [decide_eq_true closes, Bool.not_true, Bool.and_false]
    rfl
  · rw [decide_eq_false closes, Bool.not_false, Bool.and_true]
    rfl
  · rw [decide_eq_false closes, Bool.not_false, Bool.and_true]
    rfl

/-- The row of the trade after a booking. -/
def bookedRow (p : PartialWrite) (db : Db) : Trade :=
  Trade.afterPartial (movesToBreakeven db.moveSlToBeAfterTp1 p.row p.reason) p.now p.closePrice
    p.partialPnl p.newRemaining p.row.entryPrice p.row

/-- The booking of a level closes the breakeven level when it is that level. -/
theorem beClosed_booked {db db' : Db} {b : PartialClose} (beAtPos : ℕ)
    (mem : l ∈ (ladderTps trade).zipIdx) (partials : db'.partials = db.partials ++ [b])
    (own : b.tradeId = trade.tradeId) (reason : b.reason = tpReason l.1.1) :
    beClosed db' trade.tradeId (ladderTps trade) beAtPos =
      (beClosed db trade.tradeId (ladderTps trade) beAtPos || decide (l.2 = beAtPos)) := by
  have at_ : (ladderTps trade)[l.2]? = some l.1 := List.mem_zipIdx_iff_getElem?.mp mem
  rw [beClosed, beClosed, partials]
  cases level : (ladderTps trade)[beAtPos]? with
  | none =>
      have other : l.2 ≠ beAtPos := by
        intro same
        rw [same, level] at at_
        cases at_
      rw [decide_eq_false other]
      rfl
  | some q =>
      have number : (q.1 = l.1.1) ↔ (l.2 = beAtPos) := by
        constructor
        · intro same
          have inside : l.2 < ((ladderTps trade).map Prod.fst).length := by
            rw [List.length_map]
            exact (List.getElem?_eq_some_iff.mp at_).1
          refine (List.getElem?_inj inside (nodup_ladderTps trade)).mp ?_
          rw [List.getElem?_map, List.getElem?_map, at_, level, Option.map_some, Option.map_some,
            same]
        · intro same
          rw [same, level] at at_
          rw [Option.some.inj at_]
      rw [Option.any_some, Option.any_some, List.any_append, List.any_cons, List.any_nil,
        Bool.or_false, own, reason]
      congr 1
      rw [decide_eq_decide, ← number]
      constructor
      · intro same
        exact (tpReason_injective same.2).symm
      · intro same
        exact ⟨rfl, by rw [same]⟩

/-- The stop after a level, from the stop before it, the one in memory and what
the booking and the trail do. -/
structure LevelStop (trade : Trade) (pos beAtPos : ℕ) (closed moves : Bool) (stop inMemory : ℚ) :
    Prop where
  notTighter : trade.direction.tighter stop inMemory = false
  same : closed = false → stop = inMemory
  once : closed = true → pos ≠ beAtPos
  booking : moves = false ∨ pos = beAtPos ∨ stop = trade.entryPrice
  notPast : pos ≠ beAtPos ∨ moves = true ∨ trade.direction.tighter stop trade.entryPrice = false

variable {pos beAtPos : ℕ} {closed moves : Bool} {stop inMemory : ℚ}

/-- The level books and leaves the stop to its booking. -/
theorem LevelStop.kept (h : LevelStop trade pos beAtPos closed moves stop inMemory)
    (before after : Trade) (was : before.stopLoss = stop)
    (is : after.stopLoss = if moves then trade.entryPrice else stop)
    (still : pos < beAtPos ∨ (pos = beAtPos →
      trade.direction.tighter trade.entryPrice inMemory = false)) :
    StopDiscipline trade before after closed (closed || decide (pos = beAtPos)) ∧
      trade.direction.tighter after.stopLoss inMemory = false ∧
      ((closed || decide (pos = beAtPos)) = false → after.stopLoss = inMemory) := by
  have away : pos ≠ beAtPos → after.stopLoss = stop := by
    intro other
    cases moves with
    | false => exact is
    | true =>
        cases h.booking with
        | inl no => cases no
        | inr rest => exact is.trans (rest.resolve_left other).symm
  have entryBehind : pos = beAtPos → trade.direction.tighter trade.entryPrice inMemory = false := by
    intro here
    cases still with
    | inl before => omega
    | inr behind => exact behind here
  have notClosed : (closed || decide (pos = beAtPos)) = false → closed = false ∧ pos ≠ beAtPos := by
    intro none
    rw [Bool.or_eq_false_iff] at none
    exact ⟨none.1, of_decide_eq_false none.2⟩
  have breakeven : closed = false → pos = beAtPos → after.stopLoss = trade.entryPrice := by
    intro open_ here
    cases moves with
    | true => exact is
    | false =>
        have past : trade.direction.tighter stop trade.entryPrice = false := by
          cases h.notPast with
          | inl other => exact absurd here other
          | inr rest => exact rest.resolve_left Bool.false_ne_true
        have behind := entryBehind here
        rw [← h.same open_] at behind
        exact is.trans (trade.direction.eq_of_not_tighter past behind)
  refine ⟨⟨?_, ?_, ?_⟩, ?_, ?_⟩
  · intro none
    rw [away (notClosed none).2, was]
  · intro open_ closes
    rw [open_, Bool.false_or, decide_eq_true_eq] at closes
    exact breakeven open_ closes
  · intro done
    rw [was, away (h.once done)]
    exact trade.direction.tighter_irrefl stop
  · by_cases here : pos = beAtPos
    · have isOpen : closed = false := by
        cases closed with
        | false => rfl
        | true => exact absurd here (h.once rfl)
      rw [breakeven isOpen here]
      exact entryBehind here
    · rw [away here]
      exact h.notTighter
  · intro none
    rw [away (notClosed none).2]
    exact h.same (notClosed none).1

/-- The level books and trails the stop. -/
theorem LevelStop.moved (h : LevelStop trade pos beAtPos closed moves stop inMemory) {target : ℚ}
    (before after : Trade) (was : before.stopLoss = stop) (is : after.stopLoss = target)
    (entry : pos = beAtPos → target = trade.entryPrice)
    (later : pos ≠ beAtPos → closed = true)
    (better : trade.direction.tighter target inMemory = true) :
    StopDiscipline trade before after closed (closed || decide (pos = beAtPos)) := by
  constructor
  · intro none
    rw [Bool.or_eq_false_iff] at none
    have done := later (of_decide_eq_false none.2)
    rw [none.1] at done
    cases done
  · intro open_ closes
    rw [open_, Bool.false_or, decide_eq_true_eq] at closes
    exact is.trans (entry closes)
  · intro _
    have behind := h.notTighter
    rw [was, is]
    rw [Direction.tighter_eq_true_iff] at better
    rw [Direction.tighter_eq_false_iff] at behind ⊢
    exact behind.trans better.le

theorem StopInMemory.level_stop (h : StopInMemory trade (ladderTps trade) t.rule.beAtPos w)
    (mem : l ∈ (ladderTps trade).zipIdx) {p : PartialWrite}
    (write : t.levelWrite trade (ladderTps trade) w l = some p)
    (ok : t.inOrder trade (ladderTps trade) w l = true) (left : ¬p.newRemaining ≤ 0) :
    LevelStop trade l.2 t.rule.beAtPos
        (beClosed w.db trade.tradeId (ladderTps trade) t.rule.beAtPos)
        (movesToBreakeven w.db.moveSlToBeAfterTp1 p.row p.reason) p.row.stopLoss w.currentSl ∧
      p.row.entryPrice = trade.entryPrice ∧
      (l.2 ≤ t.rule.beAtPos ∨ beClosed w.db trade.tradeId (ladderTps trade) t.rule.beAtPos = true ∨
        trade.direction.tighter (t.rule.slRule l.2 (ladderTps trade)) w.currentSl = false) := by
  obtain ⟨fresh, -, -, lots, -, -, close⟩ := LadderTick.levelWrite_eq_some write
  obtain ⟨found, isOpen, -, -⟩ := closeWrite_eq_some close
  obtain ⟨now, foundNow, entry, stops⟩ := h.row
  rw [found] at foundNow
  cases Option.some.inj foundNow
  obtain ⟨notTighter, same⟩ := stops isOpen
  have rest : ¬roundTo 4 (p.row.remainingLots - p.lots) ≤ 0 := left
  rw [LadderTick.inOrder, write, Option.all_some] at ok
  simp only [rest, decide_false, Bool.false_or, Bool.and_eq_true, Bool.or_eq_true,
    Bool.not_eq_true', decide_eq_true_eq] at ok
  obtain ⟨⟨booking, notPast⟩, later⟩ := ok
  refine ⟨⟨notTighter, same, ?_, ?_, ?_⟩, entry, ?_⟩
  · intro closed here
    have at_ : (ladderTps trade)[l.2]? = some l.1 := List.mem_zipIdx_iff_getElem?.mp mem
    rw [beClosed, ← here, at_, Option.any_some] at closed
    obtain ⟨b, booked, own⟩ := List.any_eq_true.mp closed
    have fields := of_decide_eq_true own
    exact fresh (h.known b booked fields.1 l.1.1 (by rw [fields.2, tpNumOf_tpReason]))
  · exact or_assoc.mp booking
  · exact or_assoc.mp notPast
  · exact or_assoc.mp later

theorem find_trailed {db : Db} {tradeId : String} {row : Trade}
    (found : db.getTrade tradeId = some row) (sl : ℚ) (moved : Bool) :
    (db.setTrade tradeId (Trade.setStopLossBeFlag sl moved)).getTrade tradeId =
      some (Trade.setStopLossBeFlag sl moved row) := by
  rw [Db.getTrade, Db.setTrade, Table.find_update_self, ← Db.getTrade, found]
  rfl

theorem StopInMemory.booked (h : StopInMemory trade (ladderTps trade) t.rule.beAtPos w)
    (mem : l ∈ (ladderTps trade).zipIdx) {p : PartialWrite}
    (write : t.levelWrite trade (ladderTps trade) w l = some p) :
    Known (p.apply w.db) trade.tradeId (l.1.1 :: w.triggered) ∧
      (p.apply w.db).getTrade trade.tradeId = some (bookedRow p w.db) ∧
      beClosed (p.apply w.db) trade.tradeId (ladderTps trade) t.rule.beAtPos =
        (beClosed w.db trade.tradeId (ladderTps trade) t.rule.beAtPos ||
          decide (l.2 = t.rule.beAtPos)) := by
  obtain ⟨fresh, -, -, lots, -, -, close⟩ := LadderTick.levelWrite_eq_some write
  obtain ⟨found, -, reason, -⟩ := closeWrite_eq_some close
  have ledger := PartialWrite.apply_of_new (h.known.write_new fresh found reason)
  have own : p.row.tradeId = trade.tradeId := Table.key_of_find found
  have row := ledger.getTrade_self
  rw [own, found, Option.map_some] at row
  exact ⟨h.known.booked ledger.partials reason, row,
    beClosed_booked t.rule.beAtPos mem ledger.partials own reason⟩

theorem StopInMemory.level_idle (h : StopInMemory trade (ladderTps trade) t.rule.beAtPos w)
    (idle : t.levelWrite trade (ladderTps trade) w l = none) :
    StopInMemory trade (ladderTps trade) t.rule.beAtPos (t.level trade (ladderTps trade) w l).walk ∧
      t.Disciplined trade (ladderTps trade) w l := by
  rw [LadderTick.Disciplined, LadderTick.level_of_idle idle]
  refine ⟨h, ?_⟩
  intro before found after found' _
  rw [Option.mem_def.mp found] at found'
  cases Option.some.inj found'
  refine ⟨fun _ => rfl, ?_, fun _ => trade.direction.tighter_irrefl _⟩
  intro no yes
  rw [no] at yes
  cases yes

/-- The close empties the trade: its row is closed whatever the trail does. -/
theorem StopInMemory.level_emptied (h : StopInMemory trade (ladderTps trade) t.rule.beAtPos w)
    (mem : l ∈ (ladderTps trade).zipIdx) {p : PartialWrite}
    (write : t.levelWrite trade (ladderTps trade) w l = some p) (empty : p.newRemaining ≤ 0) :
    StopInMemory trade (ladderTps trade) t.rule.beAtPos (t.level trade (ladderTps trade) w l).walk ∧
      t.Disciplined trade (ladderTps trade) w l := by
  obtain ⟨-, -, -, lots, -, -, close⟩ := LadderTick.levelWrite_eq_some write
  obtain ⟨known, booked, -⟩ := h.booked mem write
  have shut : (bookedRow p w.db).isOpen = false := by
    rw [bookedRow, afterPartial_isOpen, decide_eq_true empty, Bool.not_true, Bool.and_false]
  have entry : (bookedRow p w.db).entryPrice = trade.entryPrice := by
    obtain ⟨now, foundNow, entry, -⟩ := h.row
    rw [(closeWrite_eq_some close).1] at foundNow
    rw [bookedRow, afterPartial_entryPrice, Option.some.inj foundNow, entry]
  have after : ∃ row', (t.level trade (ladderTps trade) w l).walk.db.getTrade trade.tradeId =
      some row' ∧ row'.isOpen = false ∧ row'.entryPrice = trade.entryPrice ∧
      Known (t.level trade (ladderTps trade) w l).walk.db trade.tradeId
        (t.level trade (ladderTps trade) w l).walk.triggered := by
    cases LadderTick.level_walk_of_write write with
    | inl booking =>
        rw [booking]
        exact ⟨_, booked, shut, entry, known⟩
    | inr trail =>
        obtain ⟨flag, trail⟩ := trail
        rw [trail]
        exact ⟨_, find_trailed booked _ flag, shut, entry, known⟩
  obtain ⟨row', found', closed, entry', known'⟩ := after
  refine ⟨⟨known', row', found', entry', ?_⟩, ?_⟩
  · intro isOpen'
    rw [closed] at isOpen'
    cases isOpen'
  · intro before _ after here isOpen'
    rw [Option.mem_def.mp here] at found'
    rw [Option.some.inj found', closed] at isOpen'
    cases isOpen'

/-- The close leaves lots, and the stop is trailed if that tightens it. -/
theorem StopInMemory.level_left (h : StopInMemory trade (ladderTps trade) t.rule.beAtPos w)
    (mem : l ∈ (ladderTps trade).zipIdx) {p : PartialWrite}
    (write : t.levelWrite trade (ladderTps trade) w l = some p)
    (ok : t.inOrder trade (ladderTps trade) w l = true) (left : ¬p.newRemaining ≤ 0) :
    StopInMemory trade (ladderTps trade) t.rule.beAtPos (t.level trade (ladderTps trade) w l).walk ∧
      t.Disciplined trade (ladderTps trade) w l := by
  obtain ⟨-, -, -, lots, -, -, close⟩ := LadderTick.levelWrite_eq_some write
  have found := (closeWrite_eq_some close).1
  obtain ⟨known, booked, closes⟩ := h.booked mem write
  obtain ⟨stop, entry, later⟩ := h.level_stop mem write ok left
  have entryAfter : (bookedRow p w.db).entryPrice = trade.entryPrice := by
    rw [bookedRow, afterPartial_entryPrice, entry]
  rw [LadderTick.Disciplined, LadderTick.level_of_write write, decide_eq_false left,
    Bool.false_and, if_neg Bool.false_ne_true]
  cases LadderTick.trailStop_cases trade (ladderTps trade) t.rule l.2 l.1.1
    (LadderTick.booked w l p) with
  | inl kept =>
      obtain ⟨result, still⟩ := kept
      rw [result]
      have unmoved : l.2 < t.rule.beAtPos ∨ (l.2 = t.rule.beAtPos →
          trade.direction.tighter trade.entryPrice w.currentSl = false) := by
        refine still.imp id fun behind here => ?_
        rw [LadderTick.trailTarget, if_pos here] at behind
        exact behind
      have disciplined := stop.kept p.row (bookedRow p w.db) rfl
        (by rw [bookedRow, afterPartial_stopLoss, entry]) unmoved
      rw [← closes] at disciplined
      refine ⟨⟨known, _, booked, entryAfter, fun _ => disciplined.2⟩, ?_⟩
      intro before here after here' _
      cases Option.some.inj (found.symm.trans here)
      cases Option.some.inj (booked.symm.trans here')
      exact disciplined.1
  | inr moved =>
      obtain ⟨reached, better, flag, result⟩ := moved
      rw [result]
      have trailed := find_trailed booked
        (LadderTick.trailTarget trade t.rule (ladderTps trade) l.2) flag
      have closed : l.2 ≠ t.rule.beAtPos →
          beClosed w.db trade.tradeId (ladderTps trade) t.rule.beAtPos = true := by
        intro other
        cases later with
        | inl before => omega
        | inr rest =>
            refine rest.resolve_right fun behind => ?_
            rw [LadderTick.trailTarget, if_neg other] at better
            exact Bool.noConfusion (better.symm.trans behind)
      have disciplined := stop.moved p.row
        (Trade.setStopLossBeFlag (LadderTick.trailTarget trade t.rule (ladderTps trade) l.2) flag
          (bookedRow p w.db))
        rfl rfl (fun here => if_pos here) closed better
      rw [← closes] at disciplined
      refine ⟨⟨known, _, trailed, entryAfter, ?_⟩, ?_⟩
      · exact fun _ => ⟨trade.direction.tighter_irrefl _, fun _ => rfl⟩
      · intro before here after here' _
        cases Option.some.inj (found.symm.trans here)
        cases Option.some.inj (trailed.symm.trans here')
        exact disciplined

theorem StopInMemory.level (h : StopInMemory trade (ladderTps trade) t.rule.beAtPos w)
    (mem : l ∈ (ladderTps trade).zipIdx) (ok : t.inOrder trade (ladderTps trade) w l = true) :
    StopInMemory trade (ladderTps trade) t.rule.beAtPos (t.level trade (ladderTps trade) w l).walk ∧
      t.Disciplined trade (ladderTps trade) w l := by
  cases write : t.levelWrite trade (ladderTps trade) w l with
  | none => exact h.level_idle write
  | some p =>
      by_cases empty : p.newRemaining ≤ 0
      · exact h.level_emptied mem write empty
      · exact h.level_left mem write ok empty

end Level

namespace LadderDesk
variable {tradeId : String} {s : LadderDesk} {t : LadderTick}

/-- The cached set knows what is booked. -/
def CacheKnown (tradeId : String) (s : LadderDesk) : Prop :=
  ∀ cached, s.cache = some cached → Known s.db tradeId cached.1

theorem CacheKnown.start (known : s.CacheKnown tradeId) {trade : Trade}
    (found : s.db.getTrade tradeId = some trade) (beAtPos : ℕ) :
    StopInMemory trade (ladderTps trade) beAtPos (s.start t trade) := by
  have own : trade.tradeId = tradeId := Table.key_of_find found
  constructor
  · rw [LadderDesk.start, own]
    exact known_getTriggeredTps known t.now
  · refine ⟨trade, own ▸ found, rfl, fun _ => ⟨trade.direction.tighter_irrefl _, fun _ => rfl⟩⟩

theorem CacheKnown.step (known : s.CacheKnown tradeId) (ok : s.StopInOrder tradeId t) :
    (s.step tradeId t).CacheKnown tradeId := by
  cases found : s.db.getTrade tradeId with
  | none =>
      rw [LadderDesk.step, found]
      exact known
  | some trade =>
      have own : trade.tradeId = tradeId := Table.key_of_find found
      cases isOpen : trade.isOpen with
      | false =>
          rw [step_of_closed found isOpen]
          exact known
      | true =>
          obtain ⟨db, ts, cache⟩ := step_of_open (t := t) found isOpen
          have walked := LadderTick.levels_invariant
            (I := StopInMemory trade (ladderTps trade) t.rule.beAtPos)
            (fun w l mem h ok => (h.level mem ok).1) (known.start found t.rule.beAtPos)
            (ok trade found isOpen)
          intro cached same
          rw [cache] at same
          rw [← Option.some.inj same, db, ← own]
          exact walked.known

theorem CacheKnown.disciplined (known : s.CacheKnown tradeId) (ok : s.StopInOrder tradeId t) :
    s.Disciplined tradeId t := by
  intro trade found isOpen
  exact LadderTick.levelsMeet_of_invariant
    (I := StopInMemory trade (ladderTps trade) t.rule.beAtPos)
    (fun w l mem h ok => (h.level mem ok).1) (fun w l mem h ok => (h.level mem ok).2)
    (known.start found t.rule.beAtPos) (ok trade found isOpen)

end LadderDesk

/-- Over any run of ticks, any rules and any levels: if the booking of TP1 moves
the stop at the breakeven level only, the stop is not past the entry when that
level is closed, and no later level is trailed before it, the stop stays until
the breakeven level is closed, is then the entry, and only tightens after. -/
theorem ladder_stop_disciplined (tradeId : String) (db : Db) (ticks : List LadderTick)
    (inOrder : Meets (LadderDesk.step tradeId) (LadderDesk.StopInOrder tradeId) ⟨db, none⟩ ticks) :
    Meets (LadderDesk.step tradeId) (LadderDesk.Disciplined tradeId) ⟨db, none⟩ ticks := by
  have start : LadderDesk.CacheKnown tradeId ⟨db, none⟩ := by
    intro cached none
    cases none
  exact meets_of_invariant (fun s t known ok => known.step ok)
    (fun s t known ok => known.disciplined ok) start inOrder

theorem ladder_stop_disciplined_two_levels :
    Meets (LadderDesk.step "t1") (LadderDesk.Disciplined "t1")
      ⟨Db.single (adaptiveTrade (1 / 10) [some 2010, some 2020, some 2030]) Table.empty, none⟩
      [adaptiveTick (1 / 100) (1 / 10) 2010 1 fun _ => 2 / 100,
        adaptiveTick (1 / 100) (8 / 100) 2020 5 fun _ => 3 / 100] :=
  ladder_stop_disciplined "t1" _ _ (by decide +kernel)

/-- Reversal Runner keeps its stop until TP2, but booking TP1 has already moved
it to breakeven. -/
theorem first_booking_moves_stop :
    ¬ ∀ (tradeId : String) (db : Db) (ticks : List LadderTick),
      Meets (LadderDesk.step tradeId) (LadderDesk.Disciplined tradeId) ⟨db, none⟩ ticks := by
  intro all
  let row := adaptiveTrade (1 / 10) [some 2010, some 2020]
  let db := Db.single row Table.empty
  let tick : LadderTick :=
    { adaptiveTick (1 / 100) (1 / 10) 2010 1 fun _ => 3 / 100 with rule := reversalRunnerRule }
  have first := ((all "t1" db [tick]).1 row rfl rfl).1
  have level := first row rfl
    ((Trade.afterPartial true 1 2010 30 (7 / 100) 2000).apply row) (by decide +kernel)
    (by decide +kernel)
  exact absurd (level.unchanged (by decide +kernel)) (by decide +kernel)

end Forex
