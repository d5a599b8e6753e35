import Forex.Strategy.Ratchet
import Forex.Strategy.StopEvents

/-!
The stored stop against the one the broker has. A handler stores the level it
has asked for, whatever the answer was, and the transaction that books TP1 may
store the entry without asking; what counts is the last level that a call
stores. Updates of a signal store the stop as given and send it only when it is
on the losing side, follow-ups without a signal store another stop than they
send.
-/

namespace Forex
open Support

namespace StopDesk

section Verdicts
variable (trade : Trade) (t : StopTick) (s : StopDesk)

/-- The broker has the level after the move. -/
def moveLands (n : ℕ) (sl : ℚ) : Bool := (t.modify n).lands trade.direction s.stops.broker sl

/-- A verdict says of the level stored last whether the broker has it; there is
none when no level is stored. -/
def bookingVerdict (p : PartialWrite) : Option Bool :=
  if p.movesStop s.db then some (decide (trade.entryPrice = s.stops.broker)) else none

def closeVerdict : LevelClose → Option Bool
  | .booked p => s.bookingVerdict trade p
  | .skipped => none
  | .raised => none

def trailVerdict (dist : ℚ) : Option Bool :=
  let sl := trailLevel trade t.tick dist
  if tightens trade sl then some (s.moveLands trade t 0 sl) else none

def breakevenVerdict (n : ℕ) : Option Bool :=
  if tightens trade trade.entryPrice then some (s.moveLands trade t n trade.entryPrice) else none

def scaleOutVerdict (n : ℕ) : Option Bool :=
  match scaleOutDue trade t s n with
  | none => none
  | some (price, lots) =>
      match closeLevel trade s.db n price lots (t.reply n) t.now with
      | .raised => none
      | .skipped => none
      | .booked p =>
          if n = 1 ∧ trade.slMovedToBe = false then some (s.moveLands trade t n trade.entryPrice)
          else s.bookingVerdict trade p

def trialMoveVerdict (n : ℕ) : Option Bool :=
  if n = 2 then if trade.slMovedToBe then none else s.breakevenVerdict trade t 2
  else if n = 4 then
    match trade.tp 2 with
    | none => none
    | some sl => if tightens trade sl then some (s.moveLands trade t 4 sl) else none
  else none

def trialVerdict (n : ℕ) : Option Bool :=
  if n ∈ s.triggered then none
  else
    match tpCleared trade t.tick n with
    | none => none
    | some price =>
        if n = 6 then s.closeVerdict trade (closeRemaining trade t s n price)
        else
          let close := partialClose trade t s n price (t.params.trialPct n / 100)
          match close with
          | .raised => none
          | _ => (s.trialMoveVerdict trade t n).or (s.closeVerdict trade close)

def stepVerdict (n : ℕ) : Option Bool :=
  match stopReference trade n with
  | none => none
  | some sl => if tightens trade sl then some (s.moveLands trade t n sl) else none

def firstVerdict (last : ℕ) : Option Bool :=
  match firstPrice trade t with
  | none => none
  | some price =>
      s.closeVerdict trade
        (if last = 1 then closeRemaining trade t s 1 price
          else partialClose trade t s 1 price (1 / 5))

def laterVerdict (last n : ℕ) : Option Bool :=
  match tpCleared trade t.tick n with
  | none => none
  | some price =>
      if n = last then none
      else if n = 2 then none
      else if n = 3 then
        match partialOrReturn trade t s n price (1 / 5) with
        | .stop _ => none
        | .next _ => s.stepVerdict trade t n
      else s.stepVerdict trade t n

def noSlVerdict (last n : ℕ) : Option Bool :=
  if n ∈ s.triggered then none
  else if n = 1 then s.firstVerdict trade t last
  else s.laterVerdict trade t last n

def scaleOutLands : Bool :=
  let s := s.readTriggered trade t.now
  Flow.lastSaid (scaleOutHit trade t) (fun s n => s.scaleOutVerdict trade t n) true s
    (checkTpHits trade t.tick s.triggered)

/-- The last level that a call stores, if it stores any, is one the broker has
then. -/
def callLands : StopHandler → Bool
  | .scaleOut => s.scaleOutLands trade t
  | .beRunner =>
      if t.ranging then s.scaleOutLands trade t
      else
        decide (bestStep trade t = 0) || !tightens trade (ladderStop trade t) ||
          s.moveLands trade t 0 (ladderStop trade t)
  | .trailStop =>
      if s.trailingActive trade then (s.trailVerdict trade t t.trailingStopDistance).getD true
      else (setTpCleared trade t.tick 1).all fun _ => s.moveLands trade t 1 trade.entryPrice
  | .protectedScale =>
      let s := (s.readTriggered trade t.now).skipTp1 trade t
      decide (2 ∈ s.triggered) ||
        (setTpCleared trade t.tick 2).all fun _ => (s.breakevenVerdict trade t 2).getD true
  | .conservative =>
      let s := s.readTriggered trade t.now
      if 1 ∈ s.triggered then (s.trailVerdict trade t 3).getD true
      else
        (tpHitAt trade t 1).all fun price =>
          (firstClose trade t (4 / 5) s price).all fun p =>
            ((if emptied trade p then none else s.breakevenVerdict trade t 1).or
              (s.bookingVerdict trade p)).getD true
  | .scalpRunner =>
      let s := s.readTriggered trade t.now
      if 1 ∈ s.triggered then
        if 2 ∈ s.triggered then (s.trailVerdict trade t 3).getD true
        else (tpHitAt trade t 2).all fun _ => (s.breakevenVerdict trade t 2).getD true
      else
        (tpHitAt trade t 1).all fun price =>
          (firstClose trade t (1 / 2) s price).all fun p => (s.bookingVerdict trade p).getD true
  | .conservativeTrial =>
      Flow.lastSaid (trialLevel trade t) (fun s n => s.trialVerdict trade t n) true
        (s.readTriggered trade t.now) (List.range' 1 6)
  | .noSlScale =>
      trade.lastTpNum.all fun last =>
        Flow.lastSaid (noSlLevel trade t last) (fun s n => s.noSlVerdict trade t last n) true
          (s.readTriggered trade t.now) (List.range' 1 last)

end Verdicts

section Events
variable (tradeId : String) (s : StopDesk)

def signalLands (signalId : String) (u : SignalUpdate) (v : LevelView) : Bool :=
  (s.db.openTradeOf signalId).all fun trade =>
    noPropagate trade.strategy || decide (trade.tradeId ≠ tradeId) ||
      u.stopLoss.all fun sl =>
        if trade.direction.tighter trade.entryPrice sl && !v.eaManaging trade then
          v.modify.lands trade.direction s.stops.broker sl
        else decide (sl = s.stops.broker)

/-- Without a signal, the stop of the message has to bring the broker to the
adjusted one. -/
def followUpLands (f : FollowUp) (v : LevelView) : Bool :=
  (s.db.getTrade f.target).all fun trade =>
    !trade.isOpen || f.onlyAcknowledged trade ||
      f.parsed.stopLoss.all fun stop =>
        if trade.signalId = "" then
          decide (trade.tradeId ≠ tradeId) ||
            decide (followUpStop trade f.parsed stop =
              modifyPosition trade.direction v.modify s.stops.broker (some stop))
        else
          (s.correctStrategy f trade).signalLands tradeId trade.signalId (f.updates trade stop) v

end Events

end StopDesk

namespace LadderStops
variable (trade : Trade) (t : StopTick) (rule : LadderRule) (tps : List (ℕ × ℚ))

def trailVerdict (w : LadderStops) (l : (ℕ × ℚ) × ℕ) : Option Bool :=
  let sl := LadderTick.trailTarget trade rule tps l.2
  if l.2 < rule.beAtPos then none
  else if trade.direction.tighter sl w.currentSl then some (w.desk.moveLands trade t l.1.1 sl)
  else none

def verdict (w : LadderStops) (l : (ℕ × ℚ) × ℕ) : Option Bool :=
  if l.1.1 ∈ w.desk.triggered then none
  else if !tpHit trade.direction t.tick l.1.2 then none
  else if w.desk.remaining trade ≤ 0 then none
  else
    match w.lots trade rule tps l with
    | none => none
    | some lots =>
        if lots ≤ 0 then none
        else
          match closeLevel trade w.desk.db l.1.1 l.1.2 lots (t.reply l.1.1) t.now with
          | .raised => none
          | .skipped => none
          | .booked p =>
              (if StopDesk.emptied trade p then none else w.trailVerdict trade t rule tps l).or
                (w.desk.bookingVerdict trade p)

end LadderStops

namespace StopDesk

def ladderLands (trade : Trade) (t : StopTick) (rule : LadderRule) (s : StopDesk) : Bool :=
  let tps := ladderTps trade
  Flow.lastSaid (LadderStops.level trade t rule tps) (LadderStops.verdict trade t rule tps) true
    ⟨s.readTriggered trade t.now, trade.stopLoss⟩ tps.zipIdx

def Lands (tradeId : String) (s : StopDesk) : StopEvent → Bool
  | .call handler t =>
      (s.db.getTrade tradeId).all fun trade => !trade.isOpen || s.callLands trade t handler
  | .ladder rule t =>
      (s.db.getTrade tradeId).all fun trade => !trade.isOpen || s.ladderLands trade t rule
  | .signalUpdate signalId u v => s.signalLands tradeId signalId u v
  | .followUp f v => s.followUpLands tradeId f v

end StopDesk

namespace StopDesk

/-- The row of the trade, and whether the broker has the stop that it holds. -/
structure Agrees (trade : Trade) (held : Bool) (s : StopDesk) : Prop where
  tracks : Tracks trade s
  verdict : held = true ↔ s.stops.stop = s.stops.broker

section Writes
variable {trade : Trade} {t : StopTick} {s : StopDesk} {held : Bool}

theorem Agrees.of_same {s' : StopDesk} (h : Agrees trade held s)
    (row : s'.db.getTrade trade.tradeId = s.db.getTrade trade.tradeId)
    (stops : s'.stops = s.stops) : Agrees trade held s' :=
  ⟨h.tracks.of_same row stops, stops ▸ h.verdict⟩

theorem Agrees.readTriggered (h : Agrees trade held s) (now : ℚ) :
    Agrees trade held (s.readTriggered trade now) :=
  h.of_same rfl rfl

theorem Agrees.addTriggered (h : Agrees trade held s) (n : ℕ) :
    Agrees trade held (s.addTriggered n) :=
  h.of_same rfl rfl

theorem Agrees.insertTpMarker (h : Agrees trade held s) (now price : ℚ) (reason : String) :
    Agrees trade held (s.insertTpMarker trade now price reason) :=
  h.of_same rfl rfl

theorem Agrees.stampReply (h : Agrees trade held s) (n : ℕ) :
    Agrees trade held (s.stampReply trade t n) := by
  obtain ⟨db, stops⟩ := stampReply_db_stops trade t s n
  exact h.of_same (by rw [db]) stops

/-- A level sent and stored: the broker has it when the modification lands. -/
theorem modifyOrder_verdict (linked : (linkedTicket trade.mt5Ticket).isSome = true)
    (view : ModifyView) (sl : ℚ) :
    view.lands trade.direction s.stops.broker sl = true ↔
      sl = (s.modifyOrder trade view (some sl)).stops.broker := by
  obtain ⟨ticket, found⟩ := Option.isSome_iff_exists.mp linked
  rw [← modifyPosition_eq_iff, StopDesk.modifyOrder, found]
  exact eq_comm

theorem Tracks.moveSl (h : Tracks trade s) (linked : (linkedTicket trade.mt5Ticket).isSome = true)
    (n : ℕ) (sl : ℚ) : Agrees trade (s.moveLands trade t n sl) (s.moveSl trade t n sl) :=
  ⟨(h.modifyOrder _ _).setStopLoss sl, modifyOrder_verdict linked _ sl⟩

theorem Tracks.moveSlBe (h : Tracks trade s)
    (linked : (linkedTicket trade.mt5Ticket).isSome = true) (n : ℕ) (sl : ℚ) :
    Agrees trade (s.moveLands trade t n sl) (s.moveSlBe trade t n sl) :=
  ⟨(h.modifyOrder _ _).setStopLossBe sl, modifyOrder_verdict linked _ sl⟩

theorem record_broker (p : PartialWrite) : (s.record p).stops.broker = s.stops.broker := by
  rw [StopDesk.record]
  dsimp only
  split_ifs <;> rfl

theorem Agrees.record (h : Agrees trade held s) {n : ℕ} {price lots now : ℚ} {reply : Reply}
    {p : PartialWrite} (write : closeWrite s.db trade n price lots reply now = some p) :
    Agrees trade ((s.bookingVerdict trade p).getD held) (s.record p) := by
  obtain ⟨tracks, entry⟩ := h.tracks.record write
  refine ⟨tracks, ?_⟩
  rw [record_broker, bookingVerdict, StopDesk.record]
  dsimp only
  split_ifs
  · rw [Option.getD_some, decide_eq_true_eq, StopBook.store, entry]
  · exact h.verdict

/-- A later level is booked without a word on the stop. -/
theorem bookingVerdict_later {n : ℕ} {price lots now : ℚ} {reply : Reply} {p : PartialWrite}
    (write : closeWrite s.db trade n price lots reply now = some p) (later : n ≠ 1) :
    s.bookingVerdict trade p = none := by
  rw [bookingVerdict, movesStop_eq_false write later]
  rfl

variable (linked : (linkedTicket trade.mt5Ticket).isSome = true)
include linked

theorem Agrees.trail (h : Agrees trade held s) (dist : ℚ) :
    Agrees trade ((s.trailVerdict trade t dist).getD held) (s.trail trade t dist) := by
  rw [StopDesk.trail, trailVerdict]
  split_ifs
  · exact h.tracks.moveSl linked 0 _
  · exact h

/-- The verdict may be read off an earlier desk, with the same stop at the
broker. -/
theorem Agrees.breakeven {s' : StopDesk} (h : Agrees trade held s')
    (same : s'.stops.broker = s.stops.broker) (n : ℕ) :
    Agrees trade ((s.breakevenVerdict trade t n).getD held) (s'.breakeven trade t n) := by
  rw [StopDesk.breakeven, breakevenVerdict, moveLands, ← same]
  split_ifs
  · exact h.tracks.moveSlBe linked n _
  · exact h

theorem Agrees.scaleOutHit (h : Agrees trade held s) (n : ℕ) :
    Agrees trade ((s.scaleOutVerdict trade t n).getD held) (scaleOutHit trade t s n).state := by
  rw [StopDesk.scaleOutHit, scaleOutVerdict]
  cases scaleOutDue trade t s n with
  | none => exact h
  | some asked =>
      obtain ⟨price, lots⟩ := asked
      obtain ⟨db, stops⟩ := stampReply_db_stops trade t s n
      have stamped := h.stampReply (t := t) n
      dsimp only
      cases close : closeLevel trade s.db n price lots (t.reply n) t.now with
      | raised => exact stamped
      | skipped => exact stamped
      | booked p =>
          have write : closeWrite (s.stampReply trade t n).db trade n price lots (t.reply n) t.now =
              some p := db.symm ▸ closeLevel_eq_booked close
          have recorded := stamped.record write
          dsimp only
          split_ifs
          · have moved := recorded.tracks.moveSlBe (t := t) linked n trade.entryPrice
            rw [moveLands, record_broker, stops] at moved
            exact moved
          · rw [bookingVerdict, db, stops] at recorded
            exact recorded

theorem Agrees.handleScaleOut (h : Agrees trade true s) :
    Agrees trade (s.scaleOutLands trade t) (s.handleScaleOut trade t) :=
  Flow.lastSaid_invariant (J := Agrees trade) (fun _ _ n _ agrees => agrees.scaleOutHit linked n)
    (h.readTriggered t.now)

theorem Agrees.handleBeRunner (h : Agrees trade true s) :
    Agrees trade (s.callLands trade t .beRunner) (s.handleBeRunner trade t) := by
  rw [StopDesk.handleBeRunner, callLands]
  split_ifs with ranging none
  · exact h.handleScaleOut linked
  · rw [decide_eq_true none]
    exact h
  · rw [decide_eq_false none, Bool.false_or]
    dsimp only
    cases better : tightens trade (ladderStop trade t) with
    | false =>
        rw [if_neg Bool.false_ne_true]
        exact h
    | true =>
        rw [if_pos rfl]
        exact ⟨((h.tracks.modifyOrder _ _).setStopLossBe _).insertTpMarker _ _ _,
          modifyOrder_verdict linked _ _⟩

theorem Agrees.handleTrailStop (h : Agrees trade true s) :
    Agrees trade (s.callLands trade t .trailStop) (s.handleTrailStop trade t) := by
  rw [StopDesk.handleTrailStop, callLands]
  split_ifs
  · exact markCleared_keeps (fun _ _ _ agrees => agrees.insertTpMarker _ _ _)
      ((h.trail linked _).readTriggered _)
  · cases setTpCleared trade t.tick 1 with
    | none => exact h
    | some price =>
        have moved := (h.tracks.markTrailingStarted t.now price).moveSl (t := t) linked 1
          trade.entryPrice
        exact markCleared_keeps (fun _ _ _ agrees => agrees.insertTpMarker _ _ _)
          (moved.readTriggered _)

omit linked in
theorem Agrees.skipTp1 (h : Agrees trade held s) : Agrees trade held (s.skipTp1 trade t) := by
  rw [StopDesk.skipTp1]
  split_ifs
  · exact h
  · cases setTpCleared trade t.tick 1 with
    | none => exact h
    | some price => exact (h.insertTpMarker _ _ _).addTriggered 1

theorem Agrees.handleProtectedScale (h : Agrees trade true s) :
    Agrees trade (s.callLands trade t .protectedScale) (s.handleProtectedScale trade t) := by
  have skipped := (h.readTriggered t.now).skipTp1 (t := t)
  have locked : Agrees trade (s.callLands trade t .protectedScale)
      (((s.readTriggered trade t.now).skipTp1 trade t).lockTp2 trade t) := by
    rw [callLands, StopDesk.lockTp2]
    by_cases done : 2 ∈ ((s.readTriggered trade t.now).skipTp1 trade t).triggered
    · rw [if_pos done, decide_eq_true done]
      exact skipped
    · rw [if_neg done, decide_eq_false done, Bool.false_or]
      cases setTpCleared trade t.tick 2 with
      | none => exact skipped
      | some price => exact ((skipped.insertTpMarker _ _ _).addTriggered 2).breakeven linked rfl 2
  refine Flow.fold_keeps (fun s n mem agrees => protectedClose_leads agrees fun _ _ p write => ?_)
    locked
  have later : n ≠ 1 := by
    rw [List.mem_range'_1] at mem
    omega
  have recorded := agrees.record write
  rw [bookingVerdict_later write later] at recorded
  exact recorded.addTriggered n

theorem Agrees.handleConservative (h : Agrees trade true s) :
    Agrees trade (s.callLands trade t .conservative) (s.handleConservative trade t) := by
  have read := h.readTriggered t.now
  rw [StopDesk.handleConservative, callLands]
  split_ifs
  · exact read.trail linked 3
  · cases tpHitAt trade t 1 with
    | none => exact read
    | some price =>
        rw [Option.all_some]
        dsimp only
        cases close : firstClose trade t (4 / 5) (s.readTriggered trade t.now) price with
        | raised => exact read
        | skipped => exact read
        | booked p =>
            obtain ⟨lots, reply, write⟩ := firstClose_write close
            have recorded := (read.record write).addTriggered 1
            rw [LevelClose.all]
            dsimp only
            split_ifs
            · exact recorded
            · rw [Option.getD_or]
              exact recorded.breakeven linked (record_broker p) 1

theorem Agrees.handleScalpRunner (h : Agrees trade true s) :
    Agrees trade (s.callLands trade t .scalpRunner) (s.handleScalpRunner trade t) := by
  have read := h.readTriggered t.now
  rw [StopDesk.handleScalpRunner, callLands]
  split_ifs
  · exact read.trail linked 3
  · cases tpHitAt trade t 2 with
    | none => exact read
    | some price => exact (read.addTriggered 2).breakeven linked rfl 2
  · cases tpHitAt trade t 1 with
    | none => exact read
    | some price =>
        rw [Option.all_some]
        dsimp only
        cases close : firstClose trade t (1 / 2) (s.readTriggered trade t.now) price with
        | raised => exact read
        | skipped => exact read
        | booked p =>
            obtain ⟨lots, reply, write⟩ := firstClose_write close
            exact (read.record write).addTriggered 1

omit linked in
theorem Agrees.closeAll (h : Agrees trade held s) (n : ℕ) (price : ℚ) :
    Agrees trade ((s.closeVerdict trade (closeRemaining trade t s n price)).getD held)
      (s.closeAll trade t n price) := by
  rw [StopDesk.closeAll]
  cases close : closeRemaining trade t s n price with
  | raised => exact h
  | skipped => exact h
  | booked p =>
      obtain ⟨lots, write⟩ := closeRemaining_write close
      exact (h.record write).addTriggered n

omit linked in
theorem Agrees.partialLevel (h : Agrees trade held s) {n : ℕ} {price pct : ℚ} {s' : StopDesk}
    {done : Bool} (result : partialLevel trade t s n price pct = some (s', done)) :
    Agrees trade ((s.closeVerdict trade (partialClose trade t s n price pct)).getD held) s' ∧
      s'.stops.broker = s.stops.broker := by
  rw [StopDesk.partialLevel] at result
  cases close : partialClose trade t s n price pct with
  | raised =>
      rw [close] at result
      cases result
  | skipped =>
      rw [close] at result
      cases Option.some.inj result
      exact ⟨h, rfl⟩
  | booked p =>
      rw [close] at result
      cases Option.some.inj result
      obtain ⟨lots, write⟩ := partialClose_write close
      exact ⟨(h.record write).addTriggered n, record_broker p⟩

omit linked in
theorem partialLevel_eq_none {n : ℕ} {price pct : ℚ}
    (result : partialLevel trade t s n price pct = none) :
    partialClose trade t s n price pct = .raised := by
  rw [StopDesk.partialLevel] at result
  cases close : partialClose trade t s n price pct with
  | raised => rfl
  | skipped =>
      rw [close] at result
      cases result
  | booked p =>
      rw [close] at result
      cases result

omit linked in
theorem Agrees.partialOrReturn (h : Agrees trade held s) (n : ℕ) (price pct : ℚ) :
    Agrees trade ((s.closeVerdict trade (partialClose trade t s n price pct)).getD held)
        (partialOrReturn trade t s n price pct).state ∧
      (partialOrReturn trade t s n price pct).state.stops.broker = s.stops.broker := by
  rw [StopDesk.partialOrReturn]
  cases result : StopDesk.partialLevel trade t s n price pct with
  | none =>
      rw [partialLevel_eq_none result]
      exact ⟨h, rfl⟩
  | some pair =>
      obtain ⟨s', done⟩ := pair
      cases done with
      | true => exact h.partialLevel result
      | false => exact h.partialLevel result

theorem Agrees.trialMove {s' : StopDesk} (h : Agrees trade held s')
    (same : s'.stops.broker = s.stops.broker) (n : ℕ) :
    Agrees trade ((s.trialMoveVerdict trade t n).getD held) (trialMove trade t s' n) := by
  rw [StopDesk.trialMove, trialMoveVerdict]
  by_cases two : n = 2
  · rw [if_pos two, if_pos two]
    split_ifs
    · exact h
    · exact h.breakeven linked same 2
  · rw [if_neg two, if_neg two]
    by_cases four : n = 4
    · rw [if_pos four, if_pos four]
      cases trade.tp 2 with
      | none => exact h
      | some sl =>
          dsimp only
          split_ifs
          · rw [moveLands, ← same]
            exact h.tracks.moveSlBe linked 4 sl
          · exact h
    · rw [if_neg four, if_neg four]
      exact h

theorem Agrees.trialLevel (h : Agrees trade held s) (n : ℕ) :
    Agrees trade ((s.trialVerdict trade t n).getD held) (trialLevel trade t s n).state := by
  rw [StopDesk.trialLevel, trialVerdict]
  by_cases old : n ∈ s.triggered
  · rw [if_pos old, if_pos old]
    exact h
  · rw [if_neg old, if_neg old]
    cases tpCleared trade t.tick n with
    | none => exact h
    | some price =>
        dsimp only
        by_cases last : n = 6
        · rw [if_pos last, if_pos last]
          exact h.closeAll n price
        · rw [if_neg last, if_neg last]
          by_cases moves : n = 2 ∨ n = 4
          · rw [if_pos moves]
            cases result : StopDesk.partialLevel trade t s n price (t.params.trialPct n / 100) with
            | none =>
                rw [partialLevel_eq_none result]
                exact h
            | some pair =>
                obtain ⟨s', done⟩ := pair
                obtain ⟨agrees, same⟩ := h.partialLevel result
                have moved := agrees.trialMove (t := t) linked same n
                cases close : partialClose trade t s n price (t.params.trialPct n / 100) with
                | raised =>
                    rw [StopDesk.partialLevel, close] at result
                    cases result
                | skipped =>
                    rw [close, ← Option.getD_or] at moved
                    exact moved
                | booked p =>
                    rw [close, ← Option.getD_or] at moved
                    exact moved
          · rw [if_neg moves]
            have still : s.trialMoveVerdict trade t n = none := by
              rw [not_or] at moves
              rw [trialMoveVerdict, if_neg moves.1, if_neg moves.2]
            have left := (h.partialOrReturn (t := t) n price (t.params.trialPct n / 100)).1
            rw [still]
            cases close : partialClose trade t s n price (t.params.trialPct n / 100) with
            | raised =>
                rw [close] at left
                exact left
            | skipped =>
                rw [close] at left
                exact left
            | booked p =>
                rw [close] at left
                exact left

theorem Agrees.handleConservativeTrial (h : Agrees trade true s) :
    Agrees trade (s.callLands trade t .conservativeTrial) (s.handleConservativeTrial trade t) :=
  Flow.lastSaid_invariant (J := Agrees trade) (fun _ _ n _ agrees => agrees.trialLevel linked n)
    (h.readTriggered t.now)

omit linked in
theorem Agrees.markSkipped (h : Agrees trade held s) (n : ℕ) (price : ℚ) :
    Agrees trade held (markSkipped trade t s n price) :=
  (h.insertTpMarker _ _ _).addTriggered n

theorem Agrees.stepStop {s' : StopDesk} (h : Agrees trade held s')
    (same : s'.stops.broker = s.stops.broker) (n : ℕ) :
    Agrees trade ((s.stepVerdict trade t n).getD held) (stepStop trade t s' n) := by
  rw [StopDesk.stepStop, stepVerdict]
  cases stopReference trade n with
  | none => exact h
  | some sl =>
      dsimp only
      split_ifs
      · rw [moveLands, ← same]
        exact h.tracks.moveSl linked n sl
      · exact h

omit linked in
theorem closeVerdict_later {n : ℕ} {close : LevelClose} (later : n ≠ 1)
    (write : ∀ p, close = .booked p →
      ∃ price lots now reply, closeWrite s.db trade n price lots reply now = some p) :
    s.closeVerdict trade close = none := by
  cases close with
  | raised => rfl
  | skipped => rfl
  | booked p =>
      obtain ⟨price, lots, now, reply, write⟩ := write p rfl
      exact bookingVerdict_later write later

omit linked in
theorem closeVerdict_closeRemaining {n : ℕ} (later : n ≠ 1) (price : ℚ) :
    s.closeVerdict trade (closeRemaining trade t s n price) = none := by
  refine closeVerdict_later later fun p close => ?_
  obtain ⟨lots, write⟩ := closeRemaining_write close
  exact ⟨price, lots, _, _, write⟩

omit linked in
theorem closeVerdict_partialClose {n : ℕ} (later : n ≠ 1) (price pct : ℚ) :
    s.closeVerdict trade (partialClose trade t s n price pct) = none := by
  refine closeVerdict_later later fun p close => ?_
  obtain ⟨lots, write⟩ := partialClose_write close
  exact ⟨price, lots, _, _, write⟩

omit linked in
theorem Agrees.firstLevel (h : Agrees trade held s) (last : ℕ) :
    Agrees trade ((s.firstVerdict trade t last).getD held) (firstLevel trade t last s).state := by
  rw [StopDesk.firstLevel, firstVerdict]
  cases firstPrice trade t with
  | some price =>
      dsimp only
      split_ifs
      · exact h.closeAll 1 price
      · exact (h.partialOrReturn 1 price (1 / 5)).1
  | none =>
      cases trade.tp 1 with
      | none => exact h
      | some level =>
          dsimp only
          split_ifs
          · exact h.markSkipped 1 level
          · exact h

theorem Agrees.laterLevel (h : Agrees trade held s) (last : ℕ) {n : ℕ} (later : n ≠ 1) :
    Agrees trade ((s.laterVerdict trade t last n).getD held)
      (laterLevel trade t last s n).state := by
  rw [StopDesk.laterLevel, laterVerdict]
  cases tpCleared trade t.tick n with
  | none => exact h
  | some price =>
      dsimp only
      by_cases final : n = last
      · rw [if_pos final, if_pos final]
        have closed := h.closeAll (t := t) n price
        rw [closeVerdict_closeRemaining later] at closed
        exact closed
      · rw [if_neg final, if_neg final]
        by_cases two : n = 2
        · rw [if_pos two, if_pos two]
          exact h.markSkipped n price
        · rw [if_neg two, if_neg two]
          by_cases three : n = 3
          · rw [if_pos three, if_pos three]
            have closed := h.partialOrReturn (t := t) n price (1 / 5)
            rw [closeVerdict_partialClose later] at closed
            cases result : StopDesk.partialOrReturn trade t s n price (1 / 5) with
            | stop s' =>
                rw [result] at closed
                exact closed.1
            | next s' =>
                rw [result] at closed
                exact closed.1.stepStop linked closed.2 n
          · rw [if_neg three, if_neg three]
            exact (h.stepStop linked rfl n).markSkipped n price

theorem Agrees.noSlLevel (h : Agrees trade held s) (last n : ℕ) :
    Agrees trade ((s.noSlVerdict trade t last n).getD held) (noSlLevel trade t last s n).state := by
  rw [StopDesk.noSlLevel, noSlVerdict]
  by_cases old : n ∈ s.triggered
  · rw [if_pos old, if_pos old]
    exact h
  · rw [if_neg old, if_neg old]
    by_cases one : n = 1
    · rw [if_pos one, if_pos one]
      exact h.firstLevel last
    · rw [if_neg one, if_neg one]
      exact h.laterLevel linked last one

theorem Agrees.handleNoSlScale (h : Agrees trade true s) :
    Agrees trade (s.callLands trade t .noSlScale) (s.handleNoSlScale trade t) := by
  rw [StopDesk.handleNoSlScale, callLands]
  cases trade.lastTpNum with
  | none => exact h.readTriggered _
  | some last =>
      exact Flow.lastSaid_invariant (J := Agrees trade)
        (fun _ _ n _ agrees => agrees.noSlLevel linked last n) (h.readTriggered t.now)

theorem Agrees.handle (h : Agrees trade true s) (handler : StopHandler) :
    Agrees trade (s.callLands trade t handler) (handler.handle trade t s) := by
  cases handler with
  | scaleOut => exact h.handleScaleOut linked
  | beRunner => exact h.handleBeRunner linked
  | trailStop => exact h.handleTrailStop linked
  | protectedScale => exact h.handleProtectedScale linked
  | conservative => exact h.handleConservative linked
  | scalpRunner => exact h.handleScalpRunner linked
  | conservativeTrial => exact h.handleConservativeTrial linked
  | noSlScale => exact h.handleNoSlScale linked

end Writes

end StopDesk

section Ladder
variable {trade : Trade} {t : StopTick} {rule : LadderRule} {tps : List (ℕ × ℚ)} {held : Bool}
  {w : LadderStops} (linked : (linkedTicket trade.mt5Ticket).isSome = true)
include linked

theorem LadderStops.trail_agrees {desk : StopDesk} (h : desk.Agrees trade held)
    (same : desk.stops.broker = w.desk.stops.broker) (l : (ℕ × ℚ) × ℕ) :
    StopDesk.Agrees trade ((w.trailVerdict trade t rule tps l).getD held)
      (LadderStops.trail trade t rule tps { w with desk := desk } l).desk := by
  rw [LadderStops.trail, LadderStops.trailVerdict]
  by_cases before : l.2 < rule.beAtPos
  · rw [if_pos before, if_pos before]
    exact h
  · rw [if_neg before, if_neg before]
    dsimp only
    by_cases better : trade.direction.tighter (LadderTick.trailTarget trade rule tps l.2)
        w.currentSl = true
    · rw [if_pos better, if_pos better, StopDesk.moveLands, ← same]
      exact ⟨(h.tracks.modifyOrder _ _).setTrade _ _ (fun _ => ⟨rfl, rfl, rfl, rfl⟩) fun _ _ => rfl,
        StopDesk.modifyOrder_verdict linked _ _⟩
    · rw [if_neg better, if_neg better]
      exact h

theorem LadderStops.level_agrees (h : w.desk.Agrees trade held) (l : (ℕ × ℚ) × ℕ) :
    StopDesk.Agrees trade ((w.verdict trade t rule tps l).getD held)
      (w.level trade t rule tps l).state.desk := by
  rw [LadderStops.level, LadderStops.verdict]
  by_cases old : l.1.1 ∈ w.desk.triggered
  · rw [if_pos old, if_pos old]
    exact h
  · rw [if_neg old, if_neg old]
    by_cases missed : (!tpHit trade.direction t.tick l.1.2) = true
    · rw [if_pos missed, if_pos missed]
      exact h
    · rw [if_neg missed, if_neg missed]
      by_cases empty : w.desk.remaining trade ≤ 0
      · rw [if_pos empty, if_pos empty]
        exact h
      · rw [if_neg empty, if_neg empty]
        cases w.lots trade rule tps l with
        | none => exact h
        | some lots =>
            dsimp only
            by_cases nothing : lots ≤ 0
            · rw [if_pos nothing, if_pos nothing]
              exact h
            · rw [if_neg nothing, if_neg nothing]
              cases close : closeLevel trade w.desk.db l.1.1 l.1.2 lots (t.reply l.1.1) t.now with
              | raised => exact h
              | skipped => exact h
              | booked p =>
                  have recorded := (h.record (closeLevel_eq_booked close)).addTriggered l.1.1
                  dsimp only
                  rw [Option.getD_or]
                  split_ifs
                  · exact recorded
                  · exact trail_agrees linked recorded (StopDesk.record_broker p) l

theorem StopDesk.Agrees.runTpLadder {s : StopDesk} (h : s.Agrees trade true) :
    (s.runTpLadder trade t rule).Agrees trade (s.ladderLands trade t rule) :=
  Flow.lastSaid_invariant (J := fun held (w : LadderStops) => w.desk.Agrees trade held)
    (fun _ _ l _ agrees => LadderStops.level_agrees linked agrees l) (h.readTriggered t.now)

end Ladder

namespace StopDesk

section Updates
variable {row trade : Trade} {s : StopDesk} {held : Bool}

theorem Agrees.of_position (h : s.Agrees trade held) (own : trade.tradeId = row.tradeId)
    (position : trade.SamePosition row) : s.Agrees row held := by
  obtain ⟨found, here, same, stop⟩ := h.tracks
  exact ⟨⟨found, own ▸ here, same.trans position, stop⟩, h.verdict⟩

/-- The row of the trade under its id, from the point of view of the row. -/
theorem Agrees.at_row (h : s.Agrees row held) (found : s.db.getTrade row.tradeId = some trade) :
    s.Agrees trade held ∧ trade.tradeId = row.tradeId ∧ trade.SamePosition row := by
  obtain ⟨found', here, same, stop⟩ := h.tracks
  rw [found] at here
  cases Option.some.inj here
  have own : trade.tradeId = row.tradeId := Table.key_of_find found
  exact ⟨⟨⟨trade, own ▸ found, .refl trade, stop⟩, h.verdict⟩, own, same⟩

/-- A write to some row that changes neither position nor stop. -/
theorem Agrees.setTrade (h : s.Agrees row held) (tradeId : String) (f : Assign Trade.tradeId)
    (same : ∀ r, (f r).SamePosition r) (stop : ∀ r : Trade, (f r).stopLoss = r.stopLoss) :
    Agrees row held { s with db := s.db.setTrade tradeId f } := by
  refine ⟨?_, h.verdict⟩
  by_cases own : tradeId = row.tradeId
  · subst own
    exact h.tracks.setTrade f s.stops same fun r held => (stop r).trans held
  · exact h.tracks.of_same (Table.find_update_of_ne _ _ (Ne.symm own)) rfl

theorem samePosition_updateTradeFields (u : SignalUpdate) (r : Trade) :
    (Trade.updateTradeFields u r).SamePosition r :=
  ⟨rfl, rfl, rfl, rfl⟩

/-- Levels of another trade are written. -/
theorem Agrees.updateOther (h : s.Agrees row held) (other : trade.tradeId ≠ row.tradeId)
    (u : SignalUpdate) : Agrees row held (s.updateTradeFields row.tradeId trade u) :=
  h.of_same (Table.find_update_of_ne _ _ (Ne.symm other)) (if_neg other)

/-- Levels of the trade are written: its stop is the one of the update, if it has
one. -/
theorem Tracks.updateOwn (h : Tracks row s) (own : trade.tradeId = row.tradeId)
    (u : SignalUpdate) :
    Tracks row (s.updateTradeFields row.tradeId trade u) ∧
      (s.updateTradeFields row.tradeId trade u).stops.stop = u.stopLoss.getD s.stops.stop ∧
      (s.updateTradeFields row.tradeId trade u).stops.broker = s.stops.broker := by
  rw [StopDesk.updateTradeFields, own, if_pos rfl]
  cases level : u.stopLoss with
  | none =>
      refine ⟨h.setTrade _ _ (samePosition_updateTradeFields u) fun r stop => ?_, rfl, rfl⟩
      exact (congrArg (Option.getD · r.stopLoss) level).trans stop
  | some sl =>
      refine ⟨h.setTrade _ _ (samePosition_updateTradeFields u) fun r _ => ?_, rfl, rfl⟩
      exact congrArg (Option.getD · r.stopLoss) level

/-- The stop that the broker has after a modification of the trade's ticket. -/
theorem modifyOrder_broker (linked : (linkedTicket trade.mt5Ticket).isSome = true)
    (view : ModifyView) (sl : Option ℚ) :
    (s.modifyOrder trade view sl).stops.broker =
        modifyPosition trade.direction view s.stops.broker sl ∧
      (s.modifyOrder trade view sl).stops.stop = s.stops.stop := by
  obtain ⟨ticket, found⟩ := Option.isSome_iff_exists.mp linked
  rw [StopDesk.modifyOrder, found]
  exact ⟨rfl, rfl⟩

theorem Tracks.modifyOther (h : Tracks row s) (view : ModifyView) (sl : Option ℚ) :
    Tracks row (s.modifyOther row.tradeId trade view sl) := by
  rw [StopDesk.modifyOther]
  split_ifs
  · rw [StopDesk.modifyOrder]
    cases linkedTicket trade.mt5Ticket with
    | none => exact h
    | some _ => exact h
  · exact h

variable (linked : (linkedTicket row.mt5Ticket).isSome = true)
include linked

/-- The stop of the update is stored, and another level may be sent for it. -/
theorem Agrees.updateModify (h : s.Agrees row true) (own : trade.tradeId = row.tradeId)
    (position : trade.SamePosition row) (u : SignalUpdate) (view : ModifyView) (sl : Option ℚ) :
    Agrees row
      (decide (u.stopLoss.getD s.stops.broker =
        modifyPosition trade.direction view s.stops.broker sl))
      ((s.updateTradeFields row.tradeId trade u).modifyOther row.tradeId trade view sl) := by
  obtain ⟨tracks, stop, broker⟩ := h.tracks.updateOwn own u
  refine ⟨tracks.modifyOther view sl, ?_⟩
  rw [StopDesk.modifyOther, if_pos own, decide_eq_true_eq]
  obtain ⟨broker', stop'⟩ := modifyOrder_broker (s := s.updateTradeFields row.tradeId trade u)
    (position.mt5Ticket.symm ▸ linked) view sl
  rw [broker', stop', stop, broker, h.verdict.mp rfl]

omit linked in
/-- What `update_signal` leaves at the broker, of an update that has a stop. -/
theorem signalStop_verdict {u : SignalUpdate} {sl : ℚ} (level : u.stopLoss = some sl)
    (view : ModifyView) (posSl : ℚ) :
    decide (sl = modifyPosition trade.direction view posSl (signalStop trade u)) =
      if trade.direction.tighter trade.entryPrice sl then view.lands trade.direction posSl sl
      else decide (sl = posSl) := by
  rw [signalStop, level, Option.filter_some]
  split_ifs
  · rw [Bool.eq_iff_iff, decide_eq_true_eq, ← modifyPosition_eq_iff]
    exact eq_comm
  · rw [modifyPosition_none]

theorem Agrees.updateOwnSignal (h : s.Agrees row true) (own : trade.tradeId = row.tradeId)
    (position : trade.SamePosition row) (u : SignalUpdate) (view : ModifyView) :
    Agrees row
      (u.stopLoss.all fun sl =>
        if trade.direction.tighter trade.entryPrice sl then
          view.lands trade.direction s.stops.broker sl
        else decide (sl = s.stops.broker))
      ((s.updateTradeFields row.tradeId trade u).modifyOther row.tradeId trade view
        (signalStop trade u)) := by
  have modified := h.updateModify linked own position u view (signalStop trade u)
  cases level : u.stopLoss with
  | none =>
      have unsent : signalStop trade u = none := by
        rw [signalStop, level]
        rfl
      rw [unsent, modifyPosition_none, level, Option.getD_none, decide_eq_true rfl] at modified
      rw [unsent]
      exact modified
  | some sl =>
      rw [level, Option.getD_some, signalStop_verdict level] at modified
      exact modified

theorem Agrees.updateSignal (h : s.Agrees row true) (python : row.managedBy = .python)
    (signalId : String) (u : SignalUpdate) (v : LevelView) :
    Agrees row (s.signalLands row.tradeId signalId u v)
      (s.updateSignal row.tradeId signalId u v) := by
  rw [StopDesk.updateSignal, signalLands]
  cases found : s.db.openTradeOf signalId with
  | none => exact h
  | some trade =>
      rw [Option.all_some]
      dsimp only
      cases kept : noPropagate trade.strategy with
      | true => exact h
      | false =>
          rw [Bool.false_or, Bool.false_or]
          by_cases own : trade.tradeId = row.tradeId
          · have here : s.db.getTrade row.tradeId = some trade :=
              Table.find_eq_some_iff.mpr ⟨List.mem_of_find?_eq_some found, own⟩
            obtain ⟨-, -, position⟩ := h.at_row here
            have mine : v.eaManaging trade = false := by
              rw [LevelView.eaManaging, position.managedBy, python]
              rfl
            rw [decide_eq_false (not_not_intro own), Bool.false_or]
            simp only [mine, Bool.not_false, Bool.and_true, Bool.false_eq_true, if_false]
            cases fields : u.hasTradeFields with
            | true => exact h.updateOwnSignal linked own position u v.modify
            | false =>
                rw [SignalUpdate.hasTradeFields, Bool.or_eq_false_iff] at fields
                have absent : u.stopLoss = none := by simpa using fields.1
                rw [absent]
                exact h
          · rw [decide_eq_true own, Bool.true_or]
            have other := h.updateOther own u
            split_ifs
            · exact h
            · exact other
            · rw [StopDesk.modifyOther, if_neg own]
              exact other

omit linked in
theorem Agrees.correctStrategy (h : s.Agrees row held) (f : FollowUp) (trade : Trade) :
    Agrees row held (s.correctStrategy f trade) ∧
      (s.correctStrategy f trade).stops = s.stops := by
  rw [StopDesk.correctStrategy]
  cases (f.corrected trade).filter fun _ => imeSelfManaged trade.strategy with
  | none => exact ⟨h, rfl⟩
  | some strategy => exact ⟨h.setTrade _ _ (fun _ => ⟨rfl, rfl, rfl, rfl⟩) fun _ => rfl, rfl⟩

theorem Agrees.applyFollowup (h : s.Agrees row true) (python : row.managedBy = .python)
    (f : FollowUp) (v : LevelView) :
    Agrees row (s.followUpLands row.tradeId f v) (s.applyFollowup row.tradeId f v) := by
  rw [StopDesk.applyFollowup, followUpLands]
  cases found : s.db.getTrade f.target with
  | none => exact h
  | some trade =>
      rw [Option.all_some]
      dsimp only
      cases passed : !trade.isOpen || f.onlyAcknowledged trade with
      | true => exact h
      | false =>
          obtain ⟨corrected, stops⟩ := h.correctStrategy f trade
          rw [if_neg Bool.false_ne_true, Bool.false_or]
          cases f.parsed.stopLoss with
          | none => exact corrected
          | some stop =>
              rw [Option.all_some]
              dsimp only
              split_ifs
              · by_cases own : trade.tradeId = row.tradeId
                · have key : trade.tradeId = f.target := Table.key_of_find found
                  rw [← key, own] at found
                  rw [decide_eq_false (not_not_intro own), Bool.false_or, ← stops]
                  exact corrected.updateModify linked own (h.at_row found).2.2
                    (f.updates trade stop) v.modify (some stop)
                · rw [decide_eq_true own, Bool.true_or, StopDesk.modifyOther, if_neg own]
                  exact corrected.updateOther own _
              · exact corrected.updateSignal linked python trade.signalId _ v

theorem Agrees.stopStep (h : s.Agrees row true) (python : row.managedBy = .python)
    (e : StopEvent) : Agrees row (s.Lands row.tradeId e) (s.stopStep row.tradeId e) := by
  obtain ⟨trade, found, -, -⟩ := h.tracks
  obtain ⟨here, own, position⟩ := h.at_row found
  have ticket : (linkedTicket trade.mt5Ticket).isSome = true := position.mt5Ticket.symm ▸ linked
  cases e with
  | call handler t =>
      rw [StopDesk.stopStep, StopDesk.step, Lands, found, Option.all_some]
      dsimp only
      cases trade.isOpen with
      | false => exact h
      | true => exact (here.handle ticket handler).of_position own position
  | ladder rule t =>
      rw [StopDesk.stopStep, ladderStep, Lands, found, Option.all_some]
      dsimp only
      cases trade.isOpen with
      | false => exact h
      | true => exact (here.runTpLadder ticket).of_position own position
  | signalUpdate signalId u v => exact h.updateSignal linked python signalId u v
  | followUp f v => exact h.applyFollowup linked python f v

omit linked in
theorem Agrees.stored (h : s.Agrees row true) :
    (s.db.getTrade row.tradeId).map Trade.stopLoss = some s.stops.broker := by
  obtain ⟨trade, found, -, stop⟩ := h.tracks
  rw [found, Option.map_some, stop, h.verdict.mp rfl]

omit linked in
theorem Agrees.of_stored (h : s.Agrees row held)
    (stored : (s.db.getTrade row.tradeId).map Trade.stopLoss = some s.stops.broker) :
    held = true := by
  obtain ⟨trade, found, -, stop⟩ := h.tracks
  rw [found, Option.map_some, stop] at stored
  exact h.verdict.mpr (Option.some.inj stored)

end Updates

end StopDesk

/-- Over any run of calls, ladders, signal updates and follow-ups, with any
answers of the broker: the stored stop is the one the broker has after each
step, exactly when the last level that each step stores is one the broker has
then. -/
theorem stored_stop_is_broker_stop_iff (row : Trade) (db : Db) (cache : Option (List ℕ × ℚ))
    (lastFail : ℕ → Option ℚ) (events : List StopEvent)
    (found : db.getTrade row.tradeId = some row)
    (linked : (linkedTicket row.mt5Ticket).isSome = true) (python : row.managedBy = .python) :
    (∀ s ∈ states (StopDesk.stopStep row.tradeId) (.opened row db cache lastFail) events,
      (s.db.getTrade row.tradeId).map Trade.stopLoss = some s.stops.broker) ↔
        Meets (StopDesk.stopStep row.tradeId) (fun s e => s.Lands row.tradeId e = true)
          (.opened row db cache lastFail) events := by
  have start : StopDesk.Agrees row true (.opened row db cache lastFail) :=
    ⟨⟨row, found, .refl row, rfl⟩, iff_of_true rfl rfl⟩
  refine states_iff (I := fun s : StopDesk => s.Agrees row true) (fun s h => h.stored)
    (fun s e h lands => ?_) (fun s e h stored => ?_) events start
  · exact lands ▸ h.stopStep linked python e
  · exact (h.stopStep linked python e).of_stored stored

/-- A Trail Stop trade of a tenth of a lot. -/
def trailTrade : Trade :=
  Trade.fresh "t1" "s1" (some 7001) .buy 2000 (1 / 10) 1990 [some 2010, some 2020] 0 .trailStop
    .python false (some 1990) none

/-- A tick at which the broker answers every modification with `done`. -/
def trailTick (bid now : ℚ) (done : Bool) : StopTick :=
  { ratchetTick bid now with modify := fun _ => ⟨true, none, done⟩ }

/-- The stop moves to the entry, trails, and goes back by an update of the signal. -/
def trailRun : List StopEvent :=
  [.call .trailStop (trailTick 2012 1 true), .call .trailStop (trailTick 2020 5 true),
    .signalUpdate "s1" ⟨some 1995, fun _ => none⟩ ⟨⟨true, none, true⟩, false⟩]

theorem stored_stop_is_broker_stop_trailed :
    let s := trailRun.foldl (StopDesk.stopStep "t1")
      (.opened trailTrade (Db.single trailTrade Table.empty) none fun _ => none)
    (s.db.getTrade "t1").map Trade.stopLoss = some s.stops.broker :=
  (stored_stop_is_broker_stop_iff trailTrade _ none (fun _ => none) trailRun rfl (by decide)
    rfl).mpr (by decide +kernel) _ (foldl_mem_states ..)

/-- The broker refuses the move to the entry, and the entry is stored. -/
theorem refused_stop_is_stored :
    ¬ ∀ (row : Trade) (db : Db) (cache : Option (List ℕ × ℚ)) (lastFail : ℕ → Option ℚ)
      (events : List StopEvent), db.getTrade row.tradeId = some row →
        (linkedTicket row.mt5Ticket).isSome = true → row.managedBy = .python →
        ∀ s ∈ states (StopDesk.stopStep row.tradeId) (.opened row db cache lastFail) events,
          (s.db.getTrade row.tradeId).map Trade.stopLoss = some s.stops.broker := by
  intro all
  have run := all trailTrade (Db.single trailTrade Table.empty) none (fun _ => none)
    [.call .trailStop (trailTick 2012 1 false)] rfl (by decide) rfl _ (foldl_mem_states ..)
  exact absurd run (by decide +kernel)

end Forex
