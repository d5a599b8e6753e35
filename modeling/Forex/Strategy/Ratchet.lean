import Forex.Strategy.Handlers

/-!
The stop under the strategy handlers, over runs of calls. Most moves are guarded
by a comparison with the stop the call started from, and tighten it. What can
loosen it is a move to breakeven that nothing guards, in the booking of TP1 or
in a handler, and a second move in one call, which is compared with the first
stop and not with the one the call has set meanwhile.
-/

namespace Forex
open Support

/-- Newest first, no level is further from the profit than one before it. -/
def NeverLoosens (direction : Direction) (levels : List ℚ) : Prop :=
  levels.Pairwise fun new old => direction.tighter old new = false

instance (direction : Direction) (levels : List ℚ) : Decidable (NeverLoosens direction levels) :=
  inferInstanceAs (Decidable (levels.Pairwise _))

namespace StopDesk
variable (trade : Trade) (t : StopTick) (s : StopDesk)

/-- The stored stop is closer to the profit than the level. -/
def past (sl : ℚ) : Bool :=
  (s.db.getTrade trade.tradeId).any fun row => trade.direction.tighter row.stopLoss sl

/-- The booking does not move the stop to breakeven, or the stop is not past the
entry. -/
def bookingKeeps (p : PartialWrite) : Bool := !p.movesStop s.db || !s.past trade trade.entryPrice

def scaleOutKeeps (n : ℕ) : Bool :=
  (scaleOutDue trade t s n).all fun due =>
    (closeLevel trade s.db n due.1 due.2 (t.reply n) t.now).all fun p =>
      (!p.movesStop s.db && !(decide (n = 1) && !trade.slMovedToBe)) ||
        !s.past trade trade.entryPrice

/-- TP1 is not booked in a way that moves the stop back to the entry. -/
def firstCloseKeeps (pct : ℚ) : Bool :=
  decide (1 ∈ s.triggered) ||
    (tpHitAt trade t 1).all fun price => (firstClose trade t pct s price).all (s.bookingKeeps trade)

def trialKeeps (n : ℕ) : Bool :=
  decide (n ∈ s.triggered) ||
    (tpCleared trade t.tick n).all fun price =>
      let close := partialClose trade t s n price (t.params.trialPct n / 100)
      if n = 1 then close.all (s.bookingKeeps trade)
      else if n = 4 then
        match close with
        | .raised => true
        | _ => (trade.tp 2).all fun sl => !tightens trade sl || !s.past trade sl
      else true

/-- The move of a step: the stop it goes to beats the stop of the copy only if
the stored one is not past it. -/
def stepKeeps (n : ℕ) : Bool :=
  (stopReference trade n).all fun sl => !tightens trade sl || !s.past trade sl

def noSlKeeps (last n : ℕ) : Bool :=
  decide (n ∈ s.triggered) ||
    if n = 1 then
      (firstPrice trade t).all fun price =>
        (if last = 1 then closeRemaining trade t s 1 price
          else partialClose trade t s 1 price (1 / 5)).all (s.bookingKeeps trade)
    else
      (tpCleared trade t.tick n).all fun price =>
        if n = last ∨ n = 2 then true
        else if n = 3 then
          match partialOrReturn trade t s n price (1 / 5) with
          | .stop _ => true
          | .next _ => s.stepKeeps trade n
        else s.stepKeeps trade n

def ScaleOutKeeps : Prop :=
  let s := s.readTriggered trade t.now
  Flow.Meets (scaleOutHit trade t) (fun s n => s.scaleOutKeeps trade t n = true) s
    (checkTpHits trade t.tick s.triggered)

/-- What a call of each handler must meet for the stop not to be loosened. -/
def CallKeeps : StopHandler → Prop
  | .scaleOut => s.ScaleOutKeeps trade t
  | .beRunner => t.ranging = true → s.ScaleOutKeeps trade t
  | .trailStop =>
      s.trailingActive trade = true ∨ setTpCleared trade t.tick 1 = none ∨
        s.past trade trade.entryPrice = false
  | .protectedScale => True
  | .conservative => (s.readTriggered trade t.now).firstCloseKeeps trade t (4 / 5) = true
  | .scalpRunner => (s.readTriggered trade t.now).firstCloseKeeps trade t (1 / 2) = true
  | .conservativeTrial =>
      Flow.Meets (trialLevel trade t) (fun s n => s.trialKeeps trade t n = true)
        (s.readTriggered trade t.now) (List.range' 1 6)
  | .noSlScale =>
      ∀ last ∈ trade.lastTpNum,
        Flow.Meets (noSlLevel trade t last) (fun s n => s.noSlKeeps trade t last n = true)
          (s.readTriggered trade t.now) (List.range' 1 last)

instance : Decidable (s.ScaleOutKeeps trade t) :=
  inferInstanceAs (Decidable (Flow.Meets _ _ _ _))

instance : ∀ h, Decidable (s.CallKeeps trade t h)
  | .scaleOut => inferInstanceAs (Decidable (s.ScaleOutKeeps trade t))
  | .beRunner => inferInstanceAs (Decidable (_ → s.ScaleOutKeeps trade t))
  | .trailStop => inferInstanceAs (Decidable (_ ∨ _ ∨ _))
  | .protectedScale => isTrue True.intro
  | .conservative => inferInstanceAs (Decidable (_ = true))
  | .scalpRunner => inferInstanceAs (Decidable (_ = true))
  | .conservativeTrial => inferInstanceAs (Decidable (Flow.Meets _ _ _ _))
  | .noSlScale => inferInstanceAs (Decidable (∀ last ∈ trade.lastTpNum, _))

end StopDesk

def StopDesk.Keeps (tradeId : String) (s : StopDesk) (call : StopHandler × StopTick) : Prop :=
  ∀ trade ∈ s.db.getTrade tradeId, trade.isOpen = true → s.CallKeeps trade call.2 call.1

instance (tradeId : String) (s : StopDesk) (call : StopHandler × StopTick) :
    Decidable (s.Keeps tradeId call) :=
  inferInstanceAs (Decidable (∀ trade ∈ s.db.getTrade tradeId, _))

namespace Direction
variable (d : Direction) {a b c : ℚ}

theorem not_tighter_of_tighter (h : d.tighter a b = true) : d.tighter b a = false := by
  rw [tighter_eq_true_iff] at h
  rw [tighter_eq_false_iff]
  exact h.le

theorem not_tighter_trans (ab : d.tighter a b = false) (bc : d.tighter b c = false) :
    d.tighter a c = false := by
  rw [tighter_eq_false_iff] at ab bc ⊢
  exact ab.trans bc

end Direction

namespace StopBook

/-- The levels stored never loosen, and those sent are among them. -/
structure Ratchets (direction : Direction) (b : StopBook) : Prop where
  stored : NeverLoosens direction b.stored
  sent : b.sent.Sublist b.stored

variable {direction : Direction} {b : StopBook} {sl : ℚ}

theorem Ratchets.cons (h : b.Ratchets direction) (ok : direction.tighter b.stop sl = false) :
    NeverLoosens direction (sl :: b.stored) := by
  refine List.pairwise_cons.mpr ⟨fun old mem => ?_, h.stored⟩
  cases List.mem_cons.mp mem with
  | inl last => exact last ▸ ok
  | inr earlier =>
      exact direction.not_tighter_trans ((List.pairwise_cons.mp h.stored).1 old earlier) ok

theorem Ratchets.store (h : b.Ratchets direction) (ok : direction.tighter b.stop sl = false) :
    (b.store sl).Ratchets direction :=
  ⟨h.cons ok, h.sent.cons sl⟩

theorem Ratchets.askStore (h : b.Ratchets direction) (view : ModifyView)
    (ok : direction.tighter b.stop sl = false) :
    ((b.ask direction view (some sl)).store sl).Ratchets direction :=
  ⟨h.cons ok, h.sent.cons_cons sl⟩

end StopBook

namespace StopDesk
variable {trade : Trade} {t : StopTick} {s : StopDesk}

theorem Tracks.past (h : Tracks trade s) (sl : ℚ) :
    s.past trade sl = trade.direction.tighter s.stops.stop sl := by
  obtain ⟨row, found, -, stop⟩ := h
  rw [StopDesk.past, found, Option.any_some, stop]

/-- The stop of the row, where no write has loosened it. -/
structure Held (trade : Trade) (s : StopDesk) : Prop where
  tracks : Tracks trade s
  ratchets : s.stops.Ratchets trade.direction

theorem Held.of_same {s' : StopDesk} (h : Held trade s)
    (row : s'.db.getTrade trade.tradeId = s.db.getTrade trade.tradeId)
    (stops : s'.stops = s.stops) : Held trade s' :=
  ⟨h.tracks.of_same row stops, stops ▸ h.ratchets⟩

theorem Held.modifyOrder (h : Held trade s) (view : ModifyView) {sl : ℚ}
    (ok : trade.direction.tighter s.stops.stop sl = false) :
    Tracks trade (s.modifyOrder trade view (some sl)) ∧
      ((s.modifyOrder trade view (some sl)).stops.store sl).Ratchets trade.direction := by
  refine ⟨h.tracks.modifyOrder view (some sl), ?_⟩
  rw [StopDesk.modifyOrder]
  cases linkedTicket trade.mt5Ticket with
  | none => exact h.ratchets.store ok
  | some _ => exact h.ratchets.askStore view ok

theorem Held.moveSl (h : Held trade s) (n : ℕ) {sl : ℚ}
    (ok : trade.direction.tighter s.stops.stop sl = false) :
    Held trade (s.moveSl trade t n sl) := by
  obtain ⟨tracks, ratchets⟩ := h.modifyOrder (t.modify n) ok
  exact ⟨tracks.setStopLoss sl, ratchets⟩

theorem Held.moveSlBe (h : Held trade s) (n : ℕ) {sl : ℚ}
    (ok : trade.direction.tighter s.stops.stop sl = false) :
    Held trade (s.moveSlBe trade t n sl) := by
  obtain ⟨tracks, ratchets⟩ := h.modifyOrder (t.modify n) ok
  exact ⟨tracks.setStopLossBe sl, ratchets⟩

theorem Held.record (h : Held trade s) {n : ℕ} {price lots now : ℚ} {reply : Reply}
    {p : PartialWrite} (write : closeWrite s.db trade n price lots reply now = some p)
    (ok : s.bookingKeeps trade p = true) : Held trade (s.record p) := by
  obtain ⟨tracks, entry⟩ := h.tracks.record write
  refine ⟨tracks, ?_⟩
  rw [bookingKeeps, h.tracks.past, Bool.or_eq_true, Bool.not_eq_true', Bool.not_eq_true'] at ok
  rw [StopDesk.record]
  cases moves : p.movesStop s.db with
  | false => exact h.ratchets
  | true =>
      rw [moves] at ok
      have behind := ok.resolve_left Bool.false_ne_true.symm
      rw [← entry] at behind
      exact h.ratchets.store behind

/-- A level after the first is booked without a move. -/
theorem Held.record_later (h : Held trade s) {n : ℕ} {price lots now : ℚ} {reply : Reply}
    {p : PartialWrite} (write : closeWrite s.db trade n price lots reply now = some p)
    (later : n ≠ 1) : Held trade (s.record p) := by
  refine h.record write ?_
  rw [bookingKeeps, movesStop_eq_false write later]
  rfl

/-- The guard compares with the stop the call started from. -/
theorem Held.trail (h : Held trade s) (fresh : s.stops.stop = trade.stopLoss) (dist : ℚ) :
    Held trade (s.trail trade t dist) := by
  rw [StopDesk.trail]
  split
  · rename_i better
    exact h.moveSl 0 (fresh ▸ trade.direction.not_tighter_of_tighter better)
  · exact h

/-- Where the entry beats the stop the call started from, the stop is not past
it by now. -/
def EntryAhead (trade : Trade) (s : StopDesk) : Prop :=
  tightens trade trade.entryPrice = true →
    trade.direction.tighter s.stops.stop trade.entryPrice = false

theorem EntryAhead.of_fresh (fresh : s.stops.stop = trade.stopLoss) : EntryAhead trade s :=
  fun better => fresh.symm ▸ trade.direction.not_tighter_of_tighter better

theorem EntryAhead.record (ahead : EntryAhead trade s) {p : PartialWrite}
    (entry : p.row.entryPrice = trade.entryPrice) : EntryAhead trade (s.record p) := by
  intro better
  rw [StopDesk.record]
  dsimp only
  split_ifs
  · rw [StopBook.store, entry]
    exact trade.direction.tighter_irrefl _
  · exact ahead better

theorem Held.breakeven (h : Held trade s) (ahead : EntryAhead trade s) (n : ℕ) :
    Held trade (s.breakeven trade t n) := by
  rw [StopDesk.breakeven]
  split
  · rename_i better
    exact h.moveSlBe n (ahead better)
  · exact h

theorem Held.readTriggered (h : Held trade s) (now : ℚ) : Held trade (s.readTriggered trade now) :=
  h.of_same rfl rfl

theorem Held.addTriggered (h : Held trade s) (n : ℕ) : Held trade (s.addTriggered n) :=
  h.of_same rfl rfl

theorem Held.insertTpMarker (h : Held trade s) (now price : ℚ) (reason : String) :
    Held trade (s.insertTpMarker trade now price reason) :=
  h.of_same rfl rfl

theorem Held.stampReply (h : Held trade s) (n : ℕ) : Held trade (s.stampReply trade t n) := by
  obtain ⟨db, stops⟩ := stampReply_db_stops trade t s n
  exact h.of_same (by rw [db]) stops

theorem Held.scaleOutHit (h : Held trade s) {n : ℕ} (ok : s.scaleOutKeeps trade t n = true) :
    (scaleOutHit trade t s n).Leads (Held trade) (Held trade) := by
  rw [StopDesk.scaleOutHit]
  rw [scaleOutKeeps] at ok
  cases due : scaleOutDue trade t s n with
  | none => exact h
  | some asked =>
      obtain ⟨price, lots⟩ := asked
      rw [due, Option.all_some] at ok
      dsimp only at ok ⊢
      cases close : closeLevel trade s.db n price lots (t.reply n) t.now with
      | raised => exact h.stampReply n
      | skipped => exact h.stampReply n
      | booked p =>
          rw [close, LevelClose.all, Bool.or_eq_true, Bool.and_eq_true, Bool.not_eq_true',
            Bool.not_eq_true', Bool.not_eq_true', h.tracks.past] at ok
          obtain ⟨db, stops⟩ := stampReply_db_stops trade t s n
          have stamped := h.stampReply (t := t) n
          have write : closeWrite (s.stampReply trade t n).db trade n price lots (t.reply n) t.now =
              some p := db.symm ▸ closeLevel_eq_booked close
          have keeps : (s.stampReply trade t n).bookingKeeps trade p = true := by
            rw [bookingKeeps, stamped.tracks.past, db, stops, Bool.or_eq_true, Bool.not_eq_true',
              Bool.not_eq_true']
            exact ok.imp And.left id
          have recorded := stamped.record write keeps
          dsimp only
          split_ifs with moves
          · refine recorded.moveSlBe n ?_
            obtain ⟨rfl, unset⟩ := moves
            have behind : trade.direction.tighter s.stops.stop trade.entryPrice = false := by
              cases ok with
              | inl still =>
                  rw [unset] at still
                  exact Bool.noConfusion still.2
              | inr behind => exact behind
            have entry := (stamped.tracks.record write).2
            rw [StopDesk.record]
            dsimp only
            split_ifs
            · rw [StopBook.store, entry]
              exact trade.direction.tighter_irrefl _
            · rw [stops]
              exact behind
          · exact recorded

theorem Held.handleScaleOut (h : Held trade s) (ok : s.ScaleOutKeeps trade t) :
    Held trade (s.handleScaleOut trade t) :=
  Flow.fold_leads (fun _ _ _ held ok => held.scaleOutHit ok) (fun _ held => held)
    (h.readTriggered t.now) ok

theorem Held.handleBeRunner (h : Held trade s) (fresh : s.stops.stop = trade.stopLoss)
    (ok : t.ranging = true → s.ScaleOutKeeps trade t) : Held trade (s.handleBeRunner trade t) := by
  rw [StopDesk.handleBeRunner]
  split
  · rename_i ranging
    exact h.handleScaleOut (ok ranging)
  · split
    · exact h
    · dsimp only
      split
      · rename_i better
        have behind := trade.direction.not_tighter_of_tighter better
        obtain ⟨tracks, ratchets⟩ := h.modifyOrder (t.modify 0) (fresh.symm ▸ behind)
        exact ⟨(tracks.setStopLossBe _).insertTpMarker _ _ _, ratchets⟩
      · exact h

theorem Held.handleTrailStop (h : Held trade s) (fresh : s.stops.stop = trade.stopLoss)
    (ok : s.CallKeeps trade t .trailStop) : Held trade (s.handleTrailStop trade t) := by
  rw [StopDesk.handleTrailStop]
  split
  · exact markCleared_keeps (fun _ _ _ held => held.insertTpMarker _ _ _)
      ((h.trail fresh _).readTriggered _)
  · rename_i inactive
    cases cleared : setTpCleared trade t.tick 1 with
    | none => exact h
    | some price =>
        have behind : s.past trade trade.entryPrice = false := by
          cases ok with
          | inl active => exact absurd active inactive
          | inr rest =>
              refine rest.resolve_left fun none => ?_
              rw [cleared] at none
              cases none
        rw [h.tracks.past] at behind
        have started : Held trade (s.markTrailingStarted trade t.now price) :=
          ⟨h.tracks.markTrailingStarted _ _, h.ratchets⟩
        exact markCleared_keeps (fun _ _ _ held => held.insertTpMarker _ _ _)
          ((started.moveSl 1 behind).readTriggered _)

theorem Held.skipTp1 (h : Held trade s) :
    Held trade (s.skipTp1 trade t) ∧ (s.skipTp1 trade t).stops = s.stops := by
  rw [StopDesk.skipTp1]
  split
  · exact ⟨h, rfl⟩
  · cases setTpCleared trade t.tick 1 with
    | none => exact ⟨h, rfl⟩
    | some price => exact ⟨(h.insertTpMarker _ _ _).addTriggered 1, rfl⟩

theorem Held.lockTp2 (h : Held trade s) (fresh : s.stops.stop = trade.stopLoss) :
    Held trade (s.lockTp2 trade t) := by
  rw [StopDesk.lockTp2]
  split
  · exact h
  · cases setTpCleared trade t.tick 2 with
    | none => exact h
    | some price =>
        exact ((h.insertTpMarker _ _ _).addTriggered 2).breakeven (.of_fresh fresh) 2

theorem Held.handleProtectedScale (h : Held trade s) (fresh : s.stops.stop = trade.stopLoss) :
    Held trade (s.handleProtectedScale trade t) := by
  obtain ⟨skipped, stops⟩ := (h.readTriggered t.now).skipTp1 (t := t)
  refine Flow.fold_keeps (fun s n mem held => protectedClose_leads held fun _ _ p write => ?_)
    (skipped.lockTp2 (stops ▸ fresh))
  rw [List.mem_range'_1] at mem
  exact (held.record_later write (by omega)).addTriggered n

theorem Held.handleConservative (h : Held trade s) (fresh : s.stops.stop = trade.stopLoss)
    (ok : s.CallKeeps trade t .conservative) : Held trade (s.handleConservative trade t) := by
  have read := h.readTriggered t.now
  rw [CallKeeps, firstCloseKeeps, Bool.or_eq_true, decide_eq_true_eq] at ok
  rw [StopDesk.handleConservative]
  split
  · exact read.trail fresh 3
  · rename_i waiting
    have keeps := ok.resolve_left waiting
    cases hit : tpHitAt trade t 1 with
    | none => exact read
    | some price =>
        rw [hit, Option.all_some] at keeps
        dsimp only
        cases close : firstClose trade t (4 / 5) (s.readTriggered trade t.now) price with
        | raised => exact read
        | skipped => exact read
        | booked p =>
            rw [close] at keeps
            obtain ⟨lots, reply, write⟩ := firstClose_write close
            have recorded := (read.record write keeps).addTriggered 1
            dsimp only
            split
            · exact recorded
            · have ahead := EntryAhead.of_fresh (s := s.readTriggered trade t.now) fresh
              exact recorded.breakeven (ahead.record (read.tracks.record write).2) 1

theorem Held.handleScalpRunner (h : Held trade s) (fresh : s.stops.stop = trade.stopLoss)
    (ok : s.CallKeeps trade t .scalpRunner) : Held trade (s.handleScalpRunner trade t) := by
  have read := h.readTriggered t.now
  rw [CallKeeps, firstCloseKeeps, Bool.or_eq_true, decide_eq_true_eq] at ok
  rw [StopDesk.handleScalpRunner]
  split
  · split
    · exact read.trail fresh 3
    · cases tpHitAt trade t 2 with
      | none => exact read
      | some price =>
          exact (read.addTriggered 2).breakeven (.of_fresh fresh) 2
  · rename_i waiting
    have keeps := ok.resolve_left waiting
    cases hit : tpHitAt trade t 1 with
    | none => exact read
    | some price =>
        rw [hit, Option.all_some] at keeps
        dsimp only
        cases close : firstClose trade t (1 / 2) (s.readTriggered trade t.now) price with
        | raised => exact read
        | skipped => exact read
        | booked p =>
            rw [close] at keeps
            obtain ⟨lots, reply, write⟩ := firstClose_write close
            exact (read.record write keeps).addTriggered 1

/-- A booking after which the stop is held: one of a later level, or one that
meets its condition. -/
theorem Held.booked (h : Held trade s) {n : ℕ} {price lots : ℚ} {close : LevelClose}
    {p : PartialWrite} (booked : close = .booked p)
    (write : closeWrite s.db trade n price lots (t.reply n) t.now = some p)
    (ok : n = 1 → close.all (s.bookingKeeps trade) = true) :
    Held trade ((s.record p).addTriggered n) := by
  refine Held.addTriggered ?_ n
  by_cases first : n = 1
  · have keeps := ok first
    rw [booked] at keeps
    exact h.record write keeps
  · exact h.record_later write first

theorem Held.closeAll (h : Held trade s) {n : ℕ} {price : ℚ}
    (ok : n = 1 → (closeRemaining trade t s n price).all (s.bookingKeeps trade) = true) :
    Held trade (s.closeAll trade t n price) := by
  rw [StopDesk.closeAll]
  cases close : closeRemaining trade t s n price with
  | raised => exact h
  | skipped => exact h
  | booked p =>
      obtain ⟨lots, write⟩ := closeRemaining_write close
      exact h.booked close write ok

/-- What a partial close leaves, when no exception leaves the handler. -/
theorem Held.partialLevel (h : Held trade s) {n : ℕ} {price pct : ℚ}
    (ok : n = 1 → (partialClose trade t s n price pct).all (s.bookingKeeps trade) = true)
    {s' : StopDesk} {done : Bool} (result : partialLevel trade t s n price pct = some (s', done)) :
    Held trade s' ∧ (EntryAhead trade s → EntryAhead trade s') ∧ (n ≠ 1 → s'.stops = s.stops) := by
  rw [StopDesk.partialLevel] at result
  cases close : partialClose trade t s n price pct with
  | raised =>
      rw [close] at result
      cases result
  | skipped =>
      rw [close] at result
      cases Option.some.inj result
      exact ⟨h, id, fun _ => rfl⟩
  | booked p =>
      rw [close] at result
      cases Option.some.inj result
      obtain ⟨lots, write⟩ := partialClose_write close
      refine ⟨h.booked close write ok, fun ahead => ?_, fun later => ?_⟩
      · exact ahead.record (h.tracks.record write).2
      · rw [StopDesk.addTriggered, StopDesk.record, movesStop_eq_false write later]
        rfl

theorem Held.trialMove (h : Held trade s) (ahead : EntryAhead trade s) {n : ℕ}
    (ok : n = 4 → (trade.tp 2).all (fun sl => !tightens trade sl || !s.past trade sl) = true) :
    Held trade (trialMove trade t s n) := by
  rw [StopDesk.trialMove]
  split
  · split
    · exact h
    · exact h.breakeven ahead 2
  · split
    · rename_i four
      cases level : trade.tp 2 with
      | none => exact h
      | some sl =>
          dsimp only
          split
          · rename_i better
            have behind := ok four
            rw [level, Option.all_some, better, h.tracks.past] at behind
            exact h.moveSlBe 4 (by simpa using behind)
          · exact h
    · exact h

theorem Held.trialLevel (h : Held trade s) (ahead : EntryAhead trade s) {n : ℕ}
    (ok : s.trialKeeps trade t n = true) :
    (trialLevel trade t s n).Leads (fun s => Held trade s ∧ EntryAhead trade s) (Held trade) := by
  rw [StopDesk.trialLevel]
  rw [trialKeeps, Bool.or_eq_true, decide_eq_true_eq] at ok
  split
  · exact ⟨h, ahead⟩
  · rename_i waiting
    have keeps := ok.resolve_left waiting
    cases cleared : tpCleared trade t.tick n with
    | none => exact ⟨h, ahead⟩
    | some price =>
        rw [cleared, Option.all_some] at keeps
        dsimp only at keeps ⊢
        have first : n = 1 → (partialClose trade t s n price (t.params.trialPct n / 100)).all
            (s.bookingKeeps trade) = true := by
          intro one
          rw [if_pos one] at keeps
          exact keeps
        split
        · rename_i last
          refine h.closeAll fun one => ?_
          omega
        · split
          · rename_i moves
            cases result : StopDesk.partialLevel trade t s n price (t.params.trialPct n / 100) with
            | none => exact h
            | some pair =>
                obtain ⟨s', done⟩ := pair
                obtain ⟨held, entry, same⟩ := h.partialLevel first result
                refine held.trialMove (entry ahead) fun four => ?_
                rw [if_neg (by omega), if_pos four] at keeps
                have stops := same (by omega)
                have answered : partialClose trade t s n price (t.params.trialPct n / 100) ≠
                    .raised := by
                  intro raised
                  rw [StopDesk.partialLevel, raised] at result
                  cases result
                have past : ∀ sl, s'.past trade sl = s.past trade sl := fun sl => by
                  rw [held.tracks.past, h.tracks.past, stops]
                simp only [past]
                split at keeps
                · rename_i raised
                  exact absurd raised answered
                · exact keeps
          · exact partialOrReturn_leads h fun s' done result =>
              have after := h.partialLevel first result
              ⟨⟨after.1, after.2.1 ahead⟩, after.1⟩

theorem Held.handleConservativeTrial (h : Held trade s) (fresh : s.stops.stop = trade.stopLoss)
    (ok : s.CallKeeps trade t .conservativeTrial) :
    Held trade (s.handleConservativeTrial trade t) := by
  have start : Held trade (s.readTriggered trade t.now) ∧
      EntryAhead trade (s.readTriggered trade t.now) :=
    ⟨h.readTriggered _, .of_fresh fresh⟩
  have run : Flow.Meets (StopDesk.trialLevel trade t) (fun s n => s.trialKeeps trade t n = true)
      (s.readTriggered trade t.now) (List.range' 1 6) := ok
  exact Flow.fold_leads (I := fun s => Held trade s ∧ EntryAhead trade s)
    (fun _ _ _ held ok => held.1.trialLevel held.2 ok) (fun _ held => held.1) start run

theorem Held.markSkipped (h : Held trade s) (n : ℕ) (price : ℚ) :
    Held trade (markSkipped trade t s n price) :=
  (h.insertTpMarker _ _ _).addTriggered n

theorem Held.stepStop (h : Held trade s) {n : ℕ} (ok : s.stepKeeps trade n = true) :
    Held trade (stepStop trade t s n) := by
  rw [StopDesk.stepStop]
  rw [stepKeeps] at ok
  cases reference : stopReference trade n with
  | none => exact h
  | some sl =>
      rw [reference, Option.all_some, Bool.or_eq_true, Bool.not_eq_true', Bool.not_eq_true',
        h.tracks.past] at ok
      dsimp only
      split
      · rename_i better
        exact h.moveSl n (ok.resolve_left (by simp [better]))
      · exact h

theorem Held.firstLevel (h : Held trade s) {last : ℕ}
    (ok : (firstPrice trade t).all (fun price =>
      (if last = 1 then closeRemaining trade t s 1 price
        else partialClose trade t s 1 price (1 / 5)).all (s.bookingKeeps trade)) = true) :
    (firstLevel trade t last s).Leads (Held trade) (Held trade) := by
  rw [StopDesk.firstLevel]
  cases first : firstPrice trade t with
  | none =>
      cases trade.tp 1 with
      | none => exact h
      | some level =>
          dsimp only
          split
          · exact h.markSkipped 1 level
          · exact h
  | some price =>
      rw [first, Option.all_some] at ok
      dsimp only
      split
      · rename_i only
        rw [if_pos only] at ok
        exact h.closeAll fun _ => ok
      · rename_i more
        rw [if_neg more] at ok
        exact partialOrReturn_leads h fun s' done result =>
          have after := h.partialLevel (fun _ => ok) result
          ⟨after.1, after.1⟩

theorem Held.laterLevel (h : Held trade s) {last n : ℕ} (later : n ≠ 1)
    (ok : (tpCleared trade t.tick n).all (fun price =>
      if n = last ∨ n = 2 then true
      else if n = 3 then
        match partialOrReturn trade t s n price (1 / 5) with
        | .stop _ => true
        | .next _ => s.stepKeeps trade n
      else s.stepKeeps trade n) = true) :
    (laterLevel trade t last s n).Leads (Held trade) (Held trade) := by
  rw [StopDesk.laterLevel]
  cases cleared : tpCleared trade t.tick n with
  | none => exact h
  | some price =>
      rw [cleared, Option.all_some] at ok
      dsimp only
      split
      · exact h.closeAll fun one => absurd one later
      · rename_i notLast
        split
        · exact h.markSkipped n price
        · rename_i notTwo
          rw [if_neg (by simp [notLast, notTwo])] at ok
          split
          · rename_i three
            rw [if_pos three] at ok
            have closed : (partialOrReturn trade t s n price (1 / 5)).Leads
                (fun s' => Held trade s' ∧ s'.stops = s.stops) (Held trade) :=
              partialOrReturn_leads h fun s' done result =>
                have after := h.partialLevel (fun one => absurd one later) result
                ⟨⟨after.1, after.2.2 later⟩, after.1⟩
            cases result : partialOrReturn trade t s n price (1 / 5) with
            | stop s' =>
                rw [result] at closed
                exact closed
            | next s' =>
                rw [result] at ok closed
                obtain ⟨held, stops⟩ := closed
                refine held.stepStop ?_
                simp only [stepKeeps, held.tracks.past, stops, ← h.tracks.past]
                exact ok
          · rename_i notThree
            rw [if_neg notThree] at ok
            exact (h.stepStop ok).markSkipped n price

theorem Held.noSlLevel (h : Held trade s) {last n : ℕ} (ok : s.noSlKeeps trade t last n = true) :
    (noSlLevel trade t last s n).Leads (Held trade) (Held trade) := by
  rw [StopDesk.noSlLevel]
  rw [noSlKeeps, Bool.or_eq_true, decide_eq_true_eq] at ok
  split
  · exact h
  · rename_i waiting
    have keeps := ok.resolve_left waiting
    split
    · rename_i one
      rw [if_pos one] at keeps
      exact h.firstLevel keeps
    · rename_i later
      rw [if_neg later] at keeps
      exact h.laterLevel later keeps

theorem Held.handleNoSlScale (h : Held trade s) (ok : s.CallKeeps trade t .noSlScale) :
    Held trade (s.handleNoSlScale trade t) := by
  rw [StopDesk.handleNoSlScale]
  cases defined : trade.lastTpNum with
  | none => exact h.readTriggered _
  | some last =>
      exact Flow.fold_leads (fun _ _ _ held ok => held.noSlLevel ok) (fun _ held => held)
        (h.readTriggered t.now) (ok last defined)

theorem Held.handle (h : Held trade s) (fresh : s.stops.stop = trade.stopLoss)
    (handler : StopHandler) (ok : s.CallKeeps trade t handler) :
    Held trade (handler.handle trade t s) := by
  cases handler with
  | scaleOut => exact h.handleScaleOut ok
  | beRunner => exact h.handleBeRunner fresh ok
  | trailStop => exact h.handleTrailStop fresh ok
  | protectedScale => exact h.handleProtectedScale fresh
  | conservative => exact h.handleConservative fresh ok
  | scalpRunner => exact h.handleScalpRunner fresh ok
  | conservativeTrial => exact h.handleConservativeTrial fresh ok
  | noSlScale => exact h.handleNoSlScale ok

end StopDesk

namespace StopDesk

/-- The row of the trade, with the stop that no write has loosened. -/
def Steady (tradeId : String) (direction : Direction) (s : StopDesk) : Prop :=
  ∃ trade, s.db.getTrade tradeId = some trade ∧ trade.direction = direction ∧
    trade.stopLoss = s.stops.stop ∧ s.stops.Ratchets direction

variable {tradeId : String} {direction : Direction} {s : StopDesk}

theorem Steady.step (h : s.Steady tradeId direction) {call : StopHandler × StopTick}
    (ok : s.Keeps tradeId call) : (s.step tradeId call).Steady tradeId direction := by
  obtain ⟨trade, found, rfl, stop, ratchets⟩ := h
  rw [StopDesk.step, found]
  dsimp only
  split
  · rename_i isOpen
    have own : trade.tradeId = tradeId := Table.key_of_find found
    have held : Held trade s := ⟨⟨trade, own ▸ found, .refl trade, stop⟩, ratchets⟩
    have after := held.handle stop.symm call.1 (ok trade found isOpen)
    obtain ⟨row, found', position, stop'⟩ := after.tracks
    exact ⟨row, own ▸ found', position.direction, stop', after.ratchets⟩
  · exact ⟨trade, found, rfl, stop, ratchets⟩

end StopDesk

/-- Over any run of calls of the handlers: if no move to breakeven finds the
stop past the entry, and no step of a call that beats the stop the call started
from lies behind the one stored by then, neither the stops stored nor those sent
ever loosen. -/
theorem stop_never_loosens (row : Trade) (db : Db) (cache : Option (List ℕ × ℚ))
    (lastFail : ℕ → Option ℚ) (calls : List (StopHandler × StopTick))
    (found : db.getTrade row.tradeId = some row)
    (keeps : Meets (StopDesk.step row.tradeId) (StopDesk.Keeps row.tradeId)
      (.opened row db cache lastFail) calls) :
    ∀ s ∈ states (StopDesk.step row.tradeId) (.opened row db cache lastFail) calls,
      (s.db.getTrade row.tradeId).map Trade.stopLoss = some s.stops.stop ∧
        NeverLoosens row.direction s.stops.stored ∧ NeverLoosens row.direction s.stops.sent := by
  have start : (StopDesk.opened row db cache lastFail).Steady row.tradeId row.direction :=
    ⟨row, found, rfl, rfl, ⟨List.pairwise_singleton _ _, List.Sublist.refl _⟩⟩
  intro s mem
  obtain ⟨trade, foundNow, -, stop, ratchets⟩ :=
    states_invariant (fun s call held ok => held.step ok) start keeps s mem
  refine ⟨?_, ratchets.stored, ratchets.stored.sublist ratchets.sent⟩
  rw [foundNow, Option.map_some, stop]

/-- A Trend Ratchet trade of a tenth of a lot. -/
def ratchetTrade (tps : List (Option ℚ)) : Trade :=
  Trade.fresh "t1" "s1" (some 7001) .buy 2000 (1 / 10) 1990 tps 0 .noSlScale .python false
    (some 1990) none

/-- The broker fills every close as asked and takes every stop. -/
def ratchetTick (bid now : ℚ) : StopTick where
  tick := ⟨bid, bid⟩
  now := now
  reply _ := .answered ⟨some true, none, none, none⟩
  modify _ := ⟨true, none, true⟩
  ranging := false
  trailingStopDistance := 5
  params := ⟨fun _ => 25, fun _ => 20, 20⟩

theorem stop_never_loosens_cascade :
    let row := ratchetTrade [some 2010, some 2020, some 2030, some 2040, some 2050]
    let calls := [(.noSlScale, ratchetTick 2015 1), (.noSlScale, ratchetTick 2045 5)]
    let s := calls.foldl (StopDesk.step "t1")
      (.opened row (Db.single row Table.empty) none fun _ => none)
    (s.db.getTrade "t1").map Trade.stopLoss = some s.stops.stop ∧
      NeverLoosens .buy s.stops.stored ∧ NeverLoosens .buy s.stops.sent :=
  stop_never_loosens (ratchetTrade [some 2010, some 2020, some 2030, some 2040, some 2050]) _ none
    (fun _ => none) _ rfl (by decide +kernel) _ (foldl_mem_states ..)

/-- TP1 above the levels after it: the step of TP3 takes the stop to TP1, the
step of TP4, in the same call, back to TP2. -/
theorem cascade_loosens_stop :
    ¬ ∀ (row : Trade) (db : Db) (cache : Option (List ℕ × ℚ)) (lastFail : ℕ → Option ℚ)
      (calls : List (StopHandler × StopTick)), db.getTrade row.tradeId = some row →
        ∀ s ∈ states (StopDesk.step row.tradeId) (.opened row db cache lastFail) calls,
          NeverLoosens row.direction s.stops.stored ∧ NeverLoosens row.direction s.stops.sent := by
  intro all
  let row := ratchetTrade [some 2030, some 2010, some 2020, some 2025, some 2050]
  have run := all row (Db.single row Table.empty) none (fun _ => none)
    [(.noSlScale, ratchetTick 2035 1)] rfl _ (foldl_mem_states ..)
  exact absurd run.1 (by decide +kernel)

end Forex
