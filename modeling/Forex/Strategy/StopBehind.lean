import Forex.Broker.Sides
import Forex.Strategy.Ratchet

/-!
Where `be_runner` and `no_sl_scale` put the stop: whether a level that a call sends or
stores is still behind the market. Both take it from the entry and the levels of the trade,
and neither looks at the tick again.
-/

namespace Forex
open Support

/-- The levels a call has sent to the broker and stored. -/
def StopDesk.placed (before after : StopDesk) : List ℚ :=
  after.stops.sent.take (after.stops.sent.length - before.stops.sent.length) ++
    after.stops.stored.take (after.stops.stored.length - before.stops.stored.length)

namespace StopDesk
variable (trade : Trade) (t : StopTick)

/-- Strictly below the bid for a buy, above the ask for a sell. -/
def behindMarket (sl : ℚ) : Bool :=
  trade.direction.tighter (t.tick.closePrice trade.direction) sl

def PlacesBehind (s s' : StopDesk) : Prop := ∀ sl ∈ placed s s', behindMarket trade t sl = true

instance (s s' : StopDesk) : Decidable (PlacesBehind trade t s s') :=
  inferInstanceAs (Decidable (∀ sl ∈ placed s s', _))

/-- The levels hit before the first that is not. -/
def levelsHit : List ℚ :=
  ((definedTps trade.tps).map Prod.snd).takeWhile (tpHit trade.direction t.tick)

/-- With one level hit, the entry is no improvement or behind the market; with more, the last
but one is no improvement or not at the market. -/
def runnerBehind : Bool :=
  t.ranging ||
    match (levelsHit trade t).reverse with
    | [] => true
    | [_] => !tightens trade trade.entryPrice || behindMarket trade t trade.entryPrice
    | _ :: sl :: _ => !tightens trade sl || decide (sl ≠ t.tick.closePrice trade.direction)

/-- The level two steps back is no improvement or behind the market. -/
def stepBehind (n : ℕ) : Bool :=
  (trade.tp (n - 2)).all fun sl => !tightens trade sl || behindMarket trade t sl

variable (last : ℕ)

def firstBooking (s : StopDesk) : LevelClose :=
  match firstPrice trade t with
  | none => .skipped
  | some price =>
      if last = 1 then closeRemaining trade t s 1 price else partialClose trade t s 1 price (1 / 5)

/-- The booking of TP1 does not move the stop to an entry that the market is at. -/
def firstBehind (s : StopDesk) : Bool :=
  decide (t.tick.closePrice trade.direction ≠ trade.entryPrice) ||
    !(firstBooking trade t last s).moves s.db

def laterBehind (s : StopDesk) (n : ℕ) : Bool :=
  (tpCleared trade t.tick n).all fun price =>
    if n = last ∨ n = 2 then true
    else if n = 3 then
      match partialOrReturn trade t s n price (1 / 5) with
      | .stop _ => true
      | .next _ => stepBehind trade t n
    else stepBehind trade t n

def noSlBehind (s : StopDesk) (n : ℕ) : Bool :=
  decide (n ∈ s.triggered) ||
    if n = 1 then firstBehind trade t last s else laterBehind trade t last s n

/-- Each level that the call comes to leaves the stop behind the market. -/
def ScaleBehind (s : StopDesk) : Prop :=
  ∀ last ∈ trade.lastTpNum,
    Flow.Meets (noSlLevel trade t last) (fun s n => noSlBehind trade t last s n = true)
      (s.readTriggered trade t.now) (List.range' 1 last)

instance (s : StopDesk) : Decidable (ScaleBehind trade t s) :=
  inferInstanceAs (Decidable (∀ last ∈ trade.lastTpNum, _))

/-- What was stored in between, newest first, and nothing else was sent. -/
structure Places (levels : List ℚ) (s s' : StopDesk) : Prop where
  stored : s'.stops.stored = levels ++ s.stops.stored
  sent : ∃ asked, asked ⊆ levels ∧ s'.stops.sent = asked ++ s.stops.sent

variable {trade t last} {s s' s'' : StopDesk} {levels levels' : List ℚ}

theorem Places.of_same (stops : s'.stops = s.stops) : Places [] s s' :=
  ⟨by rw [stops, List.nil_append], [], List.Subset.refl _, by rw [stops, List.nil_append]⟩

theorem Places.trans (h : Places levels s s') (h' : Places levels' s' s'') :
    Places (levels' ++ levels) s s'' := by
  obtain ⟨stored, asked, within, sent⟩ := h
  obtain ⟨stored', asked', within', sent'⟩ := h'
  refine ⟨?_, asked' ++ asked, ?_, ?_⟩
  · rw [stored', stored, List.append_assoc]
  · exact List.append_subset.mpr
      ⟨List.subset_append_of_subset_left _ within', List.subset_append_of_subset_right _ within⟩
  · rw [sent', sent, List.append_assoc]

theorem Places.mem_placed (h : Places levels s s') {sl : ℚ} : sl ∈ placed s s' ↔ sl ∈ levels := by
  obtain ⟨stored, asked, within, sent⟩ := h
  rw [placed, stored, sent, List.mem_append]
  simp only [List.length_append, Nat.add_sub_cancel, List.take_left']
  exact or_iff_right_of_imp fun mem => within mem

theorem Places.behind_iff (h : Places levels s s') :
    PlacesBehind trade t s s' ↔ ∀ sl ∈ levels, behindMarket trade t sl = true :=
  forall_congr' fun _ => imp_congr_left h.mem_placed

/-- A stop that goes to the broker, if the trade has a ticket, and is stored. -/
theorem Places.of_stored {view : ModifyView} {sl : ℚ}
    (stops : s'.stops = (s.modifyOrder trade view (some sl)).stops.store sl) :
    Places [sl] s s' := by
  rw [modifyOrder] at stops
  cases ticket : linkedTicket trade.mt5Ticket with
  | none =>
      rw [ticket] at stops
      exact ⟨by rw [stops]; rfl, [], List.nil_subset _, by rw [stops]; rfl⟩
  | some _ =>
      rw [ticket] at stops
      exact ⟨by rw [stops]; rfl, [sl], List.Subset.refl _, by rw [stops]; rfl⟩

variable (s) in
theorem record_places (p : PartialWrite) :
    Places (if p.movesStop s.db then [p.row.entryPrice] else []) s (s.record p) := by
  refine ⟨?_, [], List.nil_subset _, ?_⟩
  · rw [record]
    dsimp only
    split_ifs <;> rfl
  · rw [record]
    dsimp only
    split_ifs <;> rfl

/-- What a part of a call leaves: the row of the trade, and stops behind the market exactly
under the condition. -/
def Leaves (trade : Trade) (t : StopTick) (s : StopDesk) (ok : Prop) (s' : StopDesk) : Prop :=
  Tracks trade s' ∧
    ∃ levels, Places levels s s' ∧ ((∀ sl ∈ levels, behindMarket trade t sl = true) ↔ ok)

theorem Leaves.of_same {ok : Prop} (tracks : Tracks trade s') (stops : s'.stops = s.stops)
    (met : ok) : Leaves trade t s ok s' :=
  ⟨tracks, [], .of_same stops, iff_of_true (List.forall_mem_nil _) met⟩

theorem Leaves.congr {ok ok' : Prop} (h : Leaves trade t s ok s') (same : ok ↔ ok') :
    Leaves trade t s ok' s' := by
  obtain ⟨tracks, levels, places, behind⟩ := h
  exact ⟨tracks, levels, places, behind.trans same⟩

theorem Leaves.trans {ok ok' : Prop} (h : Leaves trade t s ok s') (h' : Leaves trade t s' ok' s'') :
    Leaves trade t s (ok ∧ ok') s'' := by
  obtain ⟨-, levels, places, behind⟩ := h
  obtain ⟨tracks, levels', places', behind'⟩ := h'
  refine ⟨tracks, levels' ++ levels, places.trans places', ?_⟩
  rw [List.forall_mem_append, behind, behind', and_comm]

/-- A call that places the stop with what the parts of it have placed before. -/
theorem Leaves.behind_iff {ok : Prop} {start : StopDesk} (before : ∃ levels, Places levels start s)
    (h : Leaves trade t s ok s') :
    (∃ levels, Places levels start s') ∧
      (PlacesBehind trade t start s' ↔ PlacesBehind trade t start s ∧ ok) := by
  obtain ⟨levels, places⟩ := before
  obtain ⟨-, levels', places', behind⟩ := h
  refine ⟨⟨_, places.trans places'⟩, ?_⟩
  rw [(places.trans places').behind_iff, places.behind_iff, List.forall_mem_append, behind,
    and_comm]

theorem Leaves.of_stored {view : ModifyView} {sl : ℚ} (tracks : Tracks trade s')
    (stops : s'.stops = (s.modifyOrder trade view (some sl)).stops.store sl) :
    Leaves trade t s (behindMarket trade t sl = true) s' :=
  ⟨tracks, [sl], .of_stored stops, List.forall_mem_singleton⟩

theorem Leaves.record (tracks : Tracks trade s) {n : ℕ} {price lots : ℚ} {reply : Reply}
    {p : PartialWrite} (write : closeWrite s.db trade n price lots reply t.now = some p) :
    Leaves trade t s (p.movesStop s.db = true → behindMarket trade t trade.entryPrice = true)
      (s.record p) := by
  obtain ⟨recorded, entry⟩ := tracks.record write
  refine ⟨recorded, _, record_places s p, ?_⟩
  cases p.movesStop s.db with
  | true => simp [entry]
  | false => simp

/-- The stop behind the booking of a close. -/
theorem Leaves.booked (tracks : Tracks trade s) {n : ℕ} {price lots : ℚ} {reply : Reply}
    {close : LevelClose} {p : PartialWrite} (booked : close = .booked p)
    (write : closeWrite s.db trade n price lots reply t.now = some p) :
    Leaves trade t s (close.moves s.db = true → behindMarket trade t trade.entryPrice = true)
      ((s.record p).addTriggered n) := by
  obtain ⟨recorded, levels, places, behind⟩ := Leaves.record tracks write
  rw [booked]
  exact ⟨recorded.of_same rfl rfl, levels, ⟨places.stored, places.sent⟩, behind⟩

theorem Leaves.closeAll (tracks : Tracks trade s) (n : ℕ) (price : ℚ) :
    Leaves trade t s
      ((closeRemaining trade t s n price).moves s.db = true →
        behindMarket trade t trade.entryPrice = true)
      (s.closeAll trade t n price) := by
  rw [StopDesk.closeAll]
  cases close : closeRemaining trade t s n price with
  | raised => exact .of_same tracks rfl Bool.noConfusion
  | skipped => exact .of_same tracks rfl Bool.noConfusion
  | booked p =>
      obtain ⟨lots, write⟩ := closeRemaining_write close
      exact Leaves.booked tracks rfl write

theorem Leaves.partialOrReturn (tracks : Tracks trade s) (n : ℕ) (price : ℚ) :
    Leaves trade t s
      ((partialClose trade t s n price (1 / 5)).moves s.db = true →
        behindMarket trade t trade.entryPrice = true)
      (partialOrReturn trade t s n price (1 / 5)).state := by
  rw [StopDesk.partialOrReturn, StopDesk.partialLevel]
  cases close : partialClose trade t s n price (1 / 5) with
  | raised => exact .of_same tracks rfl Bool.noConfusion
  | skipped => exact .of_same tracks rfl Bool.noConfusion
  | booked p =>
      obtain ⟨lots, write⟩ := partialClose_write close
      have booked := Leaves.booked tracks (rfl : LevelClose.booked p = .booked p) write
      dsimp only
      cases emptied trade p with
      | true => exact booked
      | false => exact booked

theorem behindMarket_eq_true_iff {sl : ℚ} :
    behindMarket trade t sl = true ↔
      trade.direction.sign * sl < trade.direction.sign * t.tick.closePrice trade.direction :=
  trade.direction.tighter_eq_true_iff

/-- Behind the market or at it. -/
theorem behindMarket_of_ne {sl : ℚ}
    (within : trade.direction.sign * sl ≤
      trade.direction.sign * t.tick.closePrice trade.direction) :
    behindMarket trade t sl = true ↔ t.tick.closePrice trade.direction ≠ sl := by
  rw [behindMarket_eq_true_iff, lt_iff_le_and_ne]
  refine ⟨fun behind same => behind.2 (by rw [same]), fun ne => ⟨within, fun same => ne ?_⟩⟩
  have apart := congrArg (trade.direction.sign * ·) same
  rw [← mul_assoc, ← mul_assoc, trade.direction.sign_mul_sign, one_mul, one_mul] at apart
  exact apart.symm

/-- The entry of a trade with a level cleared. -/
theorem entry_behind {n : ℕ} {price : ℚ} (cleared : tpCleared trade t.tick n = some price) :
    behindMarket trade t trade.entryPrice = true := by
  obtain ⟨-, both⟩ := Option.filter_eq_some_iff.mp cleared
  rw [Bool.and_eq_true] at both
  obtain ⟨ahead, hit⟩ := both
  rw [onProfitSide] at ahead
  rw [behindMarket]
  cases side : trade.direction with
  | buy =>
      rw [side] at ahead hit
      exact decide_eq_true ((of_decide_eq_true ahead).trans_le (of_decide_eq_true hit))
  | sell =>
      rw [side] at ahead hit
      exact decide_eq_true ((of_decide_eq_true hit).trans_lt (of_decide_eq_true ahead))

/-- TP1 is closed at a market that is at the entry at least. -/
theorem firstPrice_behind {price : ℚ} (first : firstPrice trade t = some price) :
    behindMarket trade t trade.entryPrice = true ↔
      t.tick.closePrice trade.direction ≠ trade.entryPrice := by
  refine behindMarket_of_ne ?_
  rw [firstPrice] at first
  cases cleared : tpCleared trade t.tick 1 with
  | some level => exact (behindMarket_eq_true_iff.mp (entry_behind cleared)).le
  | none =>
      rw [cleared] at first
      dsimp only at first
      cases level : trade.tp 1 with
      | none =>
          rw [level] at first
          cases first
      | some level =>
          rw [level] at first
          dsimp only at first
          split at first
          · rename_i ahead
            rw [Bool.and_eq_true, Bool.not_eq_true', behindEntry, behindEntry] at ahead
            exact trade.direction.tighter_eq_false_iff.mp ahead.2
          · cases first

theorem Leaves.firstLevel (tracks : Tracks trade s) :
    Leaves trade t s (firstBehind trade t last s = true) (firstLevel trade t last s).state := by
  rw [StopDesk.firstLevel, firstBehind, firstBooking]
  cases first : firstPrice trade t with
  | none =>
      have met : (decide (t.tick.closePrice trade.direction ≠ trade.entryPrice) ||
          !LevelClose.skipped.moves s.db) = true := Bool.or_true _
      cases trade.tp 1 with
      | none => exact .of_same tracks rfl met
      | some level =>
          dsimp only
          split
          · exact .of_same (tracks.of_same rfl rfl) rfl met
          · exact .of_same tracks rfl met
  | some price =>
      have condition (close : LevelClose) :
          (close.moves s.db = true → behindMarket trade t trade.entryPrice = true) ↔
            (decide (t.tick.closePrice trade.direction ≠ trade.entryPrice) ||
              !close.moves s.db) = true := by
        rw [firstPrice_behind first]
        cases close.moves s.db <;> simp
      dsimp only
      split
      · exact (Leaves.closeAll tracks 1 price).congr (condition _)
      · exact (Leaves.partialOrReturn tracks 1 price).congr (condition _)

/-- `_move_sl`. -/
theorem Leaves.tighten (tracks : Tracks trade s) (n : ℕ) (sl : ℚ) :
    Leaves trade t s ((!tightens trade sl || behindMarket trade t sl) = true)
      (if tightens trade sl then s.moveSl trade t n sl else s) := by
  cases better : tightens trade sl with
  | true =>
      have moved : Leaves trade t s _ (s.moveSl trade t n sl) :=
        .of_stored ((tracks.modifyOrder _ _).setStopLoss sl) rfl
      exact moved.congr (by simp)
  | false => exact .of_same tracks rfl rfl

theorem Leaves.stepStop (tracks : Tracks trade s)
    (entry : behindMarket trade t trade.entryPrice = true) (n : ℕ) :
    Leaves trade t s (stepBehind trade t n = true) (stepStop trade t s n) := by
  rw [StopDesk.stepStop, stopReference, stepBehind]
  by_cases three : n = 3
  · rw [if_pos three, three]
    cases trade.tp 1 with
    | none => exact .of_same tracks rfl rfl
    | some level =>
        rw [Option.map_some, Option.all_some]
        dsimp only
        split
        · rename_i behind
          have level_behind : behindMarket trade t level = true :=
            behindMarket_eq_true_iff.mpr
              ((trade.direction.tighter_eq_true_iff.mp behind).trans
                (behindMarket_eq_true_iff.mp entry))
          refine (Leaves.tighten tracks 3 trade.entryPrice).congr ?_
          rw [entry, level_behind, Bool.or_true, Bool.or_true]
        · exact Leaves.tighten tracks 3 level
  · rw [if_neg three]
    cases trade.tp (n - 2) with
    | none => exact .of_same tracks rfl rfl
    | some level => exact Leaves.tighten tracks n level

theorem Leaves.laterLevel (tracks : Tracks trade s) (n : ℕ) :
    Leaves trade t s (laterBehind trade t last s n = true) (laterLevel trade t last s n).state := by
  rw [StopDesk.laterLevel, laterBehind]
  cases cleared : tpCleared trade t.tick n with
  | none => exact .of_same tracks rfl rfl
  | some price =>
      have entry := entry_behind cleared
      rw [Option.all_some]
      dsimp only
      by_cases ends : n = last
      · rw [if_pos ends, if_pos (.inl ends)]
        exact (Leaves.closeAll tracks n price).congr (iff_of_true (fun _ => entry) rfl)
      · by_cases two : n = 2
        · rw [if_neg ends, if_pos two, if_pos (.inr two)]
          exact .of_same (tracks.of_same rfl rfl) rfl rfl
        · rw [if_neg ends, if_neg two, if_neg (not_or.mpr ⟨ends, two⟩)]
          by_cases three : n = 3
          · rw [if_pos three, if_pos three]
            have closed := Leaves.partialOrReturn (t := t) tracks n price
            cases result : StopDesk.partialOrReturn trade t s n price (1 / 5) with
            | stop s' =>
                rw [result] at closed
                exact closed.congr (iff_of_true (fun _ => entry) rfl)
            | next s' =>
                rw [result] at closed
                refine (closed.trans (Leaves.stepStop closed.1 entry n)).congr ?_
                exact and_iff_right fun _ => entry
          · rw [if_neg three, if_neg three]
            obtain ⟨stepped, levels, places, behind⟩ := Leaves.stepStop tracks entry n
            exact ⟨stepped.of_same rfl rfl, levels, ⟨places.stored, places.sent⟩, behind⟩

theorem Leaves.noSlLevel (tracks : Tracks trade s) (n : ℕ) :
    Leaves trade t s (noSlBehind trade t last s n = true) (noSlLevel trade t last s n).state := by
  rw [StopDesk.noSlLevel, noSlBehind]
  by_cases booked : n ∈ s.triggered
  · rw [if_pos booked, decide_eq_true booked]
    exact .of_same tracks rfl (Bool.true_or _)
  · rw [if_neg booked, decide_eq_false booked, Bool.false_or]
    by_cases one : n = 1
    · rw [if_pos one, if_pos one]
      exact Leaves.firstLevel tracks
    · rw [if_neg one, if_neg one]
      exact Leaves.laterLevel tracks n

/-- The stop behind a call of `no_sl_scale`. -/
theorem handleNoSlScale_behind_iff (h : Tracks trade s) :
    PlacesBehind trade t s (s.handleNoSlScale trade t) ↔ ScaleBehind trade t s := by
  have read : Tracks trade (s.readTriggered trade t.now) := h.of_same rfl rfl
  have nothing : Places [] s (s.readTriggered trade t.now) := .of_same rfl
  rw [handleNoSlScale, ScaleBehind]
  cases trade.lastTpNum with
  | none => simp [nothing.behind_iff]
  | some last =>
      have start : PlacesBehind trade t s (s.readTriggered trade t.now) :=
        nothing.behind_iff.mpr (List.forall_mem_nil _)
      have each (s' : StopDesk) (n : ℕ) (held : Tracks trade s' ∧ ∃ levels, Places levels s s') :
          (Tracks trade (noSlLevel trade t last s' n).state ∧
            ∃ levels, Places levels s (noSlLevel trade t last s' n).state) ∧
          (PlacesBehind trade t s (noSlLevel trade t last s' n).state ↔
            PlacesBehind trade t s s' ∧ noSlBehind trade t last s' n = true) := by
        have left : Leaves trade t s' (noSlBehind trade t last s' n = true)
            (noSlLevel trade t last s' n).state := Leaves.noSlLevel held.1 n
        obtain ⟨places, behind⟩ := left.behind_iff held.2
        exact ⟨⟨left.1, places⟩, behind⟩
      have run := Flow.fold_iff_meets (fun s' n (_ : n ∈ List.range' 1 last) => each s' n)
        ⟨read, _, nothing⟩
      simpa [start] using run

/-- A hit level of `scale_out` moves the stop to the entry only. -/
theorem Leaves.scaleOutHit (tracks : Tracks trade s)
    (entry : behindMarket trade t trade.entryPrice = true) (n : ℕ) :
    Leaves trade t s True (scaleOutHit trade t s n).state := by
  rw [StopDesk.scaleOutHit]
  obtain ⟨db, stops⟩ := stampReply_db_stops trade t s n
  have stamped : Leaves trade t s True (s.stampReply trade t n) :=
    .of_same (tracks.of_same (by rw [db]) stops) stops True.intro
  cases due : scaleOutDue trade t s n with
  | none => exact .of_same tracks rfl True.intro
  | some asked =>
      obtain ⟨price, lots⟩ := asked
      dsimp only
      cases close : closeLevel trade s.db n price lots (t.reply n) t.now with
      | raised => exact stamped
      | skipped => exact stamped
      | booked p =>
          have write : closeWrite (s.stampReply trade t n).db trade n price lots (t.reply n) t.now =
              some p := db.symm ▸ closeLevel_eq_booked close
          have recorded := stamped.trans (Leaves.record stamped.1 write)
          dsimp only
          split_ifs
          · have moved : Leaves trade t _ _ (((s.stampReply trade t n).record p).moveSlBe trade t n
                trade.entryPrice) :=
              .of_stored ((recorded.1.modifyOrder _ _).setStopLossBe _) rfl
            exact (recorded.trans moved).congr (by simp [entry])
          · exact recorded.congr (by simp [entry])

/-- A call of `scale_out` has a level hit, and so the entry behind the market, or does
nothing. -/
theorem handleScaleOut_behind (h : Tracks trade s) :
    PlacesBehind trade t s (s.handleScaleOut trade t) := by
  have read : Tracks trade (s.readTriggered trade t.now) := h.of_same rfl rfl
  have nothing : Places [] s (s.readTriggered trade t.now) := .of_same rfl
  have start : PlacesBehind trade t s (s.readTriggered trade t.now) :=
    nothing.behind_iff.mpr (List.forall_mem_nil _)
  have kept : Tracks trade (s.handleScaleOut trade t) ∧
      (∃ levels, Places levels s (s.handleScaleOut trade t)) ∧
        PlacesBehind trade t s (s.handleScaleOut trade t) := by
    rw [handleScaleOut]
    refine Flow.fold_keeps (I := fun s' => Tracks trade s' ∧ (∃ levels, Places levels s s') ∧
      PlacesBehind trade t s s') (fun s' n hit held => ?_) ⟨read, ⟨_, nothing⟩, start⟩
    rw [checkTpHits, List.mem_filter, Bool.and_eq_true, Option.isSome_iff_exists] at hit
    obtain ⟨-, -, price, cleared⟩ := hit
    have left := Leaves.scaleOutHit held.1 (entry_behind cleared) n
    obtain ⟨places, behind⟩ := left.behind_iff held.2.1
    exact Flow.leads_self.mpr ⟨left.1, places, behind.mpr ⟨held.2.2, True.intro⟩⟩
  exact kept.2.2

theorem bestStep_eq_length : bestStep trade t = (levelsHit trade t).length := by
  rw [bestStep, levelsHit, List.takeWhile_map, List.length_map]
  rfl

theorem hit_of_mem_levelsHit {price : ℚ} (mem : price ∈ levelsHit trade t) :
    trade.direction.sign * price ≤
      trade.direction.sign * t.tick.closePrice trade.direction := by
  have hit : tpHit trade.direction t.tick price = true := List.mem_takeWhile_imp mem
  cases side : trade.direction with
  | buy =>
      rw [side] at hit
      simpa [Direction.sign, Tick.closePrice] using of_decide_eq_true hit
  | sell =>
      rw [side] at hit
      simpa [Direction.sign, Tick.closePrice] using of_decide_eq_true hit

/-- `sl_ladder` at the last but one of the levels hit. -/
theorem ladderStop_of_hit {x y : ℚ} {earlier : List ℚ}
    (hits : (levelsHit trade t).reverse = x :: y :: earlier) : ladderStop trade t = y := by
  have order : levelsHit trade t = earlier.reverse ++ [y, x] := by
    rw [← List.reverse_reverse (levelsHit trade t), hits]
    simp
  have levels : (definedTps trade.tps).map Prod.snd =
      levelsHit trade t ++ ((definedTps trade.tps).map Prod.snd).dropWhile
        (tpHit trade.direction t.tick) := List.takeWhile_append_dropWhile.symm
  rw [ladderStop, bestStep_eq_length, levels, order]
  simp

/-- The stop behind a call of `be_runner`. -/
theorem handleBeRunner_behind_iff (h : Tracks trade s) :
    PlacesBehind trade t s (s.handleBeRunner trade t) ↔ runnerBehind trade t = true := by
  have nothing : PlacesBehind trade t s s :=
    (Places.of_same rfl).behind_iff.mpr (List.forall_mem_nil _)
  have locked (sl : ℚ) (reason : String) :
      PlacesBehind trade t s
          (if tightens trade sl then
            (s.modifyOrder trade (t.modify 0) (some sl)).lockSlWithMarker trade sl t.now reason
          else s) ↔
        (!tightens trade sl || behindMarket trade t sl) = true := by
    cases better : tightens trade sl with
    | true =>
        have placed : Places [sl] s
            ((s.modifyOrder trade (t.modify 0) (some sl)).lockSlWithMarker trade sl t.now reason) :=
          .of_stored rfl
        have behind : PlacesBehind trade t s _ ↔ _ := placed.behind_iff
        simpa using behind
    | false => simpa using nothing
  rw [handleBeRunner, runnerBehind]
  cases ranging : t.ranging with
  | true => simpa using handleScaleOut_behind h
  | false =>
      have length : bestStep trade t = (levelsHit trade t).length := bestStep_eq_length
      rw [← List.length_reverse] at length
      cases hits : (levelsHit trade t).reverse with
      | nil =>
          rw [hits] at length
          simpa [length] using nothing
      | cons x before =>
          cases before with
          | nil =>
              rw [hits] at length
              have entry : ladderStop trade t = trade.entryPrice := by
                rw [ladderStop, length]
                rfl
              simpa [length, entry] using locked trade.entryPrice _
          | cons y earlier =>
              rw [hits] at length
              have mem : y ∈ levelsHit trade t := by
                rw [← List.mem_reverse, hits]
                simp
              have apart : behindMarket trade t y =
                  decide (y ≠ t.tick.closePrice trade.direction) := by
                rw [Bool.eq_iff_iff, behindMarket_of_ne (hit_of_mem_levelsHit mem),
                  decide_eq_true_eq]
                exact ne_comm
              have more : bestStep trade t ≠ 0 := by
                rw [length]
                exact Nat.succ_ne_zero _
              rw [if_neg Bool.false_ne_true, if_neg more, ladderStop_of_hit hits, Bool.false_or]
              dsimp only
              rw [← apart]
              exact locked y _

end StopDesk

/-- For every trade and every call, from any bookings and any cache: what `be_runner` and
`no_sl_scale` send and store is strictly behind the market exactly under these conditions. -/
theorem stop_behind_market_iff (row : Trade) (db : Db) (cache : Option (List ℕ × ℚ))
    (lastFail : ℕ → Option ℚ) (t : StopTick) (found : db.getTrade row.tradeId = some row) :
    let s := StopDesk.opened row db cache lastFail
    (StopDesk.PlacesBehind row t s (s.handleBeRunner row t) ↔
        StopDesk.runnerBehind row t = true) ∧
      (StopDesk.PlacesBehind row t s (s.handleNoSlScale row t) ↔ StopDesk.ScaleBehind row t s) := by
  intro s
  have tracks : StopDesk.Tracks row s := ⟨row, found, .refl row, rfl⟩
  exact ⟨StopDesk.handleBeRunner_behind_iff tracks, StopDesk.handleNoSlScale_behind_iff tracks⟩

theorem stop_behind_market_ordered :
    let row := ratchetTrade [some 2010, some 2020, some 2030, some 2040, some 2050]
    let s := StopDesk.opened row (Db.single row Table.empty) none fun _ => none
    StopDesk.PlacesBehind row (ratchetTick 2045 1) s (s.handleBeRunner row (ratchetTick 2045 1)) ∧
      StopDesk.PlacesBehind row (ratchetTick 2045 1) s
        (s.handleNoSlScale row (ratchetTick 2045 1)) :=
  let row := ratchetTrade [some 2010, some 2020, some 2030, some 2040, some 2050]
  have both := stop_behind_market_iff row (Db.single row Table.empty) none (fun _ => none)
    (ratchetTick 2045 1) rfl
  ⟨both.1.mpr (by decide +kernel), both.2.mpr (by decide +kernel)⟩

/-- TP1 below the entry of a buy, and the market between them: `be_runner` takes the stop to
the entry. TP1 above TP3, and the market between them: `no_sl_scale` takes it to TP1. -/
theorem stop_placed_above_market :
    (let row := ratchetTrade [some 1995]
     let s := StopDesk.opened row (Db.single row Table.empty) none fun _ => none
     ¬ StopDesk.PlacesBehind row (ratchetTick 1998 1) s
        (s.handleBeRunner row (ratchetTick 1998 1))) ∧
      (let row := ratchetTrade [some 2030, some 2010, some 2020, some 2040]
       let s := StopDesk.opened row (Db.single row Table.empty) none fun _ => none
       ¬ StopDesk.PlacesBehind row (ratchetTick 2025 1) s
          (s.handleNoSlScale row (ratchetTick 2025 1))) := by
  decide +kernel

end Forex
