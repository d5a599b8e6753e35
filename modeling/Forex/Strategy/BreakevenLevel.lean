import Forex.Strategy.StopEvents

/-!
The take-profit at which the handler of a strategy takes the stop to the entry,
and what comes before it: a call that hits no such level asks the broker for no
stop.
-/

namespace Forex
open Support

namespace StopHandler

/-- The number of the first level whose hit moves the stop. -/
def breakevenNum : StopHandler → ℕ
  | .scaleOut | .beRunner | .trailStop | .conservative => 1
  | .protectedScale | .scalpRunner | .conservativeTrial => 2
  | .noSlScale => 3

/-- The level that takes the stop to the entry, as the handler reads it. Trend
Ratchet steps at every level from TP3 on but the last, which closes the trade. -/
def breakevenTp (trade : Trade) : StopHandler → Option ℚ
  | .scaleOut | .beRunner => (trade.tp 1).filter (onProfitSide trade)
  | .trailStop => (trade.tp 1).filter fun price => onProfitSide trade price && decide (price ≠ 0)
  | .protectedScale =>
      (trade.tp 2).filter fun price => onProfitSide trade price && decide (price ≠ 0)
  | .conservative => trade.tp 1
  | .scalpRunner => trade.tp 2
  | .conservativeTrial => (trade.tp 2).filter (onProfitSide trade)
  | .noSlScale =>
      ((ladderTps trade).find? fun p =>
        decide (3 ≤ p.1 ∧ trade.lastTpNum ≠ some p.1)).map Prod.snd

end StopHandler

/-- `get_strategy_params` of the ladders, and `be_trigger` of a template. -/
structure BreakevenParams where
  ladder : LadderParams
  beTrigger : String → ℤ

namespace Trade
variable (trade : Trade)

/-- The handler that `run_monitor_cycle` dispatches a strategy to, when it is
one that moves stops. -/
def stopHandler : Option StopHandler :=
  match trade.strategy with
  | .beRunner => some .beRunner
  | .trailStop => some .trailStop
  | .protectedScale => some .protectedScale
  | .conservative => some .conservative
  | .scalpRunner => some .scalpRunner
  | .noSlScale => some .noSlScale
  | .conservativeTrial => some .conservativeTrial
  | .signalClimber | .reversalRunner | .adaptiveRunner | .adaptiveRunner2 | .limitRunner => none
  | .orbFixed | .fixedRr => none
  | .template _ => if trade.managedBy = .ea then none else some .scaleOut
  | .scaleOut | .goldDiggersCopy | .other _ => some .scaleOut

/-- `tpl_be_trigger` of the EA, the one-based number of a level. -/
def templateTp (beTrigger : ℤ) : Option ℚ :=
  if 1 ≤ beTrigger ∧ beTrigger ≤ maxTp then
    (trade.tp beTrigger.toNat).filter (onProfitSide trade)
  else none

/-- The level of `run_tp_ladder` at `be_at_pos`. -/
def ladderBreakevenTp (rule : LadderRule) : Option ℚ :=
  (ladderTps trade)[rule.beAtPos]?.map Prod.snd

/-- The level at which the strategy of the trade takes the stop to the entry. -/
def breakevenTp (p : BreakevenParams) : Option ℚ :=
  match ladderRule p.ladder trade trade.strategy with
  | some rule => trade.ladderBreakevenTp rule
  | none =>
      match trade.stopHandler with
      | some handler => handler.breakevenTp trade
      | none =>
          match trade.strategy with
          | .template name => trade.templateTp (p.beTrigger name)
          | _ => none

end Trade

namespace StopDesk
variable (trade : Trade) (t : StopTick) (s : StopDesk)

@[simp] theorem record_sent (p : PartialWrite) : (s.record p).stops.sent = s.stops.sent := by
  rw [record]
  split_ifs <;> rfl

@[simp] theorem addTriggered_stops (n : ℕ) : (s.addTriggered n).stops = s.stops := rfl

@[simp] theorem readTriggered_stops (now : ℚ) : (s.readTriggered trade now).stops = s.stops := rfl

@[simp] theorem insertTpMarker_stops (now price : ℚ) (reason : String) :
    (s.insertTpMarker trade now price reason).stops = s.stops := rfl

end StopDesk

section Ladder
variable {trade : Trade} {t : StopTick} {rule : LadderRule}

/-- Nothing has been asked for since the call began, and the breakeven level is
not triggered. -/
structure LadderStops.Waits (trade : Trade) (rule : LadderRule) (sent : List ℚ) (w : LadderStops) :
    Prop where
  cached : w.desk.cache.isSome = true
  sent : w.desk.stops.sent = sent
  fresh : ∀ q ∈ (ladderTps trade)[rule.beAtPos]?, q.1 ∉ w.desk.triggered

namespace LadderStops
variable {w : LadderStops} {sent : List ℚ} {l : (ℕ × ℚ) × ℕ}

theorem trail_before (before : l.2 < rule.beAtPos) :
    w.trail trade t rule (ladderTps trade) l = w := by
  rw [trail]
  exact if_pos before

theorem number_ne (mem : l ∈ (ladderTps trade).zipIdx) (before : l.2 < rule.beAtPos) {q : ℕ × ℚ}
    (level : (ladderTps trade)[rule.beAtPos]? = some q) : q.1 ≠ l.1.1 := by
  have here := List.mem_zipIdx_iff_getElem?.mp mem
  intro same
  have numbers := (nodup_ladderTps trade)
  obtain ⟨bound, rfl⟩ := List.getElem?_eq_some_iff.mp level
  obtain ⟨bound', there⟩ := List.getElem?_eq_some_iff.mp here
  have positions : rule.beAtPos = l.2 := by
    refine (@List.Nodup.getElem_inj_iff _ _ numbers _ (by simpa using bound) _
      (by simpa using bound')).mp ?_
    rw [List.getElem_map, List.getElem_map, there]
    exact same
  omega

/-- A level before the breakeven one closes its lots and leaves the stop. -/
theorem Waits.level (h : w.Waits trade rule sent) (mem : l ∈ (ladderTps trade).zipIdx)
    (before : l.2 < rule.beAtPos) :
    (w.level trade t rule (ladderTps trade) l).Leads (Waits trade rule sent)
      (Waits trade rule sent) := by
  rw [LadderStops.level]
  split_ifs
  · exact h
  · exact h
  · exact h
  · cases w.lots trade rule (ladderTps trade) l with
    | none => exact h
    | some lots =>
        dsimp only
        split_ifs
        · exact h
        · cases closeLevel trade w.desk.db l.1.1 l.1.2 lots (t.reply l.1.1) t.now with
          | raised => exact h
          | skipped => exact h
          | booked p =>
              have booked : Waits trade rule sent
                  { w with desk := (w.desk.record p).addTriggered l.1.1 } := by
                refine ⟨?_, ?_, fun q level => ?_⟩
                · rw [StopDesk.addTriggered, Option.isSome_map]
                  exact h.cached
                · rw [StopDesk.addTriggered_stops, StopDesk.record_sent]
                  exact h.sent
                · have held : (w.desk.record p).cache.isSome = true := h.cached
                  rw [triggered_addTriggered held, List.mem_cons, not_or]
                  exact ⟨number_ne mem before level, h.fresh q level⟩
              dsimp only
              split_ifs
              · exact booked
              · rw [trail_before before]
                exact booked

/-- The breakeven level is not hit, and ends the loop. -/
theorem Waits.level_at (h : w.Waits trade rule sent) {q : ℕ × ℚ}
    (level : (ladderTps trade)[rule.beAtPos]? = some q)
    (miss : tpHit trade.direction t.tick q.2 = false) :
    (w.level trade t rule (ladderTps trade) (q, rule.beAtPos)).Leads (fun _ => False)
      (Waits trade rule sent) := by
  rw [LadderStops.level, if_neg (h.fresh q level), if_pos (by rw [miss]; rfl)]
  exact h

end LadderStops

/-- While the level at `be_at_pos` is neither triggered nor hit, `run_tp_ladder`
asks for no stop. -/
theorem StopDesk.ladder_waits {s : StopDesk}
    (fresh : ∀ q ∈ (ladderTps trade)[rule.beAtPos]?, q.1 ∉ (s.readTriggered trade t.now).triggered)
    (miss : ∀ price ∈ trade.ladderBreakevenTp rule, tpHit trade.direction t.tick price = false) :
    (s.runTpLadder trade t rule).stops.sent = s.stops.sent := by
  have start : LadderStops.Waits trade rule s.stops.sent
      ⟨s.readTriggered trade t.now, trade.stopLoss⟩ := ⟨rfl, rfl, fresh⟩
  let levels := (ladderTps trade).zipIdx
  have keep : ∀ w, ∀ l ∈ levels.take rule.beAtPos, LadderStops.Waits trade rule s.stops.sent w →
      (w.level trade t rule (ladderTps trade) l).Leads (LadderStops.Waits trade rule s.stops.sent)
        (LadderStops.Waits trade rule s.stops.sent) := by
    intro w l mem h
    refine h.level (List.mem_of_mem_take mem) ?_
    obtain ⟨i, bound, rfl⟩ := List.mem_take_iff_getElem.mp mem
    rw [List.getElem_zipIdx]
    omega
  rw [StopDesk.runTpLadder]
  cases level : (ladderTps trade)[rule.beAtPos]? with
  | none =>
      have short : levels.take rule.beAtPos = levels := by
        refine List.take_of_length_le ?_
        rw [List.length_zipIdx]
        exact List.getElem?_eq_none_iff.mp level
      rw [short] at keep
      exact (Flow.fold_keeps keep start).sent
  | some q =>
      have split : levels = levels.take rule.beAtPos ++
          (q, rule.beAtPos) :: levels.drop (rule.beAtPos + 1) := by
        obtain ⟨bound, here⟩ := List.getElem?_eq_some_iff.mp level
        have long : rule.beAtPos < levels.length := by
          rw [List.length_zipIdx]
          exact bound
        have at_ : levels[rule.beAtPos] = (q, rule.beAtPos) := by
          rw [List.getElem_zipIdx, here, Nat.zero_add]
        rw [← at_, ← List.drop_eq_getElem_cons long, List.take_append_drop]
      have missed := miss q.2 (by rw [Trade.ladderBreakevenTp, level]; rfl)
      have folded := @Flow.fold_left_at _ _ _ _ _ (levels.drop (rule.beAtPos + 1)) _ keep
        (fun w h => h.level_at level missed) _ start
      rw [← split] at folded
      exact folded.sent

end Ladder

/-- A defined level has the number of its column. -/
theorem tp_of_mem_definedTps {trade : Trade} {p : ℕ × ℚ} (mem : p ∈ definedTps trade.tps) :
    1 ≤ p.1 ∧ trade.tp p.1 = some p.2 := by
  obtain ⟨⟨column, n⟩, here, found⟩ := List.mem_filterMap.mp mem
  obtain ⟨price, rfl, rfl⟩ := Option.map_eq_some_iff.mp found
  obtain ⟨first, at_⟩ := List.mem_zipIdx_iff_le_and_getElem?_sub.mp here
  refine ⟨first, ?_⟩
  rw [Trade.tp, List.getD_eq_getElem?_getD, at_]
  rfl

/-- The level at which a handler goes to breakeven is one of those from its
number on. -/
theorem StopHandler.column_of_breakevenTp {trade : Trade} {handler : StopHandler} {price : ℚ}
    (level : handler.breakevenTp trade = some price) :
    ∃ n, handler.breakevenNum ≤ n ∧ trade.tp n = some price := by
  cases handler with
  | scaleOut | beRunner | trailStop => exact ⟨1, le_rfl, (Option.filter_eq_some_iff.mp level).1⟩
  | protectedScale | conservativeTrial =>
      exact ⟨2, le_rfl, (Option.filter_eq_some_iff.mp level).1⟩
  | conservative => exact ⟨1, le_rfl, level⟩
  | scalpRunner => exact ⟨2, le_rfl, level⟩
  | noSlScale =>
      obtain ⟨p, found, rfl⟩ := Option.map_eq_some_iff.mp level
      have fits := List.find?_some found
      have bound := of_decide_eq_true fits
      have defined := (List.mem_filter.mp (List.mem_of_find?_eq_some found)).1
      exact ⟨p.1, bound.1, (tp_of_mem_definedTps defined).2⟩

section Handlers
variable {trade : Trade} {t : StopTick} {s : StopDesk}

/-- No level from the number on is hit. -/
def Quiet (trade : Trade) (t : StopTick) (n : ℕ) : Prop :=
  ∀ m, n ≤ m → ∀ price ∈ trade.tp m, tpHit trade.direction t.tick price = false

theorem Quiet.tpCleared {n m : ℕ} (quiet : Quiet trade t n) (le : n ≤ m) :
    tpCleared trade t.tick m = none := by
  rw [Forex.tpCleared, Option.filter_eq_none_iff]
  intro price level
  rw [quiet m le price level, Bool.and_false]
  exact Bool.false_ne_true

theorem Quiet.setTpCleared {n m : ℕ} (quiet : Quiet trade t n) (le : n ≤ m) :
    setTpCleared trade t.tick m = none := by
  rw [Forex.setTpCleared, quiet.tpCleared le]
  rfl

theorem Quiet.tpHitAt {n m : ℕ} (quiet : Quiet trade t n) (le : n ≤ m) :
    StopDesk.tpHitAt trade t m = none := by
  rw [StopDesk.tpHitAt, Option.filter_eq_none_iff]
  intro price level
  rw [quiet m le price level]
  exact Bool.false_ne_true

theorem Quiet.mono {n m : ℕ} (quiet : Quiet trade t n) (le : n ≤ m) : Quiet trade t m :=
  fun k bound => quiet k (le.trans bound)

namespace StopDesk

theorem scaleOut_waits (quiet : Quiet trade t 1) :
    (s.handleScaleOut trade t).stops.sent = s.stops.sent := by
  have nothing : checkTpHits trade t.tick (s.readTriggered trade t.now).triggered = [] := by
    rw [checkTpHits, List.filter_eq_nil_iff]
    intro n mem
    rw [quiet.tpCleared (List.mem_range'_1.mp mem).1, Option.isSome_none, Bool.and_false]
    exact Bool.false_ne_true
  rw [handleScaleOut, nothing]
  rfl

theorem beRunner_waits (quiet : Quiet trade t 1) :
    (s.handleBeRunner trade t).stops.sent = s.stops.sent := by
  have far : bestStep trade t = 0 := by
    rw [bestStep]
    cases levels : definedTps trade.tps with
    | nil => rfl
    | cons p rest =>
        obtain ⟨first, level⟩ := tp_of_mem_definedTps (levels ▸ List.mem_cons_self)
        have miss := quiet p.1 first p.2 level
        rw [List.takeWhile_cons, if_neg (Bool.eq_false_iff.mp miss)]
        rfl
  rw [handleBeRunner, if_pos far]
  split_ifs
  · exact scaleOut_waits quiet
  · rfl

theorem trailStop_waits (quiet : Quiet trade t 1) (inactive : s.trailingActive trade = false) :
    (s.handleTrailStop trade t).stops.sent = s.stops.sent := by
  rw [handleTrailStop, if_neg (Bool.eq_false_iff.mp inactive), quiet.setTpCleared le_rfl]

theorem protectedClose_sent (n : ℕ) :
    (protectedClose trade t s n).Leads (fun s' => s'.stops.sent = s.stops.sent) fun s' =>
      s'.stops.sent = s.stops.sent :=
  protectedClose_leads (I := fun s' : StopDesk => s'.stops.sent = s.stops.sent) rfl
    fun _ _ p _ => by rw [addTriggered_stops, record_sent]

theorem skipTp1_sent : (s.skipTp1 trade t).stops.sent = s.stops.sent := by
  rw [skipTp1]
  split_ifs
  · rfl
  · cases setTpCleared trade t.tick 1 with
    | none => rfl
    | some price => rfl

theorem protectedScale_waits (quiet : Quiet trade t 2) :
    (s.handleProtectedScale trade t).stops.sent = s.stops.sent := by
  have locked (s : StopDesk) : s.lockTp2 trade t = s := by
    rw [lockTp2, quiet.setTpCleared le_rfl]
    exact ite_self s
  rw [handleProtectedScale, locked]
  refine Flow.fold_keeps (I := fun s' : StopDesk => s'.stops.sent = s.stops.sent)
    (fun s' n _ held => ?_) skipTp1_sent
  have closed := @protectedClose_sent trade t s' n
  rw [held] at closed
  exact closed

theorem conservative_waits (quiet : Quiet trade t 1)
    (fresh : 1 ∉ (s.readTriggered trade t.now).triggered) :
    (s.handleConservative trade t).stops.sent = s.stops.sent := by
  rw [handleConservative, if_neg fresh, quiet.tpHitAt le_rfl]
  rfl

theorem scalpRunner_waits (quiet : Quiet trade t 2)
    (fresh : 2 ∉ (s.readTriggered trade t.now).triggered) :
    (s.handleScalpRunner trade t).stops.sent = s.stops.sent := by
  rw [handleScalpRunner, if_neg fresh, quiet.tpHitAt le_rfl]
  split_ifs
  · rfl
  · cases tpHitAt trade t 1 with
    | none => rfl
    | some price =>
        dsimp only
        cases firstClose trade t (1 / 2) (s.readTriggered trade t.now) price with
        | raised => rfl
        | skipped => rfl
        | booked p => exact record_sent ..

theorem partialLevel_sent {n : ℕ} {price pct : ℚ} {s' : StopDesk} {done : Bool}
    (result : partialLevel trade t s n price pct = some (s', done)) :
    s'.stops.sent = s.stops.sent := by
  simp only [partialLevel] at result
  split at result
  · cases result
  · cases result
    rfl
  · next p _ =>
      cases result
      rw [addTriggered_stops, record_sent]

theorem partialOrReturn_sent (n : ℕ) (price pct : ℚ) :
    (partialOrReturn trade t s n price pct).Leads (fun s' => s'.stops.sent = s.stops.sent)
      fun s' => s'.stops.sent = s.stops.sent :=
  partialOrReturn_leads rfl fun _ _ result => ⟨partialLevel_sent result, partialLevel_sent result⟩

theorem closeAll_sent (n : ℕ) (price : ℚ) :
    (s.closeAll trade t n price).stops.sent = s.stops.sent := by
  rw [closeAll]
  cases closeRemaining trade t s n price with
  | raised => rfl
  | skipped => rfl
  | booked p => exact record_sent ..

theorem conservativeTrial_waits (quiet : Quiet trade t 2) :
    (s.handleConservativeTrial trade t).stops.sent = s.stops.sent := by
  refine Flow.fold_keeps (I := fun s' : StopDesk => s'.stops.sent = s.stops.sent)
    (fun s' n mem held => ?_) rfl
  rw [trialLevel]
  by_cases old : n ∈ s'.triggered
  · rw [if_pos old]
    exact held
  · rw [if_neg old]
    by_cases later : 2 ≤ n
    · rw [quiet.tpCleared later]
      exact held
    · have first : n = 1 := by
        have bound := (List.mem_range'_1.mp mem).1
        omega
      subst first
      cases tpCleared trade t.tick 1 with
      | none => exact held
      | some price =>
          have closed := @partialOrReturn_sent trade t s' 1 price
            (t.params.trialPct 1 / 100)
          rw [held] at closed
          exact closed

theorem firstLevel_sent (last : ℕ) :
    (firstLevel trade t last s).Leads (fun s' => s'.stops.sent = s.stops.sent) fun s' =>
      s'.stops.sent = s.stops.sent := by
  rw [firstLevel]
  cases firstPrice trade t with
  | some price =>
      dsimp only
      split_ifs
      · exact closeAll_sent 1 price
      · exact partialOrReturn_sent 1 price (1 / 5)
  | none =>
      cases trade.tp 1 with
      | none => rfl
      | some level =>
          dsimp only
          split_ifs
          · rfl
          · rfl

theorem laterLevel_sent {last n : ℕ} (quiet : Quiet trade t 3) (later : 2 ≤ n) :
    (laterLevel trade t last s n).Leads (fun s' => s'.stops.sent = s.stops.sent) fun s' =>
      s'.stops.sent = s.stops.sent := by
  rw [laterLevel]
  by_cases third : 3 ≤ n
  · rw [quiet.tpCleared third]
    rfl
  · cases tpCleared trade t.tick n with
    | none => rfl
    | some price =>
        dsimp only
        split_ifs with isLast second third
        · exact closeAll_sent n price
        · rfl
        · omega
        · omega

theorem noSlScale_waits (quiet : Quiet trade t 3) :
    (s.handleNoSlScale trade t).stops.sent = s.stops.sent := by
  rw [handleNoSlScale]
  cases trade.lastTpNum with
  | none => rfl
  | some last =>
      refine Flow.fold_keeps (I := fun s' : StopDesk => s'.stops.sent = s.stops.sent)
        (fun s' n mem held => ?_) rfl
      rw [noSlLevel]
      split_ifs with old first
      · exact held
      · have done := @firstLevel_sent trade t s' last
        rw [held] at done
        exact done
      · have later : 2 ≤ n := by
          have bound := (List.mem_range'_1.mp mem).1
          omega
        have done := @laterLevel_sent trade t s' last n quiet later
        rw [held] at done
        exact done

end StopDesk

/-- What a handler takes for a sign that the stop has moved: the breakeven flag,
or the marker of the level that moves it. -/
def StopHandler.started (trade : Trade) (t : StopTick) (s : StopDesk) : StopHandler → Bool
  | .trailStop => s.trailingActive trade
  | .conservative => decide (1 ∈ (s.readTriggered trade t.now).triggered)
  | .scalpRunner => decide (2 ∈ (s.readTriggered trade t.now).triggered)
  | _ => false

/-- A handler asks for no stop while the first level that moves it, and those
behind that level, are not hit. -/
theorem StopHandler.waits {handler : StopHandler} (quiet : Quiet trade t handler.breakevenNum)
    (fresh : handler.started trade t s = false) :
    (handler.handle trade t s).stops.sent = s.stops.sent := by
  cases handler with
  | scaleOut => exact StopDesk.scaleOut_waits quiet
  | beRunner => exact StopDesk.beRunner_waits quiet
  | trailStop => exact StopDesk.trailStop_waits quiet fresh
  | protectedScale => exact StopDesk.protectedScale_waits quiet
  | conservative => exact StopDesk.conservative_waits quiet (of_decide_eq_false fresh)
  | scalpRunner => exact StopDesk.scalpRunner_waits quiet (of_decide_eq_false fresh)
  | conservativeTrial => exact StopDesk.conservativeTrial_waits quiet
  | noSlScale => exact StopDesk.noSlScale_waits quiet

end Handlers

end Forex
