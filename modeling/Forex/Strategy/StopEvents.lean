import Forex.Strategy.Handlers

/-!
The other writers of a trade's stop: `run_tp_ladder` with its modifications at
the broker, `update_signal`, and the follow-up of an instant trade. The ladder
is the one of the database-only walk, with the stops it asks for.
-/

namespace Forex
open Support

section Ladder
variable (trade : Trade) (t : StopTick) (rule : LadderRule) (tps : List (ℕ × ℚ))

def StopDesk.setStopLossBeFlag (s : StopDesk) (sl : ℚ) (moved : Bool) : StopDesk :=
  { s with
    db := s.db.setTrade trade.tradeId (Trade.setStopLossBeFlag sl moved)
    stops := s.stops.store sl }

/-- The ladder keeps the stop it has set in this call, `current_sl`. -/
structure LadderStops where
  desk : StopDesk
  currentSl : ℚ

namespace LadderStops
variable (w : LadderStops) (l : (ℕ × ℚ) × ℕ)

def lots : Option ℚ := lotsAt trade rule tps l.2 (w.desk.remaining trade)

def trail : LadderStops :=
  let sl := LadderTick.trailTarget trade rule tps l.2
  if l.2 < rule.beAtPos then w
  else if trade.direction.tighter sl w.currentSl then
    { desk := (w.desk.modifyOrder trade (t.modify l.1.1) (some sl)).setStopLossBeFlag trade sl
        (if l.2 = rule.beAtPos then true else trade.slMovedToBe)
      currentSl := sl }
  else w

def level : Flow LadderStops :=
  if l.1.1 ∈ w.desk.triggered then .next w
  else if !tpHit trade.direction t.tick l.1.2 then .stop w
  else if w.desk.remaining trade ≤ 0 then .stop w
  else
    match w.lots trade rule tps l with
    | none => .stop w
    | some lots =>
        if lots ≤ 0 then .next w
        else
          match closeLevel trade w.desk.db l.1.1 l.1.2 lots (t.reply l.1.1) t.now with
          | .raised => .stop w
          | .skipped => .next w
          | .booked p =>
              let w := { w with desk := (w.desk.record p).addTriggered l.1.1 }
              if StopDesk.emptied trade p then .stop w else .next (w.trail trade t rule tps l)

end LadderStops

/-- `run_tp_ladder`. -/
def StopDesk.runTpLadder (s : StopDesk) : StopDesk :=
  let tps := ladderTps trade
  (Flow.fold (LadderStops.level trade t rule tps) ⟨s.readTriggered trade t.now, trade.stopLoss⟩
    tps.zipIdx).desk

end Ladder

section Walk
variable (trade : Trade) (t : StopTick) (rule : LadderRule) (tps : List (ℕ × ℚ))

def StopTick.ladderTick : LadderTick := ⟨t.tick, rule, t.reply, t.now⟩

def LadderStops.toWalk (w : LadderStops) : LadderWalk := ⟨w.desk.db, w.desk.triggered, w.currentSl⟩

def LadderStops.onward : Flow LadderStops → Onward
  | .next w => .next w.toWalk
  | .stop w => .stop w.toWalk

variable {trade}

theorem linked_of_unconfirmed {price lots : ℚ} {reply : Reply}
    (close : confirmedClose trade price lots reply = none) :
    (linkedTicket trade.mt5Ticket).isSome = true := by
  cases ticket : linkedTicket trade.mt5Ticket with
  | none => simp [confirmedClose, ticket] at close
  | some _ => rfl

theorem answered_of_confirmed {price lots : ℚ} {reply : Reply} {asked : ℚ × ℚ}
    (close : confirmedClose trade price lots reply = some asked) :
    ((linkedTicket trade.mt5Ticket).isSome && decide (reply = .raised)) = false := by
  cases ticket : linkedTicket trade.mt5Ticket with
  | none => rfl
  | some _ =>
      cases reply with
      | answered r => rfl
      | raised => simp [confirmedClose, ticket] at close

theorem closeTp_eq_closeLevel (db : Db) (n : ℕ) (price lots : ℚ) (reply : Reply) (now : ℚ) :
    closeTp db trade n price lots reply now =
      match closeLevel trade db n price lots reply now with
      | .raised => .raised
      | .skipped => .skipped
      | .booked p => .booked (p.apply db) (decide (p.newRemaining ≤ 0)) := by
  rw [closeLevel]
  cases write : closeWrite db trade n price lots reply now with
  | some p => exact closeTp_of_write write
  | none =>
      rw [closeWrite] at write
      rw [closeTp_eq]
      cases close : confirmedClose trade price lots reply with
      | none =>
          rw [linked_of_unconfirmed close, Bool.true_and]
          by_cases raised : reply = .raised <;> simp [raised]
      | some asked =>
          rw [close] at write
          dsimp only at write ⊢
          rw [answered_of_confirmed close, bookTp, write]
          rfl

variable {t rule tps}

namespace LadderStops
variable {w : LadderStops} {l : (ℕ × ℚ) × ℕ}

variable (trade) in
theorem modifyOrder_db_cache (s : StopDesk) (view : ModifyView) (sl : Option ℚ) :
    (s.modifyOrder trade view sl).db = s.db ∧ (s.modifyOrder trade view sl).cache = s.cache := by
  rw [StopDesk.modifyOrder]
  cases linkedTicket trade.mt5Ticket with
  | none => exact ⟨rfl, rfl⟩
  | some _ => exact ⟨rfl, rfl⟩

theorem trail_toWalk :
    Onward.next (w.trail trade t rule tps l).toWalk =
      trailStop trade rule (fun _ => false) tps l.2 l.1.1 w.toWalk := by
  rw [LadderTick.trailStop_eq, LadderStops.trail]
  by_cases before : l.2 < rule.beAtPos
  · rw [if_pos before, if_pos before]
  · rw [if_neg before, if_neg before]
    by_cases better : trade.direction.tighter (LadderTick.trailTarget trade rule tps l.2)
        w.currentSl = true
    · obtain ⟨db, cache⟩ := modifyOrder_db_cache trade w.desk (t.modify l.1.1)
        (some (LadderTick.trailTarget trade rule tps l.2))
      rw [if_pos better]
      refine Eq.trans ?_ (if_pos better).symm
      rw [toWalk, StopDesk.setStopLossBeFlag, StopDesk.triggered, db, cache]
      rfl
    · rw [if_neg better]
      exact (if_neg better).symm

theorem triggered_addTriggered {s : StopDesk} (cached : s.cache.isSome = true) (n : ℕ) :
    (s.addTriggered n).triggered = n :: s.triggered := by
  rw [StopDesk.triggered, StopDesk.triggered, StopDesk.addTriggered]
  cases held : s.cache with
  | none =>
      rw [held] at cached
      cases cached
  | some pair => rfl

variable (trade t rule tps)

/-- A level of the ladder is the level of the walk over the database: the stops
it sends change nothing of what the walk reads. -/
theorem level_onward (cached : w.desk.cache.isSome = true) (l : (ℕ × ℚ) × ℕ) :
    onward (w.level trade t rule tps l) = (t.ladderTick rule).level trade tps w.toWalk l := by
  rw [LadderTick.level_eq, LadderStops.level]
  by_cases old : l.1.1 ∈ w.desk.triggered
  · rw [if_pos old]
    exact (if_pos old).symm
  · rw [if_neg old]
    refine Eq.trans ?_ (if_neg old).symm
    by_cases missed : (!tpHit trade.direction t.tick l.1.2) = true
    · rw [if_pos missed]
      exact (if_pos missed).symm
    · rw [if_neg missed]
      refine Eq.trans ?_ (if_neg missed).symm
      by_cases empty : w.desk.remaining trade ≤ 0
      · rw [if_pos empty]
        exact (if_pos empty).symm
      · rw [if_neg empty]
        refine Eq.trans ?_ (if_neg empty).symm
        have due : lotsAt trade (t.ladderTick rule).rule tps l.2
            (remainingLotsOf w.toWalk.db trade.tradeId) = w.lots trade rule tps l := rfl
        rw [due]
        cases w.lots trade rule tps l with
        | none => rfl
        | some lots =>
            dsimp only
            by_cases nothing : lots ≤ 0
            · rw [if_pos nothing, if_pos nothing]
              rfl
            · rw [if_neg nothing, if_neg nothing, closeTp_eq_closeLevel]
              have close : closeLevel trade w.toWalk.db l.1.1 l.1.2 lots
                  ((t.ladderTick rule).reply l.1.1) (t.ladderTick rule).now =
                    closeLevel trade w.desk.db l.1.1 l.1.2 lots (t.reply l.1.1) t.now := rfl
              rw [close]
              cases closeLevel trade w.desk.db l.1.1 l.1.2 lots (t.reply l.1.1) t.now with
              | raised => rfl
              | skipped => rfl
              | booked p =>
                  have recorded : ((w.desk.record p).addTriggered l.1.1).triggered =
                      l.1.1 :: w.desk.triggered := triggered_addTriggered cached l.1.1
                  dsimp only
                  rw [StopDesk.emptied]
                  split_ifs
                  · rw [onward, toWalk, recorded]
                    rfl
                  · rw [onward, trail_toWalk, toWalk, recorded]
                    rfl

theorem trail_cached (cached : w.desk.cache.isSome = true) (l : (ℕ × ℚ) × ℕ) :
    (w.trail trade t rule tps l).desk.cache.isSome = true := by
  rw [LadderStops.trail]
  by_cases before : l.2 < rule.beAtPos
  · rw [if_pos before]
    exact cached
  · rw [if_neg before]
    by_cases better : trade.direction.tighter (LadderTick.trailTarget trade rule tps l.2)
        w.currentSl = true
    · rw [if_pos better, StopDesk.setStopLossBeFlag, (modifyOrder_db_cache ..).2]
      exact cached
    · rw [if_neg better]
      exact cached

theorem level_cached (cached : w.desk.cache.isSome = true) (l : (ℕ × ℚ) × ℕ) :
    (w.level trade t rule tps l).Leads (fun w => w.desk.cache.isSome = true) fun w =>
      w.desk.cache.isSome = true := by
  rw [LadderStops.level]
  split_ifs
  · exact cached
  · exact cached
  · exact cached
  · cases w.lots trade rule tps l with
    | none => exact cached
    | some lots =>
        dsimp only
        split_ifs
        · exact cached
        · cases closeLevel trade w.desk.db l.1.1 l.1.2 lots (t.reply l.1.1) t.now with
          | raised => exact cached
          | skipped => exact cached
          | booked p =>
              have added : ((w.desk.record p).addTriggered l.1.1).cache.isSome = true := by
                rw [StopDesk.addTriggered, Option.isSome_map]
                exact cached
              dsimp only
              split_ifs
              · exact added
              · exact trail_cached trade t rule tps added l

theorem fold_toWalk (cached : w.desk.cache.isSome = true) (ls : List ((ℕ × ℚ) × ℕ)) :
    (Flow.fold (level trade t rule tps) w ls).toWalk =
      (t.ladderTick rule).levels trade tps w.toWalk ls := by
  induction ls generalizing w with
  | nil => rfl
  | cons l rest ih =>
      have same := level_onward trade t rule tps cached l
      have next := level_cached trade t rule tps cached l
      rw [Flow.fold, LadderTick.levels_cons, ← same]
      cases result : w.level trade t rule tps l with
      | next w' =>
          rw [result] at next
          exact ih next
      | stop w' => rfl

end LadderStops

end Walk

/-- The keys of `updates` that a trade has columns for; a take-profit may be set
to `None`, and a stop of `None` violates the column's constraint and changes
nothing. -/
structure SignalUpdate where
  stopLoss : Option ℚ
  tp : ℕ → Option (Option ℚ)

def SignalUpdate.hasTradeFields (u : SignalUpdate) : Bool :=
  u.stopLoss.isSome || Trade.tpNums.any fun n => (u.tp n).isSome

/-- `update_trade_fields`. -/
def Trade.updateTradeFields (u : SignalUpdate) : Assign Trade.tradeId where
  apply t :=
    { t with
      stopLoss := u.stopLoss.getD t.stopLoss
      tps := Trade.tpNums.map fun n => (u.tp n).getD (t.tp n) }
  keeps _ := rfl

/-- `_NO_PROPAGATE`. -/
def noPropagate : Strategy → Bool
  | .conservative | .conservativeTrial | .scalpRunner => true
  | _ => false

/-- The answers around a change of levels: the broker's to the modification, and
whether an EA is there and healthy. -/
structure LevelView where
  modify : ModifyView
  eaHealthy : Bool

/-- `_ea_managing`. -/
def LevelView.eaManaging (v : LevelView) (trade : Trade) : Bool :=
  decide (trade.managedBy = .ea) && v.eaHealthy

/-- The stop that `update_signal` sends: it must be on the losing side of the
entry. -/
def signalStop (trade : Trade) (u : SignalUpdate) : Option ℚ :=
  u.stopLoss.filter fun sl => trade.direction.tighter trade.entryPrice sl

def Db.openTradeOf (db : Db) (signalId : String) : Option Trade :=
  db.trades.rows.find? fun t => decide (t.signalId = signalId) && t.isOpen

namespace StopDesk

/-- The fields of a trade are written; the book is that of one trade. -/
def updateTradeFields (tradeId : String) (s : StopDesk) (trade : Trade) (u : SignalUpdate) :
    StopDesk :=
  { s with
    db := s.db.setTrade trade.tradeId (Trade.updateTradeFields u)
    stops :=
      if trade.tradeId = tradeId then
        match u.stopLoss with
        | none => s.stops
        | some sl => s.stops.store sl
      else s.stops }

/-- `modify_order` for the ticket of a trade, which may be another one. -/
def modifyOther (tradeId : String) (s : StopDesk) (trade : Trade) (view : ModifyView)
    (sl : Option ℚ) : StopDesk :=
  if trade.tradeId = tradeId then s.modifyOrder trade view sl else s

/-- `update_signal`, as far as the trade of the signal goes. -/
def updateSignal (tradeId : String) (s : StopDesk) (signalId : String) (u : SignalUpdate)
    (v : LevelView) : StopDesk :=
  match s.db.openTradeOf signalId with
  | none => s
  | some trade =>
      if noPropagate trade.strategy || !u.hasTradeFields then s
      else
        let s := s.updateTradeFields tradeId trade u
        if v.eaManaging trade then s
        else s.modifyOther tradeId trade v.modify (signalStop trade u)

end StopDesk

/-- A full signal for an open instant trade. -/
structure FollowUp where
  target : String
  parsed : Parsed
  /-- `get_channel_strategy_override`, unless it is `auto`. -/
  override : Option Strategy

namespace FollowUp
variable (f : FollowUp) (trade : Trade)

/-- `_mismatch`: the strategy the record is corrected to. -/
def corrected : Option Strategy :=
  f.override.filter fun strategy => decide (strategy ≠ trade.strategy)

def onlyAcknowledged : Bool :=
  decide (trade.managedBy = .ea) || imeSelfManaged trade.strategy && (f.corrected trade).isNone

/-- The take-profits of the signal, or spaced ones when fewer than two of them
are on the winning side of the fill. -/
def tpUpdates (n : ℕ) : Option (Option ℚ) :=
  let good := (f.parsed.tps.take 8).reduceOption.countP fun tp =>
    decide (0 < trade.direction.sign * (tp - trade.entryPrice))
  if good < 2 then
    some (autoTpOffsets[n - 1]?.map fun off =>
      roundTo 2 (trade.entryPrice + trade.direction.sign * off))
  else (f.parsed.tps.getD (n - 1) none).map some

def updates (stop : ℚ) : SignalUpdate :=
  ⟨some (followUpStop trade f.parsed stop), f.tpUpdates trade⟩

end FollowUp

namespace StopDesk

def correctStrategy (s : StopDesk) (f : FollowUp) (trade : Trade) : StopDesk :=
  match (f.corrected trade).filter fun _ => imeSelfManaged trade.strategy with
  | none => s
  | some strategy => { s with db := s.db.setTrade trade.tradeId (Trade.setStrategy strategy) }

/-- `apply_followup_to_instant_trade`. Without a signal the row gets the adjusted
stop and the broker the one of the message. -/
def applyFollowup (tradeId : String) (s : StopDesk) (f : FollowUp) (v : LevelView) : StopDesk :=
  match s.db.getTrade f.target with
  | none => s
  | some trade =>
      if !trade.isOpen || f.onlyAcknowledged trade then s
      else
        let s := s.correctStrategy f trade
        match f.parsed.stopLoss with
        | none => s
        | some stop =>
            if trade.signalId = "" then
              (s.updateTradeFields tradeId trade (f.updates trade stop)).modifyOther tradeId trade
                v.modify (some stop)
            else s.updateSignal tradeId trade.signalId (f.updates trade stop) v

end StopDesk

inductive StopEvent where
  | call (handler : StopHandler) (t : StopTick)
  | ladder (rule : LadderRule) (t : StopTick)
  | signalUpdate (signalId : String) (u : SignalUpdate) (v : LevelView)
  | followUp (f : FollowUp) (v : LevelView)

namespace StopDesk

def ladderStep (tradeId : String) (s : StopDesk) (rule : LadderRule) (t : StopTick) : StopDesk :=
  match s.db.getTrade tradeId with
  | none => s
  | some trade => if trade.isOpen then s.runTpLadder trade t rule else s

/-- The ladder of the stops and the ladder of the database read and write the
same rows and the same set of levels. -/
theorem ladderStep_refines (tradeId : String) (s : StopDesk) (rule : LadderRule) (t : StopTick) :
    (s.ladderStep tradeId rule t).db =
      (LadderDesk.step tradeId ⟨s.db, s.cache⟩ (t.ladderTick rule)).db := by
  rw [ladderStep, LadderDesk.step]
  cases found : s.db.getTrade tradeId with
  | none => rfl
  | some trade =>
      have own : trade.tradeId = tradeId := Table.key_of_find found
      subst own
      dsimp only
      split_ifs
      · let start : LadderStops := ⟨s.readTriggered trade t.now, trade.stopLoss⟩
        have cached : start.desk.cache.isSome = true := rfl
        have walked := LadderStops.fold_toWalk trade t rule (ladderTps trade) cached
          (ladderTps trade).zipIdx
        exact congrArg LadderWalk.db walked
      · rfl

def stopStep (tradeId : String) (s : StopDesk) : StopEvent → StopDesk
  | .call handler t => s.step tradeId (handler, t)
  | .ladder rule t => s.ladderStep tradeId rule t
  | .signalUpdate signalId u v => s.updateSignal tradeId signalId u v
  | .followUp f v => s.applyFollowup tradeId f v

end StopDesk

end Forex
