import Forex.Strategy.StopDesk

/-!
The Python strategy handlers that move the stop of a trade. The trade is the
row read before the call, and stays as it was read through the call; lots, the
breakeven flag of `trail_stop` and the bookings are read again.
-/

namespace Forex
open Support

namespace StopDesk

section Moves
variable (trade : Trade) (t : StopTick)

/-- The stop goes to the broker and into the row. -/
def moveSl (s : StopDesk) (n : ℕ) (sl : ℚ) : StopDesk :=
  (s.modifyOrder trade (t.modify n) (some sl)).setStopLoss trade sl

def moveSlBe (s : StopDesk) (n : ℕ) (sl : ℚ) : StopDesk :=
  (s.modifyOrder trade (t.modify n) (some sl)).setStopLossBe trade sl

/-- `should_update`: the level is compared with the stop of the copy. -/
def tightens (sl : ℚ) : Bool := trade.direction.tighter sl trade.stopLoss

/-- The trail of `trail_stop`, `conservative` and `scalp_runner`. -/
def trail (s : StopDesk) (dist : ℚ) : StopDesk :=
  let sl := trailLevel trade t.tick dist
  if tightens trade sl then s.moveSl trade t 0 sl else s

/-- The move to the entry of `protected_scale`, `conservative` and
`scalp_runner`. -/
def breakeven (s : StopDesk) (n : ℕ) : StopDesk :=
  if tightens trade trade.entryPrice then s.moveSlBe trade t n trade.entryPrice else s

end Moves

section ScaleOut
variable (trade : Trade) (t : StopTick)

def scaleOutRetryCooldown : ℚ := 30

/-- The lots due at a hit level; nothing is due without a level, without lots,
or before the cooldown is over. -/
def scaleOutDue (s : StopDesk) (n : ℕ) : Option (ℚ × ℚ) :=
  match trade.tp n with
  | none => none
  | some price =>
      let remaining := s.remaining trade
      if remaining ≤ 0 then none
      else
        let pct := if n ∈ List.range' 1 4 then t.params.scaleOutPct n / 100 else 0
        let lots :=
          if trade.lastTpNum = some n then remaining
          else if pct ≤ 0 then remaining
          else min (roundTo 4 (trade.lotSize * pct)) remaining
        if lots ≤ 0 then none
        else if t.now - (s.lastFail n).getD 0 < scaleOutRetryCooldown then none
        else some (price, lots)

def setLastFail (s : StopDesk) (n : ℕ) (at_ : Option ℚ) : StopDesk :=
  { s with lastFail := fun m => if m = n then at_ else s.lastFail m }

/-- The broker was asked and did not raise: its answer stamps the failure or
takes it away. -/
def stampReply (s : StopDesk) (n : ℕ) : StopDesk :=
  match linkedTicket trade.mt5Ticket, t.reply n with
  | some _, .answered r =>
      if r.succeeded then s.setLastFail n none
      else if r.hasError || r.refused then s.setLastFail n (some t.now)
      else s
  | _, _ => s

def scaleOutHit (s : StopDesk) (n : ℕ) : Flow StopDesk :=
  match scaleOutDue trade t s n with
  | none => .next s
  | some (price, lots) =>
      let close := closeLevel trade s.db n price lots (t.reply n) t.now
      let s := s.stampReply trade t n
      match close with
      | .raised => .stop s
      | .skipped => .next s
      | .booked p =>
          let s := s.record p
          if n = 1 ∧ trade.slMovedToBe = false then .next (s.moveSlBe trade t n trade.entryPrice)
          else .next s

def handleScaleOut (s : StopDesk) : StopDesk :=
  let s := s.readTriggered trade t.now
  Flow.fold (scaleOutHit trade t) s (checkTpHits trade t.tick s.triggered)

end ScaleOut

section BeRunner
variable (trade : Trade) (t : StopTick)

/-- `best_step`: the levels cleared before the first that is not. -/
def bestStep : ℕ :=
  ((definedTps trade.tps).takeWhile fun p => tpHit trade.direction t.tick p.2).length

/-- `sl_ladder[best_step - 1]`. -/
def ladderStop : ℚ :=
  (trade.entryPrice :: (definedTps trade.tps).map Prod.snd).getD (bestStep trade t - 1) 0

def handleBeRunner (s : StopDesk) : StopDesk :=
  if t.ranging then s.handleScaleOut trade t
  else if bestStep trade t = 0 then s
  else
    let sl := ladderStop trade t
    if tightens trade sl then
      (s.modifyOrder trade (t.modify 0) (some sl)).lockSlWithMarker trade sl t.now
        (tpReason (bestStep trade t) ++ "_SL_LOCKED")
    else s

end BeRunner

section TrailStop
variable (trade : Trade) (t : StopTick)

def trailingActive (s : StopDesk) : Bool :=
  trade.slMovedToBe || (s.db.getTrade trade.tradeId).any Trade.slMovedToBe

/-- The markers of TP2 and on, for the levels the price has cleared. -/
def markCleared (s : StopDesk) : StopDesk :=
  (List.range' 2 7).foldl
    (fun s' n =>
      match tpCleared trade t.tick n with
      | some price =>
          if n ∈ s.triggered then s'
          else s'.insertTpMarker trade t.now price (tpReason n ++ "_TRAIL_MARKER")
      | none => s')
    s

def handleTrailStop (s : StopDesk) : StopDesk :=
  let tp1 := setTpCleared trade t.tick 1
  if s.trailingActive trade then
    ((s.trail trade t t.trailingStopDistance).readTriggered trade t.now).markCleared trade t
  else
    match tp1 with
    | none => s
    | some price =>
        (((s.markTrailingStarted trade t.now price).moveSl trade t 1 trade.entryPrice).readTriggered
          trade t.now).markCleared trade t

end TrailStop

section ProtectedScale
variable (trade : Trade) (t : StopTick)

def skipTp1 (s : StopDesk) : StopDesk :=
  if 1 ∈ s.triggered then s
  else
    match setTpCleared trade t.tick 1 with
    | none => s
    | some price => (s.insertTpMarker trade t.now price "TP1_SKIPPED").addTriggered 1

def lockTp2 (s : StopDesk) : StopDesk :=
  if 2 ∈ s.triggered then s
  else
    match setTpCleared trade t.tick 2 with
    | none => s
    | some price =>
        ((s.insertTpMarker trade t.now price "TP2_BE_LOCKED").addTriggered 2).breakeven trade t 2

def protectedLots (s : StopDesk) : ℚ :=
  min (roundTo 4 (trade.lotSize * (t.params.midTpClosePct / 100))) (s.remaining trade)

/-- A level behind the entry is passed over, one that is not hit ends the loop. -/
def protectedClose (s : StopDesk) (n : ℕ) : Flow StopDesk :=
  if n ∈ s.triggered then .next s
  else
    match trade.tp n with
    | none => .next s
    | some price =>
        if !onProfitSide trade price then .next s
        else if !tpHit trade.direction t.tick price then .stop s
        else if s.remaining trade ≤ 0 then .stop s
        else if protectedLots trade t s ≤ 0 then .next s
        else
          match closeLevel trade s.db n price (protectedLots trade t s) (t.reply n) t.now with
          | .raised => .stop s
          | .skipped => .next s
          | .booked p =>
              let s := (s.record p).addTriggered n
              if p.newRemaining ≤ 0 then .stop s else .next s

def handleProtectedScale (s : StopDesk) : StopDesk :=
  let s := ((s.readTriggered trade t.now).skipTp1 trade t).lockTp2 trade t
  Flow.fold (protectedClose trade t) s (List.range' 3 3)

end ProtectedScale

section Conservative
variable (trade : Trade) (t : StopTick)

/-- An answer with neither key: the close is booked as asked. -/
def noReply : Reply := .answered ⟨none, none, none, none⟩

/-- The close of TP1 in `conservative` and `scalp_runner`: the broker is asked
only for a positive number of lots. -/
def firstClose (pct : ℚ) (s : StopDesk) (price : ℚ) : LevelClose :=
  let lots := min (roundTo 4 (trade.lotSize * pct)) (s.remaining trade)
  closeLevel trade s.db 1 price lots (if 0 < lots then t.reply 1 else noReply) t.now

/-- `res.get("auto_closed") and mt5_ticket`. -/
def emptied (p : PartialWrite) : Bool :=
  decide (p.newRemaining ≤ 0) && (linkedTicket trade.mt5Ticket).isSome

def tpHitAt (n : ℕ) : Option ℚ :=
  (trade.tp n).filter fun price => tpHit trade.direction t.tick price

def handleConservative (s : StopDesk) : StopDesk :=
  let s := s.readTriggered trade t.now
  if 1 ∈ s.triggered then s.trail trade t 3
  else
    match tpHitAt trade t 1 with
    | none => s
    | some price =>
        match firstClose trade t (4 / 5) s price with
        | .raised => s
        | .skipped => s
        | .booked p =>
            let s := (s.record p).addTriggered 1
            if emptied trade p then s else s.breakeven trade t 1

def handleScalpRunner (s : StopDesk) : StopDesk :=
  let s := s.readTriggered trade t.now
  if 1 ∈ s.triggered then
    if 2 ∈ s.triggered then s.trail trade t 3
    else
      match tpHitAt trade t 2 with
      | none => s
      | some _ => (s.addTriggered 2).breakeven trade t 2
  else
    match tpHitAt trade t 1 with
    | none => s
    | some price =>
        match firstClose trade t (1 / 2) s price with
        | .raised => s
        | .skipped => s
        | .booked p => (s.record p).addTriggered 1

end Conservative

section Partial
variable (trade : Trade) (t : StopTick)

/-- The close in `_partial` of `conservative_trial` and `no_sl_scale`. -/
def partialClose (s : StopDesk) (n : ℕ) (price pct : ℚ) : LevelClose :=
  let lots := min (roundTo 4 (trade.lotSize * pct)) (s.remaining trade)
  if lots ≤ 0 then .skipped else closeLevel trade s.db n price lots (t.reply n) t.now

/-- `_partial`, with whether it returns true; nothing when an exception leaves
the handler. -/
def partialLevel (s : StopDesk) (n : ℕ) (price pct : ℚ) : Option (StopDesk × Bool) :=
  match partialClose trade t s n price pct with
  | .raised => none
  | .skipped => some (s, false)
  | .booked p => some ((s.record p).addTriggered n, emptied trade p)

/-- `if await _partial(…): return`. -/
def partialOrReturn (s : StopDesk) (n : ℕ) (price pct : ℚ) : Flow StopDesk :=
  match partialLevel trade t s n price pct with
  | none => .stop s
  | some (s, true) => .stop s
  | some (s, false) => .next s

def closeRemaining (s : StopDesk) (n : ℕ) (price : ℚ) : LevelClose :=
  if s.remaining trade ≤ 0 then .skipped
  else closeLevel trade s.db n price (s.remaining trade) (t.reply n) t.now

/-- `_close_all`, and the last close of `conservative_trial`. -/
def closeAll (s : StopDesk) (n : ℕ) (price : ℚ) : StopDesk :=
  match closeRemaining trade t s n price with
  | .raised => s
  | .skipped => s
  | .booked p => (s.record p).addTriggered n

end Partial

section ConservativeTrial
variable (trade : Trade) (t : StopTick)

/-- The move behind a close that the handler does after TP2 and TP4. -/
def trialMove (s : StopDesk) (n : ℕ) : StopDesk :=
  if n = 2 then if trade.slMovedToBe then s else s.breakeven trade t 2
  else if n = 4 then
    match trade.tp 2 with
    | none => s
    | some sl => if tightens trade sl then s.moveSlBe trade t 4 sl else s
  else s

/-- TP2 and TP4 end the call, whatever their close has done. -/
def trialLevel (s : StopDesk) (n : ℕ) : Flow StopDesk :=
  if n ∈ s.triggered then .next s
  else
    match tpCleared trade t.tick n with
    | none => .next s
    | some price =>
        if n = 6 then .stop (s.closeAll trade t n price)
        else if n = 2 ∨ n = 4 then
          match partialLevel trade t s n price (t.params.trialPct n / 100) with
          | none => .stop s
          | some (s, _) => .stop (trialMove trade t s n)
        else partialOrReturn trade t s n price (t.params.trialPct n / 100)

def handleConservativeTrial (s : StopDesk) : StopDesk :=
  Flow.fold (trialLevel trade t) (s.readTriggered trade t.now) (List.range' 1 6)

end ConservativeTrial

section NoSlScale
variable (trade : Trade) (t : StopTick) (last : ℕ)

def behindEntry (price : ℚ) : Bool := trade.direction.tighter trade.entryPrice price

def markSkipped (s : StopDesk) (n : ℕ) (price : ℚ) : StopDesk :=
  (s.insertTpMarker trade t.now price (tpReason n ++ "_SKIPPED")).addTriggered n

/-- The price that TP1 is closed at: its own, or that of the market when the
level is behind the entry and the market is not. -/
def firstPrice : Option ℚ :=
  match tpCleared trade t.tick 1 with
  | some price => some price
  | none =>
      let market := t.tick.closePrice trade.direction
      match trade.tp 1 with
      | none => none
      | some level =>
          if behindEntry trade level && !behindEntry trade market then some market else none

/-- The level that the stop of the third to seventh step goes to. -/
def stopReference (n : ℕ) : Option ℚ :=
  if n = 3 then
    (trade.tp 1).map fun level => if behindEntry trade level then trade.entryPrice else level
  else trade.tp (n - 2)

/-- `_move_sl`; the stop it compares with is the one of the copy. -/
def stepStop (s : StopDesk) (n : ℕ) : StopDesk :=
  match stopReference trade n with
  | none => s
  | some sl => if tightens trade sl then s.moveSl trade t n sl else s

/-- TP1: a level behind a market that has gone against the trade is marked. -/
def firstLevel (s : StopDesk) : Flow StopDesk :=
  match firstPrice trade t with
  | some price =>
      if last = 1 then .stop (s.closeAll trade t 1 price)
      else partialOrReturn trade t s 1 price (1 / 5)
  | none =>
      match trade.tp 1 with
      | none => .next s
      | some level =>
          if behindEntry trade level then .next (markSkipped trade t s 1 level) else .next s

def laterLevel (s : StopDesk) (n : ℕ) : Flow StopDesk :=
  match tpCleared trade t.tick n with
  | none => .next s
  | some price =>
      if n = last then .stop (s.closeAll trade t n price)
      else if n = 2 then .next (markSkipped trade t s n price)
      else if n = 3 then
        match partialOrReturn trade t s n price (1 / 5) with
        | .stop s => .stop s
        | .next s => .next (stepStop trade t s n)
      else .next (markSkipped trade t (stepStop trade t s n) n price)

/-- One level of the handler, the last defined one being `last`. -/
def noSlLevel (s : StopDesk) (n : ℕ) : Flow StopDesk :=
  if n ∈ s.triggered then .next s
  else if n = 1 then firstLevel trade t last s
  else laterLevel trade t last s n

def handleNoSlScale (s : StopDesk) : StopDesk :=
  let s := s.readTriggered trade t.now
  match trade.lastTpNum with
  | none => s
  | some last => Flow.fold (noSlLevel trade t last) s (List.range' 1 last)

end NoSlScale

section Closes
variable {trade : Trade} {t : StopTick} {s : StopDesk}

variable (trade t s) in
theorem stampReply_db_stops (n : ℕ) :
    (s.stampReply trade t n).db = s.db ∧ (s.stampReply trade t n).stops = s.stops := by
  rw [stampReply]
  split
  · split_ifs <;> exact ⟨rfl, rfl⟩
  · exact ⟨rfl, rfl⟩

theorem firstClose_write {pct price : ℚ} {p : PartialWrite}
    (close : firstClose trade t pct s price = .booked p) :
    ∃ lots reply, closeWrite s.db trade 1 price lots reply t.now = some p :=
  ⟨_, _, closeLevel_eq_booked close⟩

theorem partialClose_write {n : ℕ} {price pct : ℚ} {p : PartialWrite}
    (close : partialClose trade t s n price pct = .booked p) :
    ∃ lots, closeWrite s.db trade n price lots (t.reply n) t.now = some p := by
  rw [partialClose] at close
  split at close
  · cases close
  · exact ⟨_, closeLevel_eq_booked close⟩

theorem closeRemaining_write {n : ℕ} {price : ℚ} {p : PartialWrite}
    (close : closeRemaining trade t s n price = .booked p) :
    ∃ lots, closeWrite s.db trade n price lots (t.reply n) t.now = some p := by
  rw [closeRemaining] at close
  split at close
  · cases close
  · exact ⟨_, closeLevel_eq_booked close⟩

/-- What a marker keeps, the markers of the cleared levels keep. -/
theorem markCleared_keeps {I : StopDesk → Prop}
    (marker : ∀ s price reason, I s → I (s.insertTpMarker trade t.now price reason)) (start : I s) :
    I (s.markCleared trade t) := by
  rw [markCleared]
  refine List.foldlRecOn _ _ start fun s' held n _ => ?_
  cases tpCleared trade t.tick n with
  | none => exact held
  | some price =>
      dsimp only
      split
      · exact held
      · exact marker _ _ _ held

/-- A handler goes on behind a partial close, or returns with what it left. -/
theorem partialOrReturn_leads {n : ℕ} {price pct : ℚ} {P Q : StopDesk → Prop} (same : Q s)
    (after : ∀ s' done, partialLevel trade t s n price pct = some (s', done) →
      P s' ∧ Q s') :
    (partialOrReturn trade t s n price pct).Leads P Q := by
  rw [partialOrReturn]
  cases result : partialLevel trade t s n price pct with
  | none => exact same
  | some pair =>
      obtain ⟨s', done⟩ := pair
      cases done with
      | true => exact (after s' true result).2
      | false => exact (after s' false result).1

/-- A level of `protected_scale` leaves the call as it was, or has booked. -/
theorem protectedClose_leads {I : StopDesk → Prop} {n : ℕ} (start : I s)
    (booked : ∀ price lots p, closeWrite s.db trade n price lots (t.reply n) t.now = some p →
      I ((s.record p).addTriggered n)) :
    (protectedClose trade t s n).Leads I I := by
  rw [protectedClose]
  split
  · exact start
  · cases trade.tp n with
    | none => exact start
    | some price =>
        dsimp only
        split
        · exact start
        · split
          · exact start
          · split
            · exact start
            · split
              · exact start
              · cases close : closeLevel trade s.db n price (protectedLots trade t s) (t.reply n)
                  t.now with
                | raised => exact start
                | skipped => exact start
                | booked p =>
                    have after := booked _ _ p (closeLevel_eq_booked close)
                    dsimp only
                    split
                    · exact after
                    · exact after

end Closes

end StopDesk

inductive StopHandler where
  | scaleOut
  | beRunner
  | trailStop
  | protectedScale
  | conservative
  | scalpRunner
  | conservativeTrial
  | noSlScale
deriving DecidableEq

def StopHandler.handle : StopHandler → Trade → StopTick → StopDesk → StopDesk
  | .scaleOut, trade, t, s => s.handleScaleOut trade t
  | .beRunner, trade, t, s => s.handleBeRunner trade t
  | .trailStop, trade, t, s => s.handleTrailStop trade t
  | .protectedScale, trade, t, s => s.handleProtectedScale trade t
  | .conservative, trade, t, s => s.handleConservative trade t
  | .scalpRunner, trade, t, s => s.handleScalpRunner trade t
  | .conservativeTrial, trade, t, s => s.handleConservativeTrial trade t
  | .noSlScale, trade, t, s => s.handleNoSlScale trade t

/-- A call with the row as it is then, if the trade is open. -/
def StopDesk.step (tradeId : String) (s : StopDesk) (call : StopHandler × StopTick) : StopDesk :=
  match s.db.getTrade tradeId with
  | none => s
  | some trade => if trade.isOpen then call.1.handle trade call.2 s else s

end Forex
