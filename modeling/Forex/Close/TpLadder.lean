import Forex.Close.CloseTrade

/-!
`run_tp_ladder`: the walk over the take-profit levels of one trade, with the
partial close at the broker, its booking, and the stop that trails behind. The
trade is the row the caller read; booking and remaining lots are read again.
-/

namespace Forex
open Support

/-- The close of one level: the loop is left by an exception, goes on to the
next level, or has booked (and possibly emptied) the trade. -/
inductive TpClose where
  | raised
  | skipped
  | booked (db : Db) (autoClosed : Bool)

def tpReason (tpNum : ℕ) : String := "TP" ++ toString tpNum

def bookTp (db : Db) (tradeId : String) (tpNum : ℕ) (lots price now : ℚ) : TpClose :=
  match partialCloseTrade db tradeId lots price (tpReason tpNum) now with
  | none => .skipped
  | some w => .booked (w.apply db) (decide (w.newRemaining ≤ 0))

def closeTp (db : Db) (trade : Trade) (tpNum : ℕ) (tpPrice lots : ℚ) (reply : Reply)
    (now : ℚ) : TpClose :=
  match linkedTicket trade.mt5Ticket with
  | none => bookTp db trade.tradeId tpNum lots tpPrice now
  | some _ =>
      match reply with
      | .raised => .raised
      | .answered r =>
          if r.succeeded then
            bookTp db trade.tradeId tpNum (r.lotsClosed.getD lots) (r.closePrice.getD tpPrice) now
          else if r.hasError || r.refused then .skipped
          else bookTp db trade.tradeId tpNum lots tpPrice now

def TpClose.book (db : Db) : TpClose → Db
  | .booked db' _ => db'
  | .skipped => db
  | .raised => db

/-- The levels on the profit side of the entry, with their numbers. -/
def ladderTps (trade : Trade) : List (ℕ × ℚ) :=
  let numbered := (trade.tps.zipIdx 1).filterMap fun p => p.1.map fun price => (p.2, price)
  numbered.filter fun p =>
    match trade.direction with
    | .buy => decide (trade.entryPrice < p.2)
    | .sell => decide (p.2 < trade.entryPrice)

def tpHit (direction : Direction) (tick : Tick) (tpPrice : ℚ) : Bool :=
  match direction with
  | .buy => decide (tpPrice ≤ tick.bid)
  | .sell => decide (tick.ask ≤ tpPrice)

/-- `pcts_table.get(n, pcts_table[max(pcts_table)])`. -/
def pctsFor (table : List (ℕ × List ℚ)) (n : ℕ) : List ℚ :=
  match table.find? fun p => decide (p.1 = n) with
  | some p => p.2
  | none =>
      let top := table.foldl (fun best p => if best.1 < p.1 then p else best) (0, [])
      top.2

structure LadderRule where
  pcts : List (ℕ × List ℚ)
  beAtPos : ℕ
  slRule : ℕ → List (ℕ × ℚ) → ℚ
  closeFullOnLast : Bool

def trailToPrevious (pos : ℕ) (tps : List (ℕ × ℚ)) : ℚ :=
  (tps.getD (pos - 1) (0, 0)).2

def adaptiveRunner2SlRule (pos : ℕ) (tps : List (ℕ × ℚ)) : ℚ :=
  ((tps.getD (pos - 2) (0, 0)).2 + (tps.getD (pos - 1) (0, 0)).2) / 2

def climberPcts : List (ℕ × List ℚ) :=
  [(1, [1]),
   (2, [2 / 5, 3 / 5]),
   (3, [3 / 10, 3 / 10, 2 / 5]),
   (4, [1 / 5, 1 / 4, 1 / 4, 3 / 10]),
   (5, [1 / 5, 3 / 20, 3 / 20, 1 / 5, 3 / 10]),
   (6, [1 / 5, 3 / 20, 3 / 20, 3 / 20, 1 / 5, 3 / 20]),
   (7, [1 / 5, 1 / 10, 1 / 10, 3 / 20, 3 / 20, 1 / 5, 1 / 10]),
   (8, [1 / 5, 1 / 10, 1 / 10, 1 / 10, 3 / 20, 3 / 20, 1 / 10, 1 / 10])]

def gdvrPcts : List (ℕ × List ℚ) :=
  [(1, [1]),
   (2, [3 / 10, 7 / 10]),
   (3, [3 / 20, 1 / 4, 3 / 5]),
   (4, [1 / 10, 3 / 20, 1 / 4, 1 / 2]),
   (5, [1 / 10, 1 / 10, 3 / 20, 1 / 4, 2 / 5]),
   (6, [2 / 25, 2 / 25, 3 / 25, 17 / 100, 1 / 5, 7 / 20]),
   (7, [7 / 100, 7 / 100, 1 / 10, 13 / 100, 13 / 100, 1 / 5, 3 / 10]),
   (8, [1 / 20, 1 / 20, 1 / 10, 1 / 10, 3 / 20, 3 / 20, 3 / 20, 1 / 4])]

/-- `handle_signal_climber`; `beAtPos` is its one-based parameter. -/
def signalClimberRule (beAtPos : ℕ) : LadderRule :=
  ⟨climberPcts, beAtPos - 1, trailToPrevious, true⟩

def reversalRunnerRule : LadderRule := ⟨gdvrPcts, 1, trailToPrevious, true⟩

def adaptiveRunnerRule : LadderRule := ⟨gdvrPcts, 0, trailToPrevious, true⟩

def adaptiveRunner2Rule : LadderRule := ⟨gdvrPcts, 1, adaptiveRunner2SlRule, true⟩

/-- `_limit_runner_pcts_table` and `handle_limit_runner`; the reserve is the
`runner_reserve_pct` parameter. -/
def limitRunnerRule (trade : Trade) (beAtPos : ℕ) (reservePct : ℚ) : LadderRule :=
  let n := (trade.tps.filter Option.isSome).length
  if n = 0 then ⟨[(1, [1])], beAtPos - 1, trailToPrevious, true⟩
  else if trade.tpOpen then
    let reserve := min (max (reservePct / 100) 0) (95 / 100)
    ⟨[(n, List.replicate n ((1 - reserve) / n))], beAtPos - 1, trailToPrevious, false⟩
  else ⟨[(n, List.replicate n (1 / (n : ℚ)))], beAtPos - 1, trailToPrevious, true⟩

structure LadderWalk where
  db : Db
  triggered : List ℕ
  currentSl : ℚ

/-- How a level leaves the loop: on to the next one, or out of it. -/
inductive Onward where
  | next (w : LadderWalk)
  | stop (w : LadderWalk)

def Trade.setStopLossBeFlag (newSl : ℚ) (moved : Bool) : Assign Trade.tradeId where
  apply t := { t with stopLoss := newSl, slMovedToBe := moved }
  keeps _ := rfl

section Walk
variable (trade : Trade) (tick : Tick) (rule : LadderRule) (reply : ℕ → Reply)
  (modifyRaises : ℕ → Bool) (now : ℚ) (tps : List (ℕ × ℚ))

def trailStop (pos tpNum : ℕ) (w : LadderWalk) : Onward :=
  if pos < rule.beAtPos then .next w
  else
    let newSl := if pos = rule.beAtPos then trade.entryPrice else rule.slRule pos tps
    let moved := if pos = rule.beAtPos then true else trade.slMovedToBe
    let better :=
      match trade.direction with
      | .buy => decide (w.currentSl < newSl)
      | .sell => decide (newSl < w.currentSl)
    if better then
      if (linkedTicket trade.mt5Ticket).isSome && modifyRaises tpNum then .stop w
      else
        .next
          { w with
            db := w.db.setTrade trade.tradeId (Trade.setStopLossBeFlag newSl moved)
            currentSl := newSl }
    else .next w

/-- `remaining` for the last level, the level's share of the lot before it. A
missing share is an index error and leaves the loop. -/
def lotsAt (pos : ℕ) (remaining : ℚ) : Option ℚ :=
  if pos + 1 = tps.length ∧ rule.closeFullOnLast then some remaining
  else (pctsFor rule.pcts tps.length)[pos]?.map fun pct =>
    min (roundTo 4 (trade.lotSize * pct)) remaining

def walkTp (w : LadderWalk) (pos tpNum : ℕ) (tpPrice : ℚ) : Onward :=
  if tpNum ∈ w.triggered then .next w
  else if !tpHit trade.direction tick tpPrice then .stop w
  else
    let remaining := ((w.db.getTrade trade.tradeId).map Trade.remainingLots).getD 0
    if remaining ≤ 0 then .stop w
    else
      match lotsAt trade rule tps pos remaining with
      | none => .stop w
      | some lots =>
          if lots ≤ 0 then .next w
          else
            match closeTp w.db trade tpNum tpPrice lots (reply tpNum) now with
            | .raised => .stop w
            | .skipped => .next w
            | .booked db autoClosed =>
                let w := { w with db := db, triggered := tpNum :: w.triggered }
                if autoClosed && (linkedTicket trade.mt5Ticket).isSome then .stop w
                else trailStop trade rule modifyRaises tps pos tpNum w

def walkFrom (w : LadderWalk) : List ((ℕ × ℚ) × ℕ) → LadderWalk
  | [] => w
  | ((tpNum, tpPrice), pos) :: rest =>
      match walkTp trade tick rule reply modifyRaises now tps w pos tpNum tpPrice with
      | .stop w => w
      | .next w => walkFrom w rest

end Walk

def runTpLadder (db : Db) (trade : Trade) (tick : Tick) (rule : LadderRule)
    (triggered : List ℕ) (reply : ℕ → Reply) (modifyRaises : ℕ → Bool) (now : ℚ) : LadderWalk :=
  let tps := ladderTps trade
  walkFrom trade tick rule reply modifyRaises now tps ⟨db, triggered, trade.stopLoss⟩ tps.zipIdx

end Forex
