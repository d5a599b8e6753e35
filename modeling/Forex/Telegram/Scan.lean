import Forex.Telegram.Orders

/-!
The trading half of `scan_messages` and the loop body itself. A verdict of the
reading half is acted upon against the book of trades; what is asked of the
broker is listed, and what is written back about the message goes into the
inbox. The list of awaiting trades is kept by the model alone: no query of the
source reads it.
-/

namespace Forex
open Support

/-- What the scan asks for on behalf of a message. -/
inductive Request where
  | order (site : SendSite) (r : SendRequest)
  | queue (r : SendRequest)
  | queueClosed (direction : Direction)
  | close (tradeId reason : String)
  | moveStop (tradeId : String) (stopLoss : ℚ)
  | followUp (tradeId : String) (stopLoss : ℚ) (tps : List (Option ℚ))
deriving DecidableEq, Repr

/-- The order that goes out now. -/
def Request.orderOf : Request → Option SendRequest
  | .order _ r => some r
  | _ => none

structure Book where
  db : Db
  /-- `tg_source`, by trade id. -/
  sources : List (String × String)
  /-- The messages whose limit order is kept until the market opens. -/
  closedQueue : List ℕ
  /-- Trades of an instant entry that no follow-up has reached. -/
  awaiting : List String

/-- SQL `LIKE`: `%` any text, `_` any character, letters in either case. -/
def sqlLike : List Char → List Char → Bool
  | [], text => text.isEmpty
  | '%' :: pattern, text => text.tails.any fun rest => sqlLike pattern rest
  | _ :: _, [] => false
  | c :: pattern, d :: text =>
      (decide (c = '_') || decide (c.toLower = d.toLower)) && sqlLike pattern text

namespace Trade

def setStopLoss (stop : ℚ) : Assign Trade.tradeId where
  apply t := { t with stopLoss := stop }
  keeps _ := rfl

def setLevels (stop : ℚ) (tps : List (Option ℚ)) : Assign Trade.tradeId where
  apply t := { t with stopLoss := stop, tps := tps }
  keeps _ := rfl

def setStrategy (strategy : Strategy) : Assign Trade.tradeId where
  apply t := { t with strategy := strategy }
  keeps _ := rfl

end Trade

namespace Book
variable (b : Book)

def sourceOf (t : Trade) : Option String := b.sources.lookup t.tradeId

/-- `tg_source IN (channel, 'instant:' || channel)`. -/
def isFrom (channel : String) (t : Trade) : Bool :=
  (b.sourceOf t).any fun source =>
    decide (source = channel ∨ source = "instant:" ++ channel)

/-- The newest open trade that a query selects. -/
def newestOpen (p : Trade → Bool) : Option Trade :=
  newest Trade.openTime (b.db.trades.rows.filter fun t => t.isOpen && p t)

def findLatestInstantTrade (channel : String) (since : ℚ) : Option Trade :=
  b.newestOpen fun t => b.isFrom channel t && decide (since ≤ t.openTime)

def findLatestOpenTradeForSource (channel : String) : Option Trade :=
  b.newestOpen (b.isFrom channel)

def findChannelOpenTrade (channel : String) : Option Trade :=
  b.newestOpen fun t =>
    b.isFrom channel t || (b.sourceOf t).any fun source =>
      sqlLike ("Telegram Auto (" ++ channel ++ ")").toList source.toList

/-- `_sig_guard_blocks` without a distance. -/
def sigGuardBlocks (channel : String) (d : Direction) : Bool :=
  b.db.trades.rows.any fun t =>
    t.isOpen && t.strategy.isTemplate && b.isFrom channel t && decide (t.direction = d)

def setTrade (t : Trade) (f : Assign Trade.tradeId) : Book :=
  { b with db := b.db.setTrade t.tradeId f }

end Book

structure Outcome where
  book : Book
  requests : List Request
  writes : List InboxWrite
  /-- The trade that took the message as its follow-up. -/
  absorbed : Option String

def Outcome.idle (b : Book) : Outcome := ⟨b, [], [], none⟩

section Act
variable (env : ScanEnv) (mk : Market) (b : Book) (ch : ChannelConfig) (m : Message)

/-- The levels a strategy sets from its fill, after the two sends of the scan
that go to market. -/
def fillLevels (site : SendSite) (r : SendRequest) (fill : ℚ) : Option (Assign Trade.tradeId) :=
  let at_ (points : ℚ) : ℚ := roundTo 2 (fill + r.direction.sign * points)
  match site, r.strategy with
  | .market, .adaptiveRunner2 => some (Trade.setStopLoss (at_ (-mk.strategySlPt r.strategy)))
  | .market, .conservative | .market, .scalpRunner =>
      some (Trade.setLevels (at_ (-mk.strategySlPt r.strategy))
        ((mk.strategyTpPts r.strategy).map fun points => some (at_ points)))
  | .instant, .conservative => some (Trade.setLevels (at_ (-5)) [some (at_ 3)])
  | .instant, .scalpRunner => some (Trade.setLevels (at_ (-10)) [some (at_ 3), some (at_ 4)])
  | .instant, .conservativeTrial =>
      some (Trade.setLevels (at_ (-roundTo 1 (100 / (r.lots * 100))))
        ([5, 10, 14, 20, 27, 35].map fun points => some (at_ points)))
  | _, _ => none

def settleFill (site : SendSite) (r : SendRequest) (db : Db) : Db :=
  match db.getTrade r.tradeId with
  | none => db
  | some t =>
      match fillLevels mk site r t.entryPrice with
      | none => db
      | some f => db.setTrade r.tradeId f

/-- The request leaves: no gate of `open_trade` refuses it, and there is an EA to
write to or, but for a template, the bridge. -/
def goesOut (site : SendSite) (strategy : Strategy) (a : SendAnswers) : Bool :=
  let written := decide (a.ea ≠ .notConnected)
  match site with
  | .instant | .market | .grid =>
      a.refusal.isNone &&
        if strategy.isTemplate then a.eaUsed && written
        else !a.eaUsed || written || decide (a.look = .absent)
  | .resting | .realigned => written

def send (site : SendSite) (tpOpen : Bool) (r : SendRequest) : Outcome :=
  let (db, status) := sendFrom site b.db r tpOpen (mk.answers m)
  let opened := decide (site = .instant ∧ status = some .instantActivated)
  { book :=
      { b with
        db := settleFill mk site r db
        sources := (r.tradeId, ch.name) :: b.sources
        awaiting := if opened then r.tradeId :: b.awaiting else b.awaiting }
    requests := if goesOut site r.strategy (mk.answers m) then [.order site r] else []
    writes := match status with
      | some status => [.mark status (some r.signalId)]
      | none => []
    absorbed := none }

/-- Carries out a decision; a queued signal only gets its row. -/
def perform : Decision → Outcome
  | .nothing => Outcome.idle b
  | .send site tpOpen r => send mk b ch m site tpOpen r
  | .queue _ r =>
      match b.db.insertSignal r.signalId .pending env.now none with
      | none => Outcome.idle b
      | some db => ⟨{ b with db := db }, [.queue r], [.mark .pending (some r.signalId)],
          none⟩
  | .queueClosed p =>
      if m.id ∈ b.closedQueue then Outcome.idle b
      else
        ⟨{ b with closedQueue := m.id :: b.closedQueue }, [.queueClosed p.direction], [], none⟩

def imeSelfManaged : Strategy → Bool
  | .conservative | .conservativeTrial | .fixedRr => true
  | _ => false

def autoTpOffsets : List ℚ := [3, 5, 7, 10, 14, 18]

/-- The targets of a follow-up; with fewer than two on the winning side of the
fill they are spaced from it. -/
def followUpTps (t : Trade) (p : Parsed) : List (Option ℚ) :=
  let good := (p.tps.take 8).reduceOption.countP fun tp =>
    decide (0 < t.direction.sign * (tp - t.entryPrice))
  if good < 2 then
    (autoTpOffsets.map fun off => some (roundTo 2 (t.entryPrice + t.direction.sign * off))) ++
      [none, none]
  else (List.range 8).map fun i => (p.tps.getD i none).or (t.tps.getD i none)

def followUpStop (t : Trade) (p : Parsed) (stop : ℚ) : ℚ :=
  let intended := |(p.entryLow + p.entryHigh) / 2 - stop|
  if 0 < intended ∧ intended * (3 / 2) < |t.entryPrice - stop| then
    roundTo 2 (t.entryPrice - t.direction.sign * intended)
  else stop

/-- `update_signal` on the levels of the trade. -/
def updateLevels (t : Trade) (strategy : Strategy) (p : Parsed) (stop : ℚ) : Outcome :=
  let b := b.setTrade t (Trade.setStrategy strategy)
  let mark : List InboxWrite := [.mark .followupApplied (some t.signalId)]
  match strategy with
  | .conservative | .conservativeTrial | .scalpRunner => ⟨b, [], mark, some t.tradeId⟩
  | _ =>
      let stop := followUpStop t p stop
      let tps := followUpTps t p
      ⟨b.setTrade t (Trade.setLevels stop tps), [.followUp t.tradeId stop tps], mark,
        some t.tradeId⟩

/-- The channel's own strategy, where the trade was opened under another. -/
def correctedStrategy (t : Trade) : Option Strategy :=
  match mk.channelOverride ch.name with
  | some (.fixed strategy) => if strategy = t.strategy then none else some strategy
  | _ => none

/-- A trade whose levels are not the signal's business. -/
def onlyAcknowledges (t : Trade) : Bool :=
  decide (t.managedBy = .ea) ||
    imeSelfManaged t.strategy && (correctedStrategy mk ch t).isNone

/-- `apply_followup_to_instant_trade`; without a stop in the signal the part
that writes levels raises. -/
def applyFollowup (t : Trade) (p : Parsed) : Outcome :=
  if onlyAcknowledges mk ch t then
    ⟨b, [], [.mark .followupApplied (some t.signalId)], some t.tradeId⟩
  else
    let strategy :=
      if imeSelfManaged t.strategy then (correctedStrategy mk ch t).getD t.strategy
      else t.strategy
    match p.stopLoss with
    | none => Outcome.idle (b.setTrade t (Trade.setStrategy strategy))
    | some stop => updateLevels b t strategy p stop

/-- The trade that would take the signal as its follow-up. -/
def followUpTarget (d : Direction) : Option Trade :=
  (b.findLatestInstantTrade ch.name (env.now - mk.followupTimeout)).filter fun t =>
    decide (t.direction = d)

def absorb (t : Trade) (p : Parsed) : Outcome :=
  let outcome := applyFollowup mk b ch t p
  { outcome with
    book :=
      { outcome.book with
        awaiting := outcome.book.awaiting.filter fun id => decide (some id ≠ outcome.absorbed) } }

def takesLimitRoute (strategy : Strategy) (p : Parsed) : Bool :=
  p.tpOpen.isSome && !mk.isGrid strategy

/-- The follow-up gate of `_execute_auto_signal`. -/
def seeksFollowUp (strategy : Strategy) (p : Parsed) : Bool :=
  env.settings.immediateMarketEntry && !(p.tpOpen.isSome && !strategy.isTemplate)

/-- A fresh signal, from the routing of the loop on. -/
def actSignal (p : Parsed) : Outcome :=
  let (strategy, skip) := mk.resolveStrategy ch.name m p
  if !env.settings.autoExecute then Outcome.idle b
  else if takesLimitRoute mk strategy p then
    perform env mk b ch m (handleLimitOrderSignal env mk ch m skip p (p.tpOpen.getD false))
  else
    match (if seeksFollowUp env strategy p then followUpTarget env mk b ch p.direction
        else none) with
    | some t => absorb mk b ch t p
    | none =>
        perform env mk b ch m
          (executeAutoSignal env mk ch m (b.db.tradeSlotsUsed none) strategy skip p)

def instantDecision (d : Direction) (price : Option ℚ) : Decision :=
  processInstantEntry env mk ch m (b.db.tradeSlotsUsed none) (b.sigGuardBlocks ch.name d) d price

def tgCmdBlocked (t : Trade) : Bool := (mk.templateOf t.strategy).any fun tpl => !tpl.tgCmdEnabled

/-- `close_trade`, with an exception logged and dropped. -/
def closeFor (t : Trade) (reason : String) : Outcome :=
  let tick : Read Tick := match mk.tick with
    | some tick => .value tick
    | none => .none
  ⟨{ b with
      db := bookAfter b.db
        (closeTrade b.db t.tradeId reason tick (mk.closeReply t) mk.legReply env.now) },
    [.close t.tradeId reason], [], none⟩

/-- `apply_sl_adjustment` after its claim. -/
def applySlAdjustment (newStop : ℚ) : Outcome :=
  if !env.settings.levels.enableSlParsing then Outcome.idle b
  else
    match b.findChannelOpenTrade ch.name with
    | none => Outcome.idle b
    | some t =>
        if selfManaged t.strategy || decide (|t.stopLoss - newStop| < 11 / 1000) then
          Outcome.idle b
        else
          let moved := (linkedTicket t.mt5Ticket).isNone || mk.modifies t
          ⟨if moved then b.setTrade t (Trade.setStopLoss newStop) else b,
            [.moveStop t.tradeId newStop], [], none⟩

/-- The two keyword triggers, for a message that claims one first. -/
def actTrigger (stopClaimed : Bool) (trigger : Trigger) : Outcome :=
  match b.findChannelOpenTrade ch.name with
  | none => Outcome.idle b
  | some t =>
      if tgCmdBlocked mk t then Outcome.idle b
      else
        match trigger with
        | .closeAll => closeFor env mk b t "logic_keyword_close_all"
        | .riskFreeBe =>
            if stopClaimed then Outcome.idle b
            else
              let outcome := applySlAdjustment env mk b ch t.entryPrice
              { outcome with writes := .claimStop :: outcome.writes }

/-- What an edited message asks of the open trades. -/
def actEdit : EditRequest → Outcome
  | .nothing => Outcome.idle b
  | .flatten recorded =>
      match b.findLatestOpenTradeForSource ch.name with
      | none => Outcome.idle b
      | some t =>
          if t.direction = recorded then
            closeFor env mk b t
              ("instant_edit_flip:" ++ recorded.text ++ "->" ++ recorded.opposite.text)
          else Outcome.idle b
  | .followUp p =>
      match followUpTarget env mk b ch p.direction with
      | some t => absorb mk b ch t p
      | none => Outcome.idle b

def act (view : InboxView) : Verdict → Outcome
  | .trigger trigger true => actTrigger env mk b ch view.stopClaimed trigger
  | .edited request => actEdit env mk b ch request
  | .instant d price false => perform env mk b ch m (instantDecision env mk b ch m d price)
  | .adjustStop newStop true => applySlAdjustment env mk b ch newStop
  | .signal p true => actSignal env mk b ch m p
  | _ => Outcome.idle b

end Act

structure ScanState where
  inbox : Inbox
  book : Book

/-- What a message of a watched channel leads to. -/
def outcomeOn (env : ScanEnv) (mk : Market) (s : ScanState) (ch : ChannelConfig) (m : Message) :
    Outcome :=
  act env mk s.book ch m (s.inbox.view ch m) (env.readOn ch m (s.inbox.view ch m)).verdict

/-- One message of the loop: what it leaves and what it asked for. -/
def scanMessage (env : ScanEnv) (mk : Market) (s : ScanState) (m : Message) :
    ScanState × List Request :=
  match env.channelOf m.groupId with
  | none => (s, [])
  | some ch =>
      let reading := env.readOn ch m (s.inbox.view ch m)
      let outcome := outcomeOn env mk s ch m
      (⟨s.inbox.applyAll env.now ch m (reading.writes ++ outcome.writes), outcome.book⟩,
        outcome.requests)

def Book.empty : Book where
  db := { oneLotBook with trades := Table.empty, signals := Table.empty }
  sources := []
  closedQueue := []
  awaiting := []

def ScanState.start : ScanState := ⟨Inbox.empty, Book.empty⟩

end Forex
