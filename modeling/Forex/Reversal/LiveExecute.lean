import Forex.Signals.ZoneRace

/-!
The live execution of one Reversal Engine signal. `_try_live_execute` is called
twice, when a grid template is staged at creation and when the outcome loop sees
the zone reached, and each call mints a vantage signal of its own; the pending
watcher opens whatever they leave pending. A step ends where the code awaits.
What the broker does with an order on its way is a step by itself, whatever the
sender is told of it.
-/

namespace Forex
open Support

inductive ReStatus where
  | pending
  | triggered
  | closed
  | expired
deriving DecidableEq, Repr

/-- A row of `re_signals`, as far as live execution reads and writes it. -/
structure ReRow where
  status : ReStatus
  createdAt : ℚ
  entryLow : ℚ
  entryHigh : ℚ
  mt5Ticket : Option ℤ
  vantageSignalId : Option String
  liveExecStatus : Option String

namespace ReRow

/-- `update_live_exec`; what the caller leaves out is written as NULL. -/
def updateLiveExec (row : ReRow) (mt5Ticket : Option ℤ) (vantageSigId : Option String)
    (status : String) : ReRow :=
  { row with
    mt5Ticket := mt5Ticket, vantageSignalId := vantageSigId, liveExecStatus := some status }

def carriesVantageId (row : ReRow) : Bool := row.vantageSignalId.any fun id => decide (id ≠ "")

def isOpen (row : ReRow) : Bool := decide (row.status = .pending ∨ row.status = .triggered)

end ReRow

/-- `_SIGNAL_MAX_AGE_S`. -/
def signalMaxAgeSecs : ℚ := 2 * 3600

inductive LiveCaller where
  /-- `_maybe_stage_grid_template`. -/
  | staging
  /-- `_check_outcomes`. -/
  | outcome
  | watcher
deriving DecidableEq, Repr

inductive OrderRoute where
  /-- `_try_re_limit_order`. -/
  | limit
  /-- `open_trade_from_signal`, which for a grid template stages its legs. -/
  | market
deriving DecidableEq, Repr

inductive LivePhase where
  | idle
  /-- In the gates of `_try_live_execute`. -/
  | gates
  | minted (signalId : String)
  /-- The claim is won and nothing has been sent. -/
  | claimed (signalId : String) (route : OrderRoute)
  | sending (signalId : String) (route : OrderRoute)
deriving DecidableEq, Repr

/-- How a send ends with no order on record. -/
inductive SendError where
  /-- The answer says no. -/
  | rejected (error : String)
  | raised (message : String) (unanswered : Bool)

namespace SendError

def message : SendError → String
  | .rejected error => error
  | .raised message _ => message

def unanswered : SendError → Bool
  | .rejected _ => false
  | .raised _ unanswered => unanswered

/-- What `_try_re_limit_order` writes to the row. -/
def limitStatus : SendError → String
  | .rejected error => "limit_order_rejected:" ++ error
  | .raised message _ => "limit_order_error:" ++ message

end SendError

structure LiveDesk where
  row : ReRow
  /-- The creation of the signal has not come to the staging yet. -/
  unstaged : Bool
  /-- The row as the pass of the outcome loop has read it. -/
  read : Option ReRow
  watch : Lifecycle
  /-- The vantage signals minted for the row, the newest first. -/
  minted : List String
  phase : LiveCaller → LivePhase
  /-- The signals of the orders on their way to the broker. -/
  sent : List String
  /-- The signals of the trades, resting orders and grids the broker has placed. -/
  placed : List String

inductive LiveStep where
  | stage
  | readOpen
  | visit (price now : ℚ)
  /-- A gate of `_try_live_execute` ends the call, mostly with a status. -/
  | skip (c : LiveCaller) (status : Option String)
  | mint (c : LiveCaller) (sig : Signal)
  | refuse (c : LiveCaller) (route : OrderRoute) (message : String)
  | claim (c : LiveCaller) (route : OrderRoute) (now : ℚ)
  | send (c : LiveCaller)
  | take (signalId : String)
  | lose (signalId : String)
  | orderPlaced (c : LiveCaller) (o : PendingOrder)
  | tradeOpened (c : LiveCaller) (t : Trade) (raised : Option String)
  | fail (c : LiveCaller) (e : SendError)
  | readQueue
  | look (l : Look) (now : ℚ)
  | handleFailure
  | crash
  | release (now : ℚ)
  | settle (signalId : String) (status : SignalStatus)
  | fill (o : PendingOrder) (ticket : Option ℤ) (fillPrice now : ℚ)
  | elsewhere (db : Db)

/-- No claim takes a signal in such a state, and no failed open hands it back. -/
def SignalStatus.isOver : SignalStatus → Bool
  | .activated | .closed | .cancelled | .expired => true
  | .pending | .active | .activating | .unknown => false

namespace LiveDesk
variable (cap : ℕ) (s : LiveDesk)

def db : Db := s.watch.db

def withDb (db : Db) : LiveDesk := { s with watch := s.watch.withDb db }

def inPhase (c : LiveCaller) (p : LivePhase) : LiveDesk :=
  { s with phase := Function.update s.phase c p }

def start (row : ReRow) (db : Db) : LiveDesk where
  row := row
  unstaged := true
  read := none
  watch := ⟨db, [], fun _ => 0, none⟩
  minted := []
  phase _ := .idle
  sent := []
  placed := []

/-- An exception out of `open_trade_from_signal`: the `except` of
`_try_live_execute` writes it to the row, the one of the watcher is still ahead. -/
def raise (c : LiveCaller) (signalId message : String) : LiveDesk :=
  match c with
  | .watcher => { s with watch := { s.watch with raised := some (signalId, message) } }
  | .staging | .outcome =>
      { s with row := s.row.updateLiveExec none none ("error:" ++ message) }

/-- `_maybe_stage_grid_template`, for a grid template with live execution on. -/
def stage : LiveDesk :=
  if s.unstaged && decide (s.phase .staging = .idle) then
    if s.row.carriesVantageId then { s with unstaged := false }
    else { s.inPhase .staging .gates with unstaged := false }
  else s

/-- `get_open_signals`, at the start of a pass of `_check_outcomes`. -/
def readOpen : LiveDesk :=
  if s.read.isNone && decide (s.phase .outcome = .idle) && s.row.isOpen then
    { s with read := some s.row }
  else s

/-- The row's turn in the pass. A triggered row is left to its monitoring. -/
def visit (price now : ℚ) : LiveDesk :=
  match s.read with
  | none => s
  | some read =>
      if read.status ≠ .pending then { s with read := none }
      else if signalMaxAgeSecs < now - read.createdAt then
        { s with read := none, row := { s.row with status := .expired } }
      else if read.entryLow ≤ price ∧ price ≤ read.entryHigh then
        if read.carriesVantageId then
          { s with read := none, row := { s.row with status := .triggered } }
        else
          { s.inPhase .outcome .gates with
            read := none, row := { s.row with status := .triggered } }
      else { s with read := none }

def skip (c : LiveCaller) (status : Option String) : LiveDesk :=
  match s.phase c with
  | .gates =>
      match status with
      | some status => { s.inPhase c .idle with row := s.row.updateLiveExec none none status }
      | none => s.inPhase c .idle
  | _ => s

/-- `create_signal`. -/
def mint (c : LiveCaller) (sig : Signal) : LiveDesk :=
  match s.phase c with
  | .gates =>
      match s.db.signals.insert { sig with status := .pending } with
      | some signals =>
          { (s.withDb { s.db with signals := signals }).inPhase c (.minted sig.signalId) with
            minted := sig.signalId :: s.minted }
      | none => (s.inPhase c .idle).raise c sig.signalId "UNIQUE constraint failed"
  | _ => s

/-- `resolve_open_trade_params` raises: a gate refuses before the claim. -/
def refuse (c : LiveCaller) (route : OrderRoute) (message : String) : LiveDesk :=
  match s.phase c, route with
  | .minted _, .limit =>
      { s.inPhase c .idle with
        row := s.row.updateLiveExec none none ("limit_order_skip:" ++ message) }
  | .minted signalId, .market => (s.inPhase c .idle).raise c signalId message
  | _, _ => s

def claim (c : LiveCaller) (route : OrderRoute) (now : ℚ) : LiveDesk :=
  match s.phase c with
  | .minted signalId =>
      match s.db.claimSignalActivation cap signalId now, route with
      | some db, _ => (s.withDb db).inPhase c (.claimed signalId route)
      | none, .limit => s.inPhase c .idle
      | none, .market =>
          (s.inPhase c .idle).raise c signalId (s.db.explainFailedClaim cap signalId)
  | _ => s

def send (c : LiveCaller) : LiveDesk :=
  match s.phase c with
  | .claimed signalId route =>
      { s.inPhase c (.sending signalId route) with sent := signalId :: s.sent }
  | .sending signalId .market => { s with sent := signalId :: s.sent }
  | _ => s

def take (signalId : String) : LiveDesk :=
  if signalId ∈ s.sent then
    { s with sent := s.sent.erase signalId, placed := signalId :: s.placed }
  else s

def lose (signalId : String) : LiveDesk := { s with sent := s.sent.erase signalId }

def ticketText : Option ℤ → String
  | some ticket => toString ticket
  | none => "None"

/-- `place_pending_order` is acknowledged. -/
def orderPlaced (c : LiveCaller) (o : PendingOrder) : LiveDesk :=
  match s.phase c with
  | .sending signalId .limit =>
      match s.db.insertVantagePendingOrder signalId o with
      | some db =>
          { (s.withDb db).inPhase c .idle with
            row := s.row.updateLiveExec none (some signalId)
              ("limit_order_placed:" ++ ticketText o.eaTicket) }
      -- the claim stands, and only the sweep of stranded claims will end it
      | none => (s.inPhase c .idle).raise c signalId "UNIQUE constraint failed"
  | _ => s

/-- `open_trade` returns; the corrections after the fill may still raise. -/
def tradeOpened (c : LiveCaller) (t : Trade) (raised : Option String) : LiveDesk :=
  match s.phase c with
  | .sending signalId .market =>
      match insertTradeAndActivateSignal s.db { t with signalId := signalId } with
      | none =>
          ((s.withDb (routeFailedOpen s.db signalId false)).inPhase c .idle).raise c signalId
            "UNIQUE constraint failed"
      | some db =>
          match raised, c with
          | some message, _ => ((s.withDb db).inPhase c .idle).raise c signalId message
          | none, .watcher =>
              { s.inPhase c .idle with watch := (s.watch.withDb db).forget signalId }
          | none, _ =>
              { (s.withDb db).inPhase c .idle with
                row := s.row.updateLiveExec t.mt5Ticket (some signalId) "executed" }
  | _ => s

/-- A send fails, or `open_trade` refuses before it sends. -/
def failed (c : LiveCaller) (signalId : String) (e : SendError) : OrderRoute → LiveDesk
  | .limit =>
      { (s.withDb (s.db.restoreSignalAfterFailedOpen signalId)).inPhase c .idle with
        row := s.row.updateLiveExec none none e.limitStatus }
  | .market =>
      ((s.withDb (routeFailedOpen s.db signalId e.unanswered)).inPhase c .idle).raise c signalId
        e.message

def fail (c : LiveCaller) (e : SendError) : LiveDesk :=
  match s.phase c with
  | .claimed signalId route | .sending signalId route => s.failed c signalId e route
  | _ => s

/-- Of the watcher's list, the signals minted here. -/
def readQueue : LiveDesk :=
  match s.phase .watcher, s.watch.raised, s.watch.queue with
  | .idle, none, [] =>
      let queue := (s.db.pendingSignalsAwaitingZoneFill.map Signal.signalId).filter
        fun id => decide (id ∈ s.minted)
      { s with watch := { s.watch with queue := queue } }
  | _, _, _ => s

def goesAhead (signalId : String) (now : ℚ) : LiveDesk :=
  if s.db.hasOpenTradeForSignal signalId then s.withDb (s.db.markSignalActivated signalId)
  else
    match s.db.claimSignalActivation cap signalId now with
    | some db => (s.withDb db).inPhase .watcher (.claimed signalId .market)
    | none => s.raise .watcher signalId (s.db.explainFailedClaim cap signalId)

def lookAt (signalId : String) (now : ℚ) : Look → LiveDesk
  | .aged => { s with watch := s.watch.visit cap signalId .aged }
  | .held => s
  | .atCap => { s with watch := s.watch.visit cap signalId .atCap }
  | .refused message =>
      { s with watch := s.watch.visit cap signalId (.attempt now (.refused message)) }
  | .goesAhead => s.goesAhead cap signalId now

def look (l : Look) (now : ℚ) : LiveDesk :=
  match s.phase .watcher, s.watch.raised, s.watch.queue with
  | .idle, none, signalId :: rest =>
      lookAt cap { s with watch := { s.watch with queue := rest } } signalId now l
  | _, _, _ => s

/-- What is in memory is lost; an order on its way is not. -/
def crash : LiveDesk :=
  { s with
    unstaged := false
    read := none
    watch := ⟨s.db, [], fun _ => 0, none⟩
    phase := fun _ => .idle }

/-- Other writers end a signal: it is cancelled, or its trade or order is over. -/
def settle (signalId : String) (status : SignalStatus) : LiveDesk :=
  if status.isOver then s.withDb (s.db.setSignalStatus signalId status) else s

/-- The EA reports the fill of a resting order that the broker holds. -/
def fill (o : PendingOrder) (ticket : Option ℤ) (fillPrice now : ℚ) : LiveDesk :=
  if o.signalId ∈ s.placed then
    s.withDb ((s.db.applyPendingFill o ticket fillPrice now).getD s.db)
  else s

/-- The rest of the program, which leaves the rows minted here alone. -/
def elsewhere (db : Db) : LiveDesk :=
  if ∀ signalId ∈ s.minted, db.signals.find signalId = s.db.signals.find signalId then s.withDb db
  else s

def step : LiveStep → LiveDesk
  | .stage => s.stage
  | .readOpen => s.readOpen
  | .visit price now => s.visit price now
  | .skip c status => s.skip c status
  | .mint c sig => s.mint c sig
  | .refuse c route message => s.refuse c route message
  | .claim c route now => s.claim cap c route now
  | .send c => s.send c
  | .take signalId => s.take signalId
  | .lose signalId => s.lose signalId
  | .orderPlaced c o => s.orderPlaced c o
  | .tradeOpened c t raised => s.tradeOpened c t raised
  | .fail c e => s.fail c e
  | .readQueue => s.readQueue
  | .look l now => s.look cap l now
  | .handleFailure => { s with watch := s.watch.step cap .handleFailure }
  | .crash => s.crash
  | .release now => s.withDb (s.db.releaseStrandedActivations now)
  | .settle signalId status => s.settle signalId status
  | .fill o ticket fillPrice now => s.fill o ticket fillPrice now
  | .elsewhere db => s.elsewhere db

end LiveDesk

end Forex
