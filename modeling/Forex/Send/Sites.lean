import Forex.Send.OpenTrade
import Forex.Signals.Watcher

/-!
The five places that ask for an order on behalf of a Telegram message, from the
rows they write before the request to the rows their handlers leave after it.
Three go through `open_trade`; the two of the limit-order handler speak to the
EA themselves. The ids are those `uuid4` gave.
-/

namespace Forex
open Support

/-- How a request to the EA ends. A send that failed may have been written. -/
inductive EaEnd where
  | opened (ticket : ℤ) (fillPrice : ℚ) (legs : Option ℕ)
  | failed (error : String)
  | notConnected
  | sendFailed
  | timedOut
deriving DecidableEq, Repr

def EaEnd.silent : EaEnd → Bool
  | .sendFailed | .timedOut => true
  | _ => false

/-- What the EA, the broker and the bridge answer during one `open_trade`. -/
structure SendAnswers where
  /-- A gate of `open_trade` that refuses before anything is sent. -/
  refusal : Option String
  /-- The EA is enabled, healthy and able to run the strategy. -/
  eaUsed : Bool
  ea : EaEnd
  look : DedupResult
  lookDetail : String
  bridge : SendVerdict

structure SendRequest where
  tradeId : String
  signalId : String
  direction : Direction
  lots : ℚ
  stopLoss : ℚ
  tps : List (Option ℚ)
  strategy : Strategy
  /-- The price at which the request would fill now. -/
  price : ℚ
  now : ℚ
deriving DecidableEq, Repr

/-- `open_trade` returns a row's ticket, price and manager, or raises; the flag
is `send_outcome_is_unknown` of what it raises. -/
inductive OpenEnd where
  | opened (ticket : Option ℤ) (entryPrice : ℚ) (managedBy : ManagedBy)
  | raised (message : String) (unknown : Bool)
deriving DecidableEq, Repr

namespace SendAnswers

def templateEnd (a : SendAnswers) : OpenEnd :=
  if a.eaUsed then
    match a.ea with
    | .opened ticket fillPrice legs =>
        if legs = some 0 then
          .raised ("EA Template grid placed 0 of its legs — every anchor/pending leg was " ++
            "rejected by the broker; no trade opened") false
        else .opened (some ticket) fillPrice .ea
    | .failed error => .raised ("EA rejected template order: " ++ error) false
    | .notConnected => .raised "EA not connected/healthy" true
    | .sendFailed => .raised "EA send failed" true
    -- the placeholder row of a template whose ack did not come in time
    | .timedOut => .opened (some 0) 0 .ea
  else
    .raised ("EA Template strategies require a connected, healthy EA — " ++
      "none is available right now") false

def bridgeEnd (price : ℚ) : SendVerdict → OpenEnd
  | .placed ticket fillPrice =>
      .opened ticket (((fillPrice.filter fun p => decide (p ≠ 0))).getD price) .python
  | .outcomeUnknown error => .raised error true
  | .rejected error => .raised error false

def fallbackEnd (a : SendAnswers) (price : ℚ) : OpenEnd :=
  match a.look with
  | .found m =>
      .opened m.ticket (if m.entryPrice = 0 then price else m.entryPrice)
        (if m.byEa then .ea else .python)
  | .unknown =>
      .raised ("could not confirm whether the order was already placed: " ++ a.lookDetail) true
  | .absent => bridgeEnd price a.bridge

def plainEnd (a : SendAnswers) (price : ℚ) : OpenEnd :=
  if a.eaUsed then
    match a.ea with
    | .opened ticket fillPrice _ => .opened (some ticket) fillPrice .ea
    | _ => a.fallbackEnd price
  else bridgeEnd price a.bridge

def openEnd (a : SendAnswers) (r : SendRequest) : OpenEnd :=
  match a.refusal with
  | some message => .raised message false
  | none => if r.strategy.isTemplate then a.templateEnd else a.plainEnd r.price

/-- The request went out and nobody said how it ended. -/
def unanswered (a : SendAnswers) (strategy : Strategy) : Bool :=
  a.refusal.isNone &&
    if strategy.isTemplate then a.eaUsed && a.ea.silent
    else
      match a.eaUsed, a.ea, a.look, a.bridge with
      | true, .opened _ _ _, _, _ => false
      | true, _, .found _, _ => false
      | true, _, .unknown, _ => true
      | _, _, _, .outcomeUnknown _ => true
      | _, _, _, _ => false

end SendAnswers

namespace SendRequest

def trade (r : SendRequest) (ticket : Option ℤ) (entryPrice : ℚ) (managedBy : ManagedBy)
    (tpOpen : Bool) : Trade :=
  let reference := if entryPrice = 0 then r.price else entryPrice
  Trade.fresh r.tradeId r.signalId ticket r.direction entryPrice r.lots r.stopLoss r.tps r.now
    r.strategy managedBy tpOpen (some r.stopLoss)
    (some (roundTo 4 (|reference - r.stopLoss| * r.lots * contractSize)))

def restingOrder (r : SendRequest) (ticket : ℤ) (tpOpen : Bool) : PendingOrder :=
  ⟨r.tradeId, r.signalId, r.direction, r.price, r.stopLoss, r.tps, tpOpen, r.lots, some ticket,
    r.strategy, .working, r.now, none, 0⟩

end SendRequest

inductive TgStatus where
  | new
  | historical
  | pendingFollowup
  | pending
  | active
  | activated
  | followupApplied
  | instantPending
  | instantHistorical
  | instantActivated
  | instantFailed
  | unsupportedCurrency
deriving DecidableEq, Repr

inductive SendSite where
  | instant
  | market
  | grid
  | resting
  | realigned
deriving DecidableEq, Repr

namespace Db
variable (db : Db)

def insertSignal (signalId : String) (status : SignalStatus) (now : ℚ)
    (activatedAt : Option ℚ) : Option Db :=
  (db.signals.insert ⟨signalId, status, now, activatedAt⟩).map fun signals =>
    { db with signals := signals }

def deleteSignal (signalId : String) : Db :=
  { db with signals := db.signals.delete signalId }

end Db

/-- `open_trade`: the row it adds, or the exception and whether it is a send
without an answer. -/
def openTrade (db : Db) (r : SendRequest) (a : SendAnswers) : Db × Option (String × Bool) :=
  match a.openEnd r with
  | .raised message unknown => (db, some (message, unknown))
  | .opened ticket entryPrice managedBy =>
      match insertTradeAndActivateSignal db (r.trade ticket entryPrice managedBy false) with
      | some db => (db, none)
      | none => (db, some ("UNIQUE constraint failed", false))

/-- The signal is written as active before the request; `handler` is what the
site does with an exception. -/
def openFromSite (db : Db) (r : SendRequest) (a : SendAnswers) (done : TgStatus)
    (handler : Db → String → Bool → Db × TgStatus) : Db × Option TgStatus :=
  match db.insertSignal r.signalId .active r.now (some r.now) with
  | none => (db, none)
  | some db =>
      match openTrade db r a with
      | (db, none) => (db, some done)
      | (db, some (message, unknown)) =>
          let (db, status) := handler db message unknown
          (db, some status)

/-- The send of `process_instant_entry`. -/
def sendInstant (db : Db) (r : SendRequest) (a : SendAnswers) : Db × Option TgStatus :=
  openFromSite db r a .instantActivated fun db _ _ =>
    (db.deleteSignal r.signalId, .instantFailed)

/-- The market branch of `_execute_auto_signal`. -/
def sendMarket (db : Db) (r : SendRequest) (a : SendAnswers) : Db × Option TgStatus :=
  openFromSite db r a .activated fun db message unknown =>
    if contains "stood down".toList (lower message.toList) then
      (db.resetSignalToPending r.signalId, .activated)
    else if unknown then (db.parkSignalUnknown r.signalId, .activated)
    else (db.resetSignalToPending r.signalId, .activated)

/-- The grid branch: a failure is only put into the skip reason. -/
def sendGrid (db : Db) (r : SendRequest) (a : SendAnswers) : Db × Option TgStatus :=
  openFromSite db r a .activated fun db _ _ => (db, .activated)

/-- The resting branch of `handle_limit_order_signal`; nothing is written unless
the EA says that the order was placed. -/
def sendResting (db : Db) (r : SendRequest) (tpOpen : Bool) : EaEnd → Db × Option TgStatus
  | .opened ticket _ _ =>
      match db.insertPendingOrderSignal ⟨r.signalId, .pending, r.now, none⟩
          (r.restingOrder ticket tpOpen) with
      | some db => (db, some .pending)
      | none => (db, none)
  | _ => (db, none)

/-- `_open_realigned_market_order`. -/
def sendRealigned (db : Db) (r : SendRequest) (tpOpen : Bool) : EaEnd → Db × Option TgStatus
  | .opened ticket fillPrice _ =>
      match (db.insertSignal r.signalId .active r.now none).bind fun db =>
          (db.trades.insert (r.trade (some ticket) fillPrice .ea tpOpen)).map fun trades =>
            { db with trades := trades } with
      | some db => (db, some .active)
      | none => (db, none)
  | _ => (db, none)

def sendFrom (site : SendSite) (db : Db) (r : SendRequest) (tpOpen : Bool) (a : SendAnswers) :
    Db × Option TgStatus :=
  match site with
  | .instant => sendInstant db r a
  | .market => sendMarket db r a
  | .grid => sendGrid db r a
  | .resting => sendResting db r tpOpen a.ea
  | .realigned => sendRealigned db r tpOpen a.ea

end Forex
