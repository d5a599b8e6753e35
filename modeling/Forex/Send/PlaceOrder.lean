import Forex.Broker.Terminal
import Forex.Support.Decimal

/-!
A market order through the bridge: `_place_order` in the bridge process, the
HTTP exchange, and `MT5BridgeClient.place_order`. The terminal is an arbitrary
environment; each filling mode is tried at most once, so its answers are a
function of the request.
-/

namespace Forex
open Support

inductive Filling where
  | return
  | ioc
  | fok
deriving DecidableEq, Repr

structure OrderRequest where
  direction : Direction
  volume : ℚ
  price : ℚ
  sl : Option ℚ
  tp : Option ℚ
  comment : String
  filling : Filling
deriving DecidableEq, Repr

structure SendResult where
  retcode : ℕ
  order : ℤ
  price : ℚ
  volume : ℚ
  comment : String
deriving DecidableEq, Repr

inductive SendAnswer where
  | answered (r : SendResult)
  | none
  | raised (error : String)
deriving DecidableEq, Repr

def retcodePlaced : ℕ := 10008
def retcodeDone : ℕ := 10009
def retcodeDonePartial : ℕ := 10010

def fillErrors : List ℕ := [10018, 10004, 10030]

namespace SendAnswer

def isFillError : SendAnswer → Bool
  | .answered r => decide (r.retcode ∈ fillErrors)
  | _ => false

/-- The broker may hold an order or a fill after this answer. -/
def mayExist : SendAnswer → Bool
  | .answered r => decide (r.retcode ∈ [retcodeDone, retcodeDonePartial, retcodePlaced])
  | .none => true
  | .raised _ => true

end SendAnswer

structure SymbolInfo where
  tradeMode : ℕ
  volumeStep : ℚ
  volumeMin : ℚ
  volumeMax : ℚ
  point : ℚ
  tradeStopsLevel : ℕ
  tradeFreezeLevel : ℕ
deriving DecidableEq, Repr

/-- The outcome of a call into the terminal library; `raised` has the text. -/
inductive Call (α : Type) where
  | value (a : α)
  | none
  | raised (error : String)
deriving DecidableEq, Repr

structure Terminal where
  connected : Bool
  lastConnectError : String
  tick : Call Tick
  symbol : Call SymbolInfo
  tradeAllowed : Call Bool
  orderSend : OrderRequest → SendAnswer
  /-- `mt5.last_error()`; an error is what it raises. -/
  lastError : Except String String

inductive Retcode where
  | code (n : ℕ)
  | marketClosed
deriving DecidableEq, Repr

structure Fill where
  ticket : ℤ
  fillPrice : ℚ
  volume : ℚ
  direction : Direction
  sl : Option ℚ
  tp : Option ℚ
deriving DecidableEq, Repr

structure OrderReply where
  success : Option Fill
  error : Option String
  retcode : Option Retcode
  unknown : Bool
deriving DecidableEq, Repr

namespace OrderReply

def placed (f : Fill) : OrderReply := ⟨some f, none, none, false⟩

def plain (error : String) (retcode : Option Retcode) : OrderReply :=
  ⟨none, some error, retcode, false⟩

def lost (error : String) : OrderReply := ⟨none, some error, none, true⟩

/-- An error that is not marked unknown: the signal becomes retryable. -/
def isPlainError (r : OrderReply) : Bool := r.error.isSome && !r.unknown

end OrderReply

structure OrderCall where
  direction : Direction
  lots : ℚ
  sl : Option ℚ
  tp : Option ℚ
  comment : String
deriving DecidableEq, Repr

def truthy (x : Option ℚ) : Option ℚ := x.filter fun q => decide (q ≠ 0)

def autoTradingText : String :=
  "AutoTrading is disabled in MetaTrader 5. " ++
    "Click the AutoTrading button (robot icon) in the MT5 toolbar to enable it, " ++
    "then retry your trade."

section Preflight
variable (call : OrderCall) (tick : Tick) (info : SymbolInfo)

def normaliseLots : ℚ :=
  let step := if info.volumeStep = 0 then 1 / 100 else info.volumeStep
  let lots := roundTo 2 (roundHalfEven (call.lots / step) * step)
  max info.volumeMin (min info.volumeMax lots)

/-- The least distance of a stop from the price; zero means no limit. -/
def minDist : ℚ :=
  let point := if info.point = 0 then 1 / 100 else info.point
  let points := max info.tradeStopsLevel info.tradeFreezeLevel
  if 0 < points then (points + 1) * point else 0

def padStops : Option ℚ × Option ℚ :=
  let dist := minDist info
  let pad (level : Option ℚ) (tooClose : ℚ → Prop) [DecidablePred tooClose] (far : ℚ) :=
    match truthy level with
    | none => level
    | some x => if tooClose x then some (roundTo 2 far) else level
  if dist ≤ 0 then (call.sl, call.tp)
  else
    match call.direction with
    | .buy =>
        (pad call.sl (fun x => tick.bid - dist < x) (tick.bid - dist),
          pad call.tp (fun x => x < tick.ask + dist) (tick.ask + dist))
    | .sell =>
        (pad call.sl (fun x => x < tick.ask + dist) (tick.ask + dist),
          pad call.tp (fun x => tick.bid - dist < x) (tick.bid - dist))

def orderRequest (filling : Filling) : OrderRequest :=
  let (sl, tp) := padStops call tick info
  { direction := call.direction
    volume := normaliseLots call info
    price := match call.direction with
      | .buy => tick.ask
      | .sell => tick.bid
    sl := (truthy sl).map (roundTo 2)
    tp := (truthy tp).map (roundTo 2)
    comment := String.ofList (call.comment.toList.take 31)
    filling := filling }

end Preflight

def preflight (m : Terminal) : Except OrderReply (Tick × SymbolInfo) :=
  if !m.connected then .error (.plain ("Not connected: " ++ m.lastConnectError) none)
  else
    match m.tick, m.symbol, m.tradeAllowed with
    | .raised e, _, _ => .error (.plain e none)
    | .none, _, _ => .error (.plain "No tick — symbol unavailable" none)
    | .value _, .raised e, _ => .error (.plain e none)
    | .value _, .none, _ => .error (.plain "Symbol info unavailable" none)
    | .value tick, .value info, allowed =>
        if info.tradeMode = 0 then
          .error (.plain "Trading is disabled for XAUUSD on this account." none)
        else if info.tradeMode = 3 then
          .error (.plain ("XAUUSD is in close-only mode. " ++
            "The market is likely outside its trading hours — " ++
            "XAUUSD trades Monday to Friday. Check the MT5 terminal for session times.")
            (some .marketClosed))
        else
          match allowed with
          | .raised e => .error (.plain e none)
          | .value false => .error (.plain autoTradingText (some (.code 10027)))
          | _ => .ok (tick, info)

def fillModes : List Filling := [.return, .ioc, .fok]

/-- The answers of the loop over the filling modes, in order. -/
def sendAll (send : Filling → SendAnswer) : List Filling → List SendAnswer
  | [] => []
  | mode :: modes =>
      if (send mode).isFillError then send mode :: sendAll send modes else [send mode]

def rejection (r : SendResult) : OrderReply :=
  if r.retcode = 10027 then .plain autoTradingText (some (.code 10027))
  else if r.retcode = 10030 then
    .plain ("XAUUSD rejected the order under every supported filling mode " ++
      "(retcode 10030 on RETURN, IOC, and FOK). This usually means the " ++
      "symbol isn't accepting any new orders right now — check the MT5 " ++
      "terminal for the current session state (this can happen during a " ++
      "session gap or broker rollover even within normal trading hours) " ++
      "rather than assuming the market is simply closed.") (some (.code 10030))
  else if r.retcode = 10018 then
    .plain "Market is closed or not accepting new orders for XAUUSD at this time."
      (some (.code 10018))
  else
    .plain ("Order failed retcode=" ++ toString r.retcode ++ ": " ++ r.comment)
      (some (.code r.retcode))

def replyTo (m : Terminal) (call : OrderCall) (stops : Option ℚ × Option ℚ) :
    SendAnswer → OrderReply
  | .answered r =>
      if r.retcode = retcodeDone then
        .placed ⟨r.order, r.price, r.volume, call.direction, stops.1, stops.2⟩
      else rejection r
  | .none =>
      match m.lastError with
      | .ok text => .lost ("order_send returned None: " ++ text)
      | .error e => .plain e none
  | .raised e => .plain e none

/-- `_place_order`, with the answers its sends were given. -/
def placeOrder (m : Terminal) (call : OrderCall) : OrderReply × List SendAnswer :=
  match preflight m with
  | .error reply => (reply, [])
  | .ok (tick, info) =>
      let sends := sendAll (fun mode => m.orderSend (orderRequest call tick info mode)) fillModes
      (replyTo m call (padStops call tick info) (sends.getLastD .none), sends)

structure HttpError where
  text : String
  className : String
deriving DecidableEq, Repr

/-- The HTTP exchange with the bridge process. `served` says whether the request
was handled behind an answer that is lost or is not the bridge's own. -/
inductive Exchange where
  | answered
  | notJson (status : ℕ) (text : String) (decode : HttpError) (served : Bool)
  | neverSent (e : HttpError)
  | broken (e : HttpError) (served : Bool)
deriving DecidableEq, Repr

def Exchange.served : Exchange → Bool
  | .answered => true
  | .notJson _ _ _ served => served
  | .neverSent _ => false
  | .broken _ served => served

/-- `_send_failure`. Connect errors and pool timeouts happen before the request
leaves the machine. -/
def sendFailure (neverSent : Bool) (e : HttpError) : OrderReply :=
  let error := if e.text = "" then e.className else e.text
  if neverSent then .plain error none else .lost error

def OrderCall.labelled (call : OrderCall) : OrderCall :=
  { call with comment := if call.comment = "" then "ForexTrader" else call.comment }

/-- `MT5BridgeClient.place_order` over one exchange, with the answers of the
sends made during it. -/
def clientPlaceOrder (configured : Bool) (exchange : Exchange) (m : Terminal) (call : OrderCall) :
    OrderReply × List SendAnswer :=
  if !configured then (.plain "MT5 bridge not configured" none, [])
  else
    let (reply, sends) := placeOrder m call.labelled
    let made := if exchange.served then sends else []
    match exchange with
    | .answered => (reply, made)
    | .notJson status text decode _ =>
        if status = 200 ∨ status = 201 then (sendFailure false decode, made)
        else
          (.plain ("HTTP " ++ toString status ++ ": " ++ String.ofList (text.toList.take 200)) none,
            made)
    | .neverSent e => (sendFailure true e, made)
    | .broken e _ => (sendFailure false e, made)

end Forex
