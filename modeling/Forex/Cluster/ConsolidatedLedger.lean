import Forex.Cluster.Forwarding
import Forex.Support.Decimal
import Forex.Support.Run
import Mathlib.Logic.Function.Basic

/-!
The ledger of closed trades that two paired nodes keep. Each node publishes its
own trades in live messages; only the Mac asks for the whole ledger of the
other, and the answer has its own rows as well.
-/

namespace Forex

/-- The handlers of the live message take none without an id. -/
def TradeId := { id : String // id ≠ "" }
deriving DecidableEq

inductive TradeGrade where
  | win
  | loss
  | be
deriving DecidableEq, Repr

/-- The columns that `record_consolidated_trade` takes from a trade. -/
structure LedgerTrade where
  engine : String
  direction : String
  strategy : Option String
  openTime : Option ℚ
  closeTime : Option ℚ
  pnlDollars : Option ℚ
  outcome : Option TradeGrade
  tgSource : Option String
  mt5Ticket : Option ℤ
  maxTpHit : Option String
  rr : Option ℚ
deriving DecidableEq, Repr

structure LedgerRow extends LedgerTrade where
  receivedAt : ℚ
deriving DecidableEq, Repr

abbrev Figures := Option ℚ × Option TradeGrade

def gradeOutcome (pnlDollars : ℚ) : TradeGrade :=
  if 1 / 2 < pnlDollars then .win else if pnlDollars < -1 / 2 then .loss else .be

namespace LedgerTrade

def figures (t : LedgerTrade) : Figures := (t.pnlDollars, t.outcome)

/-- The columns of an existing row after the trade is recorded over it. -/
def onto (t old : LedgerTrade) : LedgerTrade :=
  { old with
    closeTime := t.closeTime
    pnlDollars := t.pnlDollars
    outcome := t.outcome
    tgSource := t.tgSource
    mt5Ticket := t.mt5Ticket
    maxTpHit := t.maxTpHit.or old.maxTpHit
    rr := t.rr.or old.rr }

/-- What the trade overwrites is in the row already. -/
structure Agrees (t row : LedgerTrade) : Prop where
  closeTime : t.closeTime = row.closeTime
  pnlDollars : t.pnlDollars = row.pnlDollars
  outcome : t.outcome = row.outcome
  tgSource : t.tgSource = row.tgSource
  mt5Ticket : t.mt5Ticket = row.mt5Ticket
  maxTpHit : t.maxTpHit = none ∨ t.maxTpHit = row.maxTpHit
  rr : t.rr = none ∨ t.rr = row.rr

/-- `amend_trade_pnl`: the row with the settled figure, graded before rounding. -/
def corrected (t : LedgerTrade) (pnlDollars : ℚ) : LedgerTrade :=
  { t with
    pnlDollars := some (Support.roundTo 4 pnlDollars)
    outcome := some (gradeOutcome pnlDollars) }

end LedgerTrade

/-- The columns of a trade that `record_close` publishes. -/
structure ClosingRow where
  direction : String
  strategy : Option String
  openTime : Option ℚ
  tgSource : Option String
  mt5Ticket : Option ℤ
  entryPrice : Option ℚ
  stopLoss : Option ℚ
  tp1 : Option ℚ

namespace ClosingRow

def rr (row : ClosingRow) : Option ℚ :=
  match row.entryPrice, row.stopLoss, row.tp1 with
  | some entry, some sl, some tp1 =>
      if sl = entry then none else some (|tp1 - entry| / |entry - sl|)
  | _, _, _ => none

/-- `record_close` grades the gross of the part it closed, not the figure it
publishes. -/
def recordClosePush (row : ClosingRow) (now prevNetPnl netPnl grossPnl : ℚ) : LedgerTrade where
  engine := "main"
  direction := row.direction
  strategy := row.strategy
  openTime := row.openTime
  closeTime := some now
  pnlDollars := some (Support.roundTo 4 (prevNetPnl + netPnl))
  outcome := some (gradeOutcome grossPnl)
  tgSource := row.tgSource
  mt5Ticket := row.mt5Ticket
  maxTpHit := none
  rr := row.rr

end ClosingRow

/-- Each row is known by the node that published it, and the trade. -/
abbrev LedgerRows := NodeRole → TradeId → Option LedgerRow

abbrev LedgerWrites := NodeRole → TradeId → Option LedgerTrade

def NodeRole.peer : NodeRole → NodeRole
  | .client => .server
  | .server => .client

/-- The `node_id` of a live message is always its sender's. -/
inductive LedgerMsg where
  | tradeClosed (id : TradeId) (trade : LedgerTrade)
  | ledgerPull
  | ledgerPush (rows : LedgerRows)

def LedgerWrites.single (owner : NodeRole) (id : TradeId) (trade : LedgerTrade) : LedgerWrites :=
  fun o i => if o = owner ∧ i = id then some trade else none

namespace LedgerMsg

def closed? : LedgerMsg → Option (TradeId × LedgerTrade)
  | .tradeClosed id trade => some (id, trade)
  | _ => none

/-- What a node records when it applies the message. -/
def writes (sender : NodeRole) : LedgerMsg → LedgerWrites
  | .tradeClosed id trade => .single sender id trade
  | .ledgerPull => fun _ _ => none
  | .ledgerPush rows => fun owner id => (rows owner id).map LedgerRow.toLedgerTrade

end LedgerMsg

structure LedgerNode where
  ledger : LedgerRows
  /-- The forwards that are scheduled, the oldest first. -/
  tasks : List (TradeId × LedgerTrade)
  /-- History: the messages applied. -/
  seen : List LedgerMsg

namespace LedgerNode
variable (n : LedgerNode)

/-- `record_consolidated_trade`, for each of some rows. -/
def record (now : ℚ) (writes : LedgerWrites) : LedgerNode :=
  { n with
    ledger := fun owner id =>
      match writes owner id, n.ledger owner id with
      | none, row => row
      | some trade, none => some { toLedgerTrade := trade, receivedAt := now }
      | some trade, some row =>
          some { toLedgerTrade := trade.onto row.toLedgerTrade, receivedAt := now } }

def recordConsolidatedTrade (now : ℚ) (owner : NodeRole) (id : TradeId) (trade : LedgerTrade) :
    LedgerNode :=
  n.record now (.single owner id trade)

def figuresAt (owner : NodeRole) (id : TradeId) : Option Figures :=
  (n.ledger owner id).map fun row => row.figures

end LedgerNode

structure LedgerPair where
  node : NodeRole → LedgerNode
  /-- The messages on their way to a node. -/
  inbox : NodeRole → List LedgerMsg
  connected : Bool
  /-- History: the figures that the owner published last. -/
  latest : NodeRole → TradeId → Option Figures

/-- What one call meets: whether the local ledger can be read and written, and
whether a loop runs in the thread it is made from. -/
structure PushEnv where
  recorded : Bool
  onLoop : Bool

inductive LedgerStep where
  | push (role : NodeRole) (id : TradeId) (trade : LedgerTrade) (env : PushEnv)
  | amend (role : NodeRole) (id : TradeId) (pnlDollars : ℚ) (env : PushEnv)
  | runTask (role : NodeRole) (recorded sent : Bool)
  | pull
  | deliver (role : NodeRole) (kept : NodeRole → TradeId → Bool)
  | drop
  | connect
  /-- The message of that number is applied once more. -/
  | again (role : NodeRole) (k : ℕ)

namespace LedgerPair
variable (s : LedgerPair) (now : ℚ)

def setNode (role : NodeRole) (n : LedgerNode) : LedgerPair :=
  { s with node := Function.update s.node role n }

def send (sender : NodeRole) (m : LedgerMsg) : LedgerPair :=
  { s with inbox := Function.update s.inbox sender.peer (s.inbox sender.peer ++ [m]) }

def publish (owner : NodeRole) (id : TradeId) (f : Figures) : LedgerPair :=
  { s with latest := fun o i => if o = owner ∧ i = id then some f else s.latest o i }

/-- The link ends, and what was under way on it is lost. -/
def dropLink : LedgerPair :=
  { s with connected := false, inbox := fun _ => [] }

/-- The Mac schedules a forward while it is connected; the server looks for
connected Macs only when the forward runs. -/
def forwards (role : NodeRole) (env : PushEnv) : Bool :=
  env.onLoop && match role with
    | .client => s.connected
    | .server => true

def pushTradeClosed (role : NodeRole) (id : TradeId) (trade : LedgerTrade) (env : PushEnv) :
    LedgerPair :=
  let s := s.publish role id trade.figures
  if env.recorded then
    let n := (s.node role).recordConsolidatedTrade now role id trade
    s.setNode role (if s.forwards role env then { n with tasks := n.tasks ++ [(id, trade)] } else n)
  else s

/-- A trade without a row of the node's own is left alone. -/
def amendTradePnl (role : NodeRole) (id : TradeId) (pnlDollars : ℚ) (env : PushEnv) :
    LedgerPair :=
  match (s.node role).ledger role id with
  | none => s
  | some row => s.pushTradeClosed now role id (row.corrected pnlDollars) env

/-- `push_own_trade_closed` of the server records the trade once more, and
sends nothing where that raises; `push_trade_closed` of the client only sends. -/
def runTask (role : NodeRole) (recorded sent : Bool) : LedgerPair :=
  match (s.node role).tasks with
  | [] => s
  | (id, trade) :: rest =>
      let n := { s.node role with tasks := rest }
      match role, recorded with
      | .server, false => s.setNode role n
      | .server, true =>
          let s := s.setNode role (n.recordConsolidatedTrade now role id trade)
          if s.connected && sent then s.send role (.tradeClosed id trade) else s
      | .client, _ =>
          let s := s.setNode role n
          if s.connected && sent then s.send role (.tradeClosed id trade) else s

def apply (role : NodeRole) (m : LedgerMsg) (writes : LedgerWrites) : LedgerPair :=
  s.setNode role ((({ s.node role with seen := (s.node role).seen ++ [m] } : LedgerNode)).record
    now writes)

/-- A live message that cannot be recorded ends the link. A row of an answer
that cannot be recorded costs that row. -/
def handle (role : NodeRole) (kept : NodeRole → TradeId → Bool) (m : LedgerMsg) : LedgerPair :=
  match role, m with
  | role, .tradeClosed id _ =>
      if kept role.peer id then s.apply now role m (m.writes role.peer) else s.dropLink
  | .server, .ledgerPull => s.send .server (.ledgerPush (s.node .server).ledger)
  | .client, .ledgerPush _ =>
      s.apply now .client m fun owner id =>
        if kept owner id then m.writes .server owner id else none
  | _, _ => s

def deliver (role : NodeRole) (kept : NodeRole → TradeId → Bool) : LedgerPair :=
  match s.inbox role with
  | [] => s
  | m :: rest =>
      ({ s with inbox := Function.update s.inbox role rest } : LedgerPair).handle now role kept m

def again (role : NodeRole) (k : ℕ) : LedgerPair :=
  match (s.node role).seen[k]? with
  | none => s
  | some m => s.setNode role ((s.node role).record now (m.writes role.peer))

def step : ℚ × LedgerStep → LedgerPair
  | (now, .push role id trade env) => s.pushTradeClosed now role id trade env
  | (now, .amend role id pnlDollars env) => s.amendTradePnl now role id pnlDollars env
  | (now, .runTask role recorded sent) => s.runTask now role recorded sent
  | (_, .pull) => if s.connected then s.send .client .ledgerPull else s
  | (now, .deliver role kept) => s.deliver now role kept
  | (_, .drop) => s.dropLink
  | (_, .connect) => { s with connected := true }
  | (now, .again role k) => s.again now role k

/-- Two nodes before their first trade. -/
def paired : LedgerPair where
  node := fun _ => ⟨fun _ _ => none, [], []⟩
  inbox := fun _ => []
  connected := false
  latest := fun _ _ => none

/-- Both nodes hold what each owner published last. -/
def HoldsLatest : Prop :=
  ∀ owner id f, s.latest owner id = some f →
    ∀ role, (s.node role).figuresAt owner id = some f

/-- The nodes are connected, and every forward and message has been dealt with. -/
structure Settled (s : LedgerPair) : Prop where
  connected : s.connected = true
  tasks : ∀ role, (s.node role).tasks = []
  inbox : ∀ role, s.inbox role = []

/-- One pull of the Mac and its answer. -/
def exchange : LedgerPair :=
  [LedgerStep.pull, .deliver .server fun _ _ => true, .deliver .client fun _ _ => true].foldl
    (fun s e => s.step (now, e)) s

def NeverRegresses : Prop :=
  s.Settled → ∀ now, (s.exchange now).HoldsLatest

/-- A message applied once more changes no row but for the time it came. -/
def RepeatsNothing : ℚ × LedgerStep → Prop
  | (now, .again role k) => ∀ holder owner id,
      (((s.again now role k).node holder).ledger owner id).map LedgerRow.toLedgerTrade =
        ((s.node holder).ledger owner id).map LedgerRow.toLedgerTrade
  | _ => True

/-- No live message is on its way to the server. -/
def NothingUp : Prop := (s.inbox .server).filterMap LedgerMsg.closed? = []

def Forwarded (role : NodeRole) (id : TradeId) (env : PushEnv) : Prop :=
  env.recorded = true ∧
    match role with
    | .client => env.onLoop = true ∧ s.connected = true
    | .server => env.onLoop = true ∨ ∀ e ∈ (s.node .server).tasks, e.1 ≠ id

/-- The Mac's live messages reach the ledger of the server, no older forward of
the server is behind what it publishes, and a message is applied again only to
rows that still have what it brought. -/
def Arrives : ℚ × LedgerStep → Prop
  | (_, .push role id _ env) => s.Forwarded role id env
  | (_, .amend role id _ env) => (s.node role).ledger role id ≠ none → s.Forwarded role id env
  | (_, .runTask .client _ sent) =>
      (s.node .client).tasks ≠ [] → s.connected = true ∧ sent = true
  | (_, .runTask .server recorded _) =>
      recorded = true ∨ ∀ e ∈ (s.node .server).tasks.head?,
        (s.node .server).figuresAt .server e.1 = some e.2.figures
  | (_, .deliver role kept) => ∀ id trade, (s.inbox role).head? = some (.tradeClosed id trade) →
      kept role.peer id = true ∨ role = .client ∧ s.NothingUp
  | (_, .drop) => s.NothingUp
  | (_, .again role k) => ∀ m, (s.node role).seen[k]? = some m →
      ∀ owner id trade, m.writes role.peer owner id = some trade →
        ∃ row, (s.node role).ledger owner id = some row ∧ trade.Agrees row.toLedgerTrade
  | _ => True

end LedgerPair

theorem LedgerTrade.Agrees.onto_eq {t row : LedgerTrade} (agrees : t.Agrees row) :
    t.onto row = row := by
  have kept {α : Type} {new old : Option α} (h : new = none ∨ new = old) : new.or old = old := by
    rcases h with rfl | rfl
    · exact Option.none_or
    · exact Option.or_self
  rw [onto, agrees.closeTime, agrees.pnlDollars, agrees.outcome, agrees.tgSource, agrees.mt5Ticket,
    kept agrees.maxTpHit, kept agrees.rr]

namespace LedgerNode
variable {n : LedgerNode} (now : ℚ)

/-- The figures of a row after those under way have been recorded. -/
def arriving (id : TradeId) (sent : List (TradeId × LedgerTrade)) (f : Option Figures) :
    Option Figures :=
  sent.foldl (fun f e => if e.1 = id then some e.2.figures else f) f

theorem arriving_last (i id : TradeId) (xs : List (TradeId × LedgerTrade)) (trade : LedgerTrade)
    (f : Option Figures) : arriving i (xs ++ [(id, trade)]) f =
      if i = id then some trade.figures else arriving i xs f := by
  rw [arriving, List.foldl_append]
  simp only [arriving, List.foldl_cons, List.foldl_nil, eq_comm (a := id)]

theorem arriving_head (i id : TradeId) (trade : LedgerTrade) (rest : List (TradeId × LedgerTrade))
    (f : Option Figures) : arriving i ((id, trade) :: rest) f =
      arriving i rest (if i = id then some trade.figures else f) := by
  simp only [arriving, List.foldl_cons, eq_comm (a := id)]

theorem arriving_of_absent {id : TradeId} {sent : List (TradeId × LedgerTrade)}
    (absent : ∀ e ∈ sent, e.1 ≠ id) (f : Option Figures) : arriving id sent f = f := by
  induction sent with
  | nil => rfl
  | cons e rest ih =>
      rw [List.forall_mem_cons] at absent
      rw [arriving, List.foldl_cons, if_neg absent.1]
      exact ih absent.2

theorem record_same {writes : LedgerWrites}
    (agrees : ∀ owner id trade, writes owner id = some trade →
      ∃ row, n.ledger owner id = some row ∧ trade.Agrees row.toLedgerTrade)
    (owner : NodeRole) (id : TradeId) :
    ((n.record now writes).ledger owner id).map LedgerRow.toLedgerTrade =
      (n.ledger owner id).map LedgerRow.toLedgerTrade := by
  dsimp only [LedgerNode.record]
  cases new : writes owner id with
  | none => rfl
  | some trade =>
      obtain ⟨row, found, same⟩ := agrees owner id trade new
      rw [found]
      exact congrArg some same.onto_eq

theorem record_figuresAt (writes : LedgerWrites) (owner : NodeRole) (id : TradeId) :
    (n.record now writes).figuresAt owner id =
      ((writes owner id).map LedgerTrade.figures).or (n.figuresAt owner id) := by
  dsimp only [figuresAt, LedgerNode.record]
  cases writes owner id with
  | none => rfl
  | some trade => cases n.ledger owner id <;> rfl

theorem recordConsolidatedTrade_figuresAt (owner : NodeRole) (id : TradeId) (trade : LedgerTrade)
    (o : NodeRole) (i : TradeId) :
    (n.recordConsolidatedTrade now owner id trade).figuresAt o i =
      if o = owner ∧ i = id then some trade.figures else n.figuresAt o i := by
  rw [recordConsolidatedTrade, record_figuresAt, LedgerWrites.single]
  split <;> rfl

end LedgerNode

namespace LedgerPair
open LedgerNode
variable {s : LedgerPair} {now : ℚ}

/-- What an owner has published and the server has still to record, in order. -/
def onTheWay (s : LedgerPair) : NodeRole → List (TradeId × LedgerTrade)
  | .client => (s.inbox .server).filterMap LedgerMsg.closed? ++ (s.node .client).tasks
  | .server => (s.node .server).tasks

def expected (s : LedgerPair) (owner : NodeRole) (id : TradeId) : Option Figures :=
  arriving id (s.onTheWay owner) ((s.node .server).figuresAt owner id)

/-- What an owner published last is what the server is going to hold. -/
def Follows (s : LedgerPair) : Prop := ∀ owner id, s.latest owner id = s.expected owner id

theorem follows_paired : paired.Follows := by
  intro owner id
  cases owner <;> rfl

/-- Only the forwards, the messages to the server and its ledger matter for what
it is going to hold. -/
theorem Follows.of_same (h : s.Follows) {s' : LedgerPair} (latest : s'.latest = s.latest)
    (onTheWay : ∀ owner, s'.onTheWay owner = s.onTheWay owner)
    (figures : ∀ owner id,
      (s'.node .server).figuresAt owner id = (s.node .server).figuresAt owner id) :
    s'.Follows := by
  intro owner id
  rw [latest, h, expected, expected, onTheWay, figures]

/-- The server records the oldest that is on the way to it. -/
theorem Follows.of_head (h : s.Follows) {s' : LedgerPair} {owner : NodeRole} {id : TradeId}
    {trade : LedgerTrade} (latest : s'.latest = s.latest)
    (head : s.onTheWay owner = (id, trade) :: s'.onTheWay owner)
    (others : ∀ o, o ≠ owner → s'.onTheWay o = s.onTheWay o)
    (figures : ∀ o i, (s'.node .server).figuresAt o i =
      if o = owner ∧ i = id then some trade.figures else (s.node .server).figuresAt o i) :
    s'.Follows := by
  intro o i
  rw [latest, h, expected, expected, figures]
  by_cases own : o = owner
  · subst own
    rw [head, arriving_head]
    simp only [true_and]
  · rw [others o own, if_neg fun key => own key.1]

/-- What is published is put behind what is on the way. -/
theorem Follows.of_queued (h : s.Follows) {s' : LedgerPair} {owner : NodeRole} {id : TradeId}
    {trade : LedgerTrade}
    (latest : ∀ o i, s'.latest o i =
      if o = owner ∧ i = id then some trade.figures else s.latest o i)
    (queued : s'.onTheWay owner = s.onTheWay owner ++ [(id, trade)])
    (others : ∀ o, o ≠ owner → s'.onTheWay o = s.onTheWay o)
    (figures : ∀ o i, ¬ (o = owner ∧ i = id) →
      (s'.node .server).figuresAt o i = (s.node .server).figuresAt o i) : s'.Follows := by
  intro o i
  rw [latest, h, expected, expected]
  by_cases own : o = owner
  · subst own
    rw [queued, arriving_last]
    by_cases same : i = id
    · rw [if_pos ⟨rfl, same⟩, if_pos same]
    · rw [if_neg fun key => same key.2, if_neg same, figures o i fun key => same key.2]
  · have other : ¬ (o = owner ∧ i = id) := fun key => own key.1
    rw [if_neg other, others o own, figures o i other]

/-- What is published is in the ledger of the server already. -/
theorem Follows.of_held (h : s.Follows) {s' : LedgerPair} {owner : NodeRole} {id : TradeId}
    {f : Figures} (latest : ∀ o i, s'.latest o i =
      if o = owner ∧ i = id then some f else s.latest o i)
    (onTheWay : ∀ o, s'.onTheWay o = s.onTheWay o) (absent : ∀ e ∈ s.onTheWay owner, e.1 ≠ id)
    (figures : ∀ o i, (s'.node .server).figuresAt o i =
      if o = owner ∧ i = id then some f else (s.node .server).figuresAt o i) : s'.Follows := by
  intro o i
  rw [latest, h, expected, expected, onTheWay, figures]
  split
  case isTrue key =>
      rw [key.1, key.2, arriving_of_absent absent]
  case isFalse => rfl

theorem pushTradeClosed_latest (now : ℚ) (role : NodeRole) (id : TradeId) (trade : LedgerTrade)
    (env : PushEnv) (o : NodeRole) (i : TradeId) :
    (s.pushTradeClosed now role id trade env).latest o i =
      if o = role ∧ i = id then some trade.figures else s.latest o i := by
  rw [pushTradeClosed]
  dsimp only
  split <;> rfl

theorem Follows.push (h : s.Follows) {role : NodeRole} {id : TradeId} {env : PushEnv}
    (trade : LedgerTrade) (forwarded : s.Forwarded role id env) :
    (s.pushTradeClosed now role id trade env).Follows := by
  obtain ⟨recorded, link⟩ := forwarded
  have latest := s.pushTradeClosed_latest now role id trade env
  have rows : ∀ o i, _ = _ :=
    (s.node role).recordConsolidatedTrade_figuresAt now role id trade
  revert latest
  rw [pushTradeClosed]
  dsimp only
  rw [if_pos recorded]
  intro latest
  cases role with
  | client =>
      have sent : (s.publish .client id trade.figures).forwards .client env = true := by
        rw [forwards, link.1]
        exact link.2
      rw [if_pos sent] at latest ⊢
      refine h.of_queued latest (List.append_assoc _ _ _).symm ?_ fun _ _ _ => rfl
      intro o other
      cases o with
      | client => exact absurd rfl other
      | server => rfl
  | server =>
      have forwards : (s.publish .server id trade.figures).forwards .server env = env.onLoop :=
        Bool.and_true _
      rw [forwards] at latest ⊢
      by_cases loop : env.onLoop = true
      · rw [if_pos loop] at latest ⊢
        refine h.of_queued latest rfl ?_ fun o i other => (rows o i).trans (if_neg other)
        intro o other
        cases o with
        | client => rfl
        | server => exact absurd rfl other
      · rw [if_neg loop] at latest ⊢
        refine h.of_held latest ?_ (link.resolve_left loop) rows
        intro o
        cases o <;> rfl

theorem Follows.amend (h : s.Follows) {role : NodeRole} {id : TradeId} {env : PushEnv} (pnl : ℚ)
    (forwarded : (s.node role).ledger role id ≠ none → s.Forwarded role id env) :
    (s.amendTradePnl now role id pnl env).Follows := by
  rw [amendTradePnl]
  cases found : (s.node role).ledger role id with
  | none => exact h
  | some row =>
      exact h.push _ (forwarded (by rw [found]; exact Option.some_ne_none row))

theorem Follows.dropLink (h : s.Follows) (nothing : s.NothingUp) : s.dropLink.Follows := by
  refine h.of_same rfl ?_ (fun _ _ => rfl)
  intro owner
  cases owner with
  | client =>
      rw [onTheWay, onTheWay, nothing]
      rfl
  | server => rfl

theorem Follows.send (h : s.Follows) {sender : NodeRole} {m : LedgerMsg}
    (other : m.closed? = none) : (s.send sender m).Follows := by
  refine h.of_same rfl ?_ (fun _ _ => rfl)
  intro owner
  cases owner with
  | client =>
      cases sender with
      | client =>
          change (s.inbox .server ++ [m]).filterMap LedgerMsg.closed? ++ _ = _
          rw [List.filterMap_append, List.filterMap_cons_none other, List.filterMap_nil,
            List.append_nil]
          rfl
      | server => rfl
  | server => rfl

theorem Follows.sendClosed (h : s.Follows) (id : TradeId) (trade : LedgerTrade) :
    (s.send .server (.tradeClosed id trade)).Follows := by
  refine h.of_same rfl ?_ (fun _ _ => rfl)
  intro owner
  cases owner <;> rfl

theorem Follows.runTask (h : s.Follows) {role : NodeRole} {recorded sent : Bool}
    (ok : s.Arrives (now, .runTask role recorded sent)) :
    (s.runTask now role recorded sent).Follows := by
  rw [LedgerPair.runTask]
  cases tasks : (s.node role).tasks with
  | nil => exact h
  | cons e rest =>
      obtain ⟨id, trade⟩ := e
      cases role with
      | client =>
          have link := ok (by rw [tasks]; exact List.cons_ne_nil _ _)
          rw [← Bool.and_eq_true] at link
          dsimp only [setNode]
          rw [if_pos link]
          refine h.of_same rfl ?_ (fun _ _ => rfl)
          intro owner
          cases owner with
          | client =>
              rw [onTheWay, onTheWay, tasks]
              change (s.inbox .server ++ [_]).filterMap LedgerMsg.closed? ++ rest = _
              rw [List.filterMap_append, List.append_assoc]
              rfl
          | server => rfl
      | server =>
          have head : s.onTheWay .server = (id, trade) :: rest := tasks
          have others (s' : LedgerPair) (inbox : s'.inbox .server = s.inbox .server)
              (client : (s'.node .client).tasks = (s.node .client).tasks) (o : NodeRole)
              (other : o ≠ .server) : s'.onTheWay o = s.onTheWay o := by
            cases o with
            | client => rw [onTheWay, onTheWay, inbox, client]
            | server => exact absurd rfl other
          cases recorded with
          | false =>
              have held := (ok.resolve_left Bool.false_ne_true) (id, trade) (by rw [tasks]; rfl)
              refine h.of_head rfl head (others _ rfl rfl) ?_
              intro o i
              by_cases key : o = .server ∧ i = id
              · rw [if_pos key, key.1, key.2]
                exact held
              · rw [if_neg key]
                rfl
          | true =>
              have rows : ∀ o i, _ = _ := ({ s.node .server with tasks := rest } :
                LedgerNode).recordConsolidatedTrade_figuresAt now .server id trade
              have next : (s.setNode .server (({ s.node .server with tasks := rest } :
                  LedgerNode).recordConsolidatedTrade now .server id trade)).Follows :=
                h.of_head rfl head (others _ rfl rfl) rows
              dsimp only
              split
              · exact next.sendClosed id trade
              · exact next

/-- A message recorded at the Mac changes nothing of what the server holds. -/
theorem Follows.atMac (h : s.Follows) (m : LedgerMsg) (writes : LedgerWrites) :
    (s.apply now .client m writes).Follows := by
  refine h.of_same rfl ?_ (fun _ _ => rfl)
  intro owner
  cases owner <;> rfl

/-- A message taken from the queue, unless it is a live one to the server. -/
theorem Follows.taken (h : s.Follows) {role : NodeRole} {m : LedgerMsg} {rest : List LedgerMsg}
    (inbox : s.inbox role = m :: rest) (other : role = .client ∨ m.closed? = none) :
    ({ s with inbox := Function.update s.inbox role rest } : LedgerPair).Follows := by
  refine h.of_same rfl ?_ (fun _ _ => rfl)
  intro owner
  cases owner with
  | client =>
      cases role with
      | client => rfl
      | server =>
          have silent := other.resolve_left NodeRole.noConfusion
          rw [onTheWay, onTheWay, inbox, List.filterMap_cons_none silent]
          rfl
  | server => rfl

theorem Follows.deliver (h : s.Follows) {role : NodeRole} {kept : NodeRole → TradeId → Bool}
    (ok : s.Arrives (now, .deliver role kept)) : (s.deliver now role kept).Follows := by
  rw [LedgerPair.deliver]
  cases inbox : s.inbox role with
  | nil => exact h
  | cons m rest =>
      dsimp only
      cases role with
      | client =>
          have next := h.taken inbox (.inl rfl)
          cases m with
          | tradeClosed id trade =>
              rw [handle]
              split
              · exact next.atMac _ _
              · rename_i lost
                exact next.dropLink ((ok id trade (by rw [inbox]; rfl)).resolve_left lost).2
          | ledgerPull => exact next
          | ledgerPush rows => exact next.atMac _ _
      | server =>
          cases m with
          | tradeClosed id trade =>
              have kept := (ok id trade (by rw [inbox]; rfl)).resolve_right
                (fun h => NodeRole.noConfusion h.1)
              have rows : ∀ o i, _ = _ := ({ s.node .server with
                seen := (s.node .server).seen ++ [.tradeClosed id trade] } :
                LedgerNode).recordConsolidatedTrade_figuresAt now .client id trade
              rw [handle, if_pos kept]
              refine h.of_head rfl ?_ ?_ rows
              · rw [onTheWay, inbox]
                rfl
              · intro o other
                cases o with
                | client => exact absurd rfl other
                | server => rfl
          | ledgerPull => exact (h.taken inbox (.inr rfl)).send rfl
          | ledgerPush rows => exact h.taken inbox (.inr rfl)

theorem figuresAt_of_same {n m : LedgerNode} {owner : NodeRole} {id : TradeId}
    (same : (n.ledger owner id).map LedgerRow.toLedgerTrade =
      (m.ledger owner id).map LedgerRow.toLedgerTrade) :
    n.figuresAt owner id = m.figuresAt owner id := by
  have figures := congrArg (Option.map LedgerTrade.figures) same
  rw [Option.map_map, Option.map_map] at figures
  exact figures

theorem again_same {role : NodeRole} {k : ℕ} (ok : s.Arrives (now, .again role k))
    (holder owner : NodeRole) (id : TradeId) :
    (((s.again now role k).node holder).ledger owner id).map LedgerRow.toLedgerTrade =
      ((s.node holder).ledger owner id).map LedgerRow.toLedgerTrade := by
  rw [again]
  cases seen : (s.node role).seen[k]? with
  | none => rfl
  | some m =>
      dsimp only [setNode]
      rw [Function.update_apply]
      split
      case isTrue same =>
          rw [same]
          exact record_same now (ok m seen) owner id
      case isFalse => rfl

theorem Follows.again (h : s.Follows) {role : NodeRole} {k : ℕ}
    (ok : s.Arrives (now, .again role k)) : (s.again now role k).Follows := by
  refine h.of_same ?_ ?_ fun owner id => figuresAt_of_same (again_same ok .server owner id)
  · rw [LedgerPair.again]
    split <;> rfl
  · intro owner
    rw [LedgerPair.again]
    cases (s.node role).seen[k]? with
    | none => rfl
    | some m => cases owner <;> cases role <;> rfl

theorem Follows.step (h : s.Follows) (e : ℚ × LedgerStep) (ok : s.Arrives e) :
    (s.step e).Follows := by
  obtain ⟨now, e⟩ := e
  cases e with
  | push role id trade env => exact h.push trade ok
  | amend role id pnl env => exact h.amend pnl ok
  | runTask role recorded sent => exact h.runTask ok
  | pull =>
      rw [LedgerPair.step]
      split
      · exact h.send rfl
      · exact h
  | deliver role kept => exact h.deliver ok
  | drop => exact h.dropLink ok
  | connect => exact h.of_same rfl (fun owner => by cases owner <;> rfl) (fun _ _ => rfl)
  | again role k => exact h.again ok

theorem exchange_eq (settled : s.Settled) (now : ℚ) :
    (s.exchange now).latest = s.latest ∧ (s.exchange now).node .server = s.node .server ∧
      (s.exchange now).node .client =
        ({ s.node .client with
            seen := (s.node .client).seen ++ [.ledgerPush (s.node .server).ledger] } :
          LedgerNode).record now
          fun owner id => ((s.node .server).ledger owner id).map LedgerRow.toLedgerTrade := by
  obtain ⟨node, inbox, connected, latest⟩ := s
  obtain ⟨rfl, -, empty⟩ := settled
  obtain rfl : inbox = fun _ => [] := funext empty
  exact ⟨rfl, rfl, rfl⟩

theorem Follows.exchange_holds (h : s.Follows) (settled : s.Settled) (now : ℚ) :
    (s.exchange now).HoldsLatest := by
  obtain ⟨latest, server, client⟩ := exchange_eq settled now
  intro owner id f published role
  have held : (s.node .server).figuresAt owner id = some f := by
    have nothing : s.onTheWay owner = [] := by
      cases owner with
      | client => rw [onTheWay, settled.inbox, settled.tasks, List.filterMap_nil, List.nil_append]
      | server => exact settled.tasks .server
    rw [latest, h, expected, nothing] at published
    exact published
  cases role with
  | client =>
      rw [client, record_figuresAt, Option.map_map]
      change ((s.node .server).figuresAt owner id).or _ = _
      rw [held, Option.some_or]
  | server =>
      rw [server]
      exact held

/-- Along every run from two fresh nodes whose steps all meet the condition. -/
theorem ledger_never_regresses (run : List (ℚ × LedgerStep))
    (ok : Support.Meets step Arrives paired run) :
    (∀ s ∈ Support.states step paired run, s.NeverRegresses) ∧
      Support.Meets step RepeatsNothing paired run := by
  have keep : ∀ s e, Follows s → Arrives s e → Follows (step s e) := fun _ e h ok => h.step e ok
  constructor
  · intro s mem settled now
    have follows := Support.states_invariant keep follows_paired ok s mem
    exact follows.exchange_holds settled now
  · refine Support.meets_of_invariant keep ?_ follows_paired ok
    rintro s ⟨now, e⟩ h ok
    cases e with
    | again role k => exact fun holder owner id => again_same ok holder owner id
    | _ => exact True.intro

/-- A close without a price is booked at zero. -/
def pricelessClose : LedgerTrade :=
  ClosingRow.recordClosePush ⟨"BUY", some "tp1_trail", some 100, some "Gold", some 1935433548,
    some (447835 / 100), some (447335 / 100), some 4490⟩ 700 0 (-44783.5) (-44783.5)

def pricelessId : TradeId := ⟨"edba0ff6-f2b9-46", by decide⟩

/-- The live message of the close reaches the server. -/
def closedLive : List (ℚ × LedgerStep) :=
  [(0, .connect), (700, .push .client pricelessId pricelessClose ⟨true, true⟩),
    (700, .runTask .client true true), (701, .deliver .server fun _ _ => true)]

/-- The broker's figure comes while the link is down. -/
def amendedOffline : List (ℚ × LedgerStep) :=
  closedLive ++ [(702, .drop), (710, .amend .client pricelessId (-635.8) ⟨true, true⟩),
    (800, .connect)]

/-- The broker's figure is sent, and its message applied twice. -/
def amendedLive : List (ℚ × LedgerStep) :=
  closedLive ++ [(710, .amend .client pricelessId (-635.8) ⟨true, true⟩),
    (710, .runTask .client true true), (711, .deliver .server fun _ _ => true),
    (720, .again .server 1)]

theorem amended_live_is_held :
    (∀ s ∈ Support.states step paired amendedLive, s.NeverRegresses) ∧
      Support.Meets step RepeatsNothing paired amendedLive := by
  refine ledger_never_regresses amendedLive ⟨True.intro, ⟨rfl, rfl, rfl⟩, fun _ => ⟨rfl, rfl⟩,
    fun _ _ _ => .inl rfl, fun _ => ⟨rfl, rfl, rfl⟩, fun _ => ⟨rfl, rfl⟩,
    fun _ _ _ => .inl rfl, ?_, True.intro⟩
  intro m seen owner id trade writes
  obtain rfl := Option.some.inj seen
  by_cases own : owner = .client ∧ id = pricelessId
  · obtain ⟨rfl, rfl⟩ := own
    obtain rfl := Option.some.inj writes
    exact ⟨_, rfl, ⟨rfl, rfl, rfl, rfl, rfl, .inl rfl, .inr Option.or_self.symm⟩⟩
  · exact absurd ((if_neg own).symm.trans writes) (Option.some_ne_none trade).symm

theorem offline_amendment_is_undone :
    ¬ ∀ run : List (ℚ × LedgerStep),
      (∀ s ∈ Support.states step paired run, s.NeverRegresses) ∧
        Support.Meets step RepeatsNothing paired run := by
  intro all
  have settled : (amendedOffline.foldl step paired).Settled := by
    refine ⟨rfl, ?_, ?_⟩ <;> intro role <;> cases role <;> rfl
  have last := (all amendedOffline).1 _ (Support.foldl_mem_states step _ _) settled 801
  have held := last .client pricelessId (some (-635.8), some .loss) (by decide +kernel) .client
  exact absurd held (by decide +kernel)

end LedgerPair

end Forex
