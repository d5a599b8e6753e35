import Forex.Reconcile.Pollers

/-!
What the pollers do when the position read failed. Two of them do nothing, and
neither does the placeholder repair when the read raised. The stop-loss check
records the full close it was called for: its own documentation counts a check
that could not be trusted among the reasons for a local close.
-/

namespace Forex
open Support

/-- What the ledger sees of the calls of one poll. -/
structure PollEnv where
  now : ℚ
  tick : Read Tick
  reply : Reply
  legReply : LadderLeg → Reply
  profits : SyncView
  newId : ℤ → String
  strategy : Strategy
  /-- The query for the known tickets does not raise. -/
  knownReadable : Bool

namespace Trade

def applyBrokerClosePnl (net price : ℚ) : Assign Trade.tradeId where
  apply t :=
    { t with
      netPnl := net
      mt5Profit := some net
      closePrice := some price
      exitReason := some "reconciled_broker_closed" }
  keeps _ := rfl

def reassignMt5Ticket (ticket : ℤ) : Assign Trade.tradeId where
  apply t := { t with mt5Ticket := some ticket }
  keeps _ := rfl

/-- The update repeats the placeholder conditions of its selection. -/
def adoptPlaceholderOntoLeg (ticket : ℤ) (entry lots : ℚ) : Assign Trade.tradeId where
  apply t :=
    if t.isOpen && (linkedTicket t.mt5Ticket).isNone then
      { t with
        mt5Ticket := some ticket
        entryPrice := entry
        lotSize := lots
        remainingLots := lots }
    else t
  keeps t := by split_ifs <;> rfl

def recordPlaceholderFill (ticket : ℤ) (entry lotSize remaining profit : ℚ) :
    Assign Trade.tradeId where
  apply t :=
    { t with
      mt5Ticket := some ticket
      entryPrice := entry
      lotSize := lotSize
      remainingLots := remaining
      mt5Profit := some profit }
  keeps _ := rfl

end Trade

/-- `import_direct_mt5_position` with its sentinel signal. A position without a
stop violates the column's NOT NULL and the transaction is rolled back. -/
def importDirectMt5Position (db : Db) (env : PollEnv) (p : Position) : Option Db :=
  let sentinel : Signal := ⟨"MT5_DIRECT", .activated, env.now, none⟩
  let signals := (db.signals.insert sentinel).getD db.signals
  let risk := roundTo 4 (|p.openPrice - p.sl| * p.volume * contractSize)
  let openTs := if p.openTime = 0 then env.now else p.openTime
  let t := Trade.fresh (env.newId p.ticket) "MT5_DIRECT" (some p.ticket) p.direction p.openPrice
    p.volume p.sl [if p.tp = 0 then none else some p.tp] openTs env.strategy .python false
    (some p.sl) (some risk)
  match db.trades.insert t with
  | none => none
  | some trades => if p.sl = 0 then none else some { db with trades := trades, signals := signals }

/-- A position that could not be imported stays unknown. -/
def importUntracked (env : PollEnv) : Db → List ℤ → List Position → Db
  | db, _, [] => db
  | db, known, p :: ps =>
      if p.ticket ∈ known then importUntracked env db known ps
      else
        match importDirectMt5Position db env p with
        | some db => importUntracked env db (p.ticket :: known) ps
        | none => importUntracked env db known ps

/-- The known tickets are read after the loop; a failed query counts as none. -/
def knownTickets (env : PollEnv) (db : Db) : List ℤ :=
  if env.knownReadable then fetchKnownMt5Tickets db else []

def applyPollAction (env : PollEnv) (db : Db) : PollAction → Db
  | .fullClose tradeId price reason => recordCloseNow db tradeId price reason env.now
  | .partialClose tradeId lots price reason continued =>
      match partialCloseTrade db tradeId lots price reason env.now, continued with
      | none, _ => db
      | some w, none => w.apply db
      | some w, some ticket => (w.apply db).setTrade tradeId (Trade.reassignMt5Ticket ticket)
  | .closeTrade tradeId reason net price =>
      match closeTrade db tradeId reason env.tick env.reply env.legReply env.now with
      | .ok db => db.setTrade tradeId (Trade.applyBrokerClosePnl net price)
      | .error _ => db
  | .syncProfit tradeId ticket =>
      match syncProfit db tradeId ticket env.profits with
      | none => db
      | some w => (applyProfitSync db w.tradeId w.mt5Profit w.riskTotal w.allSettled).1
  | .adoptLeg tradeId ticket entry lots =>
      db.setTrade tradeId (Trade.adoptPlaceholderOntoLeg ticket entry lots)
  | .recordFill tradeId ticket entry lotSize remaining profit =>
      db.setTrade tradeId (Trade.recordPlaceholderFill ticket entry lotSize remaining profit)
  | .importUntracked positions => importUntracked env db (knownTickets env db) positions

def afterPoll (env : PollEnv) (db : Db) (actions : List PollAction) : Db :=
  actions.foldl (applyPollAction env) db

section Failed
variable (db : Db) (view : PollView)

theorem syncClosed_of_failed (threshold : ℕ) (streak : String → ℕ)
    (failed : ¬ view.positions.Succeeded) :
    syncClosedMt5Positions db view threshold streak = ⟨streak, []⟩ := by
  rw [syncClosedMt5Positions]
  cases positions : view.positions with
  | value ps =>
      rw [positions] at failed
      exact absurd trivial failed
  | none => simp
  | raised => simp

theorem reconcileOrphaned_of_failed (now : ℚ) (failed : ¬ view.positions.Succeeded) :
    reconcileOrphanedTrades db view now = [] := by
  rw [reconcileOrphanedTrades]
  cases positions : view.positions with
  | value ps =>
      rw [positions] at failed
      exact absurd trivial failed
  | none => simp [Read.orEmpty]
  | raised => simp [Read.orEmpty]

theorem repairPlaceholders_of_raised (now expiry : ℚ) (raised : view.positions = .raised) :
    repairTemplatePlaceholders db view now expiry = [] := by
  rw [repairTemplatePlaceholders]
  simp [raised, Read.orEmpty]

theorem reconcileSlHit_of_failed (trade : Trade) (price : ℚ) (reason : String)
    (failed : ¬ view.positions.Succeeded) :
    reconcileSlHit view trade price reason =
      (.closed, .fullClose trade.tradeId price reason ::
        ((linkedTicket trade.mt5Ticket).toList.map fun n => .syncProfit trade.tradeId n)) := by
  have unseen : ∀ n, ((view.positions.orEmpty).bind fun ps => liveVolume ps n) = none := by
    intro n
    cases positions : view.positions with
    | value ps =>
      rw [positions] at failed
      exact absurd trivial failed
    | none => rfl
    | raised => rfl
  rw [reconcileSlHit]
  cases ticket : linkedTicket trade.mt5Ticket with
  | none => rfl
  | some n => simp [unseen n]

end Failed

/-- When the position read failed, the two list comparisons and, if it raised,
the placeholder repair leave the book as it was; the stop-loss check books no
partial close and no write-off, and closes its own row at the crossed price. -/
theorem failed_read_closes_no_other_row (db : Db) (view : PollView) (env : PollEnv)
    (failed : ¬ view.positions.Succeeded) :
    (∀ threshold streak,
      (∀ a ∈ (syncClosedMt5Positions db view threshold streak).actions, a.closes = false) ∧
        afterPoll env db (syncClosedMt5Positions db view threshold streak).actions = db) ∧
    ((∀ a ∈ reconcileOrphanedTrades db view env.now, a.closes = false) ∧
      afterPoll env db (reconcileOrphanedTrades db view env.now) = db) ∧
    (view.positions = .raised → ∀ expiry,
      (∀ a ∈ repairTemplatePlaceholders db view env.now expiry, a.closes = false) ∧
        afterPoll env db (repairTemplatePlaceholders db view env.now expiry) = db) ∧
    (∀ trade price reason,
      (reconcileSlHit view trade price reason).1 = .closed ∧
      ((reconcileSlHit view trade price reason).2.filter PollAction.closes) =
        [.fullClose trade.tradeId price reason]) := by
  refine ⟨?_, ?_, ?_, ?_⟩
  · intro threshold streak
    rw [syncClosed_of_failed db view threshold streak failed]
    exact ⟨by simp, rfl⟩
  · rw [reconcileOrphaned_of_failed db view env.now failed]
    exact ⟨by simp, rfl⟩
  · intro raised expiry
    rw [repairPlaceholders_of_raised db view env.now expiry raised]
    exact ⟨by simp, rfl⟩
  · intro trade price reason
    rw [reconcileSlHit_of_failed view trade price reason failed]
    refine ⟨rfl, ?_⟩
    cases linkedTicket trade.mt5Ticket with
    | none => rfl
    | some n => rfl

def blindView : PollView where
  configured := true
  positions := .none
  connected := .value false
  weekDeals := .none
  positionHistory := fun _ => .none
  tick := .value ⟨1989, 1990⟩

def quietEnv : PollEnv where
  now := 5000
  tick := .value ⟨1989, 1990⟩
  reply := .raised
  legReply := fun _ => .raised
  profits := ⟨.none, .none, .none, fun _ => .none⟩
  newId := fun _ => "m1"
  strategy := .scaleOut
  knownReadable := true

theorem failed_read_closes_no_other_row_blind :
    (∀ a ∈ (syncClosedMt5Positions oneLotBook blindView 2 fun _ => 5).actions,
      a.closes = false) ∧
    (reconcileSlHit blindView Trade.oneLot 1990 "SL").1 = .closed := by
  have blind := failed_read_closes_no_other_row oneLotBook blindView quietEnv (by decide)
  exact ⟨(blind.1 2 fun _ => 5).1, (blind.2.2.2 Trade.oneLot 1990 "SL").1⟩

/-- An EA template row whose legs were never reported filled. -/
def Trade.placeholder : Trade :=
  Trade.fresh "t1" "s1" none .buy 0 1 1990 [] 0 (.template "grid") .ea false (some 1990) none

/-- The stop-loss check closes a broker-linked row on an unreadable book, and the
placeholder repair takes `None` for an empty list. -/
theorem failed_read_closes_rows :
    (¬ ∀ (view : PollView) (trade : Trade) (price : ℚ) (reason : String),
      ¬ view.positions.Succeeded → (linkedTicket trade.mt5Ticket).isSome →
        ∀ a ∈ (reconcileSlHit view trade price reason).2, a.closes = false) ∧
    repairTemplatePlaceholders (Db.single Trade.placeholder Table.empty) blindView 100000 86400 =
      [.fullClose "t1" 0 "no_fill_expired"] := by
  refine ⟨?_, by decide +kernel⟩
  intro claim
  have quiet := claim blindView Trade.oneLot 1990 "SL" (by decide) (by decide)
    (.fullClose "t1" 1990 "SL") (by decide)
  exact absurd quiet (by decide)

end Forex
