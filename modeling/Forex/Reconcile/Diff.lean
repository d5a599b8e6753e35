import Forex.Broker.Dedup
import Forex.Reconcile.Pollers
import Forex.Signals.Parked

/-!
The report-only reconciliation pass: `diff_snapshots` compares the broker's
positions and deals with the open rows and the parked signals, and
`collect_and_report` feeds it. A parked signal is looked for at the broker by
the id of the trade its send was for; the query behind the pass does not select
that id, so no parked signal is ever found.
-/

namespace Forex
open Support

inductive DiffKind where
  | brokerOnlyOurs
  | brokerOnlyManual
  | dbOnlyClosed
  | dbOnlyNoEvidence
  | unknownFilled
  | unknownNotFilled
  | matched
deriving DecidableEq, Repr

structure DiffEntry where
  kind : DiffKind
  tradeId : Option String
  signalId : Option String
  ticket : Option ℤ
  entryPrice : ℚ
  closePrice : ℚ
  profit : ℚ
  detail : String
deriving DecidableEq, Repr

/-- A row of `fetch_unknown_signals` as the diff reads it. -/
structure UnknownSignal where
  signalId : String
  tradeId : Option String
deriving DecidableEq, Repr

/-- `_comment_matches` at the prefixes of a trade id. -/
def carriesTrade (tradeId : String) (comment : String) : Bool :=
  (dedupPrefixes tradeId).any fun p => p.isPrefixOf comment.toList

def isOurs (comment : String) : Bool :=
  commentPrefix.isPrefixOf comment.toList || bridgeCommentPrefix.isPrefixOf comment.toList

def DiffEntry.closingDeals (deals : List Deal) : Option ℤ → List Deal
  | none => []
  | some ticket => deals.filter fun d => decide (d.positionId = ticket ∧ d.entry ≠ 0)

def ticketOf (row : Trade) : Option ℤ := nonzero (row.mt5Ticket.getD 0)

/-- The position of an open row: by its ticket, else by the order comment. -/
def matchFor (positions : List Position) (row : Trade) : Option Position :=
  let byTicket := (ticketOf row).bind fun ticket =>
    positions.find? fun p => decide (p.ticket = ticket)
  byTicket.or (positions.find? fun p => carriesTrade row.tradeId p.comment)

def rowEntry (positions : List Position) (deals : List Deal) (row : Trade) : DiffEntry :=
  match matchFor positions row with
  | some p =>
      ⟨.matched, some row.tradeId, none, nonzero p.ticket, p.openPrice, 0, 0,
        "open at the broker and in the database"⟩
  | none =>
      let closers := DiffEntry.closingDeals deals (ticketOf row)
      match latestDeal closers with
      | some last =>
          ⟨.dbOnlyClosed, some row.tradeId, none, ticketOf row, 0, last.price,
            roundTo 2 (closers.map Deal.money).sum,
            "closed at the broker across " ++ toString closers.length ++ " deal(s)"⟩
      | none =>
          ⟨.dbOnlyNoEvidence, some row.tradeId, none, ticketOf row, 0, 0, 0,
            "open in the database, and the broker has no record of it"⟩

def positionEntry (p : Position) : DiffEntry :=
  ⟨if isOurs p.comment then .brokerOnlyOurs else .brokerOnlyManual, none, none, nonzero p.ticket,
    p.openPrice, 0, 0,
    if isOurs p.comment then "we placed this and then lost its row — nothing is managing it"
    else "not placed by this app (no order id in its comment) — counts " ++
      "toward exposure, but never touch it: no stop moved, no close"⟩

def sendFilled (positions : List Position) (deals : List Deal) (sig : UnknownSignal) : Bool :=
  let tradeId := sig.tradeId.getD ""
  (positions.any fun p => carriesTrade tradeId p.comment) ||
    deals.any fun d => carriesTrade tradeId d.comment

/-- `trade_id or None`. -/
def UnknownSignal.trade (sig : UnknownSignal) : Option String :=
  sig.tradeId.filter fun tradeId => decide (tradeId ≠ "")

def unknownEntry (positions : List Position) (deals : List Deal) (sig : UnknownSignal) :
    DiffEntry :=
  let filled := sendFilled positions deals sig
  ⟨if filled then .unknownFilled else .unknownNotFilled, sig.trade, some sig.signalId, none,
    0, 0, 0,
    if filled then "the broker has this trade — the send did fill"
    else "the broker has no trace — the send did not fill"⟩

def diffSnapshots (positions : List Position) (deals : List Deal) (dbOpenTrades : List Trade)
    (unknownSignals : List UnknownSignal) : List DiffEntry :=
  let rows := dbOpenTrades.filter Trade.isOpen
  let claimed := rows.filterMap fun row => (matchFor positions row).map Position.ticket
  rows.map (rowEntry positions deals) ++
    (positions.filter fun p => decide (p.ticket ∉ claimed)).map positionEntry ++
    unknownSignals.map (unknownEntry positions deals)

namespace Db
variable (db : Db)

/-- `fetch_unknown_signals`: it selects the id and the notes, no trade id. -/
def fetchUnknownSignals : List UnknownSignal :=
  (db.signals.rows.filter fun s => decide (s.status = .unknown)).map fun s => ⟨s.signalId, none⟩

def openTradesByAge : List Trade :=
  (db.trades.rows.filter Trade.isOpen).insertionSort fun a b => b.openTime ≤ a.openTime

end Db

/-- `collect_and_report`, with the claim sweep it runs between the broker's
snapshot and its own. -/
def collectAndReport (db : Db) (now : ℚ) (positions : Read (List Position))
    (deals : Read (List Deal)) : Option (Db × List DiffEntry) :=
  match positions, deals.orEmpty with
  | .value positions, some deals =>
      let db := db.releaseStrandedActivations now
      some (db, diffSnapshots positions deals db.openTradesByAge db.fetchUnknownSignals)
  | _, _ => none

/-- The send reached the broker: a position or an opening deal carries its trade. -/
def ReachedBroker (tradeId : String) (positions : List Position) (deals : List Deal) : Prop :=
  (∃ p ∈ positions, carriesTrade tradeId p.comment = true) ∨
    ∃ d ∈ deals, d.opening = true ∧ carriesTrade tradeId d.comment = true

/-- The report says that the signal's send filled, and takes none of its
positions for an untracked one. -/
def ResolvedInReport (report : List DiffEntry) (positions : List Position)
    (signalId tradeId : String) : Prop :=
  (∃ e ∈ report, e.kind = .unknownFilled ∧ e.signalId = some signalId) ∧
    ∀ p ∈ positions, carriesTrade tradeId p.comment = true →
      ∀ e ∈ report, e.ticket = nonzero p.ticket →
        e.kind ≠ .brokerOnlyOurs ∧ e.kind ≠ .brokerOnlyManual

@[simp] theorem carriesTrade_empty (comment : String) : carriesTrade "" comment = false := by
  simp [carriesTrade, dedupPrefixes]

theorem rowEntry_kind (positions : List Position) (deals : List Deal) (row : Trade) :
    (rowEntry positions deals row).kind ≠ .unknownFilled := by
  simp only [rowEntry]
  split
  · simp
  · split <;> simp

theorem positionEntry_kind (p : Position) : (positionEntry p).kind ≠ .unknownFilled := by
  rw [positionEntry]
  split <;> simp

theorem unknownEntry_filled_iff (positions : List Position) (deals : List Deal)
    (sig : UnknownSignal) :
    (unknownEntry positions deals sig).kind = .unknownFilled ↔
      sendFilled positions deals sig = true := by
  simp only [unknownEntry]
  split <;> simp_all

/-- A signal is reported filled exactly when one of its rows names a trade that
a position or a deal carries. -/
theorem filled_mem_diffSnapshots_iff {positions : List Position} {deals : List Deal}
    {rows : List Trade} {unknown : List UnknownSignal} {signalId : String} :
    (∃ e ∈ diffSnapshots positions deals rows unknown,
      e.kind = .unknownFilled ∧ e.signalId = some signalId) ↔
      ∃ sig ∈ unknown, sig.signalId = signalId ∧ sendFilled positions deals sig = true := by
  simp only [diffSnapshots, List.mem_append, List.mem_map]
  constructor
  · rintro ⟨e, (⟨row, -, rfl⟩ | ⟨p, -, rfl⟩) | ⟨sig, mem, rfl⟩, filled, mine⟩
    · exact absurd filled (rowEntry_kind positions deals row)
    · exact absurd filled (positionEntry_kind p)
    · refine ⟨sig, mem, ?_, (unknownEntry_filled_iff positions deals sig).mp filled⟩
      exact Option.some.inj mine
  · rintro ⟨sig, mem, rfl, filled⟩
    exact ⟨_, .inr ⟨sig, mem, rfl⟩, (unknownEntry_filled_iff positions deals sig).mpr filled, rfl⟩

theorem sendFilled_of_no_trade (positions : List Position) (deals : List Deal) (signalId : String) :
    sendFilled positions deals ⟨signalId, none⟩ = false := by
  simp [sendFilled]

/-- A parked signal is reported as not filled, whatever the broker holds. -/
theorem unknown_mem_report {db db' : Db} {now : ℚ} {positions : List Position}
    {deals : Read (List Deal)} {report : List DiffEntry} {signalId : String}
    (collected : collectAndReport db now (.value positions) deals = some (db', report))
    (parked : db.statusOf signalId = some .unknown) :
    ∃ e ∈ report, e.kind = .unknownNotFilled ∧ e.signalId = some signalId := by
  simp only [collectAndReport] at collected
  cases read : deals.orEmpty with
  | none => simp [read] at collected
  | some ds =>
      simp only [read, Option.some.injEq, Prod.mk.injEq] at collected
      obtain ⟨rfl, rfl⟩ := collected
      have still := Db.release_keeps_unknown now parked
      obtain ⟨row, found, isUnknown⟩ := Option.map_eq_some_iff.mp still
      obtain ⟨mem, rfl⟩ := Table.find_eq_some_iff.mp found
      refine ⟨unknownEntry positions ds ⟨row.signalId, none⟩, ?_, ?_, rfl⟩
      · simp only [diffSnapshots, List.mem_append, List.mem_map]
        refine .inr ⟨⟨row.signalId, none⟩, ?_, rfl⟩
        exact List.mem_map.mpr ⟨row, List.mem_filter.mpr ⟨mem, by simp [isUnknown]⟩, rfl⟩
      · simp [unknownEntry, sendFilled_of_no_trade]

theorem no_filled_in_report {db db' : Db} {now : ℚ} {positions : List Position}
    {deals : List Deal} {report : List DiffEntry}
    (collected : collectAndReport db now (.value positions) (.value deals) = some (db', report))
    (signalId : String) :
    ¬ ∃ e ∈ report, e.kind = .unknownFilled ∧ e.signalId = some signalId := by
  intro filled
  simp only [collectAndReport, Read.orEmpty, Option.some.injEq, Prod.mk.injEq] at collected
  obtain ⟨rfl, rfl⟩ := collected
  obtain ⟨sig, mem, -, found⟩ := filled_mem_diffSnapshots_iff.mp filled
  obtain ⟨row, -, rfl⟩ := List.mem_map.mp mem
  rw [sendFilled_of_no_trade] at found
  exact absurd found (by simp)

/-- No pass resolves a parked signal: the report calls it not filled, whatever
trade its send was for and whatever the broker holds. -/
theorem parked_send_never_resolved (db db' : Db) (now : ℚ) (positions : List Position)
    (deals : List Deal) (report : List DiffEntry) (signalId tradeId : String)
    (collected : collectAndReport db now (.value positions) (.value deals) = some (db', report))
    (parked : db.statusOf signalId = some .unknown) :
    ¬ ResolvedInReport report positions signalId tradeId ∧
      ∃ e ∈ report, e.kind = .unknownNotFilled ∧ e.signalId = some signalId :=
  ⟨fun resolved => no_filled_in_report collected signalId resolved.1,
    unknown_mem_report collected parked⟩

/-- A parked signal whose order is on the book, under the id of its send. -/
def parkedBook : Db :=
  { oneLotBook with trades := Table.empty, signals := ⟨[⟨"s1", .unknown, 0, some 0⟩], by simp⟩ }

def parkedPosition : Position :=
  ⟨9001, .buy, 1, 2000, 2000, 1990, 0, 0, 0, "py:0123456789"⟩

theorem parked_send_reported_lost :
    ¬ ∀ (db db' : Db) (now : ℚ) (positions : List Position) (deals : List Deal)
      (report : List DiffEntry) (signalId tradeId : String),
      collectAndReport db now (.value positions) (.value deals) = some (db', report) →
      db.statusOf signalId = some .unknown → ReachedBroker tradeId positions deals →
      ResolvedInReport report positions signalId tradeId := by
  intro resolved
  have bad := resolved parkedBook _ 1 [parkedPosition] [] _ "s1" "0123456789abcdef" rfl
    (by decide) (.inl ⟨parkedPosition, by simp, by decide⟩)
  exact absurd bad.1 (by decide)

theorem parked_send_never_resolved_on_book :
    ∃ db' report, collectAndReport parkedBook 1 (.value [parkedPosition]) (.value []) =
        some (db', report) ∧
      ¬ ResolvedInReport report [parkedPosition] "s1" "0123456789abcdef" :=
  ⟨_, _, rfl, (parked_send_never_resolved parkedBook _ 1 [parkedPosition] [] _ "s1"
    "0123456789abcdef" rfl (by decide)).1⟩

end Forex
