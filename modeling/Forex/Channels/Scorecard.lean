import Forex.Channels.Performance
import Forex.Cluster.ConsolidatedLedger
import Forex.Reversal.Profile
import Forex.Support.Groups
import Forex.Support.Smoothing

/-!
The scorecard of the channels. It adds up the closed trades of this node and the rows of
the consolidated ledger that have no local trade with their id or their ticket. The
rows of the ledger are not compared with one another.
-/

namespace Forex
open Support

/-- The columns that the scorecard reads of `vantage_simulated_trades`. -/
structure ScorecardTrade where
  isClosed : Bool
  tgSource : Option String
  direction : Direction
  entryPrice : Option ℚ
  closePrice : Option ℚ
  netPnl : Option ℚ
  closeTime : Option ℚ
  tradeId : String
  mt5Ticket : Option ℤ
deriving DecidableEq, Repr

/-- A row of `consolidated_trades`. -/
structure ConsolidatedRow extends LedgerTrade where
  nodeId : String
  tradeId : String
deriving DecidableEq, Repr

structure ScorecardTables where
  trades : List ScorecardTrade
  ledger : List ConsolidatedRow

inductive SessionName where
  | london
  | ny
  | overlap
  | asian
deriving DecidableEq, Repr

/-- `_session_for_hour`. -/
def sessionForHour (hour : ℤ) : SessionName :=
  let london := 7 ≤ hour ∧ hour < 16
  let ny := 12 ≤ hour ∧ hour < 21
  if london ∧ ny then .overlap else if london then .london else if ny then .ny else .asian

/-- `_trade_pts`. -/
def tradePts (direction : Direction) (entry close : ℚ) : ℚ :=
  if entry = 0 ∨ close = 0 then 0 else direction.sign * (close - entry)

/-- What one row adds to its source; the ledger has no points. -/
structure Contribution where
  source : String
  ticket : ℤ
  pnl : ℚ
  pts : Option ℚ
  closeTime : ℚ
deriving DecidableEq, Repr

/-- One entry of `agg`. -/
structure Aggregate where
  trades : ℕ
  wins : ℕ
  losses : ℕ
  netPnl : ℚ
  winPts : List ℚ
  lossPts : List ℚ
  allPts : List ℚ
  sessions : SessionName → ℚ

namespace Aggregate

def empty : Aggregate := ⟨0, 0, 0, 0, [], [], [], fun _ => 0⟩

/-- One pass of either loop. -/
def add (a : Aggregate) (c : Contribution) : Aggregate where
  trades := a.trades + 1
  wins := if 0 < c.pnl then a.wins + 1 else a.wins
  losses := if c.pnl < 0 then a.losses + 1 else a.losses
  netPnl := a.netPnl + c.pnl
  winPts := if 0 < c.pnl then a.winPts ++ c.pts.toList else a.winPts
  lossPts := if c.pnl < 0 then a.lossPts ++ (c.pts.map abs).toList else a.lossPts
  allPts := a.allPts ++ c.pts.toList
  sessions :=
    if c.closeTime = 0 then a.sessions
    else
      let session := sessionForHour (⌊c.closeTime / 3600⌋ % 24)
      Function.update a.sessions session (a.sessions session + c.pnl)

@[simp] theorem foldl_trades (cs : List Contribution) (a : Aggregate) :
    (cs.foldl add a).trades = a.trades + cs.length := by
  induction cs generalizing a with
  | nil => rfl
  | cons c cs ih =>
      rw [List.foldl_cons, ih, List.length_cons, Nat.add_comm cs.length 1, ← Nat.add_assoc]
      rfl

@[simp] theorem foldl_wins (cs : List Contribution) (a : Aggregate) :
    (cs.foldl add a).wins = a.wins + cs.countP fun c => decide (0 < c.pnl) := by
  induction cs generalizing a with
  | nil => rfl
  | cons c cs ih =>
      rw [List.foldl_cons, ih, add, List.countP_cons]
      by_cases won : 0 < c.pnl <;> simp [won, Nat.add_assoc, Nat.add_comm]

@[simp] theorem foldl_losses (cs : List Contribution) (a : Aggregate) :
    (cs.foldl add a).losses = a.losses + cs.countP fun c => decide (c.pnl < 0) := by
  induction cs generalizing a with
  | nil => rfl
  | cons c cs ih =>
      rw [List.foldl_cons, ih, add, List.countP_cons]
      by_cases lost : c.pnl < 0 <;> simp [lost, Nat.add_assoc, Nat.add_comm]

@[simp] theorem foldl_netPnl (cs : List Contribution) (a : Aggregate) :
    (cs.foldl add a).netPnl = a.netPnl + (cs.map fun c => c.pnl).sum := by
  induction cs generalizing a with
  | nil => simp
  | cons c cs ih => rw [List.foldl_cons, ih, add, List.map_cons, List.sum_cons, add_assoc]

end Aggregate

/-- A row of the scorecard. -/
structure ChannelScore extends ScoreRow where
  trades : ℕ
  avgPts : ℚ
  sessions : SessionName → ℚ

/-- The row of a source. -/
def Aggregate.score (source : String) (a : Aggregate) : ChannelScore where
  source := source
  wins := a.wins
  losses := a.losses
  winRate := roundTo 1 (if a.wins + a.losses = 0 then 0 else a.wins / (a.wins + a.losses) * 100)
  payoffRr :=
    let avgLoss := mean a.lossPts
    if 0 < avgLoss then roundTo 2 (mean a.winPts / avgLoss) else 0
  netPnl := roundTo 2 a.netPnl
  trades := a.trades
  avgPts := roundTo 2 (mean a.allPts)
  sessions := fun session => roundTo 2 (a.sessions session)

namespace ScorecardTables
variable (aliases : ChannelAliases) (t : ScorecardTables) (cutoff : ℚ)

/-- The local rows, by the query. -/
def localRows : List ScorecardTrade :=
  t.trades.filter fun r =>
    r.isClosed && r.mt5Ticket.isSome && r.closeTime.any fun time => decide (cutoff ≤ time)

def ledgerRows : List ConsolidatedRow :=
  t.ledger.filter fun r =>
    decide (r.mt5Ticket.getD 0 ≠ 0) && r.closeTime.any fun time => decide (cutoff ≤ time)

def localIds : List String := (t.localRows cutoff).map fun r => r.tradeId

def localTickets : List ℤ :=
  ((t.localRows cutoff).map fun r => r.mt5Ticket.getD 0).filter fun ticket => decide (ticket ≠ 0)

/-- A row of the ledger that the second loop passes over. -/
def isLocal (r : ConsolidatedRow) : Bool :=
  decide (r.tradeId ∈ t.localIds cutoff) ||
    decide (r.mt5Ticket.getD 0 ≠ 0) && decide (r.mt5Ticket.getD 0 ∈ t.localTickets cutoff)

def foreignRows : List ConsolidatedRow := (t.ledgerRows cutoff).filter fun r => !t.isLocal cutoff r

def sourceOf (tgSource : Option String) : String :=
  normaliseTgSource aliases
    (if tgSource.getD "" = "" then "Manual Signal" else tgSource.getD "")

def ofTrade (r : ScorecardTrade) : Contribution :=
  ⟨sourceOf aliases r.tgSource, r.mt5Ticket.getD 0, r.netPnl.getD 0,
    some (tradePts r.direction (r.entryPrice.getD 0) (r.closePrice.getD 0)), r.closeTime.getD 0⟩

def ofLedger (r : ConsolidatedRow) : Contribution :=
  ⟨sourceOf aliases r.tgSource, r.mt5Ticket.getD 0, r.pnlDollars.getD 0, none, r.closeTime.getD 0⟩

/-- What is added up, in the order of the two loops. -/
def counted : List Contribution :=
  (t.localRows cutoff).map (ofTrade aliases) ++ (t.foreignRows cutoff).map (ofLedger aliases)

/-- `agg`, after both loops. -/
def aggregates : List (String × Aggregate) :=
  totals (fun c => c.source) Aggregate.empty Aggregate.add (t.counted aliases cutoff)

/-- `get_channel_scorecard`. -/
def getChannelScorecard : List ChannelScore :=
  ((t.aggregates aliases cutoff).map fun e => e.2.score e.1).insertionSort fun a b =>
    b.netPnl ≤ a.netPnl

/-- A ticket of the broker that one of the queries finds. -/
def HasTicket (ticket : ℤ) : Prop :=
  ticket ≠ 0 ∧ ((∃ r ∈ t.localRows cutoff, r.mt5Ticket = some ticket) ∨
    ∃ r ∈ t.ledgerRows cutoff, r.mt5Ticket = some ticket)

/-- Every ticket is counted once, in the row of one source, and no two rows of the
scorecard set the statistics of one channel. -/
structure CountsOnce : Prop where
  once : ∀ ticket, t.HasTicket cutoff ticket →
    (t.counted aliases cutoff).countP (fun c => decide (c.ticket = ticket)) = 1
  sources : ((t.getChannelScorecard aliases cutoff).map fun r => r.source).Nodup ∧
    ∀ c ∈ t.counted aliases cutoff, ∃ r ∈ t.getChannelScorecard aliases cutoff, r.source = c.source
  sums : ∀ r ∈ t.getChannelScorecard aliases cutoff,
    let own := (t.counted aliases cutoff).filter fun c => decide (c.source = r.source)
    r.trades = own.length ∧ r.wins = own.countP (fun c => decide (0 < c.pnl)) ∧
      r.losses = own.countP (fun c => decide (c.pnl < 0)) ∧
      r.netPnl = roundTo 2 (own.map fun c => c.pnl).sum
  used : ((t.getChannelScorecard aliases cutoff).map fun r => canonical aliases r.source).Nodup

/-- No two local trades have one ticket, and of the rows of the ledger with a ticket that
is not local, one has an id that is not. -/
structure OneRowPerTicket : Prop where
  locals : (t.localTickets cutoff).Nodup
  ledger : ∀ r ∈ t.ledgerRows cutoff, r.mt5Ticket.getD 0 ∉ t.localTickets cutoff →
    (t.ledgerRows cutoff).countP (fun r' => decide (r'.mt5Ticket = r.mt5Ticket ∧
      r'.tradeId ∉ t.localIds cutoff)) = 1

/-- The source strings of the rows that are added up. -/
def sourceStrings : List (Option String) :=
  (t.localRows cutoff).map (fun r => r.tgSource) ++ (t.foreignRows cutoff).map fun r => r.tgSource

/-- Two sources that the statistics are stored for under one name are one source. -/
def SourcesApart : Prop :=
  ∀ s ∈ t.sourceStrings cutoff, ∀ s' ∈ t.sourceStrings cutoff,
    canonical aliases (sourceOf aliases s) = canonical aliases (sourceOf aliases s') →
      sourceOf aliases s = sourceOf aliases s'

section Rows
variable {t cutoff}

theorem mem_localTickets {ticket : ℤ} :
    ticket ∈ t.localTickets cutoff ↔
      ticket ≠ 0 ∧ ∃ r ∈ t.localRows cutoff, r.mt5Ticket = some ticket := by
  rw [localTickets, List.mem_filter, List.mem_map, decide_eq_true_eq, and_comm]
  refine and_congr_right fun nonzero => exists_congr fun r => and_congr_right fun _ => ?_
  cases r.mt5Ticket with
  | none => simp [Ne.symm nonzero]
  | some n => simp

theorem ledger_ticket {r : ConsolidatedRow} (mem : r ∈ t.ledgerRows cutoff) :
    ∃ ticket, ticket ≠ 0 ∧ r.mt5Ticket = some ticket := by
  have found := (List.mem_filter.mp mem).2
  rw [Bool.and_eq_true, decide_eq_true_eq] at found
  cases own : r.mt5Ticket with
  | none => exact absurd (by rw [own]; rfl) found.1
  | some ticket => exact ⟨ticket, by simpa [own] using found.1, rfl⟩

theorem counted_countP (ticket : ℤ) (nonzero : ticket ≠ 0) :
    (t.counted aliases cutoff).countP (fun c => decide (c.ticket = ticket)) =
      (t.localTickets cutoff).count ticket +
        (t.ledgerRows cutoff).countP (fun r => decide (r.mt5Ticket = some ticket ∧
          r.tradeId ∉ t.localIds cutoff ∧ ticket ∉ t.localTickets cutoff)) := by
  rw [counted, List.countP_append, List.countP_map, List.countP_map, foreignRows,
    List.countP_filter]
  congr 1
  · rw [localTickets, List.count_filter (by simpa using nonzero), List.count_eq_countP,
      List.countP_map]
    rfl
  · refine List.countP_congr fun r mem => ?_
    obtain ⟨own, ownNonzero, stored⟩ := ledger_ticket mem
    simp only [Function.comp_apply, ofLedger, isLocal, stored, Option.getD_some, Bool.and_eq_true,
      decide_eq_true_eq, Bool.not_eq_true', Bool.or_eq_false_iff, decide_eq_false_iff_not,
      Option.some.injEq, Bool.and_eq_false_iff, ownNonzero, not_false_eq_true,
      ne_eq, not_true_eq_false, false_or]
    grind

theorem counted_sources :
    (t.counted aliases cutoff).map (fun c => c.source) =
      (t.sourceStrings cutoff).map (sourceOf aliases) := by
  simp only [counted, sourceStrings, List.map_append, List.map_map]
  rfl

/-- Sorting keeps the rows. -/
theorem getChannelScorecard_perm :
    List.Perm ((t.getChannelScorecard aliases cutoff).map fun r => r.source)
      ((t.aggregates aliases cutoff).map Prod.fst) := by
  refine ((List.perm_insertionSort _ _).map _).trans (List.Perm.of_eq ?_)
  rw [List.map_map]
  rfl

theorem mem_getChannelScorecard {r : ChannelScore} :
    r ∈ t.getChannelScorecard aliases cutoff ↔
      ∃ e ∈ t.aggregates aliases cutoff, e.2.score e.1 = r := by
  rw [getChannelScorecard, List.mem_insertionSort, List.mem_map]

/-- The rows of the scorecard are the totals of their sources. -/
theorem getChannelScorecard_sums (r : ChannelScore)
    (mem : r ∈ t.getChannelScorecard aliases cutoff) :
    let own := (t.counted aliases cutoff).filter fun c => decide (c.source = r.source)
    r.trades = own.length ∧ r.wins = own.countP (fun c => decide (0 < c.pnl)) ∧
      r.losses = own.countP (fun c => decide (c.pnl < 0)) ∧
      r.netPnl = roundTo 2 (own.map fun c => c.pnl).sum := by
  obtain ⟨e, held, rfl⟩ := (mem_getChannelScorecard aliases).mp mem
  have total := totals_entry (fun c : Contribution => c.source) _ _ held
  simp [Aggregate.score, total, Aggregate.empty]

theorem mem_sources {source : String} :
    (∃ r ∈ t.getChannelScorecard aliases cutoff, r.source = source) ↔
      ∃ c ∈ t.counted aliases cutoff, c.source = source := by
  rw [← mem_totals_keys (fun c : Contribution => c.source) Aggregate.empty Aggregate.add,
    ← List.mem_map]
  exact (getChannelScorecard_perm aliases).mem_iff

theorem sources_nodup : ((t.getChannelScorecard aliases cutoff).map fun r => r.source).Nodup :=
  (getChannelScorecard_perm aliases).nodup_iff.mpr (totals_keys_nodup _ _ _ _)

theorem used_iff :
    ((t.getChannelScorecard aliases cutoff).map fun r => canonical aliases r.source).Nodup ↔
      t.SourcesApart aliases cutoff := by
  have named : ((t.getChannelScorecard aliases cutoff).map fun r => canonical aliases r.source) =
      ((t.getChannelScorecard aliases cutoff).map fun r => r.source).map (canonical aliases) := by
    rw [List.map_map]
    rfl
  have held (source : String) :
      source ∈ ((t.getChannelScorecard aliases cutoff).map fun r => r.source) ↔
        ∃ s ∈ t.sourceStrings cutoff, sourceOf aliases s = source := by
    rw [List.mem_map, mem_sources, ← List.mem_map, counted_sources, List.mem_map]
  rw [named, List.nodup_map_iff_inj_on (sources_nodup aliases)]
  constructor
  · intro apart s mem s' mem'
    exact apart _ ((held _).mpr ⟨s, mem, rfl⟩) _ ((held _).mpr ⟨s', mem', rfl⟩)
  · intro apart x inRow y inRow'
    obtain ⟨s, mem, rfl⟩ := (held x).mp inRow
    obtain ⟨s', mem', rfl⟩ := (held y).mp inRow'
    exact apart s mem s' mem'

/-- A ticket of a local trade is counted once when no other local trade has it, any other
when one row of the ledger has it and an id that is not local. -/
theorem once_iff :
    (∀ ticket, t.HasTicket cutoff ticket →
        (t.counted aliases cutoff).countP (fun c => decide (c.ticket = ticket)) = 1) ↔
      t.OneRowPerTicket cutoff := by
  constructor
  · intro once
    constructor
    · refine List.nodup_iff_count_le_one.mpr fun ticket => ?_
      by_cases held : ticket ∈ t.localTickets cutoff
      · obtain ⟨nonzero, found⟩ := mem_localTickets.mp held
        have one := once ticket ⟨nonzero, .inl found⟩
        rw [counted_countP aliases ticket nonzero] at one
        omega
      · rw [List.count_eq_zero_of_not_mem held]
        exact Nat.zero_le 1
    · intro r mem foreign
      obtain ⟨ticket, nonzero, own⟩ := ledger_ticket mem
      rw [own, Option.getD_some] at foreign
      have one := once ticket ⟨nonzero, .inr ⟨r, mem, own⟩⟩
      rw [counted_countP aliases ticket nonzero, List.count_eq_zero_of_not_mem foreign,
        Nat.zero_add] at one
      simpa [own, foreign] using one
  · intro rows ticket has
    rw [counted_countP aliases ticket has.1]
    by_cases held : ticket ∈ t.localTickets cutoff
    · rw [List.count_eq_one_of_mem rows.locals held]
      simp [held]
    · rw [List.count_eq_zero_of_not_mem held, Nat.zero_add]
      rcases has.2 with found | ⟨r, mem, own⟩
      · exact absurd (mem_localTickets.mpr ⟨has.1, found⟩) held
      · have one := rows.ledger r mem (by simpa [own] using held)
        simpa [own, held] using one

end Rows

theorem counts_once_iff (aliases : ChannelAliases) (t : ScorecardTables) (cutoff : ℚ) :
    t.CountsOnce aliases cutoff ↔
      t.OneRowPerTicket cutoff ∧ t.SourcesApart aliases cutoff := by
  constructor
  · intro counts
    exact ⟨(once_iff aliases).mp counts.once, (used_iff aliases).mp counts.used⟩
  · rintro ⟨rows, apart⟩
    exact
      { once := (once_iff aliases).mpr rows
        sources := ⟨sources_nodup aliases, fun c mem => (mem_sources aliases).mpr ⟨c, mem, rfl⟩⟩
        sums := getChannelScorecard_sums aliases
        used := (used_iff aliases).mpr apart }

/-- The paired node has closed a trade, and both of its ids are in the ledger. -/
def underTwoIds : ScorecardTables where
  trades := []
  ledger := ["v-1", "RE-7"].map fun id =>
    { engine := "reversal_engine", direction := "BUY", strategy := none, openTime := none,
      closeTime := some 1000, pnlDollars := some (-30), outcome := none,
      tgSource := some "Reversal Engine", mt5Ticket := some 501, maxTpHit := none, rr := none,
      nodeId := "peer", tradeId := id }

theorem ticket_counted_twice :
    ¬ ∀ aliases t cutoff, ScorecardTables.CountsOnce aliases t cutoff := by
  intro always
  have one := (always canonicalChannels underTwoIds 0).once 501
    ⟨by decide, .inr ⟨_, List.mem_cons_self, rfl⟩⟩
  have two : (underTwoIds.counted canonicalChannels 0).countP
      (fun c => decide (c.ticket = 501)) = 2 := by
    decide
  omega

end ScorecardTables
end Forex
