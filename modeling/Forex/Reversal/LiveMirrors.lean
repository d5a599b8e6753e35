import Forex.Reversal.LiveOutcome

/-!
A live signal mirrors its trade. Whether its row is live, which positions are
legs of the trade and whether these are gone is each inferred from a record or a
read that may have failed; the result is for the passes that are given enough.
-/

namespace Forex
open Support

namespace LiveMirror
variable (simulate : MirrorRow → Tick → MirrorRow) (s : LiveMirror) (p : OutcomePass)

/-- The pass treats the signal as its trade stands: it is neither expired nor
simulated; it is closed only when the trade is over, with the result of every
leg; and a pass that reads everything counts the end of the trade, and closes
the signal when it has counted enough. -/
structure Mirrors : Prop where
  live : s.deed p ≠ .expires ∧ s.deed p ≠ .simulates
  truthful : (s.pass simulate p).closings ≠ s.closings →
    s.book.Over ∧ (s.pass simulate p).row.netPnl = some s.book.netPnl
  settles : s.row.status = .triggered → p.Complete → s.book.Over →
    ∃ ticket, s.row.mt5Ticket = some ticket ∧
      if s.missing ticket + 1 < liveMissingThreshold then
        (s.pass simulate p).missing ticket = s.missing ticket + 1
      else (s.pass simulate p).closings = s.closings + 1

def MirrorsTrade : MirrorStep → Prop
  | .pass p => s.book.Placed → s.Mirrors simulate p
  | _ => True

/-- The deals the pass links to the trade by their comment. -/
def linkedDeals : List Deal :=
  match s.templateTrade p with
  | none => []
  | some tradeId =>
      (p.deals.shows (s.book.dealHistory p.now)).orEmptyCaught.filter fun d =>
        d.opening && decide (tradeIdPrefixFromComment d.comment.toList =
          tradeIdPrefixFromComment (commentForTrade tradeId)) &&
          (tradeIdPrefixFromComment (commentForTrade tradeId)).isSome && decide (d.positionId ≠ 0)

/-- No deal of another trade is taken for one of this. -/
def LinksOnlyLegs : Prop := ∀ d ∈ s.linkedDeals p, d.positionId ∈ s.book.legs

def LinksEveryLeg (ticket : ℤ) : Prop :=
  ∀ leg ∈ s.book.legs, leg = ticket ∨ ∃ d ∈ s.linkedDeals p, d.positionId = leg

/-- The row says of the trade what the outcome loop asks for. -/
def Recorded : Prop :=
  ∃ ticket ∈ s.row.mt5Ticket, ticket ≠ 0 ∧ s.row.liveExecStatus = some "executed" ∧
    ticket ∈ s.book.legs

/-- The pass does not see the recorded position, for the third time in a row,
and can read the history of it. -/
def ComesToSettle (ticket : ℤ) : Prop :=
  p.positions ≠ .raised ∧ liveMissingThreshold ≤ s.missing ticket + 1 ∧
    p.history ticket ≠ .raised ∧
    (p.positions.Succeeded → ticket ∉ s.book.positions.map Position.ticket)

def Careful : MirrorStep → Prop
  | .pass p => s.book.Placed → p.price.isSome = true →
      (s.row.status = .pending → ¬ signalMaxAgeSecs < p.now - s.row.createdAt) ∧
      (s.row.status = .triggered → s.Recorded ∧ s.LinksOnlyLegs p ∧
        ∀ ticket ∈ s.row.mt5Ticket, s.ComesToSettle p ticket →
          s.book.Over ∧ s.LinksEveryLeg p ticket ∧
            ∀ leg ∈ s.book.legs, (p.history leg).Succeeded)
  | _ => True

instance : Decidable s.Recorded := inferInstanceAs (Decidable (∃ ticket ∈ s.row.mt5Ticket, _))

instance : Decidable (s.LinksOnlyLegs p) := inferInstanceAs (Decidable (∀ d ∈ s.linkedDeals p, _))

instance (ticket : ℤ) : Decidable (s.LinksEveryLeg p ticket) :=
  inferInstanceAs (Decidable (∀ leg ∈ s.book.legs, _))

instance (ticket : ℤ) : Decidable (s.ComesToSettle p ticket) :=
  inferInstanceAs (Decidable (_ ∧ _ ∧ _ ∧ (_ → _)))

instance : ∀ a, Decidable (s.Careful a)
  | .pass _ => inferInstanceAs (Decidable (_ → _ → (_ → _) ∧ (_ → _ ∧ _ ∧ _)))
  | .market _ | .record _ _ _ | .store _ | .restart => isTrue True.intro

end LiveMirror

theorem Read.succeeded_shows {α : Type} {r : Read Unit} (ok : r.Succeeded) (a : α) :
    r.shows a = .value a := by
  cases r with
  | value _ => rfl
  | none | raised => exact absurd ok id

/-- Where every history is read, the pass has the deals of all the tickets. -/
theorem gatherHistory_of_read {ticket : ℤ} {history : ℤ → Read (List Deal)}
    {deals : ℤ → List Deal} {legs : List ℤ}
    (read : ∀ leg ∈ legs, history leg = .value (deals leg)) :
    gatherHistory ticket history legs = some (legs.flatMap deals) := by
  induction legs with
  | nil => rfl
  | cons leg rest ih =>
      rw [List.forall_mem_cons] at read
      rw [gatherHistory, read.1, Read.orEmpty]
      dsimp only
      rw [ih read.2, Option.map_some, List.flatMap_cons]

theorem closeDeals_of_exit (direction : Direction) {deals : List Deal}
    (exit : ∃ d ∈ deals, d.exits = true) :
    closeDeals direction deals = deals.filter Deal.exits := by
  obtain ⟨d, mem, out⟩ := exit
  have some := List.mem_filter.mpr ⟨mem, out⟩
  unfold closeDeals
  split
  · next none => exact absurd some (by simp [none])
  · next exits => exact exits.symm

theorem sum_filter_or {α : Type} (g : α → ℚ) (xs : List α) {p q : α → Bool}
    (apart : ∀ x, p x = true → q x = false) :
    ((xs.filter fun x => p x || q x).map g).sum =
      ((xs.filter p).map g).sum + ((xs.filter q).map g).sum := by
  induction xs with
  | nil => simp
  | cons x xs ih =>
      cases inP : p x with
      | true => simp [inP, apart x inP, ih, add_assoc]
      | false =>
          cases inQ : q x with
          | true =>
              simp only [List.filter_cons, inP, inQ, Bool.or_true, if_true, List.map_cons,
                List.sum_cons, ih, Bool.false_eq_true, if_false]
              exact add_left_comm _ _ _
          | false => simp [inP, inQ, ih]

/-- Picked key by key, or by their keys at once. -/
theorem sum_flatMap_filter {α κ : Type} [DecidableEq κ] (key : α → κ) (g : α → ℚ) (xs : List α)
    {ks : List κ} (unique : ks.Nodup) :
    ((ks.flatMap fun k => xs.filter fun x => decide (key x = k)).map g).sum =
      ((xs.filter fun x => decide (key x ∈ ks)).map g).sum := by
  induction ks with
  | nil => simp
  | cons k ks ih =>
      rw [List.nodup_cons] at unique
      have apart : ∀ x, decide (key x = k) = true → decide (key x ∈ ks) = false := by
        intro x here
        rw [of_decide_eq_true here]
        exact decide_eq_false unique.1
      rw [List.flatMap_cons, List.map_append, List.sum_append, ih unique.2,
        ← sum_filter_or g xs apart]
      simp only [List.mem_cons, Bool.decide_or]

namespace TradeBook
variable {b : TradeBook}

theorem sum_histories {tickets : List ℤ} (unique : tickets.Nodup)
    (same : ∀ leg, leg ∈ tickets ↔ leg ∈ b.legs) :
    (((tickets.flatMap b.positionHistory).filter Deal.exits).map Deal.money).sum =
      (b.closingDeals.map Deal.money).sum := by
  have picked : (tickets.flatMap b.positionHistory).filter Deal.exits =
      tickets.flatMap fun leg =>
        (b.deals.filter Deal.exits).filter fun d => decide (d.positionId = leg) := by
    rw [List.filter_flatMap]
    refine congrArg tickets.flatMap ?_
    funext leg
    rw [positionHistory, List.filter_filter, List.filter_filter]
    simp only [Bool.and_comm]
  rw [picked, sum_flatMap_filter Deal.positionId Deal.money _ unique, List.filter_filter,
    closingDeals]
  simp only [same, Bool.and_comm]

end TradeBook

namespace LiveMirror
variable {simulate : MirrorRow → Tick → MirrorRow} {s : LiveMirror} {p : OutcomePass}

theorem mem_siblings {tradeId : String} {deals : Read (List Deal)} {leg : ℤ} :
    leg ∈ findTemplateLegTickets tradeId deals ↔
      ∃ d ∈ deals.orEmptyCaught.filter fun d =>
        d.opening && decide (tradeIdPrefixFromComment d.comment.toList =
          tradeIdPrefixFromComment (commentForTrade tradeId)) &&
          (tradeIdPrefixFromComment (commentForTrade tradeId)).isSome && decide (d.positionId ≠ 0),
        d.positionId = leg := by
  rw [findTemplateLegTickets]
  cases tradeIdPrefixFromComment (commentForTrade tradeId) with
  | none => simp
  | some ident => simp [List.mem_map]

theorem mem_templateLegTickets {ticket leg : ℤ} :
    leg ∈ s.templateLegTickets p ticket ↔
      leg = ticket ∨ ∃ d ∈ s.linkedDeals p, d.positionId = leg := by
  rw [templateLegTickets, List.mem_insertionSort, List.mem_dedup, List.mem_cons, linkedDeals]
  cases s.templateTrade p with
  | none => simp
  | some tradeId =>
      dsimp only
      rw [mem_siblings]

theorem nodup_templateLegTickets (ticket : ℤ) : (s.templateLegTickets p ticket).Nodup := by
  rw [templateLegTickets]
  exact (List.perm_insertionSort _ _).nodup_iff.mpr (List.nodup_dedup _)

theorem LinksOnlyLegs.subset {ticket leg : ℤ} (only : s.LinksOnlyLegs p)
    (own : ticket ∈ s.book.legs) (mem : leg ∈ s.templateLegTickets p ticket) :
    leg ∈ s.book.legs := by
  rcases mem_templateLegTickets.mp mem with rfl | ⟨d, linked, rfl⟩
  · exact own
  · exact only d linked

theorem gatherHistory_of_raised {ticket : ℤ} {history : ℤ → Read (List Deal)} {legs : List ℤ}
    (own : ticket ∈ legs) (raised : history ticket = .raised) :
    gatherHistory ticket history legs = none := by
  induction legs with
  | nil => exact absurd own List.not_mem_nil
  | cons leg rest ih =>
      rw [gatherHistory]
      by_cases same : leg = ticket
      · rw [same, raised, Read.orEmpty, if_pos rfl]
      · have later := ih ((List.mem_cons.mp own).resolve_left (Ne.symm same))
        cases (history leg).orEmpty with
        | none => rw [if_neg same, later]
        | some deals => exact congrArg (Option.map (deals ++ ·)) later

theorem settle_of_raised {ticket : ℤ} (raised : p.history ticket = .raised) :
    s.settle p ticket = s := by
  have none : gatherHistory ticket
      (fun leg => (p.history leg).shows (s.book.positionHistory leg))
      (s.templateLegTickets p ticket) = none := by
    refine gatherHistory_of_raised (mem_templateLegTickets.mpr (.inl rfl)) ?_
    rw [raised, Read.shows]
  rw [settle, none]

/-- All the legs found and read, the trade's result is what is recorded. -/
theorem settle_of_linked {ticket : ℤ} (own : ticket ∈ s.book.legs) (ended : s.book.Over)
    (only : s.LinksOnlyLegs p) (every : s.LinksEveryLeg p ticket)
    (read : ∀ leg ∈ s.book.legs, (p.history leg).Succeeded) :
    (s.settle p ticket).closings = s.closings + 1 ∧
      (s.settle p ticket).row.netPnl = some s.book.netPnl := by
  have same : ∀ leg, leg ∈ s.templateLegTickets p ticket ↔ leg ∈ s.book.legs := by
    intro leg
    exact ⟨only.subset own, fun mem => mem_templateLegTickets.mpr (every leg mem)⟩
  have gathered : gatherHistory ticket
      (fun leg => (p.history leg).shows (s.book.positionHistory leg))
      (s.templateLegTickets p ticket) =
        some ((s.templateLegTickets p ticket).flatMap s.book.positionHistory) := by
    refine gatherHistory_of_read ?_
    intro leg mem
    exact Read.succeeded_shows (read leg ((same leg).mp mem)) _
  have exit : ∃ d ∈ (s.templateLegTickets p ticket).flatMap s.book.positionHistory,
      d.exits = true := by
    obtain ⟨d, mem, at_, out⟩ := s.book.closedByDeal ticket own (ended.2 ticket own)
    refine ⟨d, List.mem_flatMap.mpr ⟨ticket, (same ticket).mpr own, ?_⟩, out⟩
    exact List.mem_filter.mpr ⟨mem, decide_eq_true at_⟩
  have sum := TradeBook.sum_histories (nodup_templateLegTickets ticket) same
  have closing := closeDeals_of_exit s.row.direction exit
  rw [settle, gathered]
  dsimp only
  cases deals : closeDeals s.row.direction
      ((s.templateLegTickets p ticket).flatMap s.book.positionHistory) with
  | nil =>
      obtain ⟨d, mem, out⟩ := exit
      have some := List.mem_filter.mpr ⟨mem, out⟩
      rw [← closing, deals] at some
      exact absurd some List.not_mem_nil
  | cons d ds =>
      refine ⟨rfl, ?_⟩
      rw [← closing, deals] at sum
      change some (roundTo 2 ((d :: ds).map Deal.money).sum) = _
      rw [sum, TradeBook.netPnl]

theorem liveTicket_of_recorded (recorded : s.Recorded) :
    ∃ ticket, s.row.mt5Ticket = some ticket ∧ s.row.liveTicket = some ticket ∧
      ticket ∈ s.book.legs := by
  obtain ⟨ticket, mem, real, executed, own⟩ := recorded
  have stored : s.row.mt5Ticket = some ticket := mem
  refine ⟨ticket, stored, ?_, own⟩
  rw [MirrorRow.liveTicket, stored, Option.filter_some, if_pos]
  simp [real, executed]

/-- A pass that closes the signal has come to settle it. -/
theorem reconcile_closes {ticket : ℤ}
    (closes : (s.reconcile p ticket).closings ≠ s.closings) :
    s.ComesToSettle p ticket ∧ s.reconcile p ticket = (s.miss ticket).settle p ticket := by
  rw [reconcile] at closes ⊢
  cases live : (p.positions.shows s.book.positions).orEmpty with
  | none => exact absurd rfl (live ▸ closes)
  | some seen =>
      rw [live] at closes
      dsimp only at closes ⊢
      split_ifs at closes ⊢ with open_ early
      · exact absurd rfl closes
      · exact absurd rfl closes
      · refine ⟨⟨?_, by omega, ?_, ?_⟩, rfl⟩
        · intro raised
          rw [raised] at live
          exact absurd live (by simp [Read.shows, Read.orEmpty])
        · intro raised
          have kept := congrArg closings (settle_of_raised (s := s.miss ticket) raised)
          exact closes kept
        · intro read held
          rw [Read.succeeded_shows read, Read.orEmpty, Option.some.injEq] at live
          refine open_ ?_
          rw [← live]
          obtain ⟨q, mem, at_⟩ := List.mem_map.mp held
          refine List.any_eq_true.mpr ⟨q, mem, decide_eq_true ?_⟩
          exact mem_templateLegTickets.mpr (.inl at_)

/-- Once the trade is over, a pass that reads everything counts one more miss. -/
theorem reconcile_of_over {ticket : ℤ} (own : ticket ∈ s.book.legs) (ended : s.book.Over)
    (only : s.LinksOnlyLegs p) (seen : p.positions.Succeeded) :
    s.reconcile p ticket =
      if s.missing ticket + 1 < liveMissingThreshold then s.miss ticket
      else (s.miss ticket).settle p ticket := by
  have shut : s.book.positions.any
      (fun q => decide (q.ticket ∈ s.templateLegTickets p ticket)) = false := by
    rw [List.any_eq_false]
    intro q mem held
    exact ended.2 q.ticket (only.subset own (of_decide_eq_true held)) (List.mem_map_of_mem mem)
  rw [reconcile, Read.succeeded_shows seen, Read.orEmpty]
  dsimp only
  rw [shut, if_neg Bool.false_ne_true]

theorem mirrors_of_same (live : s.deed p ≠ .expires ∧ s.deed p ≠ .simulates)
    (same : (s.pass simulate p).closings = s.closings)
    (waits : s.row.status = .triggered → ¬ p.Complete) : s.Mirrors simulate p where
  live := live
  truthful closes := absurd same closes
  settles triggered complete := absurd complete (waits triggered)

theorem mirrors_of_recorded {ticket : ℤ} (deed : s.deed p = .reconciles ticket)
    (stored : s.row.mt5Ticket = some ticket) (own : ticket ∈ s.book.legs)
    (only : s.LinksOnlyLegs p)
    (settling : s.ComesToSettle p ticket → s.book.Over ∧ s.LinksEveryLeg p ticket ∧
      ∀ leg ∈ s.book.legs, (p.history leg).Succeeded) : s.Mirrors simulate p := by
  have pass : s.pass simulate p = s.reconcile p ticket := by
    rw [LiveMirror.pass, deed]
  refine ⟨by simp [deed], ?_, ?_⟩
  · intro closes
    rw [pass] at closes ⊢
    obtain ⟨comes, settled⟩ := reconcile_closes closes
    obtain ⟨ended, every, read⟩ := settling comes
    refine ⟨ended, ?_⟩
    rw [settled]
    exact (settle_of_linked (s := s.miss ticket) own ended only every read).2
  · intro _ complete ended
    refine ⟨ticket, stored, ?_⟩
    rw [pass, reconcile_of_over own ended only complete.positions]
    split_ifs with early
    · exact Function.update_self ticket _ s.missing
    · have comes : s.ComesToSettle p ticket := by
        refine ⟨?_, Nat.le_of_not_lt early, ?_, fun _ => ended.2 ticket own⟩
        · intro raised
          exact absurd complete.positions (by simp [raised, Read.Succeeded])
        · intro raised
          exact absurd (complete.history ticket) (by simp [raised, Read.Succeeded])
      obtain ⟨_, every, read⟩ := settling comes
      exact (settle_of_linked (s := s.miss ticket) own ended only every read).1

theorem Careful.mirrors (ok : s.Careful (.pass p)) (placed : s.book.Placed) :
    s.Mirrors simulate p := by
  cases going : p.price with
  | none =>
      have idle : s.deed p = .idle := by
        rw [deed, going]
      refine mirrors_of_same (by simp [idle]) (by rw [pass, idle]) ?_
      intro _ complete
      exact absurd complete.price (by simp [going])
  | some price =>
      obtain ⟨young, mirrored⟩ := ok placed (by rw [going]; rfl)
      cases status : s.row.status with
      | pending =>
          have fresh := young status
          have does : s.deed p = .triggers ∨ s.deed p = .idle := by
            simp only [deed, going, status, if_neg fresh]
            split_ifs
            · exact .inl rfl
            · exact .inr rfl
          refine mirrors_of_same ?_ ?_ ?_
          · rcases does with does | does <;> simp [does]
          · rcases does with does | does <;> rw [pass, does]
          · intro triggered
            exact absurd (status.symm.trans triggered) (by decide)
      | triggered =>
          obtain ⟨recorded, only, settling⟩ := mirrored status
          obtain ⟨ticket, stored, live, own⟩ := liveTicket_of_recorded recorded
          have deed : s.deed p = .reconciles ticket := by
            simp only [deed, going, status, live]
          exact mirrors_of_recorded deed stored own only (settling ticket stored)
      | closed | expired =>
          have idle : s.deed p = .idle := by
            simp only [deed, going, status]
          refine mirrors_of_same (by simp [idle]) (by rw [pass, idle]) ?_
          intro triggered
          exact absurd (status.symm.trans triggered) (by decide)

/-- The signal has been closed once if its row says so, and never otherwise. -/
def Counted (s : LiveMirror) : Prop := s.closings = if s.row.status = .closed then 1 else 0

theorem Counted.of_open (counted : s.Counted) (status : s.row.status ≠ .closed) :
    s.closings = 0 := by
  rw [counted, if_neg status]

theorem counted_settle (fresh : s.closings = 0) (status : s.row.status ≠ .closed) (ticket : ℤ) :
    (s.settle p ticket).Counted := by
  have same : s.Counted := by
    rw [Counted, fresh, if_neg status]
  rw [settle]
  split
  · exact same
  · split
    · exact same
    · rw [Counted, closeFrom, fresh, if_pos rfl]

/-- A closed row is left alone. -/
theorem open_of_deed (active : s.deed p ≠ .idle) : s.row.status ≠ .closed := by
  intro closed
  refine active ?_
  rw [deed]
  cases p.price with
  | none => rfl
  | some price => simp only [closed]

theorem Counted.pass (counted : s.Counted) : (s.pass simulate p).Counted := by
  rw [LiveMirror.pass]
  cases did : s.deed p with
  | idle => exact counted
  | expires | triggers => exact counted.of_open (open_of_deed (p := p) (by simp [did]))
  | simulates =>
      have none := counted.of_open (open_of_deed (p := p) (by simp [did]))
      dsimp only
      rw [Counted, none, Nat.zero_add]
  | reconciles ticket =>
      have status := open_of_deed (s := s) (p := p) (by simp [did])
      have none := counted.of_open status
      dsimp only
      rw [reconcile]
      split
      · exact counted
      · split_ifs
        · exact counted
        · exact counted
        · exact counted_settle (s := s.miss ticket) none status ticket

theorem Counted.step (counted : s.Counted) (a : MirrorStep) : (s.step simulate a).Counted := by
  cases a with
  | pass p => exact counted.pass
  | market _ | record _ _ _ | store _ | restart => exact counted

theorem live_signal_mirrors_trade (simulate : MirrorRow → Tick → MirrorRow) (row : MirrorRow)
    (db : Db) (book : TradeBook) (balance : ℚ) (run : List MirrorStep)
    (ok : Meets (step simulate) Careful (start row db book balance) run) :
    Meets (step simulate) (MirrorsTrade simulate) (start row db book balance) run ∧
      ∀ s ∈ states (step simulate) (start row db book balance) run, s.closings ≤ 1 := by
  have start : (start row db book balance).Counted := rfl
  refine ⟨?_, ?_⟩
  · refine meets_of_invariant (I := Counted) (fun _ a counted _ => counted.step a) ?_ start ok
    intro s a _ careful
    cases a with
    | pass p => exact careful.mirrors
    | market _ | record _ _ _ | store _ | restart => exact True.intro
  · intro s mem
    have any : Meets (step simulate) (fun _ _ => True) (LiveMirror.start row db book balance)
        run :=
      meets_of_forall (fun _ _ => True.intro) _ run
    have counted := states_invariant (I := Counted) (fun _ a counted _ => counted.step a) start
      any s mem
    rw [counted]
    split_ifs
    · exact Nat.le_refl 1
    · exact Nat.zero_le 1

def bornRow : MirrorRow :=
  { status := .pending, createdAt := 0, entryLow := 2000, entryHigh := 2001, mt5Ticket := none,
    vantageSignalId := none, liveExecStatus := none, direction := .buy, triggerPrice := none,
    triggerTime := none, outcome := none, closePrice := none, pnlPts := none, netPnl := none }

def seeing (now : ℚ) : OutcomePass where
  tick := some ⟨2000, 2000⟩
  mid := 2000
  now := now
  positions := .value ()
  lookupRaises := false
  deals := .value ()
  history _ := .value ()

/-- The bridge does not answer for the positions. -/
def blind (now : ℚ) : OutcomePass := { seeing now with positions := .none }

def untraded : TradeBook := ⟨[], [], [], [], by simp⟩

def legAt (ticket : ℤ) : Position := ⟨ticket, .buy, 1, 2000, 2000, 1990, 0, 0, 0, "ea:t1"⟩

def opening (ticket : ℤ) : Deal := ⟨ticket, ticket, ticket, 0, 0, 1, 2000, 0, 0, 0, 70, "ea:t1"⟩

def closing (ticket : ℤ) (profit : ℚ) : Deal :=
  ⟨ticket + 10, ticket + 10, ticket, 1, 1, 1, 2005, profit, 0, 0, 400, ""⟩

def gridRunning : TradeBook :=
  ⟨[7001, 7002], [], [legAt 7001, legAt 7002], [opening 7001, opening 7002], by decide⟩

def gridOver : TradeBook :=
  ⟨[7001, 7002], [], [],
    [opening 7001, opening 7002, closing 7001 5, closing 7002 (-2)], by decide⟩

def gridDb : Db := Db.single { Trade.oneLot with strategy := .template "grid" } Table.empty

/-- Both legs of a grid are followed to their end. -/
def gridFollowed : List MirrorStep :=
  [.pass (seeing 60), .market gridRunning, .record (some 7001) (some "s1") "executed",
    .pass (seeing 65), .market gridOver, .pass (seeing 405), .pass (seeing 410),
    .pass (seeing 415)]

def keepRow (row : MirrorRow) (_ : Tick) : MirrorRow := row

theorem live_signal_mirrors_trade_grid :
    (gridFollowed.foldl (step keepRow) (start bornRow gridDb untraded 1000)).row.netPnl = some 3 ∧
      Meets (step keepRow) (MirrorsTrade keepRow) (start bornRow gridDb untraded 1000)
        gridFollowed ∧
      ∀ s ∈ states (step keepRow) (start bornRow gridDb untraded 1000) gridFollowed,
        s.closings ≤ 1 := by
  refine ⟨by decide +kernel, ?_⟩
  exact live_signal_mirrors_trade keepRow bornRow gridDb untraded 1000 gridFollowed
    (by decide +kernel)

/-- One position, half of it closed. -/
def halfClosed : TradeBook :=
  ⟨[7001], [], [legAt 7001], [opening 7001, closing 7001 5], by decide⟩

/-- The positions go unanswered for three passes while the trade runs. -/
def blindPasses : List MirrorStep :=
  [.pass (seeing 60), .market halfClosed, .record (some 7001) (some "s1") "executed",
    .pass (blind 405), .pass (blind 410), .pass (blind 415)]

/-- A resting order has filled, and the row has no ticket of it. -/
def restingFilled : List MirrorStep :=
  [.pass (seeing 60), .record none (some "s1") "limit_order_placed:7001", .market halfClosed,
    .pass (seeing 405)]

/-- The row is still waiting for the zone when the staged grid is two hours old. -/
def stagedUntriggered : List MirrorStep :=
  [.record (some 7001) (some "s1") "executed", .market gridRunning, .pass (seeing 7300)]

theorem live_signal_not_mirrored :
    (¬ Meets (step keepRow) (MirrorsTrade keepRow) (start bornRow gridDb untraded 1000)
        blindPasses) ∧
      (¬ Meets (step keepRow) (MirrorsTrade keepRow) (start bornRow gridDb untraded 1000)
        restingFilled) ∧
      ¬ Meets (step keepRow) (MirrorsTrade keepRow) (start bornRow gridDb untraded 1000)
        stagedUntriggered := by
  refine ⟨?_, ?_, ?_⟩
  · rintro ⟨-, -, -, -, -, third, -⟩
    have closed := (third (by decide +kernel)).truthful (by decide +kernel)
    exact absurd closed.1 (by decide +kernel)
  · rintro ⟨-, -, -, filled, -⟩
    exact absurd (filled (by decide)).live.2 (by decide +kernel)
  · rintro ⟨-, -, old, -⟩
    exact absurd (old (by decide)).live.1 (by decide +kernel)

end LiveMirror

end Forex
