import Forex.Ledger.ProfitSync
import Forex.Support.Run
import Mathlib.Data.List.Dedup

/-!
Runs of `sync_profit` on one trade, beside the deals the broker makes on its
legs. A call corrects the net profit and the balance by the same amount, so the
two never drift apart whatever the reads say. The stamp is another matter: it is
final on the strength of three reads, and right when those reads are whole.
-/

namespace Forex
open Support

namespace SyncView
variable (view : SyncView) (initialSl : Option ℚ) (mt5Ticket : ℤ) (live : List ℤ)

/-- A ticket that keeps the profit open: its history raises, it has no deals and
is the row's own or listed live, or none of its deals closes. -/
def unsettled (ticket : ℤ) : Bool :=
  match view.dealsOf ticket with
  | none => true
  | some [] => decide (ticket = mt5Ticket ∨ ticket ∈ live)
  | some (d :: ds) => !(d :: ds).any Deal.closing

def taken (ticket : ℤ) : ℚ :=
  match view.dealsOf ticket with
  | none => 0
  | some deals => if deals.any Deal.closing then (deals.map Deal.money).sum else 0

variable {view initialSl mt5Ticket live}

theorem syncTicket_spec {sums out : SyncSums} {ticket : ℤ}
    (h : syncTicket view initialSl mt5Ticket live sums ticket = some out) :
    out.total = sums.total + view.taken ticket ∧
      out.allSettled = (sums.allSettled && !view.unsettled mt5Ticket live ticket) := by
  rw [syncTicket] at h
  rw [taken, unsettled]
  cases deals : view.dealsOf ticket with
  | none =>
      rw [deals] at h
      exact absurd h (by simp)
  | some deals' =>
      rw [deals] at h
      cases deals' with
      | nil =>
          dsimp only at h
          by_cases held : ticket = mt5Ticket ∨ ticket ∈ live
          · rw [if_pos held] at h
            rw [← Option.some.inj h]
            simp [held]
          · rw [if_neg held] at h
            rw [← Option.some.inj h]
            simp [held]
      | cons d ds =>
          dsimp only at h ⊢
          by_cases closing : (d :: ds).any Deal.closing = true
          · rw [if_pos closing] at h
            rw [← Option.some.inj h, if_pos closing, closing]
            exact ⟨rfl, (Bool.and_true _).symm⟩
          · rw [if_neg closing] at h
            rw [← Option.some.inj h, if_neg closing, Bool.eq_false_iff.mpr closing]
            exact ⟨(add_zero _).symm, (Bool.and_false _).symm⟩

theorem syncTickets_spec {sums out : SyncSums} {tickets : List ℤ}
    (h : tickets.foldlM (syncTicket view initialSl mt5Ticket live) sums = some out) :
    out.total = sums.total + (tickets.map view.taken).sum ∧
      out.allSettled = (sums.allSettled && !tickets.any (view.unsettled mt5Ticket live)) := by
  induction tickets generalizing sums with
  | nil =>
      rw [← Option.some.inj h]
      simp
  | cons ticket tickets ih =>
      rw [List.foldlM_cons] at h
      obtain ⟨mid, first, rest⟩ := Option.bind_eq_some_iff.mp h
      obtain ⟨total, settled⟩ := syncTicket_spec first
      obtain ⟨total', settled'⟩ := ih rest
      rw [total', settled', total, settled, List.map_cons, List.sum_cons, List.any_cons,
        Bool.not_or, Bool.and_assoc]
      exact ⟨by ring, rfl⟩

/-- The tickets a call looks at, and whether one of them keeps it open. -/
def seesUnsettled (view : SyncView) (row : Option Trade) (tradeId : String) (mt5Ticket : ℤ) :
    Bool :=
  let tickets := view.ticketSet row tradeId mt5Ticket
  tickets.any (view.unsettled mt5Ticket (view.liveTickets tickets))

theorem syncProfit_spec {db : Db} {tradeId : String} {w : SyncWrite}
    (h : syncProfit db tradeId mt5Ticket view = some w) :
    w.tradeId = tradeId ∧
      w.mt5Profit =
        roundTo 2 ((view.ticketSet (db.getTrade tradeId) tradeId mt5Ticket).map view.taken).sum ∧
      w.allSettled = !view.seesUnsettled (db.getTrade tradeId) tradeId mt5Ticket := by
  simp only [syncProfit] at h
  split at h
  · exact absurd h (by simp)
  · next sums folded =>
      obtain ⟨total, settled⟩ := syncTickets_spec folded
      split at h
      · rw [← Option.some.inj h]
        refine ⟨rfl, ?_, settled.trans (Bool.true_and _)⟩
        rw [total, zero_add]
      · exact absurd h (by simp)

end SyncView

/-- The trade's row beside the broker's deals on its legs. -/
structure ProfitWatch where
  db : Db
  deals : List Deal

inductive ProfitStep where
  | deal (d : Deal)
  | sync (view : SyncView)

namespace ProfitWatch
variable (tradeId : String) (mt5Ticket : ℤ) (net balance : ℚ) (s : ProfitWatch)

def step : ProfitStep → ProfitWatch
  | .deal d => { s with deals := s.deals ++ [d] }
  | .sync view =>
      match syncProfit s.db tradeId mt5Ticket view with
      | none => s
      | some w =>
          { s with db := (applyProfitSync s.db w.tradeId w.mt5Profit w.riskTotal w.allSettled).1 }

/-- The positions that have filled. -/
def legs : List ℤ := ((s.deals.filter Deal.opening).map Deal.positionId).dedup

def dealsOf (leg : ℤ) : List Deal := s.deals.filter fun d => decide (d.positionId = leg)

/-- As much is closed as was opened. -/
def closed (leg : ℤ) : Bool :=
  let closing := (s.dealsOf leg).filter fun d => decide (d.entry = 1 ∨ d.entry = 2 ∨ d.entry = 3)
  decide ((((s.dealsOf leg).filter Deal.opening).map Deal.volume).sum ≤
    (closing.map Deal.volume).sum)

/-- What the legs made. -/
def legSum : ℚ := (s.legs.map fun leg => ((s.dealsOf leg).map Deal.money).sum).sum

/-- A stamped row has all its legs closed and summed, and its net profit and the
balance have moved to that sum. -/
def Final : Prop :=
  ∀ t ∈ s.db.getTrade tradeId, ∀ profit ∈ t.mt5Profit,
    (∀ leg ∈ s.legs, s.closed leg = true) ∧ profit = roundTo 2 s.legSum ∧
      |t.netPnl - profit| < 1 / 100 ∧ |s.db.balance - balance - (profit - net)| < 1 / 100

instance : Decidable (s.Final tradeId net balance) :=
  inferInstanceAs (Decidable (∀ t ∈ s.db.getTrade tradeId, _))

/-- Every filled leg has closed and is looked at, and the history of each ticket
looked at comes back whole. -/
def ReadWhole (view : SyncView) : Prop :=
  (∀ leg ∈ s.legs,
    leg ∈ view.ticketSet (s.db.getTrade tradeId) tradeId mt5Ticket ∧ s.closed leg = true) ∧
  ∀ ticket ∈ view.ticketSet (s.db.getTrade tradeId) tradeId mt5Ticket,
    (view.dealsOf ticket).any fun deals =>
      if ticket ∈ s.legs then decide (deals.Perm (s.dealsOf ticket)) else deals.isEmpty

instance (view : SyncView) : Decidable (s.ReadWhole tradeId mt5Ticket view) :=
  inferInstanceAs (Decidable (_ ∧ _))

/-- No deal comes after the stamp, and a call either sees that a ticket is not
settled yet or reads everything. -/
def Heard : ProfitStep → Prop
  | .deal _ => ((s.db.getTrade tradeId).bind Trade.mt5Profit).isNone = true
  | .sync view =>
      view.seesUnsettled (s.db.getTrade tradeId) tradeId mt5Ticket = true ∨
        s.ReadWhole tradeId mt5Ticket view

instance : (a : ProfitStep) → Decidable (s.Heard tradeId mt5Ticket a)
  | .deal _ => inferInstanceAs (Decidable (_ = true))
  | .sync _ => inferInstanceAs (Decidable (_ ∨ _))

/-- The row and the balance have moved together, and a stamp is final. -/
structure Sound (tradeId : String) (net balance : ℚ) (s : ProfitWatch) (t : Trade) : Prop where
  found : s.db.getTrade tradeId = some t
  together : t.netPnl = net ∧ s.db.balance = balance ∨
    OnGrid 2 t.netPnl ∧ |s.db.balance - balance - (t.netPnl - net)| ≤ 1 / 20000
  stamp : ∀ profit ∈ t.mt5Profit,
    (∀ leg ∈ s.legs, s.closed leg = true) ∧ profit = roundTo 2 s.legSum ∧
      |t.netPnl - profit| < 1 / 100

variable {tradeId mt5Ticket net balance s} {t : Trade}

theorem Sound.final (h : Sound tradeId net balance s t) : s.Final tradeId net balance := by
  intro t' found profit stamped
  rw [h.found] at found
  rw [← Option.some.inj found] at stamped ⊢
  obtain ⟨closed, same, near⟩ := h.stamp profit stamped
  refine ⟨closed, same, near, ?_⟩
  cases h.together with
  | inl still =>
      rw [still.2, sub_self, zero_sub, abs_neg, abs_sub_comm, ← still.1]
      exact near
  | inr moved =>
      have grid : OnGrid 2 profit := same ▸ roundTo_onGrid 2 _
      have equal : t.netPnl = profit :=
        moved.1.eq_of_abs_sub_lt grid (near.trans_eq (by norm_num))
      rw [← equal]
      exact moved.2.trans_lt (by norm_num)

/-- A correction inside the dead band is of a difference inside it. -/
theorem abs_lt_of_deadBand {x : ℚ} (small : ¬ 1 / 100 ≤ |roundTo 4 x|) : |x| < 1 / 100 := by
  obtain ⟨k, rounded⟩ := roundTo_onGrid 4 x
  have error := abs_roundTo_sub_le 4 x
  rw [rounded] at small error
  have pos : (0 : ℚ) < 10 ^ 4 := by norm_num
  rw [not_le, abs_div, abs_of_pos pos, div_lt_div_iff₀ pos (by norm_num)] at small
  have lt : |k| < 100 := by
    have cast : (|k| : ℚ) < 100 := by linarith
    exact_mod_cast cast
  have le : (|k| : ℚ) ≤ 99 := by exact_mod_cast Int.le_of_lt_add_one lt
  have split : |x| ≤ |(k : ℚ) / 10 ^ 4| + |(k : ℚ) / 10 ^ 4 - x| := by
    have apart := abs_sub_abs_le_abs_sub x ((k : ℚ) / 10 ^ 4)
    rw [abs_sub_comm] at apart
    linarith
  rw [abs_div, abs_of_pos pos] at split
  have scaled : (|k| : ℚ) / 10 ^ 4 ≤ 99 / 10 ^ 4 := div_le_div_of_nonneg_right le pos.le
  norm_num at scaled error split ⊢
  linarith

/-- What the reads of a whole view add up to. -/
theorem taken_of_readWhole {view : SyncView} (whole : s.ReadWhole tradeId mt5Ticket view)
    (settled : view.seesUnsettled (s.db.getTrade tradeId) tradeId mt5Ticket = false) :
    ((view.ticketSet (s.db.getTrade tradeId) tradeId mt5Ticket).map view.taken).sum =
      s.legSum := by
  generalize tickets : view.ticketSet (s.db.getTrade tradeId) tradeId mt5Ticket = all at whole
  have unique : all.Nodup := by
    rw [← tickets, SyncView.ticketSet]
    exact (List.perm_insertionSort _ _).nodup_iff.mpr (List.nodup_dedup _)
  rw [SyncView.seesUnsettled, tickets, List.any_eq_false] at settled
  have each : ∀ ticket ∈ all, view.taken ticket =
      if ticket ∈ s.legs then ((s.dealsOf ticket).map Deal.money).sum else 0 := by
    intro ticket mem
    have read := whole.2 ticket (tickets ▸ mem)
    have done := settled ticket mem
    rw [SyncView.taken]
    rw [SyncView.unsettled] at done
    cases deals : view.dealsOf ticket with
    | none =>
        rw [deals] at read
        exact absurd read (by simp)
    | some ds =>
        rw [deals] at read done
        rw [Option.any_some] at read
        by_cases leg : ticket ∈ s.legs
        · rw [if_pos leg, decide_eq_true_eq] at read
          rw [if_pos leg, ← (read.map Deal.money).sum_eq]
          cases ds with
          | nil => rfl
          | cons d rest =>
              dsimp only at done ⊢
              rw [Bool.not_eq_true, Bool.not_eq_false'] at done
              rw [if_pos done]
        · rw [if_neg leg, List.isEmpty_iff] at read
          rw [if_neg leg, read]
          rfl
  have listed : (all.filter fun ticket => decide (ticket ∈ s.legs)).Perm s.legs := by
    have once : s.legs.Nodup := List.nodup_dedup _
    rw [List.perm_ext_iff_of_nodup (unique.filter _) once]
    intro ticket
    rw [List.mem_filter, decide_eq_true_eq]
    exact ⟨fun h => h.2, fun h => ⟨tickets ▸ (whole.1 ticket h).1, h⟩⟩
  rw [legSum, ← (listed.map _).sum_eq, List.map_congr_left each]
  clear each listed unique settled whole tickets
  induction all with
  | nil => rfl
  | cons ticket all ih =>
      rw [List.map_cons, List.sum_cons, ih, List.filter_cons]
      by_cases leg : ticket ∈ s.legs <;> simp [leg]

/-- The row and the balance move by the same correction. -/
theorem Sound.corrected (h : Sound tradeId net balance s t) {profit c : ℚ} (grid : OnGrid 2 profit)
    (due : syncCorrection s.db tradeId profit = some c) :
    |s.db.balance + c - balance - (profit - net)| ≤ 1 / 20000 := by
  obtain ⟨t', found, amount⟩ := syncCorrection_eq_some due
  rw [h.found] at found
  rw [← Option.some.inj found] at amount
  cases h.together with
  | inl still =>
      have error := abs_roundTo_sub_le 4 (profit - t.netPnl)
      rw [still.2, amount, ← still.1, add_sub_cancel_left]
      exact error.trans_eq (by norm_num)
  | inr moved =>
      have whole : c = profit - t.netPnl := by
        rw [amount]
        exact roundTo_of_onGrid ((grid.sub moved.1).mono (by omega))
      have same : s.db.balance + c - balance - (profit - net) =
          s.db.balance - balance - (t.netPnl - net) := by
        rw [whole]
        ring
      rw [same]
      exact moved.2

/-- Without a correction the row is already within the dead band of the legs'
profit, by this call's comparison or by an earlier stamp. -/
theorem Sound.near (h : Sound tradeId net balance s t)
    (quiet : syncCorrection s.db tradeId (roundTo 2 s.legSum) = none) :
    |t.netPnl - roundTo 2 s.legSum| < 1 / 100 := by
  rw [syncCorrection_of_found h.found] at quiet
  split at quiet
  · exact absurd quiet (by simp)
  · next calm =>
      rw [not_and_or] at calm
      cases calm with
      | inl stamped =>
          obtain ⟨old, held⟩ := Option.ne_none_iff_exists'.mp stamped
          obtain ⟨-, same, near⟩ := h.stamp old held
          rw [← same]
          exact near
      | inr small =>
          rw [abs_sub_comm]
          exact abs_lt_of_deadBand small

theorem Sound.sync (h : Sound tradeId net balance s t) {view : SyncView}
    (heard : s.Heard tradeId mt5Ticket (.sync view)) :
    ∃ t, Sound tradeId net balance (s.step tradeId mt5Ticket (.sync view)) t := by
  rw [step]
  cases result : syncProfit s.db tradeId mt5Ticket view with
  | none => exact ⟨t, h⟩
  | some w =>
      obtain ⟨mine, profit, settled⟩ := SyncView.syncProfit_spec result
      have write := applyProfitSync_spec s.db w.tradeId w.mt5Profit w.riskTotal w.allSettled
      dsimp only
      rw [mine] at write ⊢
      have grid : OnGrid 2 w.mt5Profit := profit ▸ roundTo_onGrid 2 _
      have found := write.getTrade_self
      rw [h.found] at found
      have whole : w.allSettled = true →
          (∀ leg ∈ s.legs, s.closed leg = true) ∧ w.mt5Profit = roundTo 2 s.legSum := by
        intro all
        rw [settled, Bool.not_eq_true'] at all
        have read := heard.resolve_left (by simp [all])
        rw [profit, taken_of_readWhole read all]
        exact ⟨fun leg mem => (read.1 leg mem).2, rfl⟩
      refine ⟨_, found, ?_, ?_⟩
      · rw [Trade.afterSync_netPnl, write.balance]
        cases due : syncCorrection s.db tradeId w.mt5Profit with
        | none =>
            simp only [Option.isSome_none, Bool.false_eq_true, if_false, Option.getD_none, add_zero]
            exact h.together
        | some c =>
            simp only [Option.isSome_some, if_true, Option.getD_some]
            exact .inr ⟨grid, h.corrected grid due⟩
      · intro stamped mem
        rw [Trade.afterSync_mt5Profit] at mem
        rw [Trade.afterSync_netPnl]
        by_cases all : w.allSettled = true
        · -- the stamp is this call's
          obtain ⟨closed, same⟩ := whole all
          rw [if_pos all] at mem
          rw [← Option.some.inj mem]
          refine ⟨closed, same, ?_⟩
          cases due : syncCorrection s.db tradeId w.mt5Profit with
          | none =>
              rw [same] at due ⊢
              simpa using h.near due
          | some c => simp
        · -- an earlier stamp has kept this call from correcting
          rw [if_neg all] at mem
          have quiet : syncCorrection s.db tradeId w.mt5Profit = none := by
            rw [syncCorrection_of_found h.found]
            exact if_neg fun due => absurd (due.1.symm.trans mem) (by simp)
          rw [quiet]
          exact h.stamp stamped mem

theorem Sound.deal (h : Sound tradeId net balance s t) {d : Deal}
    (heard : s.Heard tradeId mt5Ticket (.deal d)) :
    Sound tradeId net balance (s.step tradeId mt5Ticket (.deal d)) t := by
  refine ⟨h.found, h.together, ?_⟩
  intro profit stamped
  rw [Heard, h.found, Option.bind_some, Option.isNone_iff_eq_none] at heard
  rw [heard] at stamped
  exact absurd stamped (by simp)

/-- In every state of a run of deals and of profit syncs whose reads are whole
whenever they look settled, a stamped trade has all its filled legs closed and
summed, and its net profit and the balance stand at that sum. -/
theorem stamped_profit_final (tradeId : String) (mt5Ticket : ℤ) (db : Db) (row : Trade)
    (run : List ProfitStep) (found : db.getTrade tradeId = some row)
    (unsynced : row.mt5Profit = none)
    (heard : Meets (step tradeId mt5Ticket) (Heard tradeId mt5Ticket) ⟨db, []⟩ run) :
    ∀ s ∈ states (step tradeId mt5Ticket) ⟨db, []⟩ run,
      s.Final tradeId row.netPnl db.balance := by
  intro s visited
  have sound := states_invariant (I := fun s => ∃ t, Sound tradeId row.netPnl db.balance s t)
    ?_ ?_ heard s visited
  · obtain ⟨t, h⟩ := sound
    exact h.final
  · intro s a h heard
    obtain ⟨t, h⟩ := h
    cases a with
    | deal d => exact ⟨t, h.deal heard⟩
    | sync view => exact h.sync heard
  · refine ⟨row, found, .inl ⟨rfl, rfl⟩, ?_⟩
    intro profit stamped
    rw [unsynced] at stamped
    exact absurd stamped (by simp)

end ProfitWatch

/-- A leg of the grid trade `t1`: it fills, and it closes with a profit. -/
def gridLegOpened (position : ℤ) : Deal :=
  ⟨position, position, position, 0, 0, 1 / 2, 2000, 0, 0, -1, 10, "ea:t1"⟩
def gridLegClosed (position : ℤ) (volume profit : ℚ) : Deal :=
  ⟨position + 100, position + 100, position, 1, 1, volume, 2010, profit, 0, 0, 20, "[tp 2010]"⟩

def Trade.gridRow : Trade :=
  Trade.fresh "t1" "s1" (some 7001) .buy 2000 (1 / 2) 1990 [] 0 (.template "grid") .ea false
    (some 1990) none

/-- A bridge whose every read returns what there is of these deals. -/
def SyncView.reading (deals : List Deal) : SyncView where
  weekDeals := .value deals
  quarterDeals := .value deals
  positions := .value []
  positionHistory := fun ticket => .value (deals.filter fun d => decide (d.positionId = ticket))

namespace ProfitWatch

/-- The second leg closes after the first, with a call in between. -/
theorem stamped_profit_final_grid :
    let first := [gridLegOpened 7001, gridLegOpened 7002, gridLegClosed 7001 (1 / 2) 30]
    let all := first ++ [gridLegClosed 7002 (1 / 2) 20]
    ∀ s ∈ states (step "t1" 7001) ⟨Db.single Trade.gridRow Table.empty, []⟩
        (first.map .deal ++ [.sync (.reading first), .deal (gridLegClosed 7002 (1 / 2) 20),
          .sync (.reading all), .sync (.reading all)]),
      s.Final "t1" 0 1000 :=
  stamped_profit_final "t1" 7001 (Db.single Trade.gridRow Table.empty) Trade.gridRow _ rfl
    rfl (by decide +kernel)

/-- The stamp is set with a leg open when the leg lookup fails, when neither the
positions nor the leg's history can be read, and after a partial close of a
single ticket. -/
theorem stamped_before_settled :
    let opened := [gridLegOpened 7001, gridLegOpened 7002, gridLegClosed 7001 (1 / 2) 30]
    let half := [gridLegOpened 7001, gridLegClosed 7001 (1 / 4) 15]
    (¬ ∀ s ∈ states (step "t1" 7001) ⟨Db.single Trade.gridRow Table.empty, []⟩
        (opened.map .deal ++ [.sync { SyncView.reading opened with weekDeals := .raised }]),
      s.Final "t1" 0 1000) ∧
    (¬ ∀ s ∈ states (step "t1" 7001) ⟨Db.single Trade.gridRow Table.empty, []⟩
        (opened.map .deal ++ [.sync { SyncView.reading opened with
          quarterDeals := .none
          positions := .none
          positionHistory := fun ticket =>
            if ticket = 7001 then .value [gridLegOpened 7001, gridLegClosed 7001 (1 / 2) 30]
            else .none }]),
      s.Final "t1" 0 1000) ∧
    ¬ ∀ s ∈ states (step "t1" 7001) ⟨oneLotBook, []⟩
        (half.map .deal ++ [.sync (.reading half)]),
      s.Final "t1" 0 1000 := by
  refine ⟨?_, ?_, ?_⟩ <;> decide +kernel

end ProfitWatch

end Forex
