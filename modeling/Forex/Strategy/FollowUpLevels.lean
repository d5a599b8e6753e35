import Mathlib.Tactic.LinearCombination
import Forex.Broker.Sides
import Forex.Strategy.StopEvents

/-!
The levels that a follow-up leaves on an open instant trade. The channel states them
relative to its own zone; the fill may be anywhere.
-/

namespace Forex
open Support

/-- Levels that can be used from the fill: the stop on its losing side, no further from
it than the channel meant to be by half as much again, and two targets beyond it. -/
structure Trade.UsableFrom (fill : Trade) (intended : ℚ) (row : Trade) : Prop where
  losing : 0 < fill.direction.sign * (fill.entryPrice - row.stopLoss)
  near : |fill.entryPrice - row.stopLoss| ≤ intended * (3 / 2)
  targets : 2 ≤ (row.tps.take 8).reduceOption.countP fun tp =>
    decide (0 < fill.direction.sign * (tp - fill.entryPrice))

/-- The trade has usable levels after a call, and a stop that the call has asked the
broker for, if it has an order there. -/
def StopDesk.Usable (before after : StopDesk) (trade : Trade) (intended : ℚ) : Prop :=
  ∃ row, after.db.getTrade trade.tradeId = some row ∧ trade.UsableFrom intended row ∧
    ((linkedTicket trade.mt5Ticket).isSome = true →
      after.stops.sent = row.stopLoss :: before.stops.sent)

namespace FollowUp
variable (f : FollowUp) (trade : Trade)

/-- `_intended_sl_dist`. -/
def intended (stop : ℚ) : ℚ := |(f.parsed.entryLow + f.parsed.entryHigh) / 2 - stop|

/-- The strategy of the record once it is corrected. -/
def strategyAfter : Strategy :=
  ((f.corrected trade).filter fun _ => imeSelfManaged trade.strategy).getD trade.strategy

/-- The levels of the signal are meant for the trade: an app-managed one, whose strategy
does not set its own. -/
def acceptedBy : Bool :=
  !f.onlyAcknowledged trade &&
    (decide (trade.signalId = "") || !noPropagate (f.strategyAfter trade))

/-- The trade is the open one of its signal, or has no signal. -/
def reaches (trade : Trade) (s : StopDesk) : Prop :=
  trade.signalId = "" ∨ (s.db.openTradeOf trade.signalId).map Trade.tradeId = some trade.tradeId

/-- What rounding the shifted stop to cents takes from its distance. -/
def roundedAway (stop : ℚ) : ℚ :=
  let shifted := trade.entryPrice - trade.direction.sign * f.intended stop
  trade.direction.sign * (roundTo 2 shifted - shifted)

/-- A stop that is near enough lies on the losing side of the fill; one that is too far
is shifted without being rounded out of its range, for a trade that has a signal or no
order; and a trade that is not the open one of its signal has usable levels already. -/
structure Fits (s : StopDesk) (stop : ℚ) : Prop where
  near : reaches trade s → |trade.entryPrice - stop| ≤ f.intended stop * (3 / 2) →
    0 < trade.direction.sign * (trade.entryPrice - stop)
  far : reaches trade s → f.intended stop * (3 / 2) < |trade.entryPrice - stop| →
    f.roundedAway trade stop < f.intended stop ∧
      -(f.intended stop / 2) ≤ f.roundedAway trade stop ∧
      (trade.signalId = "" → linkedTicket trade.mt5Ticket = none)
  other : ¬ reaches trade s →
    linkedTicket trade.mt5Ticket = none ∧ trade.UsableFrom (f.intended stop) trade

end FollowUp

section Targets

theorem countP_reduceOption {α : Type} (q : α → Bool) (l : List (Option α)) :
    l.reduceOption.countP q = l.countP (Option.any q) := by
  induction l with
  | nil => rfl
  | cons a l ih =>
      cases a with
      | none => simpa using ih
      | some a => simp [List.countP_cons, ih]

/-- A level that the signal states takes the place of the one in the row. -/
theorem countP_take_le {q : ℚ → Bool} (l : List (Option ℚ)) (held : ℕ → Option ℚ) (n : ℕ) :
    (l.take n).countP (Option.any q) ≤
      ((List.range n).map fun i => ((l.getD i none).map some).getD (held i)).countP
        (Option.any q) := by
  induction n generalizing l held with
  | zero => simp
  | succ n ih =>
      cases l with
      | nil => simp
      | cons a l =>
          have rest := ih l fun i => held (i + 1)
          rw [List.range_succ_eq_map, List.map_cons, List.map_map, List.take_succ_cons,
            List.countP_cons, List.countP_cons]
          refine Nat.add_le_add rest ?_
          cases a with
          | none => simp
          | some a => simp

theorem spaced_beyond (d : Direction) (entry : ℚ) {off : ℚ} (far : 1 ≤ off) :
    0 < d.sign * (roundTo 2 (entry + d.sign * off) - entry) := by
  have near := abs_le.mp (abs_roundTo_sub_le 2 (entry + d.sign * off))
  generalize roundTo 2 (entry + d.sign * off) = level at near ⊢
  norm_num at near
  cases d with
  | buy =>
      simp only [Direction.sign] at near ⊢
      linarith [near.1]
  | sell =>
      simp only [Direction.sign] at near ⊢
      linarith [near.2]

variable (f : FollowUp) (fill row : Trade) (stop : ℚ)

/-- Two of the targets that are stored are beyond the fill, whatever the signal states. -/
theorem two_targets :
    2 ≤ ((Trade.updateTradeFields (f.updates fill stop) row).tps.take 8).reduceOption.countP
      fun tp => decide (0 < fill.direction.sign * (tp - fill.entryPrice)) := by
  have written : ((Trade.updateTradeFields (f.updates fill stop) row).tps.take 8) =
      (List.range 8).map fun i => (f.tpUpdates fill (i + 1)).getD (row.tp (i + 1)) := rfl
  rw [written, countP_reduceOption]
  by_cases few : (f.parsed.tps.take 8).reduceOption.countP
      (fun tp => decide (0 < fill.direction.sign * (tp - fill.entryPrice))) < 2
  · have first := spaced_beyond fill.direction fill.entryPrice (show (1 : ℚ) ≤ 3 by norm_num)
    have second := spaced_beyond fill.direction fill.entryPrice (show (1 : ℚ) ≤ 5 by norm_num)
    have auto (i : ℕ) : f.tpUpdates fill (i + 1) = some (autoTpOffsets[i]?.map fun off =>
        roundTo 2 (fill.entryPrice + fill.direction.sign * off)) := by
      rw [FollowUp.tpUpdates]
      exact if_pos few
    rw [show (8 : ℕ) = 6 + 1 + 1 from rfl, List.range_succ_eq_map, List.range_succ_eq_map]
    simp only [List.map_cons, List.countP_cons, auto, autoTpOffsets]
    simp [first, second]
  · have stated (i : ℕ) : f.tpUpdates fill (i + 1) = (f.parsed.tps.getD i none).map some := by
      rw [FollowUp.tpUpdates]
      exact if_neg few
    have kept := countP_take_le (q := fun tp =>
      decide (0 < fill.direction.sign * (tp - fill.entryPrice))) f.parsed.tps
      (fun i => row.tp (i + 1)) 8
    rw [countP_reduceOption] at few
    simp only [stated]
    omega

end Targets

section Stop
variable {f : FollowUp} {trade : Trade} {stop : ℚ}

/-- The zone of a valid signal is away from its stop. -/
theorem intended_pos (valid : f.parsed.Valid) (stated : f.parsed.stopLoss = some stop) :
    0 < f.intended stop := by
  obtain ⟨range, ⟨stop', stated', behind⟩, -, -⟩ := valid
  obtain rfl := Option.some.inj (stated.symm.trans stated')
  refine abs_pos.mpr ?_
  cases direction : f.parsed.direction with
  | buy =>
      rw [direction] at behind
      have below : stop < f.parsed.entryLow := behind
      exact ne_of_gt (by linarith)
  | sell =>
      rw [direction] at behind
      have above : f.parsed.entryHigh < stop := behind
      exact ne_of_lt (by linarith)

/-- When the stop of the update is on the losing side and near enough. -/
theorem followUpStop_fits_iff (trade : Trade) (pos : 0 < f.intended stop) :
    (0 < trade.direction.sign * (trade.entryPrice - followUpStop trade f.parsed stop) ∧
        |trade.entryPrice - followUpStop trade f.parsed stop| ≤ f.intended stop * (3 / 2)) ↔
      (|trade.entryPrice - stop| ≤ f.intended stop * (3 / 2) →
          0 < trade.direction.sign * (trade.entryPrice - stop)) ∧
        (f.intended stop * (3 / 2) < |trade.entryPrice - stop| →
          f.roundedAway trade stop < f.intended stop ∧
            -(f.intended stop / 2) ≤ f.roundedAway trade stop) := by
  by_cases far : f.intended stop * (3 / 2) < |trade.entryPrice - stop|
  · have shifted : followUpStop trade f.parsed stop =
        roundTo 2 (trade.entryPrice - trade.direction.sign * f.intended stop) :=
      if_pos ⟨pos, far⟩
    have distance : trade.direction.sign * (trade.entryPrice - followUpStop trade f.parsed stop) =
        f.intended stop - f.roundedAway trade stop := by
      rw [shifted, FollowUp.roundedAway]
      linear_combination f.intended stop * trade.direction.sign_mul_sign
    rw [← trade.direction.abs_sign_mul, distance, abs_le]
    constructor
    · rintro ⟨losing, near⟩
      exact ⟨fun close => absurd far (not_lt.mpr close), fun _ => ⟨by linarith, by linarith⟩⟩
    · rintro ⟨-, fits⟩
      obtain ⟨inside, outside⟩ := fits far
      exact ⟨by linarith, by linarith, by linarith⟩
  · have kept : followUpStop trade f.parsed stop = stop := if_neg fun both => far both.2
    rw [kept]
    constructor
    · rintro ⟨losing, -⟩
      exact ⟨fun _ => losing, fun away => absurd away far⟩
    · rintro ⟨near, -⟩
      exact ⟨near (not_lt.mp far), not_lt.mp far⟩

end Stop

section Rows
variable {s : StopDesk} {trade : Trade}

theorem Db.openTradeOf_setTrade (db : Db) (tradeId signalId : String) {a : Assign Trade.tradeId}
    (same : ∀ t, (a t).signalId = t.signalId ∧ (a t).isOpen = t.isOpen) :
    ((db.setTrade tradeId a).openTradeOf signalId).map Trade.tradeId =
      (db.openTradeOf signalId).map Trade.tradeId := by
  have reads (t : Trade) :
      (decide ((if decide (t.tradeId = tradeId) then a t else t).signalId = signalId) &&
          (if decide (t.tradeId = tradeId) then a t else t).isOpen) =
        (decide (t.signalId = signalId) && t.isOpen) := by
    split_ifs
    · rw [(same t).1, (same t).2]
    · rfl
  have keeps (t : Trade) :
      (if decide (t.tradeId = tradeId) then a t else t).tradeId = t.tradeId := by
    split_ifs
    · exact a.keeps t
    · rfl
  rw [Db.openTradeOf, Db.openTradeOf, Db.setTrade, Table.update, Table.updateWhere,
    List.find?_map, Option.map_map]
  refine congrArg₂ Option.map (funext keeps) ?_
  exact congrArg (List.find? · db.trades.rows) (funext reads)

/-- The correction of the strategy changes nothing else of the trade. -/
theorem correctStrategy_spec (f : FollowUp) (found : s.db.getTrade trade.tradeId = some trade) :
    (s.correctStrategy f trade).db.getTrade trade.tradeId =
        some { trade with strategy := f.strategyAfter trade } ∧
      (∀ signalId, ((s.correctStrategy f trade).db.openTradeOf signalId).map Trade.tradeId =
        (s.db.openTradeOf signalId).map Trade.tradeId) ∧
      (s.correctStrategy f trade).stops = s.stops := by
  rw [StopDesk.correctStrategy, FollowUp.strategyAfter]
  cases (f.corrected trade).filter fun _ => imeSelfManaged trade.strategy with
  | none => exact ⟨found, fun _ => rfl, rfl⟩
  | some strategy =>
      refine ⟨?_, fun signalId => Db.openTradeOf_setTrade _ _ _ fun _ => ⟨rfl, rfl⟩, rfl⟩
      have row := Table.find_update_self s.db.trades trade.tradeId (Trade.setStrategy strategy)
      rw [show s.db.trades.find trade.tradeId = some trade from found] at row
      exact row

theorem updateTradeFields_row {row : Trade} (found : s.db.getTrade trade.tradeId = some row)
    (tradeId : String) (u : SignalUpdate) :
    (s.updateTradeFields tradeId trade u).db.getTrade trade.tradeId =
      some (Trade.updateTradeFields u row) := by
  have written := Table.find_update_self s.db.trades trade.tradeId (Trade.updateTradeFields u)
  rw [show s.db.trades.find trade.tradeId = some row from found] at written
  exact written

theorem updateTradeFields_other {other : Trade} (ne : other.tradeId ≠ trade.tradeId)
    (tradeId : String) (u : SignalUpdate) :
    (s.updateTradeFields tradeId other u).db.getTrade trade.tradeId =
      s.db.getTrade trade.tradeId :=
  Table.find_update_of_ne _ _ ne.symm

theorem updateTradeFields_sent (tradeId : String) (u : SignalUpdate) :
    (s.updateTradeFields tradeId trade u).stops.sent = s.stops.sent := by
  rw [StopDesk.updateTradeFields]
  split_ifs
  · cases u.stopLoss <;> rfl
  · rfl

theorem modifyOther_db (tradeId : String) (view : ModifyView) (sl : Option ℚ) :
    (s.modifyOther tradeId trade view sl).db = s.db := by
  rw [StopDesk.modifyOther]
  split_ifs
  · exact (LadderStops.modifyOrder_db_cache trade s view sl).1
  · rfl

theorem modifyOther_sent (linked : (linkedTicket trade.mt5Ticket).isSome = true)
    (view : ModifyView) (sl : Option ℚ) :
    (s.modifyOther trade.tradeId trade view sl).stops.sent = sl.toList ++ s.stops.sent := by
  rw [StopDesk.modifyOther, if_pos rfl, StopDesk.modifyOrder]
  obtain ⟨ticket, known⟩ := Option.isSome_iff_exists.mp linked
  rw [known]
  rfl

theorem usable_iff {after : StopDesk} {intended : ℚ} {row : Trade}
    (found : after.db.getTrade trade.tradeId = some row) :
    s.Usable after trade intended ↔ trade.UsableFrom intended row ∧
      ((linkedTicket trade.mt5Ticket).isSome = true →
        after.stops.sent = row.stopLoss :: s.stops.sent) := by
  constructor
  · rintro ⟨row', found', usable⟩
    obtain rfl := Option.some.inj (found.symm.trans found')
    exact usable
  · exact fun usable => ⟨row, found, usable⟩

end Rows

section Usable
variable {s : StopDesk} {f : FollowUp} {trade : Trade} {stop : ℚ}

/-- The targets of the update are usable in any case. -/
theorem usableFrom_updates_iff (row : Trade) :
    trade.UsableFrom (f.intended stop)
        (Trade.updateTradeFields (f.updates trade stop) row) ↔
      0 < trade.direction.sign * (trade.entryPrice - followUpStop trade f.parsed stop) ∧
        |trade.entryPrice - followUpStop trade f.parsed stop| ≤ f.intended stop * (3 / 2) :=
  ⟨fun usable => ⟨usable.losing, usable.near⟩,
    fun ⟨losing, near⟩ => ⟨losing, near, two_targets f trade row stop⟩⟩

/-- A trade without a signal: the stop of the message is the one sent. -/
theorem usable_unsigned_iff {row : Trade} (found : s.db.getTrade trade.tradeId = some row)
    (before : StopDesk) (sent : s.stops.sent = before.stops.sent) (view : ModifyView) :
    before.Usable ((s.updateTradeFields trade.tradeId trade (f.updates trade stop)).modifyOther
        trade.tradeId trade view (some stop)) trade (f.intended stop) ↔
      (0 < trade.direction.sign * (trade.entryPrice - followUpStop trade f.parsed stop) ∧
        |trade.entryPrice - followUpStop trade f.parsed stop| ≤ f.intended stop * (3 / 2)) ∧
        ((linkedTicket trade.mt5Ticket).isSome = true →
          stop = followUpStop trade f.parsed stop) := by
  have stored := updateTradeFields_row found trade.tradeId (f.updates trade stop)
  rw [usable_iff ((congrArg (Db.getTrade · trade.tradeId)
    (modifyOther_db trade.tradeId view (some stop))).trans stored), usableFrom_updates_iff]
  refine and_congr_right fun _ => forall_congr' fun linked => ?_
  rw [modifyOther_sent linked, updateTradeFields_sent, sent]
  exact ⟨fun same => (List.cons.inj same).1, fun same => congrArg (· :: before.stops.sent) same⟩

/-- The open trade of a signal: a stop on the losing side is sent as it is stored. -/
theorem usable_signed_iff {row : Trade} (found : s.db.getTrade trade.tradeId = some row)
    (own : (s.db.openTradeOf trade.signalId).map Trade.tradeId = some trade.tradeId)
    (same : row.SamePosition trade) (python : trade.managedBy ≠ .ea)
    (follows : noPropagate row.strategy = false) (before : StopDesk)
    (sent : s.stops.sent = before.stops.sent) (v : LevelView) :
    before.Usable (s.updateSignal trade.tradeId trade.signalId (f.updates trade stop) v) trade
        (f.intended stop) ↔
      0 < trade.direction.sign * (trade.entryPrice - followUpStop trade f.parsed stop) ∧
        |trade.entryPrice - followUpStop trade f.parsed stop| ≤ f.intended stop * (3 / 2) := by
  obtain ⟨opened, current, id⟩ := Option.map_eq_some_iff.mp own
  have key : row.tradeId = trade.tradeId := Table.key_of_find found
  obtain rfl : opened = row :=
    Table.eq_of_mem_of_key (List.mem_of_find?_eq_some current) (Table.find_mem found)
      (id.trans key.symm)
  have fields : (f.updates trade stop).hasTradeFields = true := rfl
  have mine : v.eaManaging opened = false := by
    rw [LevelView.eaManaging, same.managedBy, decide_eq_false python]
    rfl
  have linkedTo : (s.updateSignal trade.tradeId trade.signalId (f.updates trade stop) v) =
      (s.updateTradeFields trade.tradeId opened (f.updates trade stop)).modifyOther trade.tradeId
        opened v.modify (signalStop opened (f.updates trade stop)) := by
    rw [StopDesk.updateSignal, current]
    simp [follows, fields, mine]
  have found' : s.db.getTrade opened.tradeId = some opened := id.symm ▸ found
  have stored := updateTradeFields_row found' trade.tradeId (f.updates trade stop)
  rw [id] at stored
  rw [linkedTo, usable_iff ((congrArg (Db.getTrade · trade.tradeId)
    (modifyOther_db trade.tradeId v.modify _)).trans stored), usableFrom_updates_iff,
    and_iff_left_iff_imp]
  rintro ⟨losing, -⟩ linked
  have sends : signalStop opened (f.updates trade stop) =
      some (followUpStop trade f.parsed stop) := by
    refine Option.filter_eq_some_iff.mpr ⟨rfl, ?_⟩
    rw [same.direction, same.entryPrice]
    revert losing
    cases trade.direction with
    | buy => simp [Direction.tighter, Direction.sign]
    | sell => simp [Direction.tighter, Direction.sign]
  rw [← id, modifyOther_sent (same.mt5Ticket.symm ▸ linked), updateTradeFields_sent, sends, sent]
  rfl

/-- What `apply_followup_to_instant_trade` does to a trade that accepts the levels. -/
theorem applyFollowup_eq (found : s.db.getTrade trade.tradeId = some trade)
    (target : f.target = trade.tradeId) (live : trade.isOpen = true)
    (applied : f.onlyAcknowledged trade = false) (stated : f.parsed.stopLoss = some stop)
    (v : LevelView) :
    s.applyFollowup trade.tradeId f v =
      if trade.signalId = "" then
        ((s.correctStrategy f trade).updateTradeFields trade.tradeId trade
          (f.updates trade stop)).modifyOther trade.tradeId trade v.modify (some stop)
      else (s.correctStrategy f trade).updateSignal trade.tradeId trade.signalId
        (f.updates trade stop) v := by
  rw [StopDesk.applyFollowup, target, found]
  simp [live, applied, stated]

/-- A trade that is not the open one of its signal is left as it is. -/
theorem usable_other_iff (found : s.db.getTrade trade.tradeId = some trade)
    (other : (s.db.openTradeOf trade.signalId).map Trade.tradeId ≠ some trade.tradeId)
    (u : SignalUpdate) (v : LevelView) (intended : ℚ) :
    s.Usable ((s.correctStrategy f trade).updateSignal trade.tradeId trade.signalId u v) trade
        intended ↔
      linkedTicket trade.mt5Ticket = none ∧ trade.UsableFrom intended trade := by
  obtain ⟨row, current, stops⟩ := correctStrategy_spec f found
  rw [← current] at other
  have untouched : (((s.correctStrategy f trade).updateSignal trade.tradeId trade.signalId u
        v).db.getTrade trade.tradeId = some { trade with strategy := f.strategyAfter trade }) ∧
      ((s.correctStrategy f trade).updateSignal trade.tradeId trade.signalId u v).stops.sent =
        s.stops.sent := by
    rw [← row, ← stops, StopDesk.updateSignal]
    cases holder : (s.correctStrategy f trade).db.openTradeOf trade.signalId with
    | none => exact ⟨rfl, rfl⟩
    | some opened =>
        have ne : opened.tradeId ≠ trade.tradeId := by
          rintro same
          rw [holder, Option.map_some, same] at other
          exact other rfl
        have kept := updateTradeFields_other (s := s.correctStrategy f trade) ne trade.tradeId u
        dsimp only
        split_ifs
        · exact ⟨rfl, rfl⟩
        · exact ⟨kept, updateTradeFields_sent _ _⟩
        · rw [StopDesk.modifyOther, if_neg ne]
          exact ⟨kept, updateTradeFields_sent _ _⟩
  rw [usable_iff untouched.1, untouched.2]
  have silent : ((linkedTicket trade.mt5Ticket).isSome = true →
      s.stops.sent = trade.stopLoss :: s.stops.sent) ↔ linkedTicket trade.mt5Ticket = none := by
    rw [← Option.not_isSome_iff_eq_none]
    exact ⟨fun sends linked => List.cons_ne_self _ _ (sends linked).symm,
      fun none linked => absurd linked none⟩
  rw [silent, and_comm]
  exact and_congr_right fun _ => ⟨fun usable => ⟨usable.losing, usable.near, usable.targets⟩,
    fun usable => ⟨usable.losing, usable.near, usable.targets⟩⟩

/-- The levels of a valid follow-up are usable from the fill exactly when they fit it. -/
theorem applyFollowup_usable_iff (found : s.db.getTrade f.target = some trade)
    (live : trade.isOpen = true) (accepts : f.acceptedBy trade = true)
    (valid : validateSignal f.parsed = []) (stated : f.parsed.stopLoss = some stop)
    (v : LevelView) :
    s.Usable (s.applyFollowup f.target f v) trade (f.intended stop) ↔ f.Fits trade s stop := by
  have key : trade.tradeId = f.target := Table.key_of_find found
  have pos := intended_pos (Parsed.validateSignal_eq_nil_iff.mp valid) stated
  have fits := followUpStop_fits_iff trade pos
  rw [FollowUp.acceptedBy, Bool.and_eq_true, Bool.not_eq_true'] at accepts
  obtain ⟨applied, follows⟩ := accepts
  have python : trade.managedBy ≠ .ea := by
    rintro ea
    simp [FollowUp.onlyAcknowledged, ea] at applied
  rw [← key] at found ⊢
  obtain ⟨row, current, stops⟩ := correctStrategy_spec f found
  have sent : (s.correctStrategy f trade).stops.sent = s.stops.sent := congrArg StopBook.sent stops
  rw [applyFollowup_eq found key.symm live applied stated]
  by_cases unsigned : trade.signalId = ""
  · have reached : FollowUp.reaches trade s := Or.inl unsigned
    rw [if_pos unsigned]
    rw [usable_unsigned_iff row s sent v.modify, fits]
    constructor
    · rintro ⟨⟨near, far⟩, same⟩
      refine ⟨fun _ => near, fun _ away => ⟨(far away).1, (far away).2, fun _ => ?_⟩,
        fun missed => absurd reached missed⟩
      -- a stop that had to be adjusted is not the one of the message
      refine Option.not_isSome_iff_eq_none.mp fun linked => ?_
      have close := (fits.mpr ⟨near, far⟩).2
      rw [← same linked] at close
      exact absurd away (not_lt.mpr close)
    · rintro ⟨near, far, -⟩
      refine ⟨⟨near reached, fun away => ⟨(far reached away).1, (far reached away).2.1⟩⟩,
        fun linked => ?_⟩
      by_cases away : f.intended stop * (3 / 2) < |trade.entryPrice - stop|
      · rw [(far reached away).2.2 unsigned] at linked
        cases linked
      · exact (if_neg fun both => away both.2).symm
  · rw [if_neg unsigned]
    have row' : noPropagate (f.strategyAfter trade) = false := by
      simpa [unsigned] using follows
    by_cases own : (s.db.openTradeOf trade.signalId).map Trade.tradeId = some trade.tradeId
    · have reached : FollowUp.reaches trade s := Or.inr own
      rw [usable_signed_iff row ((current _).trans own) ⟨rfl, rfl, rfl, rfl⟩ python row' s sent v,
        fits]
      constructor
      · rintro ⟨near, far⟩
        exact ⟨fun _ => near, fun _ away => ⟨(far away).1, (far away).2, fun none =>
          absurd none unsigned⟩, fun missed => absurd reached missed⟩
      · rintro ⟨near, far, -⟩
        exact ⟨near reached, fun away => ⟨(far reached away).1, (far reached away).2.1⟩⟩
    · have missed : ¬ FollowUp.reaches trade s := fun reached =>
        reached.elim unsigned own
      rw [usable_other_iff found own]
      constructor
      · exact fun kept => ⟨fun reached => absurd reached missed,
          fun reached => absurd reached missed, fun _ => kept⟩
      · exact fun kept => kept.other missed

end Usable

/-- A full signal for the trade filled at 2000, with a zone above the fill. -/
def zoneAbove (stop : ℚ) : FollowUp :=
  ⟨"t1", ⟨.buy, 2001, 2003, some stop, [some 2010, some 2015], some false⟩, none⟩

def filledDesk : StopDesk := .opened Trade.oneLot oneLotBook none fun _ => none

theorem applyFollowup_usable_below :
    filledDesk.Usable (filledDesk.applyFollowup "t1" (zoneAbove 1998) ⟨⟨true, none, true⟩, false⟩)
      Trade.oneLot ((zoneAbove 1998).intended 1998) := by
  have fits : (zoneAbove 1998).Fits Trade.oneLot filledDesk 1998 := by
    have reached : FollowUp.reaches Trade.oneLot filledDesk := Or.inr rfl
    refine ⟨fun _ _ => by decide +kernel, fun _ away => ?_, fun missed => absurd reached missed⟩
    exact absurd away (by decide +kernel)
  exact (applyFollowup_usable_iff (f := zoneAbove 1998) rfl rfl rfl (by decide +kernel) rfl
    ⟨⟨true, none, true⟩, false⟩).mpr fits

/-- The stop is below the zone and above the fill: it is stored as it is, and not sent. -/
theorem followup_stop_above_fill :
    ¬ ∀ (s : StopDesk) (f : FollowUp) (trade : Trade) (stop : ℚ) (v : LevelView),
      s.db.getTrade f.target = some trade → trade.isOpen = true → f.acceptedBy trade = true →
        validateSignal f.parsed = [] → f.parsed.stopLoss = some stop →
          s.Usable (s.applyFollowup f.target f v) trade (f.intended stop) := by
  intro all
  obtain ⟨row, found, usable, -⟩ := all filledDesk (zoneAbove (4001 / 2)) Trade.oneLot (4001 / 2)
    ⟨⟨true, none, true⟩, false⟩ rfl rfl rfl (by decide +kernel) rfl
  have stored : ((filledDesk.applyFollowup "t1" (zoneAbove (4001 / 2))
      ⟨⟨true, none, true⟩, false⟩).db.getTrade "t1").map Trade.stopLoss = some (4001 / 2) := by
    decide +kernel
  have losing := usable.losing
  have level : row.stopLoss = 4001 / 2 := by
    rw [show (filledDesk.applyFollowup "t1" (zoneAbove (4001 / 2))
      ⟨⟨true, none, true⟩, false⟩).db.getTrade "t1" = some row from found] at stored
    exact Option.some.inj stored
  rw [level] at losing
  exact absurd losing (by decide +kernel)

end Forex
