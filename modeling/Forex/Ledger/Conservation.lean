import Forex.Ledger.Closers

/-!
Conservation of money and lots over every interleaving of the closers. The
invariant of the money part is that balance and total net profit drift apart by
a constant; rounding is exact because every stored amount lies on the grid the
code rounds to. The invariant of the lots part is that booked and remaining
lots together stay within the size of the trade.
-/

namespace Forex
open Support

def Trade.Exact (t : Trade) : Prop :=
  OnGrid 4 t.netPnl ∧ OnGrid 4 (t.mt5Profit.getD 0)

def Trade.Within (booked : ℚ) (t : Trade) : Prop :=
  0 ≤ t.remainingLots ∧ OnGrid 4 t.remainingLots ∧ booked + t.remainingLots ≤ t.lotSize

def Db.drift (db : Db) : ℚ := db.balance - db.totalNetPnl

def Db.Exact (db : Db) : Prop := ∀ t ∈ db.trades.rows, t.Exact

def Db.Within (db : Db) : Prop := ∀ t ∈ db.trades.rows, t.Within (db.bookedLots t.tradeId)

instance (t : Trade) : Decidable t.Exact := inferInstanceAs (Decidable (_ ∧ _))

instance (booked : ℚ) (t : Trade) : Decidable (t.Within booked) :=
  inferInstanceAs (Decidable (_ ∧ _ ∧ _))

instance (db : Db) : Decidable db.Exact :=
  inferInstanceAs (Decidable (∀ t ∈ db.trades.rows, t.Exact))

instance (db : Db) : Decidable db.Within :=
  inferInstanceAs (Decidable (∀ t ∈ db.trades.rows, t.Within (db.bookedLots t.tradeId)))

def CloserWrite.Grounded (db : Db) : CloserWrite → Prop
  | .partialClose w => w.row.tradeId ∈ db.trades.rows.map Trade.tradeId
  | .fullClose w => w.row.Exact
  | .profitSync w => OnGrid 4 w.mt5Profit

/-- A write that keeps the account and the trades in step. -/
structure Settles (db db' : Db) : Prop where
  keys : db'.trades.rows.map Trade.tradeId = db.trades.rows.map Trade.tradeId
  exact : db'.Exact
  drift : db'.drift = db.drift

theorem CloserWrite.Grounded.mono {db db' : Db} {w : CloserWrite}
    (keys : db'.trades.rows.map Trade.tradeId = db.trades.rows.map Trade.tradeId)
    (h : w.Grounded db) : w.Grounded db' := by
  cases w with
  | partialClose w =>
      rw [Grounded, keys]
      exact h
  | fullClose w => exact h
  | profitSync w => exact h

private theorem settles_refl {db : Db} (exact : db.Exact) : Settles db db :=
  ⟨rfl, exact, rfl⟩

section Write
variable {db db' : Db} {tradeId : String} {f : Assign Trade.tradeId}
  {booked : List PartialClose} {moved : ℚ}

/-- One row changes its net profit by what the balance moves. -/
theorem LedgerWrite.settles {t : Trade} (write : LedgerWrite db db' tradeId f booked moved)
    (found : db.getTrade tradeId = some t) (exact : db.Exact) (mine : (f t).Exact)
    (net : (f t).netPnl = t.netPnl + moved) : Settles db db' := by
  refine ⟨?_, ?_, ?_⟩
  · rw [write.trades]
    exact db.trades.keys_update tradeId f
  · rw [Db.Exact, write.trades]
    apply Table.forall_update
    · intro r hr _
      exact exact r hr
    · intro r hr
      have same : r = t := Option.some.inj (hr.symm.trans found)
      rw [same]
      exact mine
  · have total := Table.total_update found f Trade.netPnl
    have balance := write.balance
    dsimp only [Db.drift, Db.totalNetPnl]
    rw [write.trades]
    linarith

theorem LedgerWrite.settles_of_missing (write : LedgerWrite db db' tradeId f booked 0)
    (missing : db.getTrade tradeId = none) (exact : db.Exact) : Settles db db' := by
  have trades : db'.trades = db.trades := by
    rw [write.trades, Table.update_of_missing missing]
  refine ⟨by rw [trades], ?_, ?_⟩
  · rw [Db.Exact, trades]
    exact exact
  · rw [Db.drift, Db.drift, Db.totalNetPnl, Db.totalNetPnl, trades, write.balance, add_zero]

/-- A write that books nothing keeps each row within its size if its assignment
does. -/
theorem LedgerWrite.within (write : LedgerWrite db db' tradeId f [] moved) (within : db.Within)
    (mine : ∀ lots t, t.Within lots → (f t).Within lots) : db'.Within := by
  rw [Db.Within, write.trades]
  apply Table.forall_update
  · intro r hr _
    rw [write.bookedLots]
    exact within r hr
  · intro r hr
    rw [write.bookedLots, Trade.assign_tradeId]
    exact mine _ r (within r (Table.find_mem hr))

end Write

theorem partialWrite_settles {db : Db} {w : PartialWrite} (exact : db.Exact)
    (grounded : (CloserWrite.partialClose w).Grounded db) : Settles db (w.apply db) := by
  cases old : db.alreadyRecorded w.booking with
  | true =>
      rw [PartialWrite.apply_of_recorded old]
      exact settles_refl exact
  | false =>
      obtain ⟨t, found⟩ := Option.isSome_iff_exists.mp (Table.find_isSome_iff.mpr grounded)
      have exactRow := exact t (Table.find_mem found)
      apply (PartialWrite.apply_of_new old).settles found exact
      · refine ⟨?_, ?_⟩
        · rw [Trade.afterPartial_netPnl]
          exact exactRow.1.add (pnl_onGrid _ _ _ _)
        · rw [Trade.afterPartial_mt5Profit]
          exact exactRow.2
      · exact Trade.afterPartial_netPnl ..

theorem FullWrite.grossPnl_onGrid {w : FullWrite} (exact : w.row.Exact) :
    OnGrid 4 w.grossPnl := by
  rw [grossPnl]
  by_cases h : 0 < w.row.entryPrice
  · rw [if_pos h]
    exact pnl_onGrid _ _ _ _
  · rw [if_neg h]
    exact exact.2

theorem fullWrite_settles {db : Db} {w : FullWrite} (exact : db.Exact)
    (grounded : w.row.Exact)
    (fresh : ∀ t, db.getTrade w.row.tradeId = some t → t.isOpen = true →
      t.netPnl = w.row.netPnl) : Settles db (w.apply db).1 := by
  cases won : (db.getTrade w.row.tradeId).any Trade.isOpen with
  | false =>
      rw [FullWrite.apply_of_settled won]
      exact settles_refl exact
  | true =>
      obtain ⟨t, found, isOpen⟩ := (Option.any_eq_true _ _).mp won
      have exactRow := exact t (Table.find_mem found)
      have net : roundTo 4 (w.row.netPnl + w.grossPnl) = t.netPnl + w.grossPnl := by
        rw [roundTo_of_onGrid (grounded.1.add (FullWrite.grossPnl_onGrid grounded)),
          fresh t found isOpen]
      apply (FullWrite.apply_of_open won).settles found exact
      · exact ⟨roundTo_onGrid 4 _, exactRow.2⟩
      · exact net

theorem profitSync_settles {db : Db} {w : SyncWrite} (exact : db.Exact)
    (grounded : OnGrid 4 w.mt5Profit) :
    Settles db (applyProfitSync db w.tradeId w.mt5Profit w.riskTotal w.allSettled).1 := by
  have write := applyProfitSync_spec db w.tradeId w.mt5Profit w.riskTotal w.allSettled
  cases found : db.getTrade w.tradeId with
  | none =>
      have none : syncCorrection db w.tradeId w.mt5Profit = none := by
        rw [syncCorrection, found]
      rw [none] at write
      exact write.settles_of_missing found exact
  | some t =>
      have exactRow := exact t (Table.find_mem found)
      apply write.settles found exact
      · refine ⟨?_, ?_⟩
        · rw [Trade.afterSync_netPnl]
          split_ifs
          · exact grounded
          · exact exactRow.1
        · rw [Trade.afterSync_mt5Profit]
          split_ifs
          · exact grounded
          · exact exactRow.2
      · rw [Trade.afterSync_netPnl]
        cases due : syncCorrection db w.tradeId w.mt5Profit with
        | none => simp
        | some c =>
            obtain ⟨r, hr, rfl⟩ := syncCorrection_eq_some due
            have same : r = t := Option.some.inj (hr.symm.trans found)
            rw [same, roundTo_of_onGrid (grounded.sub exactRow.1)]
            simp

/-! Money over runs -/

structure Closing.InStep (drift : ℚ) (s : Closing) : Prop where
  exact : s.db.Exact
  grounded : ∀ w ∈ s.inFlight, w.Grounded s.db
  drift : s.db.drift = drift

theorem partialCloseTrade_grounded {db : Db} {tradeId reason : String} {lots price now : ℚ}
    {w : PartialWrite} (h : partialCloseTrade db tradeId lots price reason now = some w) :
    (CloserWrite.partialClose w).Grounded db :=
  List.mem_map_of_mem (Table.find_mem (partialCloseTrade_eq_some h).1)

theorem recordClose_grounded {db : Db} {tradeId reason : String} {price now : ℚ}
    {w : FullWrite} (exact : db.Exact)
    (h : recordClose db tradeId price reason now = some w) : w.row.Exact := by
  rw [recordClose] at h
  split at h
  · exact absurd h (by simp)
  · rename_i row found
    rw [← Option.some.inj h]
    exact exact row (Table.find_mem found)

theorem Closing.InStep.began {drift : ℚ} {s : Closing} {w : Option CloserWrite}
    (inv : s.InStep drift) (grounded : ∀ v, w = some v → v.Grounded s.db) :
    (s.began w).InStep drift := by
  cases w with
  | none => exact inv
  | some w =>
      refine ⟨inv.exact, ?_, inv.drift⟩
      intro v hv
      cases List.mem_append.mp hv with
      | inl h => exact inv.grounded v h
      | inr h =>
          rw [List.mem_singleton.mp h]
          exact grounded w rfl

private theorem closerWrite_settles {s : Closing} {i : ℕ} {w : CloserWrite}
    (exact : s.db.Exact) (atI : s.inFlight[i]? = some w) (grounded : w.Grounded s.db)
    (fresh : s.netFresh (.write i) = true) : Settles s.db (w.apply s.db) := by
  cases w with
  | partialClose w => exact partialWrite_settles exact grounded
  | profitSync w => exact profitSync_settles exact grounded
  | fullClose w =>
      apply fullWrite_settles exact grounded
      intro t found isOpen
      simp only [Closing.netFresh, atI, found, Option.all_some, isOpen] at fresh
      simpa using fresh

theorem Closing.InStep.step {drift : ℚ} (s : Closing) (a : CloserStep)
    (inv : s.InStep drift) (fresh : s.netFresh a = true) : (s.step a).InStep drift := by
  cases a with
  | readPartial tradeId lots price reason now =>
      apply inv.began
      intro v hv
      obtain ⟨w, hw, rfl⟩ := Option.map_eq_some_iff.mp hv
      exact partialCloseTrade_grounded hw
  | readClose tradeId price reason now =>
      apply inv.began
      intro v hv
      obtain ⟨w, hw, rfl⟩ := Option.map_eq_some_iff.mp hv
      exact recordClose_grounded inv.exact hw
  | readSync tradeId ticket view =>
      apply inv.began
      intro v hv
      obtain ⟨w, hw, rfl⟩ := Option.map_eq_some_iff.mp hv
      exact syncProfit_onGrid hw
  | write i =>
      cases atI : s.inFlight[i]? with
      | none =>
          rw [Closing.step_write_none atI]
          exact inv
      | some w =>
          rw [Closing.step_write_some atI]
          have settles := closerWrite_settles inv.exact atI
            (inv.grounded w (List.mem_of_getElem? atI)) fresh
          refine ⟨settles.exact, ?_, settles.drift.trans inv.drift⟩
          intro v hv
          exact (inv.grounded v (List.mem_of_mem_eraseIdx hv)).mono settles.keys

/-! Lots over runs -/

theorem partialWrite_within {db : Db} {w : PartialWrite} (within : db.Within)
    (grid : OnGrid 4 w.lots)
    (fresh : ∀ t, db.getTrade w.row.tradeId = some t →
      t.remainingLots = w.row.remainingLots)
    (new : db.alreadyRecorded w.booking = false) : (w.apply db).Within := by
  have write := PartialWrite.apply_of_new new
  have booked (id : String) : (w.apply db).bookedLots id =
      db.bookedLots id + if w.row.tradeId = id then w.lots else 0 :=
    bookedLots_append db _ w.booking id write.partials
  rw [Db.Within, write.trades]
  apply Table.forall_update
  · intro r hr other
    rw [booked, if_neg (Ne.symm other), add_zero]
    exact within r hr
  · intro r hr
    obtain ⟨_, gridRow, sum⟩ := within r (Table.find_mem hr)
    have key : r.tradeId = w.row.tradeId := Table.key_of_find hr
    have le : w.lots ≤ r.remainingLots := by
      rw [fresh r hr]
      exact min_le_right _ _
    have left : (if w.newRemaining ≤ 0 then 0 else w.newRemaining) =
        r.remainingLots - w.lots := by
      rw [PartialWrite.newRemaining, ← fresh r hr, roundTo_of_onGrid (gridRow.sub grid)]
      split_ifs with none
      · linarith
      · rfl
    rw [Trade.Within, Trade.assign_tradeId, Trade.afterPartial_remainingLots,
      Trade.afterPartial_lotSize, left, booked, if_pos key.symm]
    exact ⟨by linarith, gridRow.sub grid, by linarith⟩

theorem fullWrite_within {db : Db} {w : FullWrite} (within : db.Within) :
    (w.apply db).1.Within := by
  cases won : (db.getTrade w.row.tradeId).any Trade.isOpen with
  | false =>
      rw [FullWrite.apply_of_settled won]
      exact within
  | true =>
      apply (FullWrite.apply_of_open won).within within
      rintro lots t ⟨nonneg, _, sum⟩
      refine ⟨le_refl 0, onGrid_zero 4, ?_⟩
      show lots + 0 ≤ t.lotSize
      linarith

theorem profitSync_within {db : Db} {w : SyncWrite} (within : db.Within) :
    (applyProfitSync db w.tradeId w.mt5Profit w.riskTotal w.allSettled).1.Within := by
  apply (applyProfitSync_spec db w.tradeId w.mt5Profit w.riskTotal w.allSettled).within within
  intro lots t mine
  rw [Trade.Within, Trade.afterSync_remainingLots, Trade.afterSync_lotSize]
  exact mine

theorem Closing.within_step (s : Closing) (a : CloserStep) (within : s.db.Within)
    (fresh : s.lotsFresh a = true) : (s.step a).db.Within := by
  have began : ∀ w, (s.began w).db.Within := by
    intro w
    cases w with
    | none => exact within
    | some w => exact within
  cases a with
  | readPartial tradeId lots price reason now => exact began _
  | readClose tradeId price reason now => exact began _
  | readSync tradeId ticket view => exact began _
  | write i =>
      cases atI : s.inFlight[i]? with
      | none =>
          rw [Closing.step_write_none atI]
          exact within
      | some w =>
          rw [Closing.step_write_some atI]
          cases w with
          | fullClose w => exact fullWrite_within within
          | profitSync w => exact profitSync_within within
          | partialClose w =>
              simp only [Closing.lotsFresh, atI] at fresh
              cases old : s.db.alreadyRecorded w.booking with
              | true =>
                  show (w.apply s.db).Within
                  rw [PartialWrite.apply_of_recorded old]
                  exact within
              | false =>
                  rw [old, Bool.false_or, Bool.and_eq_true, decide_eq_true_eq] at fresh
                  apply partialWrite_within within fresh.1
                  · intro t found
                    simpa [found] using fresh.2
                  · exact old

/-! Opening a trade establishes both invariants -/

theorem insertTrade_exact {db db' : Db} {t : Trade} (exact : db.Exact) (mine : t.Exact)
    (h : insertTradeAndActivateSignal db t = some db') : db'.Exact := by
  obtain ⟨trades, inserted, rfl⟩ := Option.map_eq_some_iff.mp h
  intro r hr
  have rows := (Table.insert_eq_some inserted).2
  change r ∈ trades.rows at hr
  rw [rows] at hr
  cases List.mem_append.mp hr with
  | inl hr => exact exact r hr
  | inr hr =>
      rw [List.mem_singleton.mp hr]
      exact mine

theorem insertTrade_within {db db' : Db} {t : Trade} (within : db.Within)
    (mine : t.Within (db.bookedLots t.tradeId))
    (h : insertTradeAndActivateSignal db t = some db') : db'.Within := by
  obtain ⟨trades, inserted, rfl⟩ := Option.map_eq_some_iff.mp h
  intro r hr
  have rows := (Table.insert_eq_some inserted).2
  change r ∈ trades.rows at hr
  rw [rows] at hr
  cases List.mem_append.mp hr with
  | inl hr => exact within r hr
  | inr hr =>
      rw [List.mem_singleton.mp hr]
      exact mine

theorem fresh_exact (tradeId signalId : String) (mt5Ticket : Option ℤ) (direction : Direction)
    (entryPrice lotSize stopLoss : ℚ) (tps : List (Option ℚ)) (now : ℚ) (strategy : Strategy)
    (managedBy : ManagedBy) (tpOpen : Bool) (initialSl initialRisk : Option ℚ) :
    (Trade.fresh tradeId signalId mt5Ticket direction entryPrice lotSize stopLoss tps now strategy
      managedBy tpOpen initialSl initialRisk).Exact :=
  ⟨onGrid_zero 4, onGrid_zero 4⟩

/-! The result -/

/-- From a book of exact, not overbooked trades and no closer under way: the
balance moves with the net profits in every run whose full closes find the net
profit they read, and no trade is overbooked in every run whose recorded
partial closes find the remaining lots they read. -/
theorem closers_conserve (db : Db) (steps : List CloserStep) (exact : db.Exact)
    (within : db.Within) :
    (Meets Closing.step (fun s a => s.netFresh a = true) ⟨db, []⟩ steps →
      ∀ s ∈ states Closing.step ⟨db, []⟩ steps,
        s.db.balance - db.balance = s.db.totalNetPnl - db.totalNetPnl) ∧
    (Meets Closing.step (fun s a => s.lotsFresh a = true) ⟨db, []⟩ steps →
      ∀ s ∈ states Closing.step ⟨db, []⟩ steps,
        ∀ t ∈ s.db.trades.rows, s.db.bookedLots t.tradeId ≤ t.lotSize) := by
  refine ⟨?_, ?_⟩
  · intro run s hs
    have start : Closing.InStep db.drift ⟨db, []⟩ := ⟨exact, by simp, rfl⟩
    have drift := (states_invariant Closing.InStep.step start run s hs).drift
    dsimp only [Db.drift] at drift
    linarith
  · intro run s hs t ht
    have start : (⟨db, []⟩ : Closing).db.Within := within
    obtain ⟨nonneg, _, sum⟩ :=
      states_invariant (I := fun s => s.db.Within) Closing.within_step start run s hs t ht
    linarith

theorem closers_conserve_oneLotBook :
    let steps : List CloserStep :=
      [.readPartial "t1" (1 / 2) 2010 "TP1" 5, .write 0, .readClose "t1" 2005 "SL" 6, .write 0]
    (∀ s ∈ states Closing.step ⟨oneLotBook, []⟩ steps,
      s.db.balance - oneLotBook.balance = s.db.totalNetPnl - oneLotBook.totalNetPnl) ∧
    (∀ s ∈ states Closing.step ⟨oneLotBook, []⟩ steps,
      ∀ t ∈ s.db.trades.rows, s.db.bookedLots t.tradeId ≤ t.lotSize) := by
  intro steps
  have conserve := closers_conserve oneLotBook steps (by decide +kernel) (by decide +kernel)
  exact ⟨conserve.1 (by decide +kernel), conserve.2 (by decide +kernel)⟩

/-- A partial and a full close that both read before either writes pay the
partial profit twice; two partials that both read overbook the trade. -/
theorem closers_lose_track :
    (¬ ∀ (db : Db) (steps : List CloserStep), db.Exact → db.Within →
      ∀ s ∈ states Closing.step ⟨db, []⟩ steps,
        s.db.balance - db.balance = s.db.totalNetPnl - db.totalNetPnl) ∧
    (¬ ∀ (db : Db) (steps : List CloserStep), db.Exact → db.Within →
      ∀ s ∈ states Closing.step ⟨db, []⟩ steps,
        ∀ t ∈ s.db.trades.rows, s.db.bookedLots t.tradeId ≤ t.lotSize) := by
  refine ⟨?_, ?_⟩
  · intro claim
    let steps : List CloserStep :=
      [.readPartial "t1" (1 / 2) 2010 "TP1" 5, .readClose "t1" 2010 "TP" 5, .write 0, .write 0]
    have same := claim oneLotBook steps (by decide +kernel) (by decide +kernel)
      (steps.foldl Closing.step ⟨oneLotBook, []⟩) (foldl_mem_states _ _ _)
    exact absurd same (by decide +kernel)
  · intro claim
    let steps : List CloserStep :=
      [.readPartial "t1" (3 / 5) 2010 "MT5_close" 5, .readPartial "t1" (3 / 5) 2010 "TP1" 5,
        .write 0, .write 0]
    have booked := claim oneLotBook steps (by decide +kernel) (by decide +kernel)
      (steps.foldl Closing.step ⟨oneLotBook, []⟩) (foldl_mem_states _ _ _)
    exact absurd booked (by decide +kernel)

end Forex
