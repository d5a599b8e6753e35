import Forex.Signals.SignalState

/-!
The opening of trades from signals as the callers interleave: claims, the gate
of `open_trade`, sends that succeed, are rejected or get no answer, resting
orders, closes, the sweep of stranded claims, and a process that dies. The load
of a step is said once, for any set of signals and any notion of a live order.
-/

namespace Forex
open Support

inductive FlightKind where
  /-- The claim of `open_trade_from_signal` is won; the gate is still ahead. -/
  | claimed
  | opening
  /-- `open_trade` called without a claim, past the gate. -/
  | unclaimed
  /-- The claim of the Reversal Engine is won; a resting order is to be placed. -/
  | resting
deriving DecidableEq, Repr

structure Flight where
  signalId : String
  kind : FlightKind
deriving DecidableEq, Repr

structure Desk where
  db : Db
  flights : List Flight

inductive DeskStep where
  | receive (s : Signal)
  | claim (signalId : String) (now : ℚ)
  | claimResting (signalId : String) (now : ℚ)
  | gate (i : ℕ)
  | openUnclaimed (signalId : String)
  | succeed (i : ℕ) (t : Trade)
  | reject (i : ℕ)
  | loseAnswer (i : ℕ)
  | crash
  | placeResting (i : ℕ) (o : PendingOrder)
  | placePending (s : Signal) (o : PendingOrder)
  | fill (tradeId : String) (ticket : Option ℤ) (fillPrice now : ℚ)
  | cancel (tradeId : String) (now : ℚ)
  | withdraw (tradeId : String)
  | rearm (tradeId : String) (ticket : Option ℤ)
  | expire (tradeId : String) (now : ℚ)
  | release (now : ℚ)
  | close (w : CloserWrite)
  | closeLadder (tradeId : String) (closedAny : Bool) (lots price pnl : ℚ)
      (reason signalId : String) (now : ℚ)

namespace Desk
variable (cap : ℕ) (s : Desk)

/-- A failed open hands its signal back: a claim is restored, an open without a
claim resets its signal. -/
def handBack (db : Db) (f : Flight) : Db :=
  match f.kind with
  | .unclaimed => db.resetSignalToPending f.signalId
  | _ => db.restoreSignalAfterFailedOpen f.signalId

def launch (kind : FlightKind) (signalId : String) : Option Db → Desk
  | none => s
  | some db => ⟨db, s.flights ++ [⟨signalId, kind⟩]⟩

def land (i : ℕ) (db : Db) : Desk := ⟨db, s.flights.eraseIdx i⟩

def withDb (db : Db) : Desk := { s with db := db }

def step : DeskStep → Desk
  | .receive sig => s.withDb (((s.db.signals.insert sig).map fun signals =>
      { s.db with signals := signals }).getD s.db)
  | .claim signalId now =>
      s.launch .claimed signalId (s.db.claimSignalActivation cap signalId now)
  | .claimResting signalId now =>
      s.launch .resting signalId (s.db.claimSignalActivation cap signalId now)
  | .gate i =>
      match s.flights[i]? with
      | some f =>
          if f.kind = .claimed then
            if s.db.tradeSlotsUsed (some f.signalId) < cap then
              { s with flights := s.flights.set i { f with kind := .opening } }
            else s.land i (handBack s.db f)
          else s
      | none => s
  | .openUnclaimed signalId =>
      if s.db.tradeSlotsUsed (some signalId) < cap then s.launch .unclaimed signalId (some s.db)
      else s.withDb (s.db.resetSignalToPending signalId)
  | .succeed i t =>
      match s.flights[i]? with
      | some f =>
          if f.kind = .opening ∨ f.kind = .unclaimed then
            match insertTradeAndActivateSignal s.db
                { t with signalId := f.signalId, status := .opened } with
            | some db => s.land i db
            | none => s.land i (handBack s.db f)
          else s
      | none => s
  | .reject i =>
      match s.flights[i]? with
      | some f => s.land i (handBack s.db f)
      | none => s
  | .loseAnswer i =>
      match s.flights[i]? with
      | some f =>
          s.land i (match f.kind with
            | .resting => s.db.restoreSignalAfterFailedOpen f.signalId
            | _ => s.db.parkSignalUnknown f.signalId)
      | none => s
  | .crash => { s with flights := [] }
  | .placeResting i o =>
      match s.flights[i]? with
      | some f =>
          if f.kind = .resting then
            s.land i ((s.db.insertVantagePendingOrder f.signalId o).getD s.db)
          else s
      | none => s
  | .placePending sig o => s.withDb ((s.db.insertPendingOrderSignal sig o).getD s.db)
  | .fill tradeId ticket fillPrice now =>
      match s.db.orders.find tradeId with
      | some o => s.withDb ((s.db.applyPendingFill o ticket fillPrice now).getD s.db)
      | none => s
  | .cancel tradeId now =>
      match s.db.orders.find tradeId with
      | some o => s.withDb (s.db.applyPendingCancelled o now)
      | none => s
  | .withdraw tradeId => s.withDb (s.db.setOrder tradeId PendingOrder.withdraw)
  | .rearm tradeId ticket => s.withDb (s.db.setOrder tradeId (PendingOrder.rearm ticket))
  | .expire tradeId now => s.withDb (s.db.setOrder tradeId (PendingOrder.resolve .expired now))
  | .release now => s.withDb (s.db.releaseStrandedActivations now)
  | .close w => s.withDb (w.apply s.db)
  | .closeLadder tradeId closedAny lots price pnl reason signalId now =>
      s.withDb (applyLadderClose s.db tradeId closedAny lots price pnl reason signalId now)

end Desk

def NeverOpens (f : Assign Trade.tradeId) : Prop :=
  ∀ t, (f t).signalId = t.signalId ∧ ((f t).isOpen = true → t.isOpen = true)

namespace NeverOpens

theorem skip : NeverOpens Assign.skip := by
  intro t
  exact ⟨rfl, id⟩

theorem comp {f g : Assign Trade.tradeId} (hg : NeverOpens g) (hf : NeverOpens f) :
    NeverOpens (g.comp f) := by
  intro t
  exact ⟨(hg (f t)).1.trans (hf t).1, fun h => (hf t).2 ((hg (f t)).2 h)⟩

theorem ite {p : Prop} [Decidable p] {f g : Assign Trade.tradeId} (hf : NeverOpens f)
    (hg : NeverOpens g) : NeverOpens (if p then f else g) := by
  by_cases h : p
  · rw [if_pos h]
    exact hf
  · rw [if_neg h]
    exact hg

theorem afterPartial ( be : Bool) (now closePrice partialPnl newRemaining entryPrice : ℚ) :
    NeverOpens (Trade.afterPartial be now closePrice partialPnl newRemaining entryPrice) := by
  refine comp (ite ?_ skip) (comp (ite ?_ skip) ?_)
  · intro t
    exact ⟨rfl, by simp [Trade.isOpen, Trade.closeAllTpsHit]⟩
  · intro t
    exact ⟨rfl, id⟩
  · intro t
    exact ⟨rfl, id⟩

theorem closeFully (now closePrice : ℚ) (reason : String) (gross realised net : ℚ) :
    NeverOpens (Trade.closeFully now closePrice reason gross realised net) := by
  intro t
  exact ⟨rfl, by simp [Trade.isOpen, Trade.closeFully]⟩

theorem afterSync (correction : Option ℚ) (riskTotal mt5Profit : ℚ) (allSettled : Bool) :
    NeverOpens (Trade.afterSync correction riskTotal mt5Profit allSettled) := by
  refine comp (ite ?_ skip) (comp (ite ?_ skip) (ite ?_ skip)) <;>
  · intro t
    exact ⟨rfl, id⟩

theorem closeLadder (now lastPrice totalPnl : ℚ) (reason : String) :
    NeverOpens (Trade.closeLadder now lastPrice totalPnl reason) := by
  intro t
  exact ⟨rfl, by simp [Trade.isOpen, Trade.closeLadder]⟩

end NeverOpens

/-- A closer writes one trade row, and never opens it. -/
theorem CloserWrite.apply_spec (w : CloserWrite) (db : Db) :
    ∃ tradeId f booked moved, NeverOpens f ∧
      LedgerWrite db (w.apply db) tradeId f booked moved := by
  cases w with
  | partialClose w =>
      cases old : db.alreadyRecorded w.booking with
      | true =>
          refine ⟨w.row.tradeId, Assign.skip, [], 0, NeverOpens.skip, ?_⟩
          rw [apply, PartialWrite.apply_of_recorded old]
          exact LedgerWrite.refl db w.row.tradeId
      | false =>
          exact ⟨_, _, _, _, NeverOpens.afterPartial _ _ _ _ _ _, PartialWrite.apply_of_new old⟩
  | fullClose w =>
      cases won : (db.getTrade w.row.tradeId).any Trade.isOpen with
      | false =>
          refine ⟨w.row.tradeId, Assign.skip, [], 0, NeverOpens.skip, ?_⟩
          rw [apply, FullWrite.apply_of_settled won]
          exact LedgerWrite.refl db w.row.tradeId
      | true =>
          exact ⟨_, _, _, _, NeverOpens.closeFully _ _ _ _ _ _, FullWrite.apply_of_open won⟩
  | profitSync w =>
      exact ⟨_, _, _, _, NeverOpens.afterSync _ _ _ _,
        applyProfitSync_spec db w.tradeId w.mt5Profit w.riskTotal w.allSettled⟩

/-- Which signals and which orders a load counts. Resolved orders never count. -/
structure Scope where
  mine : String → Bool
  live : OrderStatus → Bool
  working : live .working = true
  filled : live .filled = false
  cancelled : live .cancelled = false
  expired : live .expired = false

namespace Scope
variable (c : Scope)

def trade (t : Trade) : Bool := t.isOpen && c.mine t.signalId

def order (o : PendingOrder) : Bool := c.live o.status && c.mine o.signalId

def dbLoad (db : Db) : ℕ := db.trades.count c.trade + db.orders.count c.order

def flightLoad (flights : List Flight) : ℕ :=
  (flights.map fun f => (c.mine f.signalId).toNat).sum

def load (s : Desk) : ℕ := c.dbLoad s.db + c.flightLoad s.flights

/-- What a step can add to the load. -/
def gain (cap : ℕ) (s : Desk) : DeskStep → ℕ
  | .claim signalId now | .claimResting signalId now =>
      if (s.db.claimSignalActivation cap signalId now).isSome then (c.mine signalId).toNat else 0
  | .openUnclaimed signalId =>
      if s.db.tradeSlotsUsed (some signalId) < cap then (c.mine signalId).toNat else 0
  | .placePending sig _ => (c.mine sig.signalId).toNat
  | .fill tradeId _ _ _ | .rearm tradeId _ =>
      match s.db.orders.find tradeId with
      | some o => (c.mine o.signalId && !c.live o.status).toNat
      | none => 0
  | .withdraw tradeId =>
      match s.db.orders.find tradeId with
      | some o => (c.mine o.signalId && c.live .withdrawn && !c.live o.status).toNat
      | none => 0
  | _ => 0

theorem trade_of_neverOpens {f : Assign Trade.tradeId} (never : NeverOpens f) (t : Trade)
    (h : c.trade (f t) = true) : c.trade t = true := by
  rw [trade, Bool.and_eq_true] at h ⊢
  exact ⟨(never t).2 h.1, (never t).1 ▸ h.2⟩

theorem flightLoad_eraseIdx {flights : List Flight} {i : ℕ} {f : Flight}
    (h : flights[i]? = some f) :
    c.flightLoad (flights.eraseIdx i) + (c.mine f.signalId).toNat = c.flightLoad flights := by
  obtain ⟨inside, eq⟩ := List.getElem?_eq_some_iff.mp h
  have perm := List.getElem_cons_eraseIdx_perm inside
  rw [eq] at perm
  have sums := (perm.map fun f => (c.mine f.signalId).toNat).sum_eq
  rw [List.map_cons, List.sum_cons] at sums
  rw [flightLoad, flightLoad, ← sums]
  exact Nat.add_comm _ _

theorem flightLoad_set {flights : List Flight} {i : ℕ} {f g : Flight}
    (h : flights[i]? = some f) (same : g.signalId = f.signalId) :
    c.flightLoad (flights.set i g) = c.flightLoad flights := by
  obtain ⟨inside, eq⟩ := List.getElem?_eq_some_iff.mp h
  have weight : (c.mine g.signalId).toNat =
      (flights.map fun f => (c.mine f.signalId).toNat).get ⟨i, by simpa using inside⟩ := by
    simp [eq, same]
  rw [flightLoad, flightLoad, List.map_set, weight, List.get_eq_getElem, List.set_getElem_self]

theorem dbLoad_setOrder {db : Db} {tradeId : String} {o : PendingOrder}
    (found : db.orders.find tradeId = some o) (f : Assign PendingOrder.tradeId) :
    c.dbLoad (db.setOrder tradeId f) + (c.order o).toNat =
      c.dbLoad db + (c.order (f o)).toNat := by
  have exchange := Table.count_update found f c.order
  change db.trades.count c.trade + (db.orders.update tradeId f).count c.order + _ =
    db.trades.count c.trade + db.orders.count c.order + _
  omega

theorem setOrder_of_missing {db : Db} {tradeId : String} (h : db.orders.find tradeId = none)
    (f : Assign PendingOrder.tradeId) : db.setOrder tradeId f = db := by
  rw [Db.setOrder, Table.update_of_missing h]

theorem dbLoad_resolve_le (db : Db) (tradeId : String) {status : OrderStatus}
    (dead : c.live status = false) (now : ℚ) :
    c.dbLoad (db.setOrder tradeId (PendingOrder.resolve status now)) ≤ c.dbLoad db := by
  refine Nat.add_le_add_left (db.orders.count_update_le tradeId _ ?_) _
  intro o alive
  exact absurd alive (by simp [order, PendingOrder.resolve, dead])

theorem dbLoad_insertTrade {db db' : Db} {t : Trade}
    (h : insertTradeAndActivateSignal db t = some db') :
    c.dbLoad db' = c.dbLoad db + (c.trade t).toNat := by
  obtain ⟨trades, inserted, eq⟩ := Option.map_eq_some_iff.mp h
  have more := Table.count_insert inserted c.trade
  rw [← eq]
  change trades.count c.trade + db.orders.count c.order =
    db.trades.count c.trade + db.orders.count c.order + _
  omega

theorem dbLoad_insertOrder {db : Db} {orders : Table PendingOrder PendingOrder.tradeId}
    {o : PendingOrder} (h : db.orders.insert o = some orders)
    (signals : Table Signal Signal.signalId) :
    c.dbLoad { db with orders := orders, signals := signals } =
      c.dbLoad db + (c.order o).toNat := by
  have more := Table.count_insert h c.order
  change db.trades.count c.trade + orders.count c.order =
    db.trades.count c.trade + db.orders.count c.order + _
  omega

theorem dbLoad_applyPendingFill {db db' : Db} {o : PendingOrder}
    (found : db.orders.find o.tradeId = some o) {ticket : Option ℤ} {fillPrice now : ℚ}
    (h : db.applyPendingFill o ticket fillPrice now = some db') :
    c.dbLoad db' + (c.order o).toNat = c.dbLoad db + (c.mine o.signalId).toNat := by
  obtain ⟨opened, inserted, eq⟩ := Option.map_eq_some_iff.mp h
  have more := c.dbLoad_insertTrade inserted
  have weight : c.trade (o.filledTrade ticket fillPrice now) = c.mine o.signalId := by
    simp [trade, Trade.isOpen, PendingOrder.filledTrade, Trade.fresh]
  have orders : opened.orders = db.orders := by
    obtain ⟨trades, _, same⟩ := Option.map_eq_some_iff.mp inserted
    rw [← same]
    rfl
  have resolved := c.dbLoad_setOrder (orders.symm ▸ found : opened.orders.find o.tradeId = some o)
    (PendingOrder.resolve .filled now)
  have dead : c.order (PendingOrder.resolve .filled now o) = false := by
    simp [order, PendingOrder.resolve, c.filled]
  rw [dead, Bool.toNat_false] at resolved
  rw [weight] at more
  rw [← eq]
  omega

theorem dbLoad_write_le {db db' : Db} {tradeId : String} {f : Assign Trade.tradeId}
    {booked : List PartialClose} {moved : ℚ} (write : LedgerWrite db db' tradeId f booked moved)
    (never : NeverOpens f) : c.dbLoad db' ≤ c.dbLoad db := by
  rw [dbLoad, write.trades, write.orders]
  exact Nat.add_le_add_right (db.trades.count_update_le tradeId f (c.trade_of_neverOpens never)) _

theorem load_land {s : Desk} {i : ℕ} {f : Flight} (h : s.flights[i]? = some f) (db : Db) :
    c.load (s.land i db) + (c.mine f.signalId).toNat = c.dbLoad db + c.flightLoad s.flights := by
  have erased := c.flightLoad_eraseIdx h
  change c.dbLoad db + c.flightLoad (s.flights.eraseIdx i) + _ = _
  omega

theorem load_withDb (s : Desk) (db : Db) :
    c.load (s.withDb db) = c.dbLoad db + c.flightLoad s.flights := rfl

theorem load_withDb_le (s : Desk) {db : Db} (h : c.dbLoad db ≤ c.dbLoad s.db) :
    c.load (s.withDb db) ≤ c.load s :=
  Nat.add_le_add_right h _

/-- A flight that ends may leave one trade or one order in its place. -/
theorem load_land_le {s : Desk} {i : ℕ} {f : Flight} (h : s.flights[i]? = some f) {db : Db}
    (more : c.dbLoad db ≤ c.dbLoad s.db + (c.mine f.signalId).toNat) :
    c.load (s.land i db) ≤ c.load s := by
  have landed := c.load_land h db
  have total : c.load s = c.dbLoad s.db + c.flightLoad s.flights := rfl
  omega

theorem load_handBack_le {s : Desk} {i : ℕ} {f : Flight} (h : s.flights[i]? = some f) :
    c.load (s.land i (Desk.handBack s.db f)) ≤ c.load s := by
  refine c.load_land_le h ?_
  rw [Desk.handBack]
  split <;> exact Nat.le_add_right _ _

theorem load_launch (s : Desk) (kind : FlightKind) (signalId : String) {db : Db}
    (same : c.dbLoad db = c.dbLoad s.db) :
    c.load (s.launch kind signalId (some db)) = c.load s + (c.mine signalId).toNat := by
  change c.dbLoad db + c.flightLoad (s.flights ++ [⟨signalId, kind⟩]) = _
  rw [same, flightLoad, List.map_append, List.sum_append, load, flightLoad]
  simp [Nat.add_assoc]

theorem load_claim (s : Desk) (cap : ℕ) (kind : FlightKind) (signalId : String) (now : ℚ) :
    c.load (s.launch kind signalId (s.db.claimSignalActivation cap signalId now)) =
      c.load s + if (s.db.claimSignalActivation cap signalId now).isSome then
        (c.mine signalId).toNat else 0 := by
  rw [Db.claimSignalActivation]
  split
  · exact c.load_launch s kind signalId rfl
  · rfl

theorem load_setOrder (s : Desk) (tradeId : String) (f : Assign PendingOrder.tradeId)
    (weight : PendingOrder → ℕ)
    (bound : ∀ o, (c.order (f o)).toNat ≤ (c.order o).toNat + weight o) :
    c.load (s.withDb (s.db.setOrder tradeId f)) ≤
      c.load s + match s.db.orders.find tradeId with
        | some o => weight o
        | none => 0 := by
  cases found : s.db.orders.find tradeId with
  | none =>
      rw [setOrder_of_missing found]
      exact Nat.le_refl _
  | some o =>
      have exchange := c.dbLoad_setOrder found f
      have step := bound o
      rw [load_withDb, load]
      dsimp only
      omega

theorem order_working (o : PendingOrder) (signalId : String) :
    c.order { o with status := .working, signalId := signalId } = c.mine signalId := by
  simp [order, c.working]

theorem load_succeed (cap : ℕ) (s : Desk) (i : ℕ) (t : Trade) :
    c.load (s.step cap (.succeed i t)) ≤ c.load s := by
  rw [Desk.step]
  cases flight : s.flights[i]? with
  | none => exact Nat.le_refl _
  | some f =>
      dsimp only
      split_ifs
      · cases inserted : insertTradeAndActivateSignal s.db
            { t with signalId := f.signalId, status := .opened } with
        | none => exact c.load_handBack_le flight
        | some db =>
            have more := c.dbLoad_insertTrade inserted
            have weight : c.trade { t with signalId := f.signalId, status := .opened } =
                c.mine f.signalId := by
              simp [trade, Trade.isOpen]
            rw [weight] at more
            exact c.load_land_le flight (Nat.le_of_eq more)
      · exact Nat.le_refl _

theorem load_placeResting (cap : ℕ) (s : Desk) (i : ℕ) (o : PendingOrder) :
    c.load (s.step cap (.placeResting i o)) ≤ c.load s := by
  rw [Desk.step]
  cases flight : s.flights[i]? with
  | none => exact Nat.le_refl _
  | some f =>
      dsimp only
      split_ifs
      · rw [Db.insertVantagePendingOrder]
        cases placed : s.db.orders.insert { o with status := .working, signalId := f.signalId } with
        | none => exact c.load_land_le flight (Nat.le_add_right _ _)
        | some orders =>
            have more := c.dbLoad_insertOrder placed s.db.signals
            rw [c.order_working] at more
            exact c.load_land_le flight (Nat.le_of_eq more)
      · exact Nat.le_refl _

theorem load_fill (cap : ℕ) (s : Desk) (tradeId : String) (ticket : Option ℤ)
    (fillPrice now : ℚ) :
    c.load (s.step cap (.fill tradeId ticket fillPrice now)) ≤
      c.load s + c.gain cap s (.fill tradeId ticket fillPrice now) := by
  rw [Desk.step, gain]
  cases found : s.db.orders.find tradeId with
  | none => exact Nat.le_refl _
  | some o =>
      dsimp only
      cases filled : s.db.applyPendingFill o ticket fillPrice now with
      | none => exact Nat.le_add_right _ _
      | some db =>
          have key := Table.key_of_find found
          have exchange := c.dbLoad_applyPendingFill (key.symm ▸ found) filled
          have weight : (c.mine o.signalId).toNat ≤
              (c.order o).toNat + (c.mine o.signalId && !c.live o.status).toNat := by
            rw [order]
            cases c.live o.status <;> cases c.mine o.signalId <;> decide
          rw [Option.getD_some, load_withDb, load]
          omega

theorem load_placePending (cap : ℕ) (s : Desk) (sig : Signal) (o : PendingOrder) :
    c.load (s.step cap (.placePending sig o)) ≤ c.load s + c.gain cap s (.placePending sig o) := by
  rw [Desk.step, gain, load_withDb, load, Nat.add_right_comm]
  refine Nat.add_le_add_right ?_ _
  rw [Db.insertPendingOrderSignal]
  cases s.db.signals.insert { sig with status := .pending } with
  | none => exact Nat.le_add_right _ _
  | some signals =>
      cases placed : s.db.orders.insert
          { o with status := .working, signalId := sig.signalId } with
      | none => simp
      | some orders =>
          have more := c.dbLoad_insertOrder placed signals
          rw [c.order_working] at more
          simpa [placed] using Nat.le_of_eq more

/-- What a step adds to the load is its gain at most. -/
theorem load_step (cap : ℕ) (s : Desk) (a : DeskStep) :
    c.load (s.step cap a) ≤ c.load s + c.gain cap s a := by
  cases a with
  | receive sig =>
      refine c.load_withDb_le s ?_
      cases s.db.signals.insert sig <;> exact Nat.le_refl _
  | claim signalId now => exact Nat.le_of_eq (c.load_claim s cap .claimed signalId now)
  | claimResting signalId now => exact Nat.le_of_eq (c.load_claim s cap .resting signalId now)
  | gate i =>
      rw [Desk.step]
      cases flight : s.flights[i]? with
      | none => exact Nat.le_refl _
      | some f =>
          dsimp only
          split_ifs
          · have same := c.flightLoad_set (g := { f with kind := .opening }) flight rfl
            exact Nat.add_le_add_left (Nat.le_of_eq same) _
          · exact c.load_handBack_le flight
          · exact Nat.le_refl _
  | openUnclaimed signalId =>
      rw [Desk.step, gain]
      split_ifs
      · exact Nat.le_of_eq (c.load_launch s .unclaimed signalId rfl)
      · exact Nat.le_refl _
  | succeed i t => exact c.load_succeed cap s i t
  | reject i =>
      rw [Desk.step]
      cases flight : s.flights[i]? with
      | none => exact Nat.le_refl _
      | some f => exact c.load_handBack_le flight
  | loseAnswer i =>
      rw [Desk.step]
      cases flight : s.flights[i]? with
      | none => exact Nat.le_refl _
      | some f =>
          refine c.load_land_le flight ?_
          split <;> exact Nat.le_add_right _ _
  | crash => exact Nat.add_le_add_left (Nat.zero_le _) _
  | placeResting i o => exact c.load_placeResting cap s i o
  | placePending sig o => exact c.load_placePending cap s sig o
  | fill tradeId ticket fillPrice now => exact c.load_fill cap s tradeId ticket fillPrice now
  | cancel tradeId now =>
      rw [Desk.step]
      split
      · exact c.load_withDb_le s (c.dbLoad_resolve_le s.db _ c.cancelled now)
      · exact Nat.le_refl _
  | withdraw tradeId =>
      refine c.load_setOrder s tradeId PendingOrder.withdraw _ ?_
      intro o
      simp only [order, PendingOrder.withdraw]
      cases c.live .withdrawn <;> cases c.live o.status <;> cases c.mine o.signalId <;> decide
  | rearm tradeId ticket =>
      refine c.load_setOrder s tradeId (PendingOrder.rearm ticket) _ ?_
      intro o
      simp only [order, PendingOrder.rearm, c.working]
      cases c.live o.status <;> cases c.mine o.signalId <;> decide
  | expire tradeId now => exact c.load_withDb_le s (c.dbLoad_resolve_le s.db _ c.expired now)
  | release now => exact Nat.le_refl _
  | close w =>
      obtain ⟨_, _, _, _, never, write⟩ := w.apply_spec s.db
      exact c.load_withDb_le s (c.dbLoad_write_le write never)
  | closeLadder tradeId closedAny lots price pnl reason signalId now =>
      exact c.load_withDb_le s (c.dbLoad_write_le
        (applyLadderClose_spec s.db tradeId closedAny lots price pnl reason signalId now)
        (NeverOpens.closeLadder now price pnl reason))

end Scope

end Forex
