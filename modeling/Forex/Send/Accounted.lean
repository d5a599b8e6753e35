import Forex.Reconcile.Diff
import Forex.Send.Sites

/-!
What each send site leaves behind when a request is not answered, and when it
is refused. The order can be found from a trade or a pending-order row that
carries its id, or by the reconciliation of a parked signal; the latter never
happens, since the report does not see the id.
-/

namespace Forex
open Support

namespace SendSite

def viaOpenTrade : SendSite → Bool
  | .instant | .market | .grid => true
  | .resting | .realigned => false

/-- The request of this site ended without a definite answer. -/
def unanswered (site : SendSite) (r : SendRequest) (a : SendAnswers) : Bool :=
  if site.viaOpenTrade then a.unanswered r.strategy else a.ea.silent

def raises (r : SendRequest) (a : SendAnswers) : Bool :=
  match a.openEnd r with
  | .opened _ _ _ => false
  | .raised _ _ => true

/-- The request of this site was refused, or was never made. -/
def rejected (site : SendSite) (r : SendRequest) (a : SendAnswers) : Bool :=
  !site.unanswered r a &&
    if site.viaOpenTrade then raises r a
    else
      match a.ea with
      | .failed _ | .notConnected => true
      | _ => false

end SendSite

/-- A row that no path executes again and from which the order can be found. -/
def FoundFrom (db : Db) (r : SendRequest) : Prop :=
  (∃ t ∈ db.trades.rows, t.tradeId = r.tradeId) ∨
    (∃ o ∈ db.orders.rows, o.tradeId = r.tradeId) ∨
    db.statusOf r.signalId = some .unknown ∧
      ∀ now positions deals db' report,
        collectAndReport db now (.value positions) (.value deals) = some (db', report) →
        ReachedBroker r.tradeId positions deals →
        ResolvedInReport report positions r.signalId r.tradeId

/-- The signal row is taken for a live trade, and there is none. -/
def Stranded (db : Db) (signalId : String) : Prop :=
  (db.statusOf signalId = some .active ∨ db.statusOf signalId = some .activating) ∧
    ∀ t ∈ db.trades.rows, t.signalId ≠ signalId

def Accounted (site : SendSite) (db : Db) (r : SendRequest) (tpOpen : Bool) (a : SendAnswers) :
    Prop :=
  (site.unanswered r a = true → FoundFrom (sendFrom site db r tpOpen a).1 r) ∧
    (site.rejected r a = true → ¬ Stranded (sendFrom site db r tpOpen a).1 r.signalId)

/-- What a generated id promises. -/
structure FreshIds (db : Db) (r : SendRequest) : Prop where
  named : r.tradeId ≠ ""
  trade : r.tradeId ∉ db.trades.rows.map Trade.tradeId
  order : r.tradeId ∉ db.orders.rows.map PendingOrder.tradeId
  signal : r.signalId ∉ db.signals.rows.map Signal.signalId
  untraded : ∀ t ∈ db.trades.rows, t.signalId ≠ r.signalId

theorem carriesTrade_bridgeOrder {tradeId : String} (named : tradeId ≠ "") :
    carriesTrade tradeId (String.ofList (commentForBridgeOrder tradeId)) = true := by
  have known : dedupPrefixes tradeId ≠ [] := by
    rw [dedupPrefixes_of_ne named]
    simp
  have found := commentForBridgeOrder_found known
  rw [dedupMatches_isSome] at found
  simpa [carriesTrade] using found

/-- A parked row does not lead to its order. -/
theorem not_foundFrom {db : Db} {r : SendRequest} (named : r.tradeId ≠ "")
    (noTrade : r.tradeId ∉ db.trades.rows.map Trade.tradeId)
    (noOrder : r.tradeId ∉ db.orders.rows.map PendingOrder.tradeId) : ¬ FoundFrom db r := by
  rintro (⟨t, mem, same⟩ | ⟨o, mem, same⟩ | ⟨-, resolves⟩)
  · exact noTrade (same ▸ List.mem_map_of_mem mem)
  · exact noOrder (same ▸ List.mem_map_of_mem mem)
  · let filled : Position :=
      ⟨1, r.direction, r.lots, r.price, r.price, 0, 0, 0, 0,
        String.ofList (commentForBridgeOrder r.tradeId)⟩
    have reached : ReachedBroker r.tradeId [filled] [] :=
      .inl ⟨filled, List.mem_singleton_self filled, carriesTrade_bridgeOrder named⟩
    have resolved := resolves 0 [filled] [] _ _ rfl reached
    exact no_filled_in_report rfl r.signalId resolved.1

namespace SendAnswers
variable {a : SendAnswers} {r : SendRequest}

theorem openEnd_placeholder (template : r.strategy.isTemplate = true)
    (unanswered : a.unanswered r.strategy = true) (late : a.ea = .timedOut) :
    a.openEnd r = .opened (some 0) 0 .ea := by
  simp only [SendAnswers.unanswered, template, if_true, Bool.and_eq_true,
    Option.isNone_iff_eq_none] at unanswered
  obtain ⟨sent, used, -⟩ := unanswered
  simp [openEnd, sent, template, templateEnd, used, late]

/-- Apart from the template placeholder, a request without an answer raises. -/
theorem openEnd_of_unanswered (unanswered : a.unanswered r.strategy = true)
    (other : ¬ (r.strategy.isTemplate = true ∧ a.ea = .timedOut)) :
    ∃ message, a.openEnd r = .raised message true := by
  simp only [SendAnswers.unanswered, Bool.and_eq_true, Option.isNone_iff_eq_none] at unanswered
  obtain ⟨sent, silent⟩ := unanswered
  simp only [openEnd, sent]
  cases template : r.strategy.isTemplate with
  | true =>
      simp only [template, if_true, Bool.and_eq_true] at silent
      obtain ⟨used, silent⟩ := silent
      cases answer : a.ea with
      | timedOut => exact absurd ⟨template, answer⟩ other
      | sendFailed => exact ⟨_, by simp [templateEnd, used, answer]; rfl⟩
      | opened _ _ _ | failed _ | notConnected => simp [answer, EaEnd.silent] at silent
  | false =>
      simp only [template, Bool.false_eq_true, if_false] at silent ⊢
      cases used : a.eaUsed with
      | true =>
          cases answer : a.ea with
          | opened ticket price legs => simp [used, answer] at silent
          | failed _ | notConnected | sendFailed | timedOut =>
              cases look : a.look with
              | found m => simp [used, answer, look] at silent
              | unknown => exact ⟨_, by simp [plainEnd, used, answer, fallbackEnd, look]; rfl⟩
              | absent =>
                  cases verdict : a.bridge with
                  | outcomeUnknown error =>
                      exact ⟨error, by simp [plainEnd, used, answer, fallbackEnd, look,
                        bridgeEnd, verdict]⟩
                  | placed _ _ | rejected _ => simp [used, answer, look, verdict] at silent
      | false =>
          cases verdict : a.bridge with
          | outcomeUnknown error => exact ⟨error, by simp [plainEnd, used, bridgeEnd, verdict]⟩
          | placed _ _ | rejected _ => simp [used, verdict] at silent

end SendAnswers

section Sites
variable {db : Db} {r : SendRequest} {a : SendAnswers}

theorem insertSignal_fresh (fresh : FreshIds db r) :
    ∃ signals, db.insertSignal r.signalId .active r.now (some r.now) =
        some { db with signals := signals } ∧
      signals.find r.signalId = some ⟨r.signalId, .active, r.now, some r.now⟩ := by
  obtain ⟨signals, inserted, -⟩ :=
    Table.insert_of_fresh (t := db.signals) (r := ⟨r.signalId, .active, r.now, some r.now⟩)
      fresh.signal
  exact ⟨signals, by simp [Db.insertSignal, inserted], Table.find_insert_self inserted⟩

theorem openFromSite_raised (fresh : FreshIds db r) {message : String} {unknown : Bool}
    (ends : a.openEnd r = .raised message unknown) :
    ∃ signals : Table Signal Signal.signalId,
      signals.find r.signalId = some ⟨r.signalId, .active, r.now, some r.now⟩ ∧
      ∀ (done : TgStatus) (handler : Db → String → Bool → Db × TgStatus),
        (openFromSite db r a done handler).1 =
          (handler { db with signals := signals } message unknown).1 := by
  obtain ⟨signals, inserted, found⟩ := insertSignal_fresh fresh
  refine ⟨signals, found, ?_⟩
  intro done handler
  simp [openFromSite, inserted, openTrade, ends]

theorem openFromSite_opened (fresh : FreshIds db r) {ticket : Option ℤ} {price : ℚ}
    {managedBy : ManagedBy} (ends : a.openEnd r = .opened ticket price managedBy)
    (done : TgStatus) (handler : Db → String → Bool → Db × TgStatus) :
    ∃ t ∈ (openFromSite db r a done handler).1.trades.rows, t.tradeId = r.tradeId := by
  obtain ⟨signals, inserted, -⟩ := insertSignal_fresh fresh
  obtain ⟨trades, added, rows⟩ :=
    Table.insert_of_fresh (t := db.trades) (r := r.trade ticket price managedBy false) fresh.trade
  refine ⟨r.trade ticket price managedBy false, ?_, rfl⟩
  simp [openFromSite, inserted, openTrade, ends, insertTradeAndActivateSignal, added,
    Db.setSignalStatus, rows]

/-- A handler that adds no trade and no order loses an unanswered request,
unless `open_trade` itself has left the placeholder. -/
theorem openFromSite_foundFrom_iff (fresh : FreshIds db r)
    (unanswered : a.unanswered r.strategy = true) (done : TgStatus)
    {handler : Db → String → Bool → Db × TgStatus}
    (keepsTrades : ∀ db message unknown, (handler db message unknown).1.trades = db.trades)
    (keepsOrders : ∀ db message unknown, (handler db message unknown).1.orders = db.orders) :
    FoundFrom (openFromSite db r a done handler).1 r ↔
      r.strategy.isTemplate = true ∧ a.ea = .timedOut := by
  by_cases placeholder : r.strategy.isTemplate = true ∧ a.ea = .timedOut
  · refine iff_of_true (.inl ?_) placeholder
    exact openFromSite_opened fresh
      (SendAnswers.openEnd_placeholder placeholder.1 unanswered placeholder.2) done handler
  · refine iff_of_false ?_ placeholder
    obtain ⟨message, ends⟩ := SendAnswers.openEnd_of_unanswered unanswered placeholder
    obtain ⟨signals, -, left⟩ := openFromSite_raised fresh ends
    apply not_foundFrom fresh.named
    · rw [left, keepsTrades]
      exact fresh.trade
    · rw [left, keepsOrders]
      exact fresh.order

theorem statusOf_of_fresh (fresh : FreshIds db r) : db.statusOf r.signalId = none := by
  rw [Db.statusOf, Table.find_eq_none_iff.mpr fresh.signal, Option.map_none]

theorem not_stranded_of_status {status : SignalStatus} {signalId : String}
    (found : db.statusOf signalId = some status) (settled : status ≠ .active)
    (unclaimed : status ≠ .activating) : ¬ Stranded db signalId := by
  rintro ⟨held | held, -⟩
  · exact settled (Option.some.inj (found.symm.trans held))
  · exact unclaimed (Option.some.inj (found.symm.trans held))

theorem not_stranded_of_missing {signalId : String} (gone : db.statusOf signalId = none) :
    ¬ Stranded db signalId := by
  rintro ⟨held | held, -⟩ <;> simp [gone] at held

theorem sendInstant_not_stranded (fresh : FreshIds db r) (refused : SendSite.raises r a = true) :
    ¬ Stranded (sendInstant db r a).1 r.signalId := by
  cases ends : a.openEnd r with
  | opened ticket price managedBy => simp [SendSite.raises, ends] at refused
  | raised message unknown =>
      obtain ⟨signals, -, left⟩ := openFromSite_raised fresh ends
      apply not_stranded_of_missing
      rw [sendInstant, left]
      simp [Db.statusOf, Db.deleteSignal, Table.find_delete_self]

theorem sendMarket_not_stranded (fresh : FreshIds db r) (refused : SendSite.raises r a = true) :
    ¬ Stranded (sendMarket db r a).1 r.signalId := by
  cases ends : a.openEnd r with
  | opened ticket price managedBy => simp [SendSite.raises, ends] at refused
  | raised message unknown =>
      obtain ⟨signals, found, left⟩ := openFromSite_raised fresh ends
      have reset : Db.statusOf (Db.resetSignalToPending { db with signals := signals } r.signalId)
          r.signalId = some .pending := by
        simp [Db.statusOf, Db.resetSignalToPending, Table.find_updateWhere, found, Signal.reset]
      have parked : Db.statusOf (Db.parkSignalUnknown { db with signals := signals } r.signalId)
          r.signalId = some .unknown := by
        simp [Db.statusOf, Db.parkSignalUnknown, Table.find_updateWhere, found, Signal.setStatus]
      rw [sendMarket, left]
      split
      · exact not_stranded_of_status reset (by simp) (by simp)
      · split
        · exact not_stranded_of_status parked (by simp) (by simp)
        · exact not_stranded_of_status reset (by simp) (by simp)

/-- The grid branch leaves its active row to every refusal. -/
theorem sendGrid_stranded (fresh : FreshIds db r) (refused : SendSite.raises r a = true) :
    Stranded (sendGrid db r a).1 r.signalId := by
  cases ends : a.openEnd r with
  | opened ticket price managedBy => simp [SendSite.raises, ends] at refused
  | raised message unknown =>
      obtain ⟨signals, found, left⟩ := openFromSite_raised fresh ends
      rw [sendGrid, left]
      refine ⟨.inl ?_, fresh.untraded⟩
      simp [Db.statusOf, found]

end Sites

/-- A site accounts for its request exactly when the missing answer is that of a
template's EA, for which `open_trade` writes a placeholder, and a refusal is not
one of the grid branch. -/
theorem send_accounted_iff (site : SendSite) (db : Db) (r : SendRequest) (tpOpen : Bool)
    (a : SendAnswers) (fresh : FreshIds db r) :
    Accounted site db r tpOpen a ↔
      (site.unanswered r a = true →
        site.viaOpenTrade = true ∧ r.strategy.isTemplate = true ∧ a.ea = .timedOut) ∧
      (site.rejected r a = true → site ≠ .grid) := by
  refine and_congr ?_ ?_
  · refine forall_congr' fun unanswered => ?_
    cases site with
    | instant =>
        simpa [SendSite.viaOpenTrade, sendFrom, sendInstant] using
          openFromSite_foundFrom_iff fresh unanswered .instantActivated
            (fun _ _ _ => rfl) (fun _ _ _ => rfl)
    | market =>
        simp only [SendSite.viaOpenTrade, sendFrom, sendMarket, true_and]
        refine openFromSite_foundFrom_iff fresh unanswered .activated ?_ ?_
        · intro db message unknown
          split_ifs <;> rfl
        · intro db message unknown
          split_ifs <;> rfl
    | grid =>
        simpa [SendSite.viaOpenTrade, sendFrom, sendGrid] using
          openFromSite_foundFrom_iff fresh unanswered .activated
            (fun _ _ _ => rfl) (fun _ _ _ => rfl)
    | resting | realigned =>
        have lost : ¬ FoundFrom db r := not_foundFrom fresh.named fresh.trade fresh.order
        cases answer : a.ea with
        | sendFailed | timedOut =>
            simpa [SendSite.viaOpenTrade, sendFrom, sendResting, sendRealigned, answer] using lost
        | opened _ _ _ | failed _ | notConnected =>
            simp [SendSite.unanswered, SendSite.viaOpenTrade, answer, EaEnd.silent] at unanswered
  · refine forall_congr' fun rejected => ?_
    simp only [SendSite.rejected, Bool.and_eq_true] at rejected
    cases site with
    | instant => exact iff_of_true (sendInstant_not_stranded fresh rejected.2) (by simp)
    | market => exact iff_of_true (sendMarket_not_stranded fresh rejected.2) (by simp)
    | grid =>
        exact iff_of_false (not_not_intro (sendGrid_stranded fresh rejected.2)) (by simp)
    | resting | realigned =>
        refine iff_of_true ?_ (by simp)
        cases answer : a.ea with
        | failed _ | notConnected =>
            simpa [sendFrom, sendResting, sendRealigned, answer] using
              not_stranded_of_missing (statusOf_of_fresh fresh)
        | opened _ _ _ | sendFailed | timedOut =>
            simp [SendSite.viaOpenTrade, answer] at rejected

/-- A bare trigger on an empty book. -/
def instantRequest : SendRequest :=
  ⟨"0123456789abcdef", "fedcba9876543210", .buy, 1 / 10, 1990, [], .scaleOut, 2000, 0⟩

def emptyBook : Db := { oneLotBook with trades := Table.empty, signals := Table.empty }

def bridgeSilent : SendAnswers :=
  ⟨none, false, .notConnected, .absent, "", .outcomeUnknown "broker gave no usable answer: timeout"⟩

theorem instantRequest_fresh : FreshIds emptyBook instantRequest := by
  refine ⟨by decide, ?_, ?_, ?_, ?_⟩ <;> simp [emptyBook, oneLotBook, Db.single, Table.empty]

/-- The instant handler deletes the row of a request the bridge never answered. -/
theorem instant_send_forgotten :
    ¬ ∀ (site : SendSite) (db : Db) (r : SendRequest) (tpOpen : Bool) (a : SendAnswers),
      FreshIds db r → Accounted site db r tpOpen a := by
  intro accounted
  have kept := (accounted .instant emptyBook instantRequest false bridgeSilent
    instantRequest_fresh).1 (by decide)
  refine not_foundFrom instantRequest_fresh.named ?_ ?_ kept
  · decide +kernel
  · decide +kernel

theorem send_accounted_iff_instant :
    FreshIds emptyBook instantRequest ∧
      ¬ Accounted .instant emptyBook instantRequest false bridgeSilent := by
  refine ⟨instantRequest_fresh, ?_⟩
  rw [send_accounted_iff .instant emptyBook instantRequest false bridgeSilent instantRequest_fresh]
  decide

end Forex
