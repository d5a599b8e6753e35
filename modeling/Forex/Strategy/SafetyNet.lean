import Forex.Strategy.BreakevenLevel

/-!
`tp_safety_net_check_trade`: the sweep that moves the stop of a trade whose
take-profit was reached without the live loops having protected it. Whether a
call helps is set against the handler of the trade's strategy, the stop in force
and the market.
-/

namespace Forex
open Support

/-- A candle of `get_candles_range`; a missing key is `none`. -/
structure RangeCandle where
  high : Option ℚ
  low : Option ℚ

/-- `get_fee_settings`. -/
structure FeeSettings where
  estimatedSlippagePoints : Option ℚ
  commissionPerLotPerSide : Option ℚ
  commissionRoundTurnPerLot : Option ℚ

/-- `float(x or fallback)`: zero is no value. -/
def amountOr (x : Option ℚ) (fallback : ℚ) : ℚ := (x.filter fun q => decide (q ≠ 0)).getD fallback

/-- `compute_be_cost_pts`; without settings the read has raised. -/
def computeBeCostPts : Option FeeSettings → ℚ
  | none => 35 / 100
  | some fs =>
      let slippagePts := amountOr fs.estimatedSlippagePoints 5 * (1 / 100)
      let commissionRt :=
        amountOr fs.commissionPerLotPerSide 0 * 2 + amountOr fs.commissionRoundTurnPerLot 0
      roundTo 4 (30 / 100 + slippagePts + commissionRt / 100)

inductive ModifyReply where
  | raised
  | answered (success : Bool)
deriving DecidableEq

def ModifyReply.confirmed (r : ModifyReply) : Bool := decide (r = .answered true)

structure NetView where
  now : ℚ
  eaHealthy : Bool
  /-- From the open of the trade to now. -/
  candles : List RangeCandle
  fees : Option FeeSettings
  market : Tick
  /-- `get_tick` returns the prices of the market, and not `None`. -/
  ticked : Bool
  reply : ModifyReply
  /-- The broker has taken the stop, whatever its reply says. -/
  taken : Bool

inductive NetAlert where
  | windowClosed
  | failed
  | triggered
deriving DecidableEq

/-- What a call does: the stop asked of the broker, the one stored with the
breakeven flag, the time of the last alert of the trade and the alert sent. -/
structure NetEnd where
  asked : Option ℚ
  stored : Option ℚ
  lastAlert : ℚ
  alert : Option NetAlert

theorem any_max?_iff {l : List ℚ} (a : ℚ) :
    l.max?.any (fun extreme => decide (a ≤ extreme)) = true ↔ ∃ q ∈ l, a ≤ q := by
  cases extreme : l.max? with
  | none => simp [List.max?_eq_none_iff.mp extreme]
  | some m =>
      obtain ⟨mem, bound⟩ := List.max?_eq_some_iff.mp extreme
      rw [Option.any_some, decide_eq_true_iff]
      exact ⟨fun le => ⟨m, mem, le⟩, fun ⟨q, here, le⟩ => le.trans (bound q here)⟩

theorem any_min?_iff {l : List ℚ} (a : ℚ) :
    l.min?.any (fun extreme => decide (extreme ≤ a)) = true ↔ ∃ q ∈ l, q ≤ a := by
  cases extreme : l.min? with
  | none => simp [List.min?_eq_none_iff.mp extreme]
  | some m =>
      obtain ⟨mem, bound⟩ := List.min?_eq_some_iff.mp extreme
      rw [Option.any_some, decide_eq_true_iff]
      exact ⟨fun le => ⟨m, mem, le⟩, fun ⟨q, here, le⟩ => (bound q here).trans le⟩

section Reached
variable (candles : List RangeCandle)

/-- The highest high, a missing one being zero. -/
def highest : Option ℚ := (candles.map fun c => c.high.getD 0).max?

/-- The lowest low, a missing or zero one being infinite. -/
def lowest : Option ℚ := (candles.filterMap fun c => c.low.filter fun q => decide (q ≠ 0)).min?

/-- `reached`: without candles the call has returned. -/
def reached : Direction → ℚ → Bool
  | .buy, tp => (highest candles).any fun extreme => decide (tp ≤ extreme)
  | .sell, tp => (lowest candles).any fun extreme => decide (extreme ≤ tp)

/-- The candles have come to a price. -/
def RangeCandle.touches (c : RangeCandle) : Direction → ℚ → Prop
  | .buy, price => price ≤ c.high.getD 0
  | .sell, price => ∃ low ∈ c.low, low ≠ 0 ∧ low ≤ price

variable {candles} in
theorem reached_iff (direction : Direction) (tp : ℚ) :
    reached candles direction tp = true ↔ ∃ c ∈ candles, c.touches direction tp := by
  cases direction with
  | buy => exact (any_max?_iff tp).trans (by simp [RangeCandle.touches])
  | sell =>
      refine (any_min?_iff tp).trans ?_
      simp only [List.mem_filterMap, Option.filter_eq_some_iff, decide_eq_true_eq]
      exact ⟨fun ⟨q, ⟨c, mem, low, nonzero⟩, le⟩ => ⟨c, mem, q, low, nonzero, le⟩,
        fun ⟨c, mem, q, low, nonzero, le⟩ => ⟨q, ⟨c, mem, low, nonzero⟩, le⟩⟩

end Reached

namespace NetView
variable (v : NetView) (trade : Trade)

/-- The guards on the trade before any market data is read. -/
def watches : Bool :=
  decide (trade.strategy ≠ .beRunner) && !trade.slMovedToBe &&
    !(decide (trade.managedBy = .ea) && v.eaHealthy) &&
    decide (trade.openTime ≠ 0) && decide (15 ≤ v.now - trade.openTime)

end NetView

/-- `be_trigger_tp`. -/
def Trade.netTp (trade : Trade) : Option ℚ :=
  if trade.strategy = .reversalRunner ∨ trade.strategy = .scalpRunner then trade.tp 2
  else trade.tp 1

/-- Conservative and Scalp Runner read the field of the net; Scale Out reads it
too when it is on the profit side. -/
theorem Trade.breakevenTp_eq_netTp {trade : Trade} (p : BreakevenParams)
    (own : trade.strategy = .conservative ∨ trade.strategy = .scalpRunner ∨
      trade.strategy = .scaleOut ∧ ∀ price ∈ trade.tp 1, onProfitSide trade price = true) :
    trade.breakevenTp p = trade.netTp := by
  rw [Trade.breakevenTp, Trade.netTp, Trade.stopHandler]
  obtain strategy | strategy | ⟨strategy, ahead⟩ := own
  · rw [strategy]
    rfl
  · rw [strategy]
    rfl
  · rw [strategy]
    change (trade.tp 1).filter (onProfitSide trade) = trade.tp 1
    cases level : trade.tp 1 with
    | none => rfl
    | some price => exact Option.filter_some_pos (ahead price level)

namespace NetView
variable (v : NetView) (trade : Trade)

/-- The level of the field is reached, and the trade has an entry. -/
def missed : Bool :=
  v.watches trade && trade.netTp.any (reached v.candles trade.direction) &&
    decide (trade.entryPrice ≠ 0)

def bePrice : ℚ :=
  roundTo 2 (trade.entryPrice + trade.direction.sign * computeBeCostPts v.fees)

/-- A stop at the price is on the losing side of the market. -/
def inMarket (price : ℚ) : Bool :=
  trade.direction.tighter (v.market.closePrice trade.direction) price

def windowClosed : Bool := v.ticked && !v.inMarket trade (v.bePrice trade)

def cooldownActive (lastAlert : ℚ) : Bool := decide (v.now - lastAlert < 1800)

def alerted (s : NetEnd) (alert : NetAlert) : NetEnd :=
  if v.cooldownActive s.lastAlert then s
  else { s with lastAlert := v.now, alert := some alert }

/-- Up to the order to the broker. -/
def acts : Bool := v.missed trade && !v.windowClosed trade

def protect (s : NetEnd) : NetEnd :=
  { s with stored := some (v.bePrice trade), alert := some .triggered }

/-- The order of a trade with a ticket. -/
def order (s : NetEnd) : NetEnd :=
  let s := { s with asked := some (v.bePrice trade) }
  match v.reply with
  | .raised => s
  | .answered false => v.alerted s .failed
  | .answered true => v.protect trade s

/-- `tp_safety_net_check_trade`, with the time of the last alert. -/
def tpSafetyNetCheckTrade (lastAlert : ℚ) : NetEnd :=
  let s : NetEnd := ⟨none, none, lastAlert, none⟩
  if !v.missed trade then s
  else if v.windowClosed trade then v.alerted s .windowClosed
  else
    match linkedTicket trade.mt5Ticket with
    | none => v.protect trade s
    | some _ => v.order trade s

end NetView

/-- `set_stop_loss_be`. -/
def NetEnd.save (trade : Trade) (s : NetEnd) (db : Db) : Db :=
  match s.stored with
  | none => db
  | some sl => db.setTrade trade.tradeId (Trade.setStopLossBe sl)

/-- A trade that is not protected is recorded as protected exactly when the call
stores a stop, and then with that stop. -/
theorem NetEnd.save_row {db : Db} {trade : Trade} (found : db.getTrade trade.tradeId = some trade)
    (bare : trade.slMovedToBe = false) (s : NetEnd) :
    ∃ row, (s.save trade db).getTrade trade.tradeId = some row ∧
      row.slMovedToBe = s.stored.isSome ∧ row.stopLoss = s.stored.getD trade.stopLoss := by
  rw [NetEnd.save]
  cases s.stored with
  | none => exact ⟨trade, found, bare, rfl⟩
  | some sl =>
      refine ⟨Trade.setStopLossBe sl trade, ?_, rfl, rfl⟩
      dsimp only
      rw [Db.getTrade, Db.setTrade, Table.find_update_self, ← Db.getTrade, found]
      rfl

/-- The level is further from profit than the stop in force; zero is no stop. -/
def Trade.loosens (trade : Trade) (sl : ℚ) : Bool :=
  decide (trade.stopLoss ≠ 0) && trade.direction.tighter trade.stopLoss sl

namespace NetView
variable (v : NetView) (trade : Trade) (lastAlert : ℚ)

/-- The stop of the row or of the position goes to the level. -/
def movesTo (s : NetEnd) (sl : ℚ) : Prop := s.stored = some sl ∨ s.asked = some sl ∧ v.taken = true

/-- The candles have come to the level at which the handler goes to breakeven. -/
def handlerReached (p : BreakevenParams) : Bool :=
  (trade.breakevenTp p).any (reached v.candles trade.direction)

structure Helps (p : BreakevenParams) (s : NetEnd) : Prop where
  afterTp : ∀ sl, v.movesTo s sl → v.handlerReached trade p = true
  notLooser : ∀ sl, v.movesTo s sl → trade.loosens sl = false
  onLosingSide : ∀ sl, v.movesTo s sl → v.inMarket trade sl = true
  confirmed : s.stored.isSome = true → s.asked = s.stored ∧ v.reply.confirmed = true

/-- The guards that are not there: on a call that acts, the trade has a ticket,
and if the broker takes or confirms the stop, the candles have come to the level
of the handler, the stop in force is no tighter, and prices were read or the stop
is on the losing side of them. -/
structure Guarded (p : BreakevenParams) : Prop where
  ticket : (linkedTicket trade.mt5Ticket).isSome = true
  reached : v.taken = true ∨ v.reply.confirmed = true → v.handlerReached trade p = true
  notLooser : v.taken = true ∨ v.reply.confirmed = true →
    trade.loosens (v.bePrice trade) = false
  priced : v.taken = true ∨ v.reply.confirmed = true →
    v.ticked = true ∨ v.inMarket trade (v.bePrice trade) = true

variable {v trade lastAlert}

@[simp] theorem alerted_asked (s : NetEnd) (alert : NetAlert) :
    (v.alerted s alert).asked = s.asked := by
  rw [alerted]
  split_ifs <;> rfl

@[simp] theorem alerted_stored (s : NetEnd) (alert : NetAlert) :
    (v.alerted s alert).stored = s.stored := by
  rw [alerted]
  split_ifs <;> rfl

theorem check_idle (idle : v.acts trade = false) :
    (v.tpSafetyNetCheckTrade trade lastAlert).asked = none ∧
      (v.tpSafetyNetCheckTrade trade lastAlert).stored = none := by
  rw [acts] at idle
  rw [tpSafetyNetCheckTrade]
  cases missed : v.missed trade with
  | false => exact ⟨rfl, rfl⟩
  | true =>
      rw [missed, Bool.true_and, Bool.not_eq_false'] at idle
      rw [if_neg (by decide), if_pos idle]
      exact ⟨alerted_asked .., alerted_stored ..⟩

theorem check_acts (acts : v.acts trade = true) :
    v.tpSafetyNetCheckTrade trade lastAlert =
      match linkedTicket trade.mt5Ticket with
      | none => v.protect trade ⟨none, none, lastAlert, none⟩
      | some _ => v.order trade ⟨none, none, lastAlert, none⟩ := by
  rw [NetView.acts, Bool.and_eq_true, Bool.not_eq_true'] at acts
  rw [tpSafetyNetCheckTrade, acts.1, acts.2]
  rfl

/-- An order asks for the level, and stores it when the broker confirms. -/
theorem order_effect (s : NetEnd) (fresh : s.stored = none) :
    (v.order trade s).asked = some (v.bePrice trade) ∧
      (v.order trade s).stored = if v.reply.confirmed then some (v.bePrice trade) else none := by
  rw [order]
  cases v.reply with
  | raised => exact ⟨rfl, fresh⟩
  | answered success =>
      cases success with
      | false => exact ⟨alerted_asked .., (alerted_stored ..).trans fresh⟩
      | true => exact ⟨rfl, rfl⟩

theorem order_movesTo_iff {s : NetEnd} (fresh : s.stored = none) (sl : ℚ) :
    v.movesTo (v.order trade s) sl ↔
      (v.taken = true ∨ v.reply.confirmed = true) ∧ v.bePrice trade = sl := by
  obtain ⟨asked, stored⟩ := @order_effect v trade s fresh
  rw [movesTo, asked, stored, Option.some_inj]
  cases v.reply.confirmed with
  | true => simp [and_comm]
  | false => simp [and_comm]

theorem acts_priced_iff (acts : v.acts trade = true) :
    v.ticked = true ∨ v.inMarket trade (v.bePrice trade) = true ↔
      v.inMarket trade (v.bePrice trade) = true := by
  rw [NetView.acts, Bool.and_eq_true, Bool.not_eq_true', windowClosed] at acts
  cases inside : v.inMarket trade (v.bePrice trade) with
  | true => simp
  | false =>
      rw [inside, Bool.not_false, Bool.and_true] at acts
      simp [acts.2]

/-- Without a ticket the call stores a stop that no broker has confirmed. -/
theorem not_helps_of_unlinked {p : BreakevenParams} (acts : v.acts trade = true)
    (unlinked : linkedTicket trade.mt5Ticket = none) :
    ¬ v.Helps trade p (v.tpSafetyNetCheckTrade trade lastAlert) := by
  intro helps
  rw [check_acts acts, unlinked] at helps
  cases (helps.confirmed rfl).1

/-- Where the field of the net is the level of the handler, an acting call comes
after that level. -/
theorem handlerReached_of_shared {p : BreakevenParams} (acts : v.acts trade = true)
    (shared : trade.breakevenTp p = trade.netTp) : v.handlerReached trade p = true := by
  rw [NetView.acts, missed, Bool.and_eq_true, Bool.and_eq_true, Bool.and_eq_true] at acts
  rw [handlerReached, shared]
  exact acts.1.1.2

variable (v trade lastAlert)

/-- A call helps exactly when it does not act or the guards that it leaves out
hold. -/
theorem safety_net_helps_iff (p : BreakevenParams) :
    v.Helps trade p (v.tpSafetyNetCheckTrade trade lastAlert) ↔
      (v.acts trade = true → v.Guarded trade p) := by
  cases acts : v.acts trade with
  | false =>
      obtain ⟨asked, stored⟩ := @check_idle v trade lastAlert acts
      have still (sl : ℚ) : ¬ v.movesTo (v.tpSafetyNetCheckTrade trade lastAlert) sl := by
        rw [movesTo, asked, stored]
        simp
      refine iff_of_true ⟨?_, ?_, ?_, ?_⟩ fun no => Bool.noConfusion no
      · exact fun sl moves => absurd moves (still sl)
      · exact fun sl moves => absurd moves (still sl)
      · exact fun sl moves => absurd moves (still sl)
      · rw [stored]
        exact fun no => Bool.noConfusion no
  | true =>
      refine Iff.trans ?_ (forall_prop_of_true rfl).symm
      cases ticket : linkedTicket trade.mt5Ticket with
      | none =>
          refine iff_of_false (not_helps_of_unlinked acts ticket) fun guarded => ?_
          have linked := guarded.ticket
          rw [ticket] at linked
          cases linked
      | some n =>
          rw [check_acts acts, ticket]
          have fresh : (⟨none, none, lastAlert, none⟩ : NetEnd).stored = none := rfl
          obtain ⟨asked, stored⟩ := @order_effect v trade _ fresh
          constructor
          · intro helps
            have moves (took : v.taken = true ∨ v.reply.confirmed = true) :=
              (@order_movesTo_iff v trade _ fresh (v.bePrice trade)).mpr ⟨took, rfl⟩
            refine ⟨by rw [ticket]; rfl, ?_, ?_, ?_⟩
            · exact fun took => helps.afterTp _ (moves took)
            · exact fun took => helps.notLooser _ (moves took)
            · exact fun took => Or.inr (helps.onLosingSide _ (moves took))
          · intro guarded
            refine ⟨fun sl moved => ?_, fun sl moved => ?_, fun sl moved => ?_, fun isStored => ?_⟩
            · exact guarded.reached ((order_movesTo_iff fresh sl).mp moved).1
            · obtain ⟨took, rfl⟩ := (order_movesTo_iff fresh sl).mp moved
              exact guarded.notLooser took
            · obtain ⟨took, rfl⟩ := (order_movesTo_iff fresh sl).mp moved
              exact (acts_priced_iff acts).mp (guarded.priced took)
            · rw [stored] at isStored
              rw [asked, stored]
              cases confirmed : v.reply.confirmed with
              | true => exact ⟨rfl, rfl⟩
              | false =>
                  rw [confirmed] at isStored
                  cases isStored

end NetView

/-- A trade of Adaptive Runner 2, which goes to breakeven at TP2, after a candle
that came to TP1. -/
def netTrade : Trade :=
  Trade.fresh "t1" "s1" (some 7001) .buy 2000 1 1990 [some 2005, some 2010] 1000 .adaptiveRunner2
    .python false (some 1990) none

def netView : NetView :=
  ⟨1300, false, [⟨some 2006, some 1999⟩], some ⟨none, none, none⟩, ⟨2004, 2005⟩, true,
    .answered true, true⟩

def netParams : BreakevenParams := ⟨⟨1, 1, 25⟩, fun _ => 1⟩

theorem net_moves_before_handler :
    ¬ ∀ (p : BreakevenParams) (v : NetView) (trade : Trade) (lastAlert : ℚ),
      v.Helps trade p (v.tpSafetyNetCheckTrade trade lastAlert) := by
  intro all
  have moved : netView.movesTo (netView.tpSafetyNetCheckTrade netTrade 0) (200035 / 100) := by
    refine Or.inl ?_
    decide +kernel
  have reached := (all netParams netView netTrade 0).afterTp _ moved
  exact absurd reached (by decide +kernel)

end Forex
