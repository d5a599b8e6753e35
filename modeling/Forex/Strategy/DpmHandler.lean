import Forex.Strategy.AdaptiveParams
import Forex.Strategy.StopBehind

/-!
The stop of a trade under `handle_dynamic_position_management`: the close of TP1 or a
profit past the threshold takes it to the entry, and from there it trails the price.
-/

namespace Forex
open Support

/-- What a call of the position manager meets, with its view of the market. -/
structure DpmTick extends StopTick where
  market : Dpm.MarketView

/-- Where the price has moved by less than the distance, three fifths of that move. -/
def Dpm.effectiveTrail (trade : Trade) (tick : Tick) (dist : ℚ) : ℚ :=
  let priceMove := |tick.closePrice trade.direction - trade.entryPrice|
  if 0 < priceMove ∧ priceMove < dist then roundTo 2 (priceMove * (6 / 10)) else dist

/-- The structural level or that of the trail, whichever locks in more, and no worse than the
entry; a structural level of zero is none. -/
def Dpm.trailLevel (trade : Trade) (tick : Tick) (params : Dpm.AdaptiveParams) : ℚ :=
  let dist := Dpm.effectiveTrail trade tick params.trailDistance
  let swing := params.swingSl.filter fun level => decide (level ≠ 0)
  match trade.direction with
  | .buy =>
      let arith := roundTo 2 (tick.bid - dist)
      max (max arith (swing.getD arith)) trade.entryPrice
  | .sell =>
      let arith := roundTo 2 (tick.ask + dist)
      min (min arith (swing.getD arith)) trade.entryPrice

namespace StopDesk

section Dpm
variable (trade : Trade) (t : DpmTick)

/-- Tighter after TP1, and at breakeven. -/
def dpmParams (s : StopDesk) : Dpm.AdaptiveParams :=
  Dpm.computeAdaptiveParams trade t.tick t.market
    (decide (1 ∈ s.triggered) || s.trailingActive trade)

/-- The partial close of TP1; nothing where the call ends with it. -/
def dpmClose (s : StopDesk) (price pct : ℚ) : Option StopDesk :=
  let lots := min (roundTo 4 (trade.lotSize * pct)) (s.remaining trade)
  if pct ≤ 0 then some s
  else if lots ≤ 0 then some s
  else
    match confirmedClose trade price lots (t.reply 1) with
    | none => none
    | some (lots, price) =>
        match partialCloseTrade s.db trade.tradeId lots price (tpReason 1) t.now with
        | none => some s
        | some p => some (s.record p)

/-- TP1: a partial close, and the stop to the entry, as far as it is not there. -/
def dpmFirst (s : StopDesk) (price pct : ℚ) : StopDesk :=
  match dpmClose trade t s price pct with
  | none => s
  | some s' => if s.trailingActive trade then s' else s'.breakeven trade t.toStopTick 1

def dpmTrail (s : StopDesk) (params : Dpm.AdaptiveParams) : StopDesk :=
  let sl := Dpm.trailLevel trade t.tick params
  if tightens trade sl then s.moveSl trade t.toStopTick 0 sl else s

/-- The markers of TP2 and on. -/
def dpmMarkers (s : StopDesk) : StopDesk :=
  (List.range' 2 7).foldl
    (fun s' n =>
      if n ∈ s.triggered then s'
      else
        match tpCleared trade t.tick n with
        | some price => s'.insertTpMarker trade t.now price (tpReason n ++ "_DPM_MARKER")
        | none => s')
    s

def handleDynamicPositionManagement (s : StopDesk) : StopDesk :=
  let s := s.readTriggered trade t.now
  let params := dpmParams trade t s
  let unrealized :=
    pnl trade.direction trade.entryPrice (t.tick.closePrice trade.direction) trade.remainingLots
  match (tpCleared trade t.tick 1).filter fun _ => decide (1 ∉ s.triggered) with
  | some price => dpmFirst trade t s price params.tp1PartialPct
  | none =>
      if s.trailingActive trade then (dpmTrail trade t s params).dpmMarkers trade t
      else if params.beTriggerUsd ≤ unrealized then s.breakeven trade t.toStopTick 0
      else s.dpmMarkers trade t

end Dpm

/-- A call with the row as it is then, if the trade is open. -/
def manage (tradeId : String) (s : StopDesk) (t : DpmTick) : StopDesk :=
  match s.db.getTrade tradeId with
  | none => s
  | some trade => if trade.isOpen then s.handleDynamicPositionManagement trade t else s

end StopDesk

/-- The stop of a trade at breakeven is at the entry or past it, that of another one at the
entry or behind it; lots are not negative. -/
structure Trade.Fits (row : Trade) : Prop where
  moved : row.slMovedToBe = true → row.direction.tighter row.entryPrice row.stopLoss = false
  unmoved : row.slMovedToBe = false → row.direction.tighter row.stopLoss row.entryPrice = false
  lots : 0 ≤ row.remainingLots

namespace Trade
variable {row : Trade}

theorem Fits.moveToEntry (h : row.Fits) {sl : ℚ} (entry : sl = row.entryPrice) :
    (Trade.setStopLossBe sl row).Fits where
  moved _ := by
    rw [entry]
    exact row.direction.tighter_irrefl _
  unmoved still := nomatch still
  lots := h.lots

theorem Fits.setStopLoss (h : row.Fits) (moved : row.slMovedToBe = true) {sl : ℚ}
    (past : row.direction.tighter row.entryPrice sl = false) : (Trade.setStopLoss sl row).Fits where
  moved _ := past
  unmoved still := by
    have flag : row.slMovedToBe = false := still
    rw [moved] at flag
    nomatch flag
  lots := h.lots

theorem afterPartial_slMovedToBe ( be : Bool)
    (now closePrice partialPnl newRemaining entryPrice : ℚ) (row : Trade) :
    (Trade.afterPartial be now closePrice partialPnl newRemaining entryPrice row).slMovedToBe =
      ( be || row.slMovedToBe) := by
  rw [Trade.afterPartial]
  cases be with
  | true => split <;> rfl
  | false => split <;> rfl

theorem Fits.afterPartial (h : row.Fits) ( be : Bool) (now closePrice partialPnl : ℚ)
    {newRemaining : ℚ} (left : 0 ≤ newRemaining) :
    (Trade.afterPartial be now closePrice partialPnl newRemaining row.entryPrice row).Fits := by
  have position := samePosition_afterPartial be now closePrice partialPnl newRemaining
    row.entryPrice row
  refine ⟨fun moved => ?_, fun unmoved => ?_, ?_⟩
  · rw [position.direction, position.entryPrice, afterPartial_stopLoss]
    rw [afterPartial_slMovedToBe] at moved
    cases be with
    | true => exact row.direction.tighter_irrefl _
    | false => exact h.moved moved
  · rw [position.direction, position.entryPrice, afterPartial_stopLoss]
    rw [afterPartial_slMovedToBe, Bool.or_eq_false_iff] at unmoved
    obtain ⟨rfl, flag⟩ := unmoved
    exact h.unmoved flag
  · rw [Trade.afterPartial_remainingLots]
    split_ifs
    · exact le_rfl
    · exact left

end Trade

namespace StopDesk

/-- Where a call of the position manager is: no write has loosened the stop, the row fits, and
is at breakeven if it was before the call. -/
structure Manages (trade : Trade) (s : StopDesk) : Prop where
  held : Held trade s
  row : ∀ row, s.db.getTrade trade.tradeId = some row →
    row.Fits ∧ (trade.slMovedToBe = true → row.slMovedToBe = true)

variable {trade : Trade} {t : DpmTick} {s s' : StopDesk}

theorem Manages.of_same (h : Manages trade s)
    (row : s'.db.getTrade trade.tradeId = s.db.getTrade trade.tradeId)
    (stops : s'.stops = s.stops) : Manages trade s' :=
  ⟨h.held.of_same row stops, row ▸ h.row⟩

/-- The row of the trade behind an update of it. -/
theorem getTrade_setTrade {db : Db} {row : Trade} (f : Assign Trade.tradeId)
    (found : (db.setTrade trade.tradeId f).getTrade trade.tradeId = some row) :
    ∃ before, db.getTrade trade.tradeId = some before ∧ row = f before := by
  have updated : (db.setTrade trade.tradeId f).getTrade trade.tradeId =
      (db.getTrade trade.tradeId).map f := Table.find_update_self _ _ _
  rw [updated] at found
  obtain ⟨before, was, now⟩ := Option.map_eq_some_iff.mp found
  exact ⟨before, was, now.symm⟩

theorem modifyOrder_db (view : ModifyView) (sl : Option ℚ) :
    (s.modifyOrder trade view sl).db = s.db := by
  rw [modifyOrder]
  cases linkedTicket trade.mt5Ticket <;> rfl

theorem Manages.position (h : Manages trade s) {row : Trade}
    (found : s.db.getTrade trade.tradeId = some row) :
    row.SamePosition trade ∧ row.stopLoss = s.stops.stop := by
  obtain ⟨row', found', position, stop⟩ := h.held.tracks
  rw [found] at found'
  cases found'
  exact ⟨position, stop⟩

theorem Manages.breakeven (h : Manages trade s) (ahead : EntryAhead trade s) (n : ℕ) :
    Manages trade (s.breakeven trade t.toStopTick n) := by
  refine ⟨h.held.breakeven ahead n, fun row found => ?_⟩
  rw [StopDesk.breakeven] at found
  split at found
  · obtain ⟨before, was, rfl⟩ := getTrade_setTrade _ found
    rw [modifyOrder_db] at was
    exact ⟨(h.row before was).1.moveToEntry (h.position was).1.entryPrice.symm, fun _ => rfl⟩
  · exact h.row row found

theorem Manages.moveSl (h : Manages trade s) (moved : trade.slMovedToBe = true) (n : ℕ) {sl : ℚ}
    (ok : trade.direction.tighter s.stops.stop sl = false)
    (past : trade.direction.tighter trade.entryPrice sl = false) :
    Manages trade (s.moveSl trade t.toStopTick n sl) := by
  refine ⟨h.held.moveSl n ok, fun row found => ?_⟩
  obtain ⟨before, was, rfl⟩ := getTrade_setTrade _ found
  rw [modifyOrder_db] at was
  obtain ⟨fits, flag⟩ := h.row before was
  obtain ⟨position, -⟩ := h.position was
  refine ⟨fits.setStopLoss (flag moved) ?_, flag⟩
  rw [position.direction, position.entryPrice]
  exact past

/-- The booking of a close finds the stop no further than the entry, or leaves it. -/
theorem Manages.bookingKeeps (h : Manages trade s) {n : ℕ} {price lots now : ℚ} {reply : Reply}
    {p : PartialWrite} (write : closeWrite s.db trade n price lots reply now = some p) :
    s.bookingKeeps trade p = true := by
  obtain ⟨found, -⟩ := closeWrite_eq_some write
  obtain ⟨fits, -⟩ := h.row _ found
  obtain ⟨position, stop⟩ := h.position found
  rw [StopDesk.bookingKeeps, h.held.tracks.past]
  cases flag : p.row.slMovedToBe with
  | true =>
      have stays : p.movesStop s.db = false := by
        rw [PartialWrite.movesStop, movesToBreakeven, flag]
        simp
      rw [stays]
      rfl
  | false =>
      have behind := fits.unmoved flag
      rw [position.direction, position.entryPrice, stop] at behind
      rw [behind]
      exact Bool.or_true _

theorem Manages.record (h : Manages trade s) {n : ℕ} {price lots now : ℚ} {reply : Reply}
    {p : PartialWrite} (write : closeWrite s.db trade n price lots reply now = some p) :
    Manages trade (s.record p) := by
  refine ⟨h.held.record write (h.bookingKeeps write), fun row found => ?_⟩
  obtain ⟨was, -⟩ := closeWrite_eq_some write
  obtain ⟨fits, flag⟩ := h.row _ was
  have own : p.row.tradeId = trade.tradeId := Table.key_of_find was
  cases recorded : s.db.alreadyRecorded p.booking with
  | true =>
      have still : (s.record p).db = s.db := PartialWrite.apply_of_recorded recorded
      rw [still, was] at found
      cases found
      exact ⟨fits, flag⟩
  | false =>
      have ledger := (PartialWrite.apply_of_new recorded).getTrade_self
      rw [own, was] at ledger
      have same : row = Trade.afterPartial _ _ _ _ _ _ p.row :=
        Option.some.inj (found.symm.trans ledger)
      have left : 0 ≤ p.newRemaining :=
        roundTo_nonneg 4 (sub_nonneg.mpr (min_le_right _ _))
      rw [same]
      refine ⟨fits.afterPartial _ _ _ _ left, fun moved => ?_⟩
      rw [Trade.afterPartial_slMovedToBe, flag moved]
      exact Bool.or_true _

theorem dpmClose_eq_some {price pct : ℚ} (close : dpmClose trade t s price pct = some s') :
    s' = s ∨ ∃ lots p, closeWrite s.db trade 1 price lots (t.reply 1) t.now = some p ∧
      s' = s.record p := by
  rw [dpmClose] at close
  split at close
  · exact .inl (Option.some.inj close).symm
  · split at close
    · exact .inl (Option.some.inj close).symm
    · split at close
      · nomatch close
      · rename_i lots level confirmed
        split at close
        · exact .inl (Option.some.inj close).symm
        · rename_i p write
          have booked : closeWrite s.db trade 1 price
              (min (roundTo 4 (trade.lotSize * pct)) (s.remaining trade)) (t.reply 1) t.now =
                some p := by
            rw [closeWrite, confirmed]
            exact write
          exact .inr ⟨_, p, booked, (Option.some.inj close).symm⟩

theorem dpmMarkers_same :
    (s.dpmMarkers trade t).db.getTrade trade.tradeId = s.db.getTrade trade.tradeId ∧
      (s.dpmMarkers trade t).stops = s.stops := by
  rw [dpmMarkers]
  refine List.foldlRecOn (motive := fun s' : StopDesk =>
    s'.db.getTrade trade.tradeId = s.db.getTrade trade.tradeId ∧ s'.stops = s.stops) _ _ ⟨rfl, rfl⟩
    fun s' same n _ => ?_
  split
  · exact same
  · cases tpCleared trade t.tick n with
    | none => exact same
    | some price => exact same

/-- In the call, the flag of the row is that of the copy. -/
theorem trailingActive_eq (found : s.db.getTrade trade.tradeId = some trade) :
    s.trailingActive trade = trade.slMovedToBe := by
  rw [trailingActive, found]
  exact Bool.or_self _

theorem trailLevel_past (tick : Tick) (params : Dpm.AdaptiveParams) :
    trade.direction.tighter trade.entryPrice (Dpm.trailLevel trade tick params) = false := by
  rw [Direction.tighter_eq_false_iff, Dpm.trailLevel]
  cases trade.direction with
  | buy => simp [Direction.sign]
  | sell => simp [Direction.sign]

/-- A call leaves the stop where it was, at the entry, or tighter. -/
theorem Manages.handle (h : Manages trade s) (found : s.db.getTrade trade.tradeId = some trade) :
    Manages trade (s.handleDynamicPositionManagement trade t) := by
  have fresh : s.stops.stop = trade.stopLoss := (h.position found).2.symm
  have read : Manages trade (s.readTriggered trade t.now) := h.of_same rfl rfl
  have ahead : EntryAhead trade (s.readTriggered trade t.now) := .of_fresh fresh
  have flag : (s.readTriggered trade t.now).trailingActive trade = trade.slMovedToBe :=
    trailingActive_eq found
  have same : (s.readTriggered trade t.now).stops.stop = trade.stopLoss := fresh
  rw [handleDynamicPositionManagement]
  generalize s.readTriggered trade t.now = s at *
  split
  · rename_i price cleared
    rw [dpmFirst]
    cases close : dpmClose trade t s price (dpmParams trade t s).tp1PartialPct with
    | none => exact read
    | some s' =>
        have closed : Manages trade s' ∧ EntryAhead trade s' := by
          rcases dpmClose_eq_some close with rfl | ⟨lots, p, write, rfl⟩
          · exact ⟨read, ahead⟩
          · exact ⟨read.record write, ahead.record (read.held.tracks.record write).2⟩
        dsimp only
        split
        · exact closed.1
        · exact closed.1.breakeven closed.2 1
  · split
    · rename_i active
      rw [flag] at active
      have trailed : Manages trade (dpmTrail trade t s (dpmParams trade t s)) := by
        rw [dpmTrail]
        split
        · rename_i better
          refine read.moveSl active 0 ?_ (trailLevel_past _ _)
          exact same ▸ trade.direction.not_tighter_of_tighter better
        · exact read
      exact trailed.of_same dpmMarkers_same.1 dpmMarkers_same.2
    · split
      · exact read.breakeven ahead 0
      · exact read.of_same dpmMarkers_same.1 dpmMarkers_same.2

/-- The price and the entry in cents. -/
def InCents (trade : Trade) (t : DpmTick) : Prop :=
  OnGrid 2 (t.tick.closePrice trade.direction) ∧ OnGrid 2 trade.entryPrice

theorem effectiveTrail_pos (cents : InCents trade t) {dist : ℚ} (wide : Dpm.minTrail ≤ dist) :
    0 < Dpm.effectiveTrail trade t.tick dist := by
  rw [Dpm.effectiveTrail]
  have step (x : ℚ) (grid : OnGrid 2 x) (positive : 0 < x) : 1 / 10 ^ 2 ≤ x := by
    by_contra near
    have zero := grid.eq_of_abs_sub_lt (onGrid_zero 2)
      (by rw [sub_zero, abs_of_pos positive]; exact not_le.mp near)
    exact positive.ne' zero
  have grid : OnGrid 2 |t.tick.closePrice trade.direction - trade.entryPrice| := by
    rcases abs_choice (t.tick.closePrice trade.direction - trade.entryPrice) with up | down
    · rw [up]
      exact cents.1.sub cents.2
    · rw [down, neg_sub]
      exact cents.2.sub cents.1
  split_ifs with moved
  · have cent := step _ grid moved.1
    have near := (abs_le.mp (abs_roundTo_sub_le 2
      (|t.tick.closePrice trade.direction - trade.entryPrice| * (6 / 10)))).1
    norm_num at near cent
    linarith
  · have positive : (0 : ℚ) < Dpm.minTrail := by norm_num [Dpm.minTrail]
    exact positive.trans_le wide

theorem effectiveTrail_onGrid (tick : Tick) {dist : ℚ} (grid : OnGrid 1 dist) :
    OnGrid 2 (Dpm.effectiveTrail trade tick dist) := by
  rw [Dpm.effectiveTrail]
  split_ifs
  · exact roundTo_onGrid 2 _
  · exact grid.mono (by norm_num)

/-- A level that is tighter than a stop past the entry is not the entry: it is that of the
trail or of the swing, both behind the market. -/
theorem trailLevel_behind (cents : InCents trade t) {params : Dpm.AdaptiveParams}
    (wide : Dpm.minTrail ≤ params.trailDistance) (grid : OnGrid 1 params.trailDistance)
    (swing : ∀ level ∈ params.swingSl, locksProfit trade.direction trade.entryPrice
      (t.tick.closePrice trade.direction) level)
    (past : trade.direction.tighter trade.entryPrice trade.stopLoss = false)
    (better : tightens trade (Dpm.trailLevel trade t.tick params) = true) :
    behindMarket trade t.toStopTick (Dpm.trailLevel trade t.tick params) = true := by
  have positive := effectiveTrail_pos cents wide
  have onCents : OnGrid 2 (Dpm.effectiveTrail trade t.tick params.trailDistance) :=
    effectiveTrail_onGrid t.tick grid
  rw [behindMarket_eq_true_iff]
  rw [tightens, Direction.tighter_eq_true_iff] at better
  rw [Direction.tighter_eq_false_iff] at past
  have tighter := past.trans_lt better
  rw [Dpm.trailLevel] at tighter ⊢
  obtain ⟨price, -⟩ := cents
  have structural (arith : ℚ) (level : ℚ)
      (is : (params.swingSl.filter fun level => decide (level ≠ 0)).getD arith = level) :
      level = arith ∨ locksProfit trade.direction trade.entryPrice
        (t.tick.closePrice trade.direction) level := by
    cases chosen : params.swingSl.filter fun level => decide (level ≠ 0) with
    | none =>
        rw [chosen] at is
        exact .inl is.symm
    | some found =>
        rw [chosen] at is
        subst is
        exact .inr (swing _ (Option.filter_eq_some_iff.mp chosen).1)
  generalize Dpm.effectiveTrail trade t.tick params.trailDistance = dist at *
  cases side : trade.direction with
  | buy =>
      rw [side] at price structural tighter
      simp only [Direction.sign, Tick.closePrice, one_mul] at price tighter ⊢
      have arith : roundTo 2 (t.tick.bid - dist) = t.tick.bid - dist :=
        roundTo_of_onGrid (price.sub onCents)
      rw [arith] at tighter ⊢
      have level := structural (t.tick.bid - dist) _ rfl
      generalize (params.swingSl.filter fun level => decide (level ≠ 0)).getD (t.tick.bid - dist) =
        swingLevel at *
      have below : swingLevel < t.tick.bid := by
        rcases level with rfl | between
        · linarith
        · exact between.2
      rcases lt_max_iff.mp tighter with inner | same
      · rw [max_eq_left inner.le]
        exact max_lt (by linarith) below
      · exact absurd same (lt_irrefl _)
  | sell =>
      rw [side] at price structural tighter
      simp only [Direction.sign, Tick.closePrice, neg_one_mul, neg_lt_neg_iff] at price tighter ⊢
      have arith : roundTo 2 (t.tick.ask + dist) = t.tick.ask + dist :=
        roundTo_of_onGrid (price.add onCents)
      rw [arith] at tighter ⊢
      have level := structural (t.tick.ask + dist) _ rfl
      generalize (params.swingSl.filter fun level => decide (level ≠ 0)).getD (t.tick.ask + dist) =
        swingLevel at *
      have above : t.tick.ask < swingLevel := by
        rcases level with rfl | between
        · linarith
        · exact between.2
      rcases min_lt_iff.mp tighter with inner | same
      · rw [min_eq_left inner.le]
        exact lt_min (by linarith) above
      · exact absurd same (lt_irrefl _)

theorem findSwingSl_between {candles : List SwingCandle} {d : Direction}
    {entry current buffer level : ℚ}
    (found : findSwingSl candles d entry current buffer = some level) :
    locksProfit d entry current level := by
  rw [findSwingSl] at found
  split_ifs at found
  obtain ⟨i, -, here⟩ := List.exists_of_findSome?_eq_some found
  exact (swingBetween_eq_some.mp here).2.2.2

/-- A profit past the threshold puts the entry behind the market. -/
theorem entry_behind_of_profit (lots : 0 ≤ trade.remainingLots)
    (profit : (dpmParams trade t s).beTriggerUsd ≤
      pnl trade.direction trade.entryPrice (t.tick.closePrice trade.direction)
        trade.remainingLots) :
    behindMarket trade t.toStopTick trade.entryPrice = true := by
  rw [behindMarket_eq_true_iff]
  by_contra against
  have move :
      (t.tick.closePrice trade.direction - trade.entryPrice) * trade.direction.sign ≤ 0 := by
    linarith
  have least := (Dpm.beTrigger_mem_band trade t.tick t.market
    (decide (1 ∈ s.triggered) || s.trailingActive trade)).1
  have loss : pnl trade.direction trade.entryPrice (t.tick.closePrice trade.direction)
      trade.remainingLots ≤ 0 := by
    rw [pnl, ← roundTo_of_onGrid (onGrid_zero 4)]
    refine roundTo_mono 4 (mul_nonpos_of_nonpos_of_nonneg ?_ (by norm_num [contractSize]))
    exact mul_nonpos_of_nonpos_of_nonneg move lots
  have positive : (0 : ℚ) < Dpm.minBe := by norm_num [Dpm.minBe]
  exact absurd (profit.trans loss) (not_le.mpr (positive.trans_le least))

/-- What a call sends and stores is behind the market. -/
theorem handle_leaves (h : Manages trade s) (found : s.db.getTrade trade.tradeId = some trade)
    (cents : InCents trade t) :
    Leaves trade t.toStopTick s True (s.handleDynamicPositionManagement trade t) := by
  have nothing : Leaves trade t.toStopTick s True (s.readTriggered trade t.now) :=
    .of_same (h.held.tracks.of_same rfl rfl) rfl True.intro
  have flag : (s.readTriggered trade t.now).trailingActive trade = trade.slMovedToBe :=
    trailingActive_eq found
  obtain ⟨fits, -⟩ := h.row trade found
  rw [handleDynamicPositionManagement]
  generalize s.readTriggered trade t.now = s' at *
  have toEntry {s₁ : StopDesk} (n : ℕ) (tracks : Tracks trade s₁)
      (entry : behindMarket trade t.toStopTick trade.entryPrice = true) :
      Leaves trade t.toStopTick s₁ True (s₁.breakeven trade t.toStopTick n) := by
    rw [StopDesk.breakeven]
    split
    · have moved : Leaves trade t.toStopTick s₁ _
          (s₁.moveSlBe trade t.toStopTick n trade.entryPrice) :=
        .of_stored ((tracks.modifyOrder _ _).setStopLossBe _) rfl
      exact moved.congr (iff_of_true entry True.intro)
    · exact .of_same tracks rfl True.intro
  have marked {s₁ : StopDesk} (left : Leaves trade t.toStopTick s True s₁) :
      Leaves trade t.toStopTick s True (s₁.dpmMarkers trade t) := by
    obtain ⟨row, stops⟩ := dpmMarkers_same (t := t) (s := s₁)
    have same : Leaves trade t.toStopTick s₁ True (s₁.dpmMarkers trade t) :=
      .of_same (left.1.of_same row stops) stops True.intro
    exact (left.trans same).congr (and_self_iff)
  split
  · rename_i price cleared
    obtain ⟨hit, -⟩ := Option.filter_eq_some_iff.mp cleared
    have entry := entry_behind hit
    rw [dpmFirst]
    cases close : dpmClose trade t s' price (dpmParams trade t s').tp1PartialPct with
    | none => exact nothing
    | some s₁ =>
        have closed : Leaves trade t.toStopTick s True s₁ := by
          rcases dpmClose_eq_some close with rfl | ⟨lots, p, write, rfl⟩
          · exact nothing
          · exact (nothing.trans (Leaves.record nothing.1 write)).congr
              (iff_of_true ⟨True.intro, fun _ => entry⟩ True.intro)
        dsimp only
        split
        · exact closed
        · exact (closed.trans (toEntry 1 closed.1 entry)).congr and_self_iff
  · split
    · rename_i active
      rw [flag] at active
      refine marked ?_
      rw [dpmTrail]
      split
      · rename_i better
        have moved : Leaves trade t.toStopTick s' _
            (s'.moveSl trade t.toStopTick 0 (Dpm.trailLevel trade t.tick (dpmParams trade t s'))) :=
          .of_stored ((nothing.1.modifyOrder _ _).setStopLoss _) rfl
        refine (nothing.trans moved).congr (iff_of_true ⟨True.intro, ?_⟩ True.intro)
        refine trailLevel_behind cents (Dpm.trail_mem_band _ _ _ _).1 (Dpm.trail_onGrid _ _ _ _)
          (fun level is => findSwingSl_between is) (fits.moved active) better
      · exact nothing
    · split
      · rename_i profit
        exact (nothing.trans (toEntry 0 nothing.1 (entry_behind_of_profit fits.lots profit))).congr
          and_self_iff
      · exact marked nothing

/-- The row of the trade between the calls, still at its position. -/
def Managed (row : Trade) (s : StopDesk) : Prop :=
  ∃ trade, s.db.getTrade row.tradeId = some trade ∧ trade.SamePosition row ∧
    trade.stopLoss = s.stops.stop ∧ s.stops.Ratchets row.direction ∧ trade.Fits ∧
      (row.slMovedToBe = true → trade.slMovedToBe = true)

/-- What the call sends and stores is behind the market it is called with. -/
def SendsBehind (tradeId : String) (s : StopDesk) (t : DpmTick) : Prop :=
  ∀ trade ∈ s.db.getTrade tradeId, trade.isOpen = true →
    PlacesBehind trade t.toStopTick s (s.manage tradeId t)

variable {row : Trade}

/-- A call on the open trade starts from what the calls before it have left. -/
theorem Managed.manages (h : s.Managed row) {trade : Trade}
    (found : s.db.getTrade row.tradeId = some trade) :
    trade.tradeId = row.tradeId ∧ Manages trade s ∧
      s.db.getTrade trade.tradeId = some trade := by
  obtain ⟨_, found', position, stop, ratchets, fits, -⟩ := h
  rw [found] at found'
  cases found'
  have own : trade.tradeId = row.tradeId := Table.key_of_find found
  have here : s.db.getTrade trade.tradeId = some trade := own ▸ found
  have held : Held trade s := ⟨⟨trade, here, .refl trade, stop⟩, position.direction ▸ ratchets⟩
  refine ⟨own, ⟨held, fun now foundNow => ?_⟩, here⟩
  rw [here] at foundNow
  cases foundNow
  exact ⟨fits, id⟩

theorem Managed.manage (h : s.Managed row) (t : DpmTick) :
    (s.manage row.tradeId t).Managed row := by
  have before := h
  obtain ⟨trade, found, position, stop, ratchets, fits, latched⟩ := h
  rw [StopDesk.manage, found]
  dsimp only
  split
  · obtain ⟨own, manages, here⟩ := before.manages found
    have after := manages.handle (t := t) here
    obtain ⟨now, found', position', stop'⟩ := after.held.tracks
    obtain ⟨fits', flag⟩ := after.row now found'
    exact ⟨now, own ▸ found', position'.trans position, stop',
      position.direction ▸ after.held.ratchets, fits', fun moved => flag (latched moved)⟩
  · exact ⟨trade, found, position, stop, ratchets, fits, latched⟩

theorem Managed.sendsBehind (h : s.Managed row) (cents : InCents row t) :
    s.SendsBehind row.tradeId t := by
  intro trade found isOpen
  obtain ⟨own, manages, here⟩ := h.manages found
  obtain ⟨_, found', position, -⟩ := h
  rw [found] at found'
  cases found'
  have ours : InCents trade t := by
    rw [InCents, position.direction, position.entryPrice]
    exact cents
  obtain ⟨-, levels, places, behind⟩ := handle_leaves manages here ours
  rw [StopDesk.manage, found]
  simp only [isOpen, if_true]
  exact places.behind_iff.mpr (behind.mpr True.intro)

theorem Managed.start (db : Db) (cache : Option (List ℕ × ℚ)) (lastFail : ℕ → Option ℚ)
    (found : db.getTrade row.tradeId = some row) (fits : row.Fits) :
    (StopDesk.opened row db cache lastFail).Managed row :=
  ⟨row, found, .refl row, rfl, ⟨List.pairwise_singleton _ _, List.Sublist.refl _⟩, fits, id⟩

end StopDesk

/-- Over any run of calls on a trade whose stop fits its flag, whatever the prices, the candles
and the answers of the broker: the row holds the stop stored last and still fits, a trade at
breakeven stays there, and no stop that is stored or sent is looser than one before it. -/
theorem dpm_stop_never_loosens (row : Trade) (db : Db) (cache : Option (List ℕ × ℚ))
    (lastFail : ℕ → Option ℚ) (calls : List DpmTick)
    (found : db.getTrade row.tradeId = some row) (fits : row.Fits) :
    ∀ s ∈ states (StopDesk.manage row.tradeId) (.opened row db cache lastFail) calls,
      (∃ trade, s.db.getTrade row.tradeId = some trade ∧ trade.stopLoss = s.stops.stop ∧
        trade.Fits ∧ (row.slMovedToBe = true → trade.slMovedToBe = true)) ∧
      NeverLoosens row.direction s.stops.stored ∧ NeverLoosens row.direction s.stops.sent := by
  have run : Meets (StopDesk.manage row.tradeId) (fun _ _ => True)
      (.opened row db cache lastFail) calls := meets_of_forall (fun _ _ => True.intro) _ _
  intro s mem
  have start := StopDesk.Managed.start db cache lastFail found fits
  obtain ⟨trade, found, -, stop, ratchets, fits, latched⟩ :=
    states_invariant (I := StopDesk.Managed row) (fun _ t held _ => held.manage t) start run s mem
  exact ⟨⟨trade, found, stop, fits, latched⟩, ratchets.stored,
    ratchets.stored.sublist ratchets.sent⟩

/-- Over the same runs, with the entry and the prices in cents: every stop that a call stores
or sends is strictly behind the price that the trade would be closed at. -/
theorem dpm_stop_behind_market (row : Trade) (db : Db) (cache : Option (List ℕ × ℚ))
    (lastFail : ℕ → Option ℚ) (calls : List DpmTick)
    (found : db.getTrade row.tradeId = some row) (fits : row.Fits)
    (cents : ∀ t ∈ calls, StopDesk.InCents row t) :
    Meets (StopDesk.manage row.tradeId) (StopDesk.SendsBehind row.tradeId)
      (.opened row db cache lastFail) calls := by
  have every : Meets (StopDesk.manage row.tradeId) (fun _ _ => True)
      (.opened row db cache lastFail) calls := meets_of_forall (fun _ _ => True.intro) _ _
  have run := every.and_forall cents
  have start := StopDesk.Managed.start db cache lastFail found fits
  exact meets_of_invariant (I := StopDesk.Managed row) (fun _ t held _ => held.manage t)
    (fun _ _ held ok => held.sendsBehind ok.2) start run

/-- A bid without candles, at which the broker fills every close and takes every stop. -/
def dpmTick (bid now : ℚ) : DpmTick where
  toStopTick := ratchetTick bid now
  market := ⟨[], [], 13, []⟩

theorem ratchetTrade_fits (tps : List (Option ℚ)) : (ratchetTrade tps).Fits where
  moved no := nomatch no
  unmoved _ := by norm_num [ratchetTrade, Trade.fresh, Direction.tighter]
  lots := by norm_num [ratchetTrade, Trade.fresh]

theorem dpm_stop_never_loosens_of_risingBids :
    let row := ratchetTrade [some 2010, some 2020]
    ∀ s ∈ states (StopDesk.manage "t1")
        (.opened row (Db.single row Table.empty) none fun _ => none)
        [dpmTick 2012 1, dpmTick 2016 2, dpmTick 2013 3],
      (∃ trade, s.db.getTrade "t1" = some trade ∧ trade.stopLoss = s.stops.stop ∧
        trade.Fits ∧ (row.slMovedToBe = true → trade.slMovedToBe = true)) ∧
      NeverLoosens .buy s.stops.stored ∧ NeverLoosens .buy s.stops.sent :=
  dpm_stop_never_loosens (ratchetTrade [some 2010, some 2020]) _ none (fun _ => none) _ rfl
    (ratchetTrade_fits _)

theorem dpm_stop_behind_market_of_risingBids :
    let row := ratchetTrade [some 2010, some 2020]
    Meets (StopDesk.manage "t1") (StopDesk.SendsBehind "t1")
      (.opened row (Db.single row Table.empty) none fun _ => none)
      [dpmTick 2012 1, dpmTick 2016 2, dpmTick 2013 3] := by
  refine dpm_stop_behind_market (ratchetTrade [some 2010, some 2020]) _ none (fun _ => none) _ rfl
    (ratchetTrade_fits _) ?_
  have whole (k : ℤ) : OnGrid 2 (k : ℚ) := ⟨100 * k, by push_cast; ring⟩
  rw [List.forall_mem_cons, List.forall_mem_cons, List.forall_mem_singleton]
  exact ⟨⟨whole 2012, whole 2000⟩, ⟨whole 2016, whole 2000⟩, whole 2013, whole 2000⟩

end Forex
