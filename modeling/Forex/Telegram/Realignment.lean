import Forex.Telegram.Routes

/-!
Entry Realignment of a resting order. `handle_limit_order_signal` tests whether
the market is already through the price of the order; if so it enters at the
market with every level moved along. Here that test is set against the condition
under which a buy limit or a sell limit cannot be placed.
-/

namespace Forex
open Support

/-- What the order would rest with. -/
structure RestingLevels where
  price : ℚ
  stop : ℚ
  tps : List (Option ℚ)

/-- The near edge of the quoted area. -/
def Parsed.limitPrice (p : Parsed) : ℚ :=
  match p.direction with
  | .buy => p.entryHigh
  | .sell => p.entryLow

/-- The levels of the signal, or of the single template of the channel. -/
def restingLevels (mk : Market) (ch : ChannelConfig) (p : Parsed) (stop : ℚ) : RestingLevels :=
  match restingTemplate mk ch with
  | none => ⟨p.limitPrice, stop, p.tps⟩
  | some t =>
      let (tps, own) := mk.templateLevels t p.direction p.limitPrice p.tps
      ⟨p.limitPrice, own.getD stop, if tps.reduceOption = [] then p.tps else tps⟩

/-- The signal gets as far as the breach test, with a quote. -/
structure ReachesBreachTest (mk : Market) (skip : Bool) (p : Parsed) (stop : ℚ) (tick : Tick) :
    Prop where
  session : mk.sessionOk = true
  taken : skip = false
  ea : mk.eaHealthy = true
  stop : p.stopLoss = some stop
  targets : p.tps.reduceOption ≠ []
  bias : mk.biasBlocks p.direction = false
  realigns : mk.entryRealignment = true
  quote : mk.tick = some tick

/-- A limit order at the price is through the market: a buy not below the ask, a
sell not above the bid. -/
def movedThrough (d : Direction) (price : ℚ) (tick : Tick) : Bool :=
  match d with
  | .buy => decide (tick.ask ≤ price)
  | .sell => decide (price ≤ tick.bid)

namespace RestingLevels
variable (l : RestingLevels)

/-- The levels as `_open_realigned_market_order` sends them. -/
def realigned (entry : ℚ) : RestingLevels where
  price := entry
  stop := roundTo 2 (l.stop + (entry - l.price))
  tps := l.tps.map (Option.map fun tp => roundTo 2 (tp + (entry - l.price)))

/-- Every level is as far from the new entry as it was from the price. -/
structure SameShape (l' : RestingLevels) : Prop where
  stop : l'.stop - l'.price = l.stop - l.price
  tps : l'.tps.map (Option.map fun tp => tp - l'.price) =
    l.tps.map (Option.map fun tp => tp - l.price)

/-- The stop is on the losing side of the entry. -/
def Protects (d : Direction) : Prop := 0 < d.sign * (l.price - l.stop)

instance decidableProtects (d : Direction) : Decidable (l.Protects d) :=
  inferInstanceAs (Decidable (0 < d.sign * (l.price - l.stop)))

/-- Every level is in whole cents. -/
structure InCents : Prop where
  stop : OnGrid 2 l.stop
  tps : ∀ tp ∈ l.tps, ∀ level ∈ tp, OnGrid 2 level

end RestingLevels

def SendRequest.levels (r : SendRequest) : RestingLevels := ⟨r.price, r.stopLoss, r.tps⟩

/-- The realigned branch is taken exactly when the order is through the market,
and then keeps the shape of the order with the stop on the losing side. -/
structure DetectsBreach (d : Direction) (tpOpen : Bool) (l : RestingLevels) (tick : Tick)
    (c : Decision) : Prop where
  taken : (∃ r, c = .send .realigned tpOpen r) ↔ movedThrough d l.price tick = true
  shape : movedThrough d l.price tick = true →
    ∃ r, c = .send .realigned tpOpen r ∧ l.SameShape r.levels ∧ r.levels.Protects d

section Breach
variable (env : ScanEnv) (mk : Market) (ch : ChannelConfig) (m : Message)
variable {skip tpOpen : Bool} {p : Parsed} {stop : ℚ} {tick : Tick}

/-- The order at the levels it would rest with, or at those of the market. -/
def limitRequest (p : Parsed) (rests l : RestingLevels) : SendRequest :=
  requestFor env mk m (manageStrategy mk ch) p.direction (restingLot mk ch rests.price rests.stop)
    l.stop l.tps l.price

variable (tpOpen) in
/-- What is decided at the breach test. -/
theorem handleLimitOrderSignal_of_reaches (reaches : ReachesBreachTest mk skip p stop tick) :
    handleLimitOrderSignal env mk ch m skip p tpOpen =
      let l := restingLevels mk ch p stop
      if restBreached p.direction l.price tick then
        .send .realigned tpOpen
          (limitRequest env mk ch m p l (l.realigned (tick.fillPrice p.direction)))
      else .send .resting tpOpen (limitRequest env mk ch m p l l) := by
  have decided : handleLimitOrderSignal env mk ch m skip p tpOpen =
      placeResting env mk ch m p tpOpen (restingLevels mk ch p stop).price
        (restingLevels mk ch p stop).stop (restingLevels mk ch p stop).tps := by
    rw [handleLimitOrderSignal, reaches.session, reaches.taken, reaches.ea, reaches.stop,
      reaches.bias]
    dsimp only
    rw [if_neg reaches.targets, restingLevels]
    cases restingTemplate mk ch with
    | none => rfl
    | some t => rfl
  rw [decided, placeResting, reaches.realigns, reaches.quote]
  rfl

/-- The test and its purpose are opposite but for the one price where both
hold. -/
theorem restBreached_iff_movedThrough_iff (d : Direction) (price : ℚ) (tick : Tick) :
    (restBreached d price tick = true ↔ movedThrough d price tick = true) ↔
      tick.fillPrice d = price := by
  cases d with
  | buy =>
      rw [restBreached, movedThrough, decide_eq_true_eq, decide_eq_true_eq, Tick.fillPrice]
      constructor
      · intro same
        obtain below | above := le_total price tick.ask
        · exact le_antisymm (same.mp below) below
        · exact le_antisymm above (same.mpr above)
      · intro at_
        rw [at_]
  | sell =>
      rw [restBreached, movedThrough, decide_eq_true_eq, decide_eq_true_eq, Tick.fillPrice]
      constructor
      · intro same
        obtain below | above := le_total price tick.bid
        · exact le_antisymm (same.mpr below) below
        · exact le_antisymm above (same.mp above)
      · intro at_
        rw [at_]

/-- Right at the price both hold. -/
theorem breached_at_price {d : Direction} {price : ℚ} {tick : Tick}
    (met : tick.fillPrice d = price) :
    restBreached d price tick = true ∧ movedThrough d price tick = true := by
  cases d with
  | buy => exact ⟨decide_eq_true met.ge, decide_eq_true met.le⟩
  | sell => exact ⟨decide_eq_true met.le, decide_eq_true met.ge⟩

/-- Wherever the market is not right at the price, the branch is taken exactly
when the order could have been placed. -/
theorem restBreached_of_ne {d : Direction} {price : ℚ} {tick : Tick}
    (away : tick.fillPrice d ≠ price) :
    restBreached d price tick = !movedThrough d price tick := by
  cases d with
  | buy =>
      have below : price ≤ tick.ask ↔ price < tick.ask :=
        ⟨fun le => lt_of_le_of_ne le (Ne.symm away), le_of_lt⟩
      rw [restBreached, movedThrough, ← decide_not, decide_eq_decide, not_le, below]
  | sell =>
      have above : tick.bid ≤ price ↔ tick.bid < price :=
        ⟨fun le => lt_of_le_of_ne le away, le_of_lt⟩
      rw [restBreached, movedThrough, ← decide_not, decide_eq_decide, not_le, above]

theorem roundTo_eq_iff {n : ℕ} {x : ℚ} : roundTo n x = x ↔ OnGrid n x :=
  ⟨fun same => same ▸ roundTo_onGrid n x, roundTo_of_onGrid⟩

/-- At the price itself the realigned levels are the levels rounded to cents. -/
theorem sameShape_realigned_iff (l : RestingLevels) :
    l.SameShape (l.realigned l.price) ↔ l.InCents := by
  have level (x : ℚ) :
      roundTo 2 (x + (l.price - l.price)) - l.price = x - l.price ↔ OnGrid 2 x := by
    rw [sub_left_inj, sub_self, add_zero]
    exact roundTo_eq_iff
  have target (tp : Option ℚ) : ((tp.map fun x => roundTo 2 (x + (l.price - l.price))).map
      fun x => x - l.price) = (tp.map fun x => x - l.price) ↔ ∀ x ∈ tp, OnGrid 2 x := by
    cases tp with
    | none => simp
    | some x => simpa using level x
  constructor
  · intro same
    refine ⟨(level l.stop).mp same.stop, fun tp mem => (target tp).mp ?_⟩
    have each := same.tps
    rw [RestingLevels.realigned, List.map_map] at each
    exact List.map_inj_left.mp each tp mem
  · intro cents
    refine ⟨(level l.stop).mpr cents.stop, ?_⟩
    rw [RestingLevels.realigned, List.map_map]
    exact List.map_inj_left.mpr fun tp mem => (target tp).mpr (cents.tps tp mem)

/-- At the price itself, levels in cents are sent as they are. -/
theorem realigned_price {l : RestingLevels} (cents : l.InCents) : l.realigned l.price = l := by
  have level {x : ℚ} (grid : OnGrid 2 x) : roundTo 2 (x + (l.price - l.price)) = x := by
    rw [sub_self, add_zero]
    exact roundTo_of_onGrid grid
  have target (tp : Option ℚ) (mem : tp ∈ l.tps) :
      (tp.map fun x => roundTo 2 (x + (l.price - l.price))) = tp := by
    cases tp with
    | none => rfl
    | some x => exact congrArg some (level (cents.tps _ mem x rfl))
  have targets : l.tps.map (Option.map fun x => roundTo 2 (x + (l.price - l.price))) = l.tps :=
    (List.map_congr_left target).trans (List.map_id _)
  rw [RestingLevels.realigned, level cents.stop, targets]

/-- At any market the stop stays at its distance up to half a cent. -/
theorem realigned_stop_near (l : RestingLevels) (entry : ℚ) :
    |((l.realigned entry).stop - entry) - (l.stop - l.price)| ≤ 1 / 200 := by
  have moved : ((l.realigned entry).stop - entry) - (l.stop - l.price) =
      roundTo 2 (l.stop + (entry - l.price)) - (l.stop + (entry - l.price)) := by
    rw [RestingLevels.realigned]
    ring
  rw [moved]
  exact (abs_roundTo_sub_le 2 _).trans (by norm_num)

variable (tpOpen) in
theorem realigned_iff_restBreached (reaches : ReachesBreachTest mk skip p stop tick) :
    (∃ r, handleLimitOrderSignal env mk ch m skip p tpOpen = .send .realigned tpOpen r) ↔
      restBreached p.direction (restingLevels mk ch p stop).price tick = true := by
  rw [handleLimitOrderSignal_of_reaches env mk ch m tpOpen reaches]
  cases breached : restBreached p.direction (restingLevels mk ch p stop).price tick with
  | true => exact iff_of_true ⟨_, if_pos breached⟩ rfl
  | false =>
      refine iff_of_false ?_ Bool.false_ne_true
      rintro ⟨r, sent⟩
      dsimp only at sent
      rw [breached] at sent
      cases sent

variable (tpOpen) in
/-- The claim of the setting holds of a signal that gets to the test exactly when
the market stands right at the price of the order, the levels are in cents and the
stop is on the losing side. -/
theorem limit_order_detects_breach_iff (reaches : ReachesBreachTest mk skip p stop tick) :
    DetectsBreach p.direction tpOpen (restingLevels mk ch p stop) tick
        (handleLimitOrderSignal env mk ch m skip p tpOpen) ↔
      tick.fillPrice p.direction = (restingLevels mk ch p stop).price ∧
        (restingLevels mk ch p stop).InCents ∧
          (restingLevels mk ch p stop).Protects p.direction := by
  have taken := realigned_iff_restBreached env mk ch m tpOpen reaches
  have sends := handleLimitOrderSignal_of_reaches env mk ch m tpOpen reaches
  revert taken sends
  generalize restingLevels mk ch p stop = l
  intro taken sends
  constructor
  · intro detects
    have met : tick.fillPrice p.direction = l.price :=
      (restBreached_iff_movedThrough_iff p.direction l.price tick).mp
        (taken.symm.trans detects.taken)
    obtain ⟨breached, moved⟩ := breached_at_price met
    obtain ⟨r, sent, shape, protects⟩ := detects.shape moved
    rw [sends, if_pos breached, met] at sent
    injection sent with _ _ request
    rw [← request] at shape protects
    have cents : l.InCents := (sameShape_realigned_iff l).mp shape
    refine ⟨met, cents, ?_⟩
    rw [← realigned_price cents]
    exact protects
  · rintro ⟨met, cents, protects⟩
    obtain ⟨breached, moved⟩ := breached_at_price met
    have same := realigned_price cents
    refine ⟨taken.trans (iff_of_true breached moved),
      fun _ => ⟨limitRequest env mk ch m p l l, ?_, ?_, protects⟩⟩
    · rw [sends, if_pos breached, met, same]
    · exact ⟨rfl, rfl⟩

/-- The sibling on the market path gives no levels whose stop does not protect. -/
theorem realignForBreach_protects {p q : Parsed} {stop price : ℚ}
    (realigns : realignForBreach p stop price = some q) :
    ∃ level, q.stopLoss = some level ∧ 0 < q.direction.sign * (price - level) := by
  simp only [realignForBreach] at realigns
  split at realigns
  · cases realigns
  · next protects =>
      rw [← Option.some.inj realigns]
      exact ⟨_, rfl, not_le.mp protects⟩

end Breach

/-- A buy limit at 4148 with the ask at the given price. -/
def buyLimit : Parsed := ⟨.buy, 4141, 4148, some 4134, [some 4155], none⟩

def Market.realigning (ask : ℚ) : Market :=
  { Market.calm with entryRealignment := true, tick := some ⟨ask - 1 / 5, ask⟩ }

theorem buyLimit_reaches (ask : ℚ) :
    ReachesBreachTest (Market.realigning ask) false buyLimit 4134 ⟨ask - 1 / 5, ask⟩ where
  session := rfl
  taken := rfl
  ea := rfl
  stop := rfl
  targets := List.cons_ne_nil _ _
  bias := rfl
  realigns := rfl
  quote := rfl

theorem buyLimit_inCents :
    (restingLevels (Market.realigning 4148) ⟨"G", true, false, ""⟩ buyLimit 4134).InCents := by
  have stop : (restingLevels (Market.realigning 4148) ⟨"G", true, false, ""⟩ buyLimit 4134).stop =
      4134 := rfl
  refine ⟨⟨413400, by norm_num [stop]⟩, ?_⟩
  intro tp mem level inside
  rw [List.mem_singleton.mp mem] at inside
  exact ⟨415500, by norm_num [← Option.some.inj inside]⟩

theorem limit_order_detects_breach_at_price :
    DetectsBreach .buy false (restingLevels (Market.realigning 4148) ⟨"G", true, false, ""⟩
        buyLimit 4134) ⟨4148 - 1 / 5, 4148⟩
      (handleLimitOrderSignal (bareBuyEnv false) (Market.realigning 4148) ⟨"G", true, false, ""⟩
        bareBuy false buyLimit false) :=
  (limit_order_detects_breach_iff (bareBuyEnv false) (Market.realigning 4148)
    ⟨"G", true, false, ""⟩ bareBuy false (buyLimit_reaches 4148)).mpr
    ⟨rfl, buyLimit_inCents, by decide +kernel⟩

/-- With the ask at 4150 a buy limit at 4148 rests as any other, and is sent to
the market. -/
theorem resting_order_realigned :
    ¬ ∀ (env : ScanEnv) (mk : Market) (ch : ChannelConfig) (m : Message) (skip tpOpen : Bool)
        (p : Parsed) (stop : ℚ) (tick : Tick), ReachesBreachTest mk skip p stop tick →
      DetectsBreach p.direction tpOpen (restingLevels mk ch p stop) tick
        (handleLimitOrderSignal env mk ch m skip p tpOpen) := by
  intro all
  have detects := all (bareBuyEnv false) (Market.realigning 4150) ⟨"G", true, false, ""⟩ bareBuy
    false false buyLimit 4134 _ (buyLimit_reaches 4150)
  have sent := (realigned_iff_restBreached (bareBuyEnv false) _ ⟨"G", true, false, ""⟩ bareBuy false
    (buyLimit_reaches 4150)).mpr (by decide +kernel)
  exact absurd (detects.taken.mp sent) (by decide +kernel)

end Forex
