import Forex.Backtest.TemplateWalk
import Forex.Broker.Sides
import Forex.Support.Position
import Mathlib.Data.List.Induction
import Mathlib.Tactic.LinearCombination

/-!
The bar walk against the tick walk on the same prices. In the gains of its
prices a walk is a position with a ratcheting stop: a bar is one interval of
gains, its ticks are the gains. A bar moves the stop after its prices, a tick
before the next one.
-/

namespace Forex
namespace Backtest
open Support Support.Coarse

/-- The gain of a price, in price units. -/
def gain (direction : Direction) (entry price : ℚ) : ℚ := (price - entry) * direction.sign

section Gain
variable {direction : Direction} {entry a b : ℚ}

theorem gain_le_gain_buy : gain .buy entry a ≤ gain .buy entry b ↔ a ≤ b := by
  simp [gain, Direction.sign]

theorem gain_le_gain_sell : gain .sell entry a ≤ gain .sell entry b ↔ b ≤ a := by
  simp only [gain, Direction.sign]
  constructor <;> intro le <;> linarith

theorem sub_mul_sign (entry : ℚ) :
    (a - b) * direction.sign = gain direction entry a - gain direction entry b := by
  rw [gain, gain]
  ring

theorem gain_behind (dist : ℚ) :
    gain direction entry (a - direction.sign * dist) = gain direction entry a - dist := by
  rw [gain, gain]
  linear_combination (-dist) * direction.sign_mul_sign

theorem gain_ahead (dist : ℚ) : gain direction entry (entry + direction.sign * dist) = dist := by
  rw [gain]
  linear_combination dist * direction.sign_mul_sign

end Gain

def positionRules (t : Template) : PositionRules ℚ where
  climbs := decide (t.tpslMode ≠ .off)
  inParts := t.partials
  lastTakesAll := t.closeFullOnLast
  breakevenAt := t.beTrigger.toNat
  breakeven := if t.beMode = .entryBuffer then t.beBufferPts else 0
  armAt := t.tp1TriggerLevel.toNat
  activation := pipsToPrice t.trailActivation
  trail :=
    match t.trailMode with
    | .step =>
        if 0 < pipsToPrice t.trailDistance then
          .behind (pipsToPrice t.trailDistance + pipsToPrice t.trailPadding)
            (pipsToPrice t.trailStep)
        else .off
    | .tp => .targets
    | _ => .off

def stopGain (direction : Direction) (entry : ℚ) : Option ℚ → WithBot ℚ
  | none => ⊥
  | some stop => gain direction entry stop

def Rung.target (direction : Direction) (entry lot : ℚ) (r : Rung) : Target ℚ :=
  ⟨gain direction entry r.price, roundTo 2 (lot * r.pct), r.triggered⟩

def Walk.position (direction : Direction) (entry lot : ℚ) (w : Walk) : Coarse.Position ℚ where
  stop := stopGain direction entry w.stop
  armed := w.trailArmed
  targets := w.rungs.map (Rung.target direction entry lot)
  banked := w.res.pnlPrice
  lots := w.res.remainingLots

/-- `low if is_buy else high`. -/
def Bar.adverse (bar : Bar) : Direction → ℚ
  | .buy => bar.low
  | .sell => bar.high

/-- The result of a walk at any point of its loop. -/
structure TemplateResult.Sound (entry : ℚ) (res : TemplateResult) : Prop where
  entry : res.entry = entry
  grid : OnGrid 2 res.remainingLots
  nonneg : 0 ≤ res.remainingLots
  running : 0 < res.remainingLots → res.outcome = .timeout

section OneBar
variable {t : Template} {direction : Direction} {entry lot : ℚ}

theorem barReached_eq (entry : ℚ) (bar : Bar) (price : ℚ) :
    barReached direction bar price =
      decide (gain direction entry price ≤ gain direction entry (bar.favourable direction)) := by
  cases direction with
  | buy => simp only [barReached, Bar.favourable, gain_le_gain_buy]
  | sell => simp only [barReached, Bar.favourable, gain_le_gain_sell]

theorem barStopped_eq (entry : ℚ) (bar : Bar) (stop : ℚ) :
    barStopped direction bar stop =
      decide (gain direction entry (bar.adverse direction) ≤ gain direction entry stop) := by
  cases direction with
  | buy => simp only [barStopped, Bar.adverse, gain_le_gain_buy]
  | sell => simp only [barStopped, Bar.adverse, gain_le_gain_sell]

theorem stopGain_tighten (stop : Option ℚ) (new : ℚ) :
    stopGain direction entry (tighten direction.sign stop new) =
      max (stopGain direction entry stop) (gain direction entry new) := by
  cases stop with
  | none => simp [tighten, stopGain]
  | some s =>
      simp only [tighten, sub_mul_sign entry, sub_pos, stopGain]
      split_ifs with tighter
      · rw [← WithBot.coe_max, max_eq_right tighter.le]
      · rw [← WithBot.coe_max, max_eq_left (not_lt.mp tighter)]

theorem takenAt_rungs (rungs : List Rung) (level : ℤ) :
    takenAt (rungs.map (Rung.target direction entry lot)) level.toNat =
      triggeredAt rungs level := by
  have index : level.toNat - 1 = (level - 1).toNat := by omega
  have pos : 0 < level.toNat ↔ 0 < level := by omega
  rw [takenAt, triggeredAt, index, List.getElem?_map, Option.any_map]
  simp only [pos]
  rfl

theorem bestTaken_rungs (rungs : List Rung) :
    bestTaken (rungs.map (Rung.target direction entry lot)) =
      stopGain direction entry (bestTriggered rungs) := by
  induction rungs with
  | nil => rfl
  | cons r rungs ih =>
      rw [List.map_cons, bestTaken, bestTriggered, ih]
      by_cases triggered : r.triggered = true
      · have taken : (r.target direction entry lot).taken = true := triggered
        rw [if_pos triggered, if_pos taken]
        cases bestTriggered rungs <;> rfl
      · have untaken : ¬ (r.target direction entry lot).taken = true := triggered
        rw [if_neg triggered, if_neg untaken]
        rfl

/-- What `barLadder` writes, as the climb of the favourable gain. -/
theorem barLadder_climb (idx : ℕ) (bar : Bar) (rungs : List Rung) {res : TemplateResult}
    (own : res.entry = entry) (grid : OnGrid 2 res.remainingLots) :
    (positionRules t).climb (gain direction entry (bar.favourable direction))
        (rungs.map (Rung.target direction entry lot)) res.pnlPrice res.remainingLots =
      ⟨(barLadder t direction lot idx bar rungs res).1.map (Rung.target direction entry lot),
        (barLadder t direction lot idx bar rungs res).2.pnlPrice,
        (barLadder t direction lot idx bar rungs res).2.remainingLots⟩ := by
  induction rungs generalizing res with
  | nil => rfl
  | cons r rungs ih =>
      rw [List.map_cons, PositionRules.climb, barLadder]
      by_cases triggered : r.triggered = true
      · rw [if_pos (show (r.target direction entry lot).taken = true from triggered),
          if_pos triggered, ih own grid]
        rfl
      rw [if_neg (show ¬ (r.target direction entry lot).taken = true from triggered),
        if_neg triggered]
      by_cases short : gain direction entry (bar.favourable direction) <
          gain direction entry r.price
      · have missed : barReached direction bar r.price = false := by
          rw [barReached_eq entry, decide_eq_false (not_le.mpr short)]
        rw [if_pos (show _ < (r.target direction entry lot).gain from short), if_pos missed]
        rfl
      have reached : ¬ barReached direction bar r.price = false := by
        rw [barReached_eq entry, decide_eq_true (not_lt.mp short)]
        exact Bool.true_eq_false_eq_False
      rw [if_neg (show ¬ _ < (r.target direction entry lot).gain from short), if_neg reached,
        List.isEmpty_map]
      by_cases last : (rungs.isEmpty && (t.closeFullOnLast || !t.partials)) = true
      · rw [if_pos (show (rungs.isEmpty && ((positionRules t).lastTakesAll ||
          !(positionRules t).inParts)) = true from last), if_pos last]
        simp only [TemplateResult.closeLast, own]
        rfl
      rw [if_neg (show ¬ (rungs.isEmpty && ((positionRules t).lastTakesAll ||
        !(positionRules t).inParts)) = true from last), if_neg last]
      by_cases whole : t.partials = false
      · rw [if_pos (show (positionRules t).inParts = false from whole), if_pos whole]
        rfl
      rw [if_neg (show ¬ (positionRules t).inParts = false from whole), if_neg whole]
      by_cases nothing : min (roundTo 2 (lot * r.pct)) res.remainingLots ≤ 0
      · have empty : min (r.target direction entry lot).share res.remainingLots ≤ 0 := nothing
        rw [if_pos empty]
        dsimp only
        rw [if_pos nothing, ih own grid]
        rfl
      · rw [if_neg
          (show ¬ min (r.target direction entry lot).share res.remainingLots ≤ 0 from nothing)]
        dsimp only
        rw [if_neg nothing]
        have rest : OnGrid 2
            (res.remainingLots - min (roundTo 2 (lot * r.pct)) res.remainingLots) :=
          grid.sub ((roundTo_onGrid 2 _).min grid)
        have part := @ih (res.closePart direction.sign r.price
          (min (roundTo 2 (lot * r.pct)) res.remainingLots) idx) own (roundTo_onGrid 2 _)
        simp only [TemplateResult.closePart, roundTo_of_onGrid rest, own] at part ⊢
        exact congrArg (Climbed.push _) part

theorem TemplateResult.Sound.closed {res : TemplateResult} (own : res.entry = entry)
    (closed : res.remainingLots = 0) : res.Sound entry :=
  ⟨own, closed ▸ onGrid_zero 2, closed.ge, fun open' => absurd closed open'.ne'⟩

theorem TemplateResult.Sound.barLadder {res : TemplateResult} (sound : res.Sound entry) (idx : ℕ)
    (bar : Bar) (rungs : List Rung) :
    (barLadder t direction lot idx bar rungs res).2.Sound entry := by
  induction rungs generalizing res with
  | nil => exact sound
  | cons r rungs ih =>
      rw [Backtest.barLadder]
      split_ifs
      · exact ih sound
      · exact sound
      · exact .closed sound.entry rfl
      · exact sound
      · refine ih ?_
        split_ifs with nothing
        · exact sound
        refine ⟨sound.entry, roundTo_onGrid 2 _, ?_, fun open' => ?_⟩
        · have rest := sound.grid.sub ((roundTo_onGrid 2 (lot * r.pct)).min sound.grid)
          simp only [TemplateResult.closePart, roundTo_of_onGrid rest]
          exact sub_nonneg.mpr (min_le_right _ _)
        · exact sound.running ((not_le.mp nothing).trans_le (min_le_right _ _))

theorem stopGain_barTrail (refused : t.trailMode ≠ .candle) (prev : Option Bar) (bar : Bar)
    (rungs : List Rung) (stop : Option ℚ) :
    stopGain direction entry (barTrail t direction prev bar rungs stop) =
      (positionRules t).pull (gain direction entry (bar.favourable direction))
        (rungs.map (Rung.target direction entry lot)) (stopGain direction entry stop) := by
  cases mode : t.trailMode with
  | candle => exact absurd mode refused
  | off | fractal | staged => simp only [barTrail, PositionRules.pull, positionRules, mode]
  | tp =>
      simp only [barTrail, PositionRules.pull, positionRules, mode, bestTaken_rungs]
      cases bestTriggered rungs with
      | none => exact (max_bot_right _).symm
      | some best => exact stopGain_tighten stop best
  | step =>
      simp only [barTrail, PositionRules.pull, positionRules, mode]
      by_cases dist : 0 < pipsToPrice t.trailDistance
      · simp only [if_pos dist, ← gain_behind]
        cases stop with
        | none =>
            rw [stopGain_tighten, if_pos (.inr bot_le)]
        | some s =>
            have reach : pipsToPrice t.trailStep ≤
                (bar.favourable direction -
                  direction.sign * (pipsToPrice t.trailDistance + pipsToPrice t.trailPadding) -
                    s) * direction.sign ↔
                stopGain direction entry (some s) + (pipsToPrice t.trailStep : WithBot ℚ) ≤
                  (gain direction entry (bar.favourable direction -
                    direction.sign *
                      (pipsToPrice t.trailDistance + pipsToPrice t.trailPadding)) : ℚ) := by
              rw [sub_mul_sign entry, stopGain, ← WithBot.coe_add, WithBot.coe_le_coe]
              constructor <;> intro le <;> linarith
            simp only [reach]
            split_ifs
            · exact stopGain_tighten (some s) _
            · rfl
      · simp only [if_neg dist]

theorem barManage_position (refused : t.trailMode ≠ .candle) (prev : Option Bar) (bar : Bar)
    (w : Walk) :
    (barManage t direction entry prev bar w).position direction entry lot =
      ⟨(positionRules t).ratchet (gain direction entry (bar.favourable direction))
          (w.position direction entry lot).targets (w.position direction entry lot).stop
          w.trailArmed,
        (positionRules t).arms (gain direction entry (bar.favourable direction))
          (w.position direction entry lot).targets w.trailArmed,
        (w.position direction entry lot).targets, w.res.pnlPrice, w.res.remainingLots⟩ := by
  have arms : (positionRules t).arms (gain direction entry (bar.favourable direction))
      (w.rungs.map (Rung.target direction entry lot)) w.trailArmed =
      (w.trailArmed ||
        (decide (0 < pipsToPrice t.trailActivation) &&
          decide (pipsToPrice t.trailActivation ≤
            (bar.favourable direction - entry) * direction.sign)) ||
        triggeredAt w.rungs t.tp1TriggerLevel) := by
    rw [PositionRules.arms, positionRules, takenAt_rungs]
    rfl
  have secured : (positionRules t).secured (w.rungs.map (Rung.target direction entry lot))
      (stopGain direction entry w.stop) =
      stopGain direction entry
        (if triggeredAt w.rungs t.beTrigger then
          tighten direction.sign w.stop
            (if t.beMode = .entryBuffer then entry + direction.sign * t.beBufferPts else entry)
        else w.stop) := by
    rw [PositionRules.secured, positionRules]
    simp only [takenAt_rungs]
    split_ifs
    · rw [stopGain_tighten, gain_ahead]
    · rw [stopGain_tighten, gain, sub_self, zero_mul]
    · rfl
  simp only [barManage, Walk.position, PositionRules.ratchet, arms, secured]
  rw [apply_ite (stopGain direction entry)]
  congr 2
  exact stopGain_barTrail refused prev bar w.rungs _

/-- The stop of a walk is reached where its gain is. -/
theorem adverse_le_stop (bar : Bar) (w : Walk) :
    ((gain direction entry (bar.adverse direction) : ℚ) : WithBot ℚ) ≤
        (w.position direction entry lot).stop ↔
      ∃ stop, w.stop.filter (barStopped direction bar) = some stop := by
  rw [Walk.position]
  cases stop : w.stop with
  | none => simp [stopGain]
  | some s =>
      rw [stopGain, WithBot.coe_le_coe, Option.filter_some, barStopped_eq entry]
      by_cases hit : gain direction entry (bar.adverse direction) ≤ gain direction entry s
      · exact iff_of_true hit ⟨s, if_pos (decide_eq_true hit)⟩
      · refine iff_of_false hit fun ⟨_, found⟩ => ?_
        rw [decide_eq_false hit] at found
        cases found

theorem barClimb_stop (idx : ℕ) (bar : Bar) (w : Walk) :
    (barClimb t direction lot idx bar w).stop = w.stop ∧
      (barClimb t direction lot idx bar w).trailArmed = w.trailArmed := by
  rw [barClimb]
  split_ifs <;> exact ⟨rfl, rfl⟩

theorem barClimb_take (idx : ℕ) (bar : Bar) {w : Walk} (sound : w.res.Sound entry)
    (live : 0 < w.res.remainingLots) :
    (positionRules t).take (gain direction entry (bar.favourable direction))
        (w.position direction entry lot).targets (w.position direction entry lot).banked
        (w.position direction entry lot).lots =
      ⟨((barClimb t direction lot idx bar w).position direction entry lot).targets,
        (barClimb t direction lot idx bar w).res.pnlPrice,
        (barClimb t direction lot idx bar w).res.remainingLots⟩ ∧
    (barClimb t direction lot idx bar w).res.Sound entry := by
  rw [PositionRules.take, barClimb]
  by_cases on : t.tpslMode = .off
  · rw [if_neg (show ¬ (positionRules t).climbs = true from by simp [positionRules, on]),
      if_neg fun h => h.1 on]
    exact ⟨rfl, sound⟩
  · rw [if_pos (show (positionRules t).climbs = true from decide_eq_true on), if_pos ⟨on, live⟩]
    exact ⟨barLadder_climb idx bar w.rungs sound.entry sound.grid, sound.barLadder idx bar w.rungs⟩

theorem barStep_position (refused : t.trailMode ≠ .candle) (idx : ℕ) (prev : Option Bar) (bar : Bar)
    {w : Walk} (sound : w.res.Sound entry) (live : 0 < w.res.remainingLots) :
    (barStep t direction entry lot idx prev bar w).1.position direction entry lot =
        (positionRules t).step (gain direction entry (bar.favourable direction))
          (gain direction entry (bar.adverse direction)) (w.position direction entry lot) ∧
      (barStep t direction entry lot idx prev bar w).1.res.Sound entry ∧
      ((barStep t direction entry lot idx prev bar w).2 = true ↔
        (barStep t direction entry lot idx prev bar w).1.res.remainingLots = 0) := by
  have open' : ¬ (w.position direction entry lot).lots ≤ 0 := not_le.mpr live
  have reached := @adverse_le_stop direction entry lot bar w
  rw [PositionRules.step, if_neg open', barStep]
  cases stopped : w.stop.filter (barStopped direction bar) with
  | some stop =>
      rw [if_pos (reached.mpr ⟨stop, stopped⟩)]
      have held : w.stop = some stop := Option.eq_some_of_filter_eq_some stopped
      refine ⟨?_, .closed sound.entry rfl, iff_of_true rfl rfl⟩
      simp only [Walk.position, PositionRules.stopOut, TemplateResult.stopOut, held, stopGain,
        WithBot.unbotD_coe, sound.entry, gain]
  | none =>
      have missed : ¬ ((gain direction entry (bar.adverse direction) : ℚ) : WithBot ℚ) ≤
          (w.position direction entry lot).stop := by
        intro hit
        simpa [stopped] using reached.mp hit
      rw [if_neg missed]
      obtain ⟨takes, sound'⟩ := barClimb_take (t := t) idx bar sound live
      obtain ⟨stop, armed⟩ := @barClimb_stop t direction lot idx bar w
      rw [PositionRules.carryOn, takes]
      dsimp only
      by_cases closed : (barClimb t direction lot idx bar w).res.remainingLots ≤ 0
      · rw [if_pos closed, if_pos closed]
        have none_left := le_antisymm closed sound'.nonneg
        refine ⟨?_, .closed sound'.entry none_left, iff_of_true rfl none_left⟩
        simp only [Walk.position, stop, armed]
      · rw [if_neg closed, if_neg closed]
        refine ⟨?_, sound', iff_of_false Bool.false_ne_true fun none_left => closed none_left.le⟩
        rw [barManage_position refused, Walk.position, Walk.position, stop, armed]

end OneBar

/-- Consecutive ticks that make one bar. -/
abbrev TickGroup := Tick × List Tick

/-- The bar of a group of ticks, in the marks of the side. -/
def barOf (direction : Direction) (g : TickGroup) : Bar where
  high := (g.2.map fun tick => tick.closePrice direction).foldl max (g.1.closePrice direction)
  low := (g.2.map fun tick => tick.closePrice direction).foldl min (g.1.closePrice direction)
  close := (g.2.getLast?.getD g.1).closePrice direction

def ticksOf (groups : List TickGroup) : List Tick := groups.flatMap fun g => g.1 :: g.2

def intervalOf (direction : Direction) (entry : ℚ) (g : TickGroup) : PositionRules.Interval ℚ :=
  (gain direction entry (g.1.closePrice direction),
    (g.2.map fun tick => tick.closePrice direction).map (gain direction entry))

section Groups
variable (direction : Direction) (entry : ℚ)

theorem gain_max_buy (a b : ℚ) : max (gain .buy entry a) (gain .buy entry b) =
    gain .buy entry (max a b) :=
  (Monotone.map_max fun _ _ le => gain_le_gain_buy.mpr le).symm

theorem gain_min_buy (a b : ℚ) : min (gain .buy entry a) (gain .buy entry b) =
    gain .buy entry (min a b) :=
  (Monotone.map_min fun _ _ le => gain_le_gain_buy.mpr le).symm

theorem gain_max_sell (a b : ℚ) : max (gain .sell entry a) (gain .sell entry b) =
    gain .sell entry (min a b) :=
  (Antitone.map_min fun _ _ le => gain_le_gain_sell.mpr le).symm

theorem gain_min_sell (a b : ℚ) : min (gain .sell entry a) (gain .sell entry b) =
    gain .sell entry (max a b) :=
  (Antitone.map_max fun _ _ le => gain_le_gain_sell.mpr le).symm

theorem best_intervalOf (g : TickGroup) :
    PositionRules.Interval.best (intervalOf direction entry g) =
      gain direction entry ((barOf direction g).favourable direction) := by
  rw [PositionRules.Interval.best, intervalOf, List.foldl_map]
  cases direction with
  | buy => exact List.foldl_hom (gain .buy entry) fun a b => gain_max_buy entry a b
  | sell => exact List.foldl_hom (gain .sell entry) fun a b => gain_max_sell entry a b

theorem worst_intervalOf (g : TickGroup) :
    PositionRules.Interval.worst (intervalOf direction entry g) =
      gain direction entry ((barOf direction g).adverse direction) := by
  rw [PositionRules.Interval.worst, intervalOf, List.foldl_map]
  cases direction with
  | buy => exact List.foldl_hom (gain .buy entry) fun a b => gain_min_buy entry a b
  | sell => exact List.foldl_hom (gain .sell entry) fun a b => gain_min_sell entry a b

theorem gains_ticksOf (groups : List TickGroup) :
    (groups.map (intervalOf direction entry)).flatMap PositionRules.Interval.gains =
      (ticksOf groups).map fun tick => gain direction entry (tick.closePrice direction) := by
  rw [ticksOf, List.map_flatMap, List.flatMap_map]
  simp only [PositionRules.Interval.gains, intervalOf, List.map_map, List.map_cons]
  rfl

theorem getLast?_ticksOf (groups : List TickGroup) :
    ((ticksOf groups).getLast?.map fun tick => tick.closePrice direction) =
      (groups.map (barOf direction)).getLast?.map Bar.close := by
  induction groups using List.reverseRecOn with
  | nil => rfl
  | append_singleton groups g =>
      rw [ticksOf, List.flatMap_append, List.flatMap_singleton, List.map_append,
        List.map_singleton, List.getLast?_append, List.getLast?_append, List.getLast?_cons]
      rfl

end Groups

section Walks
variable {t : Template} {direction : Direction} {entry lot : ℚ}

theorem walkBars_position (refused : t.trailMode ≠ .candle) (groups : List TickGroup) (idx : ℕ)
    (prev : Option Bar) {w : Walk} (sound : w.res.Sound entry) (live : 0 < w.res.remainingLots) :
    (walkBars t direction entry lot idx prev (groups.map (barOf direction)) w).position direction
        entry lot =
      (positionRules t).walk (groups.map (intervalOf direction entry))
        (w.position direction entry lot) ∧
    (walkBars t direction entry lot idx prev (groups.map (barOf direction)) w).res.Sound entry := by
  induction groups generalizing idx prev w with
  | nil => exact ⟨rfl, sound⟩
  | cons g groups ih =>
      obtain ⟨position, sound', left⟩ := @barStep_position t direction entry lot refused idx prev
        (barOf direction g) w sound live
      rw [List.map_cons, walkBars, List.map_cons, PositionRules.walk, List.foldl_cons,
        ← PositionRules.walk, best_intervalOf, worst_intervalOf, ← position]
      split_ifs with ended
      · exact ⟨(PositionRules.walk_of_closed (left.mp ended)).symm, sound'⟩
      · exact ih (idx + 1) _ sound' (sound'.nonneg.lt_of_ne' fun closed => ended (left.mpr closed))

theorem walkTicks_position (refused : t.trailMode ≠ .candle) (ticks : List Tick) (idx : ℕ)
    {w : Walk} (sound : w.res.Sound entry) (live : 0 < w.res.remainingLots) :
    (walkTicks t direction entry lot idx ticks w).position direction entry lot =
      (positionRules t).ticks
        (ticks.map fun tick => gain direction entry (tick.closePrice direction))
        (w.position direction entry lot) ∧
    (walkTicks t direction entry lot idx ticks w).res.Sound entry := by
  induction ticks generalizing idx w with
  | nil => exact ⟨rfl, sound⟩
  | cons tick ticks ih =>
      have adverse : (markBar direction tick).adverse direction = tick.closePrice direction := by
        cases direction <;> rfl
      obtain ⟨position, sound', left⟩ := @barStep_position t direction entry lot refused idx none
        (markBar direction tick) w sound live
      rw [barStep_markBar refused, favourable_markBar, adverse] at position
      rw [barStep_markBar refused] at sound' left
      rw [walkTicks, List.map_cons, PositionRules.ticks, List.foldl_cons, ← PositionRules.ticks,
        ← position]
      split_ifs with ended
      · exact ⟨(PositionRules.ticks_of_closed (left.mp ended)).symm, sound'⟩
      · exact ih (idx + 1) sound' (sound'.nonneg.lt_of_ne' fun closed => ended (left.mpr closed))

theorem finish_pnlPrice {w : Walk} (sound : w.res.Sound entry) (close : ℚ) (count : ℕ) :
    (w.res.finish direction.sign (some close) count).pnlPrice =
      PositionRules.worth (gain direction entry close) (w.position direction entry lot) := by
  simp only [TemplateResult.finish, PositionRules.worth, Walk.position]
  rcases sound.nonneg.eq_or_lt with closed | open'
  · rw [if_neg fun h => h.1.ne closed, ← closed, mul_zero, add_zero]
  · rw [if_pos ⟨open', sound.running open'⟩]
    simp only [sound.entry, gain]

theorem finish_pnlUsd (res : TemplateResult) (sign : ℚ) (last : Option ℚ) (count : ℕ) :
    (res.finish sign last count).pnlUsd =
      roundTo 2 ((res.finish sign last count).pnlPrice * 100) := rfl

theorem lotFor_pos (slDistance balance : ℚ) : 0 < lotFor t slDistance balance := by
  have least : (1 / 100 : ℚ) ≤ roundTo 2 (1 / 100) := by decide +kernel
  refine (show (0 : ℚ) < 1 / 100 by norm_num).trans_le (least.trans (roundTo_mono 2 ?_))
  exact le_min (by norm_num) (le_max_left _ _)

theorem sound_start (slDistance balance : ℚ) :
    (TemplateResult.start (lotFor t slDistance balance) entry).Sound entry :=
  ⟨rfl, roundTo_onGrid 2 _, (lotFor_pos slDistance balance).le, fun _ => rfl⟩

end Walks

/-- A bar that the stop ends reaches no open target behind the stop. In one that
the stop does not end no tick comes back to the stop as the ticks before it
moved it, and none goes beyond them after such a move, unless the trail is
unrestricted: no minimum move of a step trail, no target below an earlier one. -/
def CalmBars (t : Template) (direction : Direction) (entry balance : ℚ)
    (groups : List TickGroup) : Prop :=
  let slDistance := pipsToPrice t.slPips
  let lot := lotFor t slDistance balance
  (positionRules t).CalmWalk
    ((Walk.start direction entry lot slDistance
      (ladder t entry direction.sign 0)).position direction entry lot)
    (groups.map (intervalOf direction entry))

instance (t : Template) (direction : Direction) (entry balance : ℚ) (groups : List TickGroup) :
    Decidable (CalmBars t direction entry balance groups) :=
  inferInstanceAs (Decidable (PositionRules.CalmWalk _ _ _))

theorem simulate_le_simulateTicks (t : Template) (groups : List TickGroup) (entry : ℚ)
    (direction : Direction) (balance : ℚ) (accepted : guard t true false = [])
    (calm : CalmBars t direction entry balance groups) :
    ∃ bars ticks,
      simulate t (groups.map (barOf direction)) entry direction balance 0 = .ok bars ∧
        simulateTicks t (ticksOf groups) entry direction balance = .ok ticks ∧
        bars.pnlPrice ≤ ticks.pnlPrice ∧ bars.pnlUsd ≤ ticks.pnlUsd := by
  obtain ⟨bars, refused⟩ := guard_of_ticks accepted
  rw [simulate, simulateTicks, accepted, decide_eq_false (lt_irrefl 0), bars]
  simp only [ne_eq, not_true_eq_false, if_false, slDistanceOf_no_atr, Except.ok.injEq]
  rw [CalmBars] at calm
  generalize started : Walk.start direction entry (lotFor t (pipsToPrice t.slPips) balance)
    (pipsToPrice t.slPips) (ladder t entry direction.sign 0) = w at calm ⊢
  have sound : w.res.Sound entry := started ▸ sound_start (pipsToPrice t.slPips) balance
  have live : 0 < w.res.remainingLots := started ▸ lotFor_pos (pipsToPrice t.slPips) balance
  obtain ⟨coarse, soundBars⟩ := @walkBars_position t direction entry
    (lotFor t (pipsToPrice t.slPips) balance) refused groups 0 none w sound live
  obtain ⟨fine, soundTicks⟩ := @walkTicks_position t direction entry
    (lotFor t (pipsToPrice t.slPips) balance) refused (ticksOf groups) 0 w sound live
  have pessimistic := PositionRules.worth_walk_le sound.nonneg calm
  rw [gains_ticksOf, ← fine, ← coarse] at pessimistic
  refine ⟨_, _, rfl, rfl, ?_⟩
  rw [finish_pnlUsd, finish_pnlUsd, getLast?_ticksOf]
  have price :
      ((walkBars t direction entry (lotFor t (pipsToPrice t.slPips) balance) 0 none
          (groups.map (barOf direction)) w).res.finish direction.sign
            ((groups.map (barOf direction)).getLast?.map Bar.close)
            (groups.map (barOf direction)).length).pnlPrice ≤
        ((walkTicks t direction entry (lotFor t (pipsToPrice t.slPips) balance) 0 (ticksOf groups)
          w).res.finish direction.sign ((groups.map (barOf direction)).getLast?.map Bar.close)
            (ticksOf groups).length).pnlPrice := by
    cases last : (groups.map (barOf direction)).getLast? with
    | none =>
        have nothing : groups = [] := by simpa using last
        subst nothing
        exact le_rfl
    | some bar =>
        rw [Option.map_some, finish_pnlPrice soundBars, finish_pnlPrice soundTicks]
        exact pessimistic (gain direction entry bar.close)
  exact ⟨price, roundTo_mono 2 (mul_le_mul_of_nonneg_right price (by norm_num))⟩

/-- Three targets with a breakeven at the first of them, and no trail. -/
def Template.latched : Template := { Template.threeTargets with trailMode := .off }

/-- One bar whose ticks take the first target, come back through the entry and
then take the second. -/
def backAndUp : List TickGroup :=
  [(⟨4002 + 1 / 2, 4002 + 1 / 2⟩, [⟨3999 + 1 / 2, 3999 + 1 / 2⟩, ⟨4004 + 1 / 2, 4004 + 1 / 2⟩])]

theorem simulate_flatters :
    ¬ ∀ (t : Template) (groups : List TickGroup) (entry : ℚ) (direction : Direction) (balance : ℚ)
      (bars ticks : TemplateResult),
        simulate t (groups.map (barOf direction)) entry direction balance 0 = .ok bars →
          simulateTicks t (ticksOf groups) entry direction balance = .ok ticks →
            bars.pnlUsd ≤ ticks.pnlUsd := by
  intro all
  have bars : ∃ b, simulate Template.latched (backAndUp.map (barOf .buy)) 4000 .buy 10000 0 =
      .ok b ∧ b.pnlUsd = 36 := ⟨_, rfl, by decide +kernel⟩
  have ticks : ∃ k, simulateTicks Template.latched (ticksOf backAndUp) 4000 .buy 10000 = .ok k ∧
      k.pnlUsd = 6 := ⟨_, rfl, by decide +kernel⟩
  obtain ⟨b, bars, more⟩ := bars
  obtain ⟨k, ticks, less⟩ := ticks
  have flat := all _ _ _ _ _ b k bars ticks
  rw [more, less] at flat
  exact absurd flat (by norm_num)

/-- Up through the first target in one bar, down to the breakeven in the next. -/
theorem simulate_le_simulateTicks_latched :
    ∃ bars ticks,
      simulate Template.latched
          ([((⟨4001, 4001⟩ : Tick), [(⟨4003, 4003⟩ : Tick), ⟨4002 + 1 / 2, 4002 + 1 / 2⟩]),
            (⟨4001, 4001⟩, [⟨3999, 3999⟩])].map (barOf .buy)) 4000 .buy 10000 0 = .ok bars ∧
        simulateTicks Template.latched
          (ticksOf [((⟨4001, 4001⟩ : Tick), [(⟨4003, 4003⟩ : Tick),
            ⟨4002 + 1 / 2, 4002 + 1 / 2⟩]), (⟨4001, 4001⟩, [⟨3999, 3999⟩])]) 4000 .buy 10000 =
          .ok ticks ∧
        bars.pnlPrice ≤ ticks.pnlPrice ∧ bars.pnlUsd ≤ ticks.pnlUsd :=
  simulate_le_simulateTicks _ _ 4000 .buy 10000 (by decide) (by decide +kernel)

end Backtest
end Forex
