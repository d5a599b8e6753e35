import Forex.Reversal.IctPatterns

/-!
What a unicorn setup says of its evidence. The zone is the overlap of the gap and the
breaker block, or falls back to the gap; the flag `confluence` is of the breaker
block alone.
-/

namespace Forex.Ict
open Support

/-- The candle wicked beyond the pool of the sweep and closed back. -/
structure Sweep.MadeBy (sweep : Sweep) (c : OhlcCandle) : Prop where
  high : sweep.pool.type = .eqHigh → sweep.pool.price < c.high ∧ c.close < sweep.pool.price ∧
    sweep.sweptAt = c.high ∧ sweep.reversalDirection = .bearish
  low : sweep.pool.type = .eqLow → c.low < sweep.pool.price ∧ sweep.pool.price < c.close ∧
    sweep.sweptAt = c.low ∧ sweep.reversalDirection = .bullish

/-- The bounds of what a gap and a breaker block have in common. -/
def overlap (fvg : Fvg) (b : Breaker) : ℚ × ℚ := (max fvg.bottom b.low, min fvg.top b.high)

/-- A setup is what it says. -/
structure UnicornSound (candles : List OhlcCandle) (pools : List Pool) (s : Setup) : Prop where
  inGap : s.fvg.bottom ≤ s.zoneLow ∧ s.zoneHigh ≤ s.fvg.top
  width : 1 / 2 ≤ s.zoneHigh - s.zoneLow ∧ s.zoneHigh - s.zoneLow ≤ 15
  entry : s.zoneLow ≤ s.entryMid ∧ s.entryMid ≤ s.zoneHigh
  gap : s.fvg ∈ detectFvgs candles ∧ s.fvg.direction = s.direction
  intact : ∀ c ∈ candles.drop (s.fvg.idx + 2), s.fvg.closedThrough c = false
  swept : s.sweep.pool ∈ pools ∧ (∃ c ∈ lastN 5 candles, s.sweep.MadeBy c) ∧
    s.direction = s.sweep.reversalDirection
  confluence : s.confluence = true ↔
    ∃ b, findBreakerBlock candles s.direction = some b ∧
      (overlap s.fvg b).1 ≤ (overlap s.fvg b).2 ∧ (s.zoneLow, s.zoneHigh) = overlap s.fvg b

/-- The gaps of a direction that no candle has closed through. -/
def liveGaps (candles : List OhlcCandle) (direction : Bias) : List Fvg :=
  (detectFvgs candles).filter fun f => decide (f.direction = direction) && !f.inverted

/-- The pools that are looked at. -/
def usedPools (candles : List OhlcCandle) (pools : Option (List Pool)) : List Pool :=
  pools.getD (detectEqualLevels candles 40 (3 / 2) 2)

/-- The breaker block, if one is found, has half a point or more in common with the
gap that is taken. -/
def BreakerMeetsGap (candles : List OhlcCandle) (pools : List Pool) : Prop :=
  ∀ sweep, detectLiquiditySweep candles pools = some sweep →
    ∀ fvg, (liveGaps candles sweep.reversalDirection).getLast? = some fvg →
      ∀ b, findBreakerBlock candles sweep.reversalDirection = some b →
        1 / 2 ≤ (overlap fvg b).2 - (overlap fvg b).1

section Gaps

@[simp] theorem trackFillAndInversion_cons (fvg : Fvg) (c : OhlcCandle) (later : List OhlcCandle) :
    trackFillAndInversion fvg (c :: later) =
      trackFillAndInversion
        { fvg with
          filled := fvg.filled || decide (c.low ≤ fvg.top ∧ fvg.bottom ≤ c.high)
          inverted := fvg.inverted || fvg.closedThrough c } later := rfl

/-- The edges stay, and a close through the gap is remembered. -/
theorem trackFillAndInversion_spec (fvg : Fvg) (later : List OhlcCandle) :
    (trackFillAndInversion fvg later).top = fvg.top ∧
      (trackFillAndInversion fvg later).bottom = fvg.bottom ∧
      (trackFillAndInversion fvg later).direction = fvg.direction ∧
      (trackFillAndInversion fvg later).idx = fvg.idx ∧
      (trackFillAndInversion fvg later).inverted =
        (fvg.inverted || later.any fvg.closedThrough) := by
  induction later generalizing fvg with
  | nil => exact ⟨rfl, rfl, rfl, rfl, (Bool.or_false _).symm⟩
  | cons c later ih =>
      obtain ⟨top, bottom, direction, idx, inverted⟩ := ih
        { fvg with
          filled := fvg.filled || decide (c.low ≤ fvg.top ∧ fvg.bottom ≤ c.high)
          inverted := fvg.inverted || fvg.closedThrough c }
      rw [trackFillAndInversion_cons]
      refine ⟨top, bottom, direction, idx, ?_⟩
      rw [inverted, List.any_cons, Bool.or_assoc]
      rfl

/-- A gap of the list is the one between two candles, tracked through all behind them. -/
theorem fvgOf_some {typical minGapPts : ℚ} {idx : ℕ} {c0 c2 : OhlcCandle}
    {later : List OhlcCandle} {f : Fvg} (found : fvgOf typical minGapPts idx c0 c2 later = some f) :
    ∃ top bottom direction,
      f = trackFillAndInversion (gapBetween top bottom direction idx) later := by
  unfold fvgOf at found
  split_ifs at found
  · exact ⟨_, _, _, (Option.some.inj found).symm⟩
  · exact ⟨_, _, _, (Option.some.inj found).symm⟩

theorem mem_fvgsFrom {typical minGapPts : ℚ} {i : ℕ} {candles : List OhlcCandle} {f : Fvg}
    (mem : f ∈ fvgsFrom typical minGapPts i candles) :
    ∃ n top bottom direction,
      f = trackFillAndInversion (gapBetween top bottom direction (i + n + 1))
        (candles.drop (n + 3)) := by
  induction i, candles using fvgsFrom.induct with
  | case1 i c0 c1 c2 later ih =>
      rw [fvgsFrom, List.mem_append, Option.mem_toList] at mem
      obtain here | behind := mem
      · exact ⟨0, fvgOf_some here⟩
      · obtain ⟨n, top, bottom, direction, rfl⟩ := ih behind
        refine ⟨n + 1, top, bottom, direction, ?_⟩
        rw [Nat.add_right_comm i 1 n, Nat.add_assoc i n 1]
        rfl
  | case2 i candles short =>
      unfold fvgsFrom at mem
      split at mem
      · exact absurd rfl (short _ _ _ _)
      · cases mem

/-- What is known of every gap that is detected. -/
theorem mem_detectFvgs {candles : List OhlcCandle} {f : Fvg} (mem : f ∈ detectFvgs candles) :
    OnGrid 2 f.top ∧ OnGrid 2 f.bottom ∧
      f.inverted = (candles.drop (f.idx + 2)).any f.closedThrough := by
  obtain ⟨n, top, bottom, direction, rfl⟩ := mem_fvgsFrom mem
  obtain ⟨sameTop, sameBottom, sameDirection, sameIdx, inverted⟩ :=
    trackFillAndInversion_spec (gapBetween top bottom direction (0 + n + 1)) (candles.drop (n + 3))
  have edges : (trackFillAndInversion (gapBetween top bottom direction (0 + n + 1))
      (candles.drop (n + 3))).closedThrough =
        (gapBetween top bottom direction (0 + n + 1)).closedThrough := by
    funext c
    rw [Fvg.closedThrough, Fvg.closedThrough, sameTop, sameBottom, sameDirection]
  refine ⟨?_, ?_, ?_⟩
  · rw [sameTop]
    exact roundTo_onGrid 2 top
  · rw [sameBottom]
    exact roundTo_onGrid 2 bottom
  · rw [inverted, edges, sameIdx, gapBetween, Bool.false_or, Nat.zero_add]

end Gaps

section Zones
variable {fvg : Fvg} {breaker : Option Breaker} {zone : ℚ × ℚ}

theorem degenerate_eq_false {zone : ℚ × ℚ} :
    degenerate zone = false ↔ 1 / 2 ≤ zone.2 - zone.1 ∧ zone.2 - zone.1 ≤ 15 := by
  rw [degenerate, decide_eq_false_iff_not, not_or, not_lt, not_lt]
  exact And.comm

/-- The zone is the gap, or its overlap with the breaker block. -/
theorem entryZone_some (found : entryZone fvg breaker = some zone) :
    degenerate zone = false ∧
      (zone = (fvg.bottom, fvg.top) ∨
        ∃ b, breaker = some b ∧ zone = overlap fvg b) := by
  unfold entryZone at found
  dsimp only at found
  split_ifs at found with narrow gap
  · obtain rfl := Option.some.inj found
    exact ⟨Bool.eq_false_iff.mpr gap, .inl rfl⟩
  · obtain rfl := Option.some.inj found
    refine ⟨Bool.eq_false_iff.mpr narrow, ?_⟩
    cases breaker with
    | none => exact .inl rfl
    | some b =>
        unfold overlapZone
        dsimp only
        split_ifs
        · exact .inl rfl
        · exact .inr ⟨b, rfl, rfl⟩

/-- It is the overlap as soon as that is wide enough: where it is too wide, so is the
gap. -/
theorem entryZone_overlap_iff {b : Breaker} (found : entryZone fvg (some b) = some zone) :
    zone = overlap fvg b ↔ 1 / 2 ≤ (overlap fvg b).2 - (overlap fvg b).1 := by
  constructor
  · rintro rfl
    exact (degenerate_eq_false.mp (entryZone_some found).1).1
  · intro wide
    have ordered : ¬ (overlap fvg b).2 < (overlap fvg b).1 := by linarith
    have taken : overlapZone fvg (some b) = overlap fvg b := if_neg ordered
    unfold entryZone at found
    rw [taken] at found
    dsimp only at found
    split_ifs at found with narrow gap
    · have tooWide : 15 < (overlap fvg b).2 - (overlap fvg b).1 := by
        rcases of_decide_eq_true narrow with above | below
        · exact above
        · linarith
      have within := (degenerate_eq_false.mp (Bool.eq_false_iff.mpr gap)).2
      have top : (overlap fvg b).2 ≤ fvg.top := min_le_left _ _
      have bottom : fvg.bottom ≤ (overlap fvg b).1 := le_max_left _ _
      dsimp only at within
      linarith
    · exact (Option.some.inj found).symm

/-- Nothing of the zone is outside the gap. -/
theorem entryZone_within (found : entryZone fvg breaker = some zone) :
    fvg.bottom ≤ zone.1 ∧ zone.2 ≤ fvg.top := by
  obtain ⟨-, rfl | ⟨b, -, rfl⟩⟩ := entryZone_some found
  · exact ⟨le_rfl, le_rfl⟩
  · exact ⟨le_max_left _ _, min_le_left _ _⟩

theorem entryZone_onGrid (gap : OnGrid 2 fvg.top ∧ OnGrid 2 fvg.bottom)
    (block : ∀ b ∈ breaker, OnGrid 2 b.low ∧ OnGrid 2 b.high)
    (found : entryZone fvg breaker = some zone) : OnGrid 2 zone.1 ∧ OnGrid 2 zone.2 := by
  obtain ⟨-, rfl | ⟨b, rfl, rfl⟩⟩ := entryZone_some found
  · exact ⟨gap.2, gap.1⟩
  · obtain ⟨low, high⟩ := block b rfl
    exact ⟨gap.2.max low, gap.1.min high⟩

end Zones

section Breakers

theorem breakerOf_onGrid {direction : Bias} {prev c next : OhlcCandle} {idx : ℕ} {b : Breaker}
    (found : breakerOf direction prev c next idx = some b) : OnGrid 2 b.low ∧ OnGrid 2 b.high := by
  unfold breakerOf at found
  dsimp only at found
  split_ifs at found
  obtain rfl := Option.some.inj found
  exact ⟨roundTo_onGrid 2 c.low, roundTo_onGrid 2 c.high⟩

theorem findBreakerBlock_onGrid {candles : List OhlcCandle} {direction : Bias} {b : Breaker}
    (found : findBreakerBlock candles direction = some b) : OnGrid 2 b.low ∧ OnGrid 2 b.high := by
  unfold findBreakerBlock at found
  split_ifs at found
  obtain ⟨i, -, here⟩ := List.exists_of_findSome?_eq_some found
  split at here
  · exact breakerOf_onGrid here
  · cases here

end Breakers

section Sweeps

theorem sweepOf_some {c : OhlcCandle} {pool : Pool} {sweep : Sweep}
    (found : sweepOf c pool = some sweep) : sweep.pool = pool ∧ sweep.MadeBy c := by
  unfold sweepOf at found
  split at found <;> rename_i side
  · split_ifs at found with wicked
    obtain rfl := Option.some.inj found
    exact ⟨rfl, fun _ => ⟨wicked.1, wicked.2, rfl, rfl⟩,
      fun low => absurd (side.symm.trans low) (by decide)⟩
  · split_ifs at found with wicked
    obtain rfl := Option.some.inj found
    exact ⟨rfl, fun high => absurd (side.symm.trans high) (by decide),
      fun _ => ⟨wicked.1, wicked.2, rfl, rfl⟩⟩

theorem detectLiquiditySweep_some {candles : List OhlcCandle} {pools : List Pool} {sweep : Sweep}
    (found : detectLiquiditySweep candles pools = some sweep) :
    sweep.pool ∈ pools ∧ ∃ c ∈ lastN 5 candles, sweep.MadeBy c := by
  obtain ⟨c, recent, here⟩ := List.exists_of_findSome?_eq_some found
  obtain ⟨pool, mem, swept⟩ := List.exists_of_findSome?_eq_some here
  obtain ⟨rfl, made⟩ := sweepOf_some swept
  exact ⟨mem, c, recent, made⟩

end Sweeps

/-- The stages of the pipeline, when all of them confirm. -/
theorem findUnicornSetup_some {candles : List OhlcCandle} {pools : Option (List Pool)} {s : Setup}
    (found : findUnicornSetup candles pools = some s) :
    ∃ sweep fvg lo hi, detectLiquiditySweep candles (usedPools candles pools) = some sweep ∧
      (liveGaps candles sweep.reversalDirection).getLast? = some fvg ∧
      entryZone fvg (findBreakerBlock candles sweep.reversalDirection) = some (lo, hi) ∧
      s = ⟨sweep.reversalDirection, sweep, fvg, findBreakerBlock candles sweep.reversalDirection,
        roundTo 2 lo, roundTo 2 hi, roundTo 2 ((lo + hi) / 2),
        (findBreakerBlock candles sweep.reversalDirection).isSome⟩ := by
  unfold findUnicornSetup at found
  obtain ⟨sweep, swept, found⟩ := Option.bind_eq_some_iff.mp found
  dsimp only at found
  split_ifs at found
  obtain ⟨fvg, last, found⟩ := Option.bind_eq_some_iff.mp found
  obtain ⟨⟨lo, hi⟩, zone, found⟩ := Option.bind_eq_some_iff.mp found
  exact ⟨sweep, fvg, lo, hi, swept, last, zone, (Option.some.inj found).symm⟩

/-- The zone that is returned is in cents already. -/
theorem setup_zone {candles : List OhlcCandle} {pools : Option (List Pool)} {s : Setup}
    (found : findUnicornSetup candles pools = some s) :
    entryZone s.fvg s.breaker = some (s.zoneLow, s.zoneHigh) ∧ OnGrid 2 s.zoneLow ∧
      OnGrid 2 s.zoneHigh := by
  obtain ⟨sweep, fvg, lo, hi, -, last, zone, rfl⟩ := findUnicornSetup_some found
  obtain ⟨top, bottom, -⟩ := mem_detectFvgs (List.mem_filter.mp (List.mem_of_getLast? last)).1
  obtain ⟨low, high⟩ := entryZone_onGrid ⟨top, bottom⟩
    (fun b mem => findBreakerBlock_onGrid mem) zone
  refine ⟨?_, roundTo_onGrid 2 lo, roundTo_onGrid 2 hi⟩
  dsimp only
  rw [roundTo_of_onGrid low, roundTo_of_onGrid high]
  exact zone

/-- What a live gap is: a detected one of the sweep's direction, which no candle after
its third has closed through. -/
theorem mem_liveGaps {candles : List OhlcCandle} {direction : Bias} {fvg : Fvg}
    (live : fvg ∈ liveGaps candles direction) :
    fvg ∈ detectFvgs candles ∧ fvg.direction = direction ∧
      ∀ c ∈ candles.drop (fvg.idx + 2), fvg.closedThrough c = false := by
  obtain ⟨detected, kept⟩ := List.mem_filter.mp live
  obtain ⟨sameWay, open_⟩ := Bool.and_eq_true_iff.mp kept
  obtain ⟨-, -, inverted⟩ := mem_detectFvgs detected
  have shut : fvg.inverted = false := by simpa using open_
  have none_through : (candles.drop (fvg.idx + 2)).any fvg.closedThrough = false :=
    inverted.symm.trans shut
  refine ⟨detected, of_decide_eq_true sameWay, ?_⟩
  intro c later
  exact Bool.eq_false_iff.mpr fun through =>
    Bool.eq_false_iff.mp none_through (List.any_eq_true.mpr ⟨c, later, through⟩)

/-- The flag says that there is a breaker block, and the zone is its overlap with the
gap as soon as that is wide enough. -/
theorem confluence_iff {fvg : Fvg} {breaker : Option Breaker} {lo hi : ℚ}
    (zone : entryZone fvg breaker = some (lo, hi)) :
    (breaker.isSome ↔
      ∃ b, breaker = some b ∧ (overlap fvg b).1 ≤ (overlap fvg b).2 ∧
        (lo, hi) = overlap fvg b) ↔
      ∀ b, breaker = some b → 1 / 2 ≤ (overlap fvg b).2 - (overlap fvg b).1 := by
  constructor
  · rintro flag b rfl
    obtain ⟨b', block, -, same⟩ := flag.mp rfl
    obtain rfl := Option.some.inj block
    exact (entryZone_overlap_iff zone).mp same
  · intro wide
    constructor
    · intro someBlock
      obtain ⟨b, rfl⟩ := Option.isSome_iff_exists.mp someBlock
      have meets := wide b rfl
      exact ⟨b, rfl, by linarith, (entryZone_overlap_iff zone).mpr meets⟩
    · rintro ⟨b, block, -⟩
      exact Option.isSome_iff_exists.mpr ⟨b, block⟩

/-- All of it holds of every setup, but for the flag: it is right exactly when the
zone did not fall back to the gap, which is when the breaker block that was found
meets the gap. -/
theorem unicorn_sound_iff {candles : List OhlcCandle} {pools : Option (List Pool)} {s : Setup}
    (found : findUnicornSetup candles pools = some s) :
    UnicornSound candles (usedPools candles pools) s ↔
      BreakerMeetsGap candles (usedPools candles pools) := by
  obtain ⟨sweep, fvg, lo, hi, swept, last, zone, rfl⟩ := findUnicornSetup_some found
  obtain ⟨detected, sameWay, intact⟩ := mem_liveGaps (List.mem_of_getLast? last)
  have within := entryZone_within zone
  have width := degenerate_eq_false.mp (entryZone_some zone).1
  obtain ⟨low, high⟩ : roundTo 2 lo = lo ∧ roundTo 2 hi = hi := by
    have same := zone.symm.trans (setup_zone found).1
    exact ⟨(congrArg Prod.fst (Option.some.inj same)).symm,
      (congrArg Prod.snd (Option.some.inj same)).symm⟩
  have ordered : lo ≤ hi := by linarith [width.1]
  constructor
  · intro sound sweep' swept' fvg' last' b block
    obtain rfl := Option.some.inj (swept.symm.trans swept')
    obtain rfl := Option.some.inj (last.symm.trans last')
    have flag := sound.confluence
    rw [low, high] at flag
    exact (confluence_iff zone).mp flag b block
  · intro meets
    refine
      { inGap := ?_
        width := ?_
        entry := ?_
        gap := ⟨detected, sameWay⟩
        intact := intact
        swept := ⟨(detectLiquiditySweep_some swept).1, (detectLiquiditySweep_some swept).2, rfl⟩
        confluence := ?_ }
    · rw [low, high]
      exact within
    · rw [low, high]
      exact width
    · constructor
      · exact roundTo_mono 2 (by linarith)
      · exact roundTo_mono 2 (by linarith)
    · rw [low, high]
      exact (confluence_iff zone).mpr (meets sweep swept fvg last)

section Runs

/-- The candle of fifteen minutes with the given number. -/
def m15 (n : ℕ) (opening high low close : ℚ) : OhlcCandle := ⟨⟨high, low, close⟩, 900 * n, opening⟩

/-- A quiet market above a pool of equal lows at 2000. -/
def quiet : List OhlcCandle := (List.range 14).map fun n => m15 n 2000.4 2001 2000 2000.5

def equalLows : List Pool := [⟨2000, .eqLow, 2⟩]

/-- The sweep is at the candle before a rise, and the gap lies within its range. -/
def meetingCandles : List OhlcCandle :=
  quiet ++ [m15 14 2003 2003.5 1999 2001.5, m15 15 2001.5 2004.5 2002 2004,
    m15 16 2004 2005 2003 2004.8, m15 17 2004.8 2006 2004.5 2005.5]

/-- The last gap is above the range of the candle before the rise. -/
def apartCandles : List OhlcCandle :=
  quiet ++ [m15 14 2000.5 2001 1999 2000.4, m15 15 2000.4 2003.2 2000.3 2003,
    m15 16 2003 2005 2002 2004.5, m15 17 2004.5 2006 2004 2005.8]

theorem unicorn_sound_meeting :
    ∃ s, findUnicornSetup meetingCandles (some equalLows) = some s ∧ s.confluence = true ∧
      UnicornSound meetingCandles equalLows s := by
  have found : findUnicornSetup meetingCandles (some equalLows) =
      some ⟨.bullish, ⟨⟨2000, .eqLow, 2⟩, .bullish, 1999⟩,
        ⟨2002, 2001, 2001.5, .bullish, 14, false, false⟩, some ⟨1999, 2003.5, 14⟩,
        2001, 2002, 2001.5, true⟩ := by decide +kernel
  refine ⟨_, found, rfl, (unicorn_sound_iff found).mpr ?_⟩
  intro sweep swept fvg last b block
  have swept' : detectLiquiditySweep meetingCandles equalLows =
      some ⟨⟨2000, .eqLow, 2⟩, .bullish, 1999⟩ := by decide +kernel
  obtain rfl := Option.some.inj (swept.symm.trans swept')
  have last' : (liveGaps meetingCandles .bullish).getLast? =
      some ⟨2002, 2001, 2001.5, .bullish, 14, false, false⟩ := by decide +kernel
  obtain rfl := Option.some.inj (last.symm.trans last')
  have block' : findBreakerBlock meetingCandles .bullish = some ⟨1999, 2003.5, 14⟩ := by
    decide +kernel
  obtain rfl := Option.some.inj (block.symm.trans block')
  decide +kernel

/-- The zone is the gap, which the breaker block does not touch, and the flag is set. -/
theorem confluence_without_overlap :
    findUnicornSetup apartCandles (some equalLows) =
        some ⟨.bullish, ⟨⟨2000, .eqLow, 2⟩, .bullish, 1999⟩,
          ⟨2004, 2003.2, 2003.6, .bullish, 16, false, false⟩, some ⟨1999, 2001, 14⟩,
          2003.2, 2004, 2003.6, true⟩ ∧
      ¬ ∀ s, findUnicornSetup apartCandles (some equalLows) = some s →
        UnicornSound apartCandles equalLows s := by
  have found : findUnicornSetup apartCandles (some equalLows) =
      some ⟨.bullish, ⟨⟨2000, .eqLow, 2⟩, .bullish, 1999⟩,
        ⟨2004, 2003.2, 2003.6, .bullish, 16, false, false⟩, some ⟨1999, 2001, 14⟩,
        2003.2, 2004, 2003.6, true⟩ := by decide +kernel
  refine ⟨found, fun sound => ?_⟩
  obtain ⟨b, block, meets, -⟩ := (sound _ found).confluence.mp rfl
  have block' : findBreakerBlock apartCandles .bullish = some ⟨1999, 2001, 14⟩ := by
    decide +kernel
  obtain rfl := Option.some.inj (block.symm.trans block')
  exact absurd meets (by decide +kernel)

end Runs
end Forex.Ict
