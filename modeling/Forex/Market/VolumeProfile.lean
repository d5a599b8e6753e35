import Forex.Support.Decimal
import Forex.Support.Loop
import Forex.Support.Tiling
import Mathlib.Algebra.BigOperators.Field
import Mathlib.Algebra.BigOperators.Fin
import Mathlib.Algebra.Order.Floor.Semiring
import Mathlib.Algebra.Order.BigOperators.Group.List
import Mathlib.Algebra.Order.Interval.Finset.SuccPred
import Mathlib.Data.List.GetD
import Mathlib.Data.List.MinMax

/-!
The volume profile of `volume_profile.py`: each candle's weight is spread over the bins that it
covers, and the value area grows from the busiest bin to the busier neighbour until it holds
its share.
-/

namespace Forex
open Support

/-- What a feed puts in a volume field. -/
inductive FeedValue where
  | number (q : ℚ)
  /-- A text that is not empty, with the number that `float` reads in it. -/
  | text (value : Option ℚ)

/-- A candle of the feed; a price can be absent or null, and so can a volume, which is the
same. -/
structure ProfileCandle where
  high : Option (Option ℚ) := none
  h : Option (Option ℚ) := none
  low : Option (Option ℚ) := none
  l : Option (Option ℚ) := none
  tickVolume : Option FeedValue := none
  volume : Option FeedValue := none
  realVolume : Option FeedValue := none

namespace ProfileCandle
variable (c : ProfileCandle)

/-- `_hl`. -/
def hl : ℚ × ℚ :=
  (((c.high.getD (c.h.getD (some 0))).getD 0), ((c.low.getD (c.l.getD (some 0))).getD 0))

/-- A truthy volume that `float` can read. -/
def readVolume : Option FeedValue → Option ℚ
  | some (.number q) => if q = 0 then none else some q
  | some (.text value) => value
  | none => none

/-- `candle_volume`. -/
def candleVolume : ℚ := ([c.tickVolume, c.volume, c.realVolume].findSome? readVolume).getD 0

end ProfileCandle

structure VolumeRow where
  hi : ℚ
  lo : ℚ
  vol : ℚ
deriving DecidableEq, Repr

structure VolumeBin where
  low : ℚ
  high : ℚ
  volume : ℚ
deriving DecidableEq, Repr

def VolumeBin.mid (b : VolumeBin) : ℚ := (b.low + b.high) / 2

structure VolumeProfile where
  bins : List VolumeBin
  poc : ℚ
  vah : ℚ
  val : ℚ
  totalVolume : ℚ
  valueAreaVolume : ℚ
  volumeIsProxy : Bool
deriving DecidableEq, Repr

/-- `DEFAULT_BINS`. -/
def defaultBins : ℕ := 50

/-- `DEFAULT_VALUE_AREA`. -/
def defaultValueArea : ℚ := 7 / 10

def volumeRows (candles : List ProfileCandle) : List VolumeRow :=
  candles.filterMap fun c =>
    let hi := c.hl.1
    let lo := c.hl.2
    if 0 < hi ∧ 0 < lo ∧ lo ≤ hi then some ⟨hi, lo, c.candleVolume⟩ else none

/-- No row has a volume. -/
def volumeProxy (rows : List VolumeRow) : Bool := !rows.any fun r => decide (0 < r.vol)

def VolumeRow.weight (proxy : Bool) (r : VolumeRow) : ℚ :=
  let weight := if proxy then 1 else r.vol
  if weight ≤ 0 then 1 else weight

section Fill
variable (bins : ℕ) (bottom width : ℚ) (proxy : Bool)

/-- A row spread over the buckets; one without a span goes into the bucket of its price. -/
def addRow (buckets : List ℚ) (r : VolumeRow) : List ℚ :=
  let span := r.hi - r.lo
  if span ≤ 0 then
    buckets.modify (min (bins - 1) ⌊(r.lo - bottom) / width⌋₊) (· + r.weight proxy)
  else
    buckets.mapIdx fun i bucket =>
      let bLo := bottom + i * width
      let bHi := bLo + width
      let overlap := min r.hi bHi - max r.lo bLo
      if 0 < overlap then bucket + r.weight proxy * (overlap / span) else bucket

def fillBuckets (rows : List VolumeRow) : List ℚ :=
  rows.foldl (addRow bins bottom width proxy) (List.replicate bins 0)

end Fill

/-- The block of buckets from `lo` to `hi`, and what it holds. -/
structure ValueArea where
  lo : ℕ
  hi : ℕ
  covered : ℚ
deriving DecidableEq, Repr

section Grow
variable (buckets : List ℚ) (wanted : ℚ)

/-- `buckets[i]`. -/
def bucketAt (i : ℕ) : ℚ := buckets.getD i 0

def areaGrows (a : ValueArea) : Bool :=
  decide (a.covered < wanted) && (decide (0 < a.lo) || decide (a.hi < buckets.length - 1))

def growArea (a : ValueArea) : ValueArea :=
  let below := if 0 < a.lo then bucketAt buckets (a.lo - 1) else -1
  let above := if a.hi < buckets.length - 1 then bucketAt buckets (a.hi + 1) else -1
  if below ≤ above then
    { a with hi := a.hi + 1, covered := a.covered + bucketAt buckets (a.hi + 1) }
  else
    { a with lo := a.lo - 1, covered := a.covered + bucketAt buckets (a.lo - 1) }

/-- The busiest bucket, the first of those that are. -/
def busiest : ℕ := ((List.range buckets.length).argmax (bucketAt buckets)).getD 0

/-- The expansion, with as many steps as there are buckets. -/
def expandArea : Option ValueArea :=
  let poc := busiest buckets
  whileLoop (areaGrows buckets wanted) (growArea buckets) buckets.length
    ⟨poc, poc, bucketAt buckets poc⟩

end Grow

/-- `max(0.0, min(1.0, value_area))`. -/
def areaShare (valueArea : ℚ) : ℚ := max 0 (min 1 valueArea)

def volumeBins (bins : ℕ) (bottom width : ℚ) (buckets : List ℚ) : List VolumeBin :=
  (List.range bins).map fun i : ℕ =>
    ⟨bottom + i * width, bottom + (i + 1) * width, bucketAt buckets i⟩

/-- The profile of the buckets and their value area. -/
def profileOf (bins : ℕ) (bottom width : ℚ) (proxy : Bool) (buckets : List ℚ)
    (area : ValueArea) : VolumeProfile :=
  let binObjs := volumeBins bins bottom width buckets
  { bins := binObjs
    poc := (binObjs.getD (busiest buckets) ⟨0, 0, 0⟩).mid
    vah := (binObjs.getD area.hi ⟨0, 0, 0⟩).high
    val := (binObjs.getD area.lo ⟨0, 0, 0⟩).low
    totalVolume := roundTo 6 buckets.sum
    valueAreaVolume := roundTo 6 area.covered
    volumeIsProxy := proxy }

def VolumeProfile.build (candles : List ProfileCandle) (bins : ℕ) (valueArea : ℚ) :
    Option VolumeProfile :=
  let rows := volumeRows candles
  match (rows.map VolumeRow.hi).max?, (rows.map VolumeRow.lo).min? with
  | some top, some bottom =>
      if top ≤ bottom then none
      else
        let proxy := volumeProxy rows
        let width := (top - bottom) / bins
        let buckets := fillBuckets bins bottom width proxy rows
        let total := buckets.sum
        if total ≤ 0 then none
        else
          (expandArea buckets (total * areaShare valueArea)).map
            (profileOf bins bottom width proxy buckets)
  | _, _ => none

/-- A bin of the profile. -/
def VolumeProfile.binAt (p : VolumeProfile) (i : ℕ) : VolumeBin := p.bins.getD i ⟨0, 0, 0⟩

/-- The bins lie side by side from `bottom` to `top`. -/
structure Tiles (bins : List VolumeBin) (bottom top : ℚ) : Prop where
  first : bins.head?.map VolumeBin.low = some bottom
  last : bins.getLast?.map VolumeBin.high = some top
  adjoining : bins.IsChain fun b b' => b.high = b'.low
  wide : ∀ b ∈ bins, b.low < b.high

/-- The block of bins from `lo` to `hi` is the value area about the busiest bin. -/
structure AreaOf (p : VolumeProfile) (valueArea : ℚ) (lo poc hi : ℕ) : Prop where
  within : lo ≤ poc ∧ poc ≤ hi ∧ hi < p.bins.length
  busiest : ∀ b ∈ p.bins, b.volume ≤ (p.binAt poc).volume
  edges : p.val = (p.binAt lo).low ∧ p.poc = (p.binAt poc).mid ∧ p.vah = (p.binAt hi).high
  between : p.val ≤ p.poc ∧ p.poc ≤ p.vah
  share : valueArea * (p.bins.map VolumeBin.volume).sum ≤
    ∑ i ∈ Finset.Icc lo hi, (p.binAt i).volume
  reported : p.valueAreaVolume = roundTo 6 (∑ i ∈ Finset.Icc lo hi, (p.binAt i).volume)

/-- A profile that holds the weights of the candles, no more and no less. -/
structure ConservesVolume (rows : List VolumeRow) (bins : ℕ) (valueArea : ℚ)
    (p : VolumeProfile) : Prop where
  count : p.bins.length = bins
  conserved : (p.bins.map VolumeBin.volume).sum =
    (rows.map (VolumeRow.weight (volumeProxy rows))).sum
  reported : p.totalVolume = roundTo 6 (p.bins.map VolumeBin.volume).sum
  tiles : ∃ bottom top, IsLeast { x | ∃ r ∈ rows, r.lo = x } bottom ∧
    IsGreatest { x | ∃ r ∈ rows, r.hi = x } top ∧ Tiles p.bins bottom top
  area : ∃ lo poc hi, AreaOf p valueArea lo poc hi

section Fill
variable {bins : ℕ} {bottom width : ℚ} {proxy : Bool} {r : VolumeRow} {rows : List VolumeRow}
  {buckets : List ℚ}

theorem weight_pos : 0 < r.weight proxy := by
  simp only [VolumeRow.weight]
  generalize (if proxy = true then 1 else r.vol) = weight
  split_ifs with nothing
  · exact zero_lt_one
  · exact not_le.mp nothing

/-- What a row adds to a bucket. -/
def rowShare (bins : ℕ) (bottom width : ℚ) (proxy : Bool) (r : VolumeRow) (i : ℕ) : ℚ :=
  if r.hi - r.lo ≤ 0 then
    if i = min (bins - 1) ⌊(r.lo - bottom) / width⌋₊ then r.weight proxy else 0
  else
    r.weight proxy * (overlapLength r.lo r.hi (bottom + i * width) (bottom + (i + 1 : ℕ) * width) /
      (r.hi - r.lo))

theorem addRow_eq :
    addRow bins bottom width proxy buckets r =
      addShares (rowShare bins bottom width proxy r) buckets := by
  simp only [addRow]
  split_ifs with point
  · rw [modify_add_eq_addShares]
    congr 1
    funext i
    rw [rowShare, if_pos point]
  · rw [addShares]
    congr 1
    funext i bucket
    have next : bottom + i * width + width = bottom + (i + 1 : ℕ) * width := by
      push_cast
      ring
    rw [rowShare, if_neg point, overlapLength, next]
    split_ifs with some
    · rw [max_eq_right some.le]
    · rw [max_eq_left (not_lt.mp some), zero_div, mul_zero, add_zero]

/-- A row lies within the range, which the bins tile. -/
structure Spans (bins : ℕ) (bottom width : ℚ) (r : VolumeRow) : Prop where
  some_bins : 0 < bins
  wide : 0 < width
  starts : bottom ≤ r.lo
  ordered : r.lo ≤ r.hi
  stops : r.hi ≤ bottom + bins * width

theorem rowShare_nonneg (i : ℕ) :
    0 ≤ rowShare bins bottom width proxy r i := by
  rw [rowShare]
  split_ifs with point here
  · exact weight_pos.le
  · exact le_rfl
  · exact mul_nonneg weight_pos.le (div_nonneg (le_max_left _ _) (not_le.mp point).le)

/-- The shares of a row make up its weight. -/
theorem sum_rowShare (spans : Spans bins bottom width r) :
    ∑ i ∈ Finset.range bins, rowShare bins bottom width proxy r i = r.weight proxy := by
  by_cases point : r.hi - r.lo ≤ 0
  · simp only [rowShare, if_pos point]
    rw [Finset.sum_ite_eq' (Finset.range bins), if_pos]
    rw [Finset.mem_range]
    have pos := spans.some_bins
    omega
  · have span : r.hi - r.lo ≠ 0 := (not_le.mp point).ne'
    have covered : ∑ i ∈ Finset.range bins,
        overlapLength r.lo r.hi (bottom + i * width) (bottom + (i + 1 : ℕ) * width) =
          r.hi - r.lo := by
      refine sum_overlapLength (fun i : ℕ => bottom + i * width) (fun i _ => ?_)
        spans.ordered ?_ spans.stops
      · push_cast
        linarith [spans.wide]
      · simpa using spans.starts
    simp only [rowShare, if_neg point]
    rw [← Finset.mul_sum, ← Finset.sum_div, covered, div_self span, mul_one]

/-- The buckets hold so much. -/
structure FilledBuckets (bins : ℕ) (total : ℚ) (buckets : List ℚ) : Prop where
  count : buckets.length = bins
  nonneg : ∀ b ∈ buckets, 0 ≤ b
  total : buckets.sum = total

theorem FilledBuckets.addRow {total : ℚ} (filled : FilledBuckets bins total buckets)
    (spans : Spans bins bottom width r) :
    FilledBuckets bins (total + r.weight proxy) (addRow bins bottom width proxy buckets r) := by
  rw [addRow_eq]
  constructor
  · rw [length_addShares, filled.count]
  · exact addShares_nonneg filled.nonneg rowShare_nonneg
  · rw [sum_addShares, filled.count, sum_rowShare spans, filled.total]

/-- The buckets hold the weights of the rows. -/
theorem filled_fillBuckets (proxy : Bool) (spans : ∀ r ∈ rows, Spans bins bottom width r) :
    FilledBuckets bins (rows.map (VolumeRow.weight proxy)).sum
      (fillBuckets bins bottom width proxy rows) := by
  have general : ∀ total buckets, FilledBuckets bins total buckets →
      FilledBuckets bins (total + (rows.map (VolumeRow.weight proxy)).sum)
        (rows.foldl (Forex.addRow bins bottom width proxy) buckets) := by
    induction rows with
    | nil =>
        intro total buckets filled
        simpa using filled
    | cons r rows ih =>
        intro total buckets filled
        rw [List.map_cons, List.sum_cons, ← add_assoc, List.foldl_cons]
        exact ih (fun r mem => spans r (List.mem_cons_of_mem _ mem)) _ _
          (filled.addRow (spans r List.mem_cons_self))
  have empty : FilledBuckets bins 0 (List.replicate bins 0) := by
    refine ⟨List.length_replicate, fun b mem => (List.eq_of_mem_replicate mem).ge, ?_⟩
    simp
  have filled := general 0 _ empty
  rwa [zero_add] at filled

end Fill

section Grow
variable {buckets : List ℚ} {wanted : ℚ} {poc : ℕ} {a : ValueArea}

theorem bucketAt_nonneg (nonneg : ∀ b ∈ buckets, 0 ≤ b) (i : ℕ) : 0 ≤ bucketAt buckets i := by
  rw [bucketAt]
  rcases Nat.lt_or_ge i buckets.length with inside | outside
  · rw [List.getD_eq_getElem _ _ inside]
    exact nonneg _ (List.getElem_mem _)
  · rw [List.getD_eq_default _ _ outside]

theorem sum_bucketAt : ∑ i ∈ Finset.range buckets.length, bucketAt buckets i = buckets.sum := by
  rw [Finset.sum_range, ← Fin.sum_univ_getElem]
  refine Finset.sum_congr rfl fun i _ => ?_
  exact List.getD_eq_getElem _ _ i.isLt

/-- A block about the busiest bucket, with what it holds. -/
structure Grown (buckets : List ℚ) (poc : ℕ) (a : ValueArea) : Prop where
  lo_le : a.lo ≤ poc
  le_hi : poc ≤ a.hi
  inside : a.hi < buckets.length
  covered : a.covered = ∑ i ∈ Finset.Icc a.lo a.hi, bucketAt buckets i

/-- The busier neighbour is taken, or the only one. -/
theorem growArea_cases (nonneg : ∀ b ∈ buckets, 0 ≤ b) (grows : areaGrows buckets wanted a = true) :
    (a.hi < buckets.length - 1 ∧ growArea buckets a =
      ⟨a.lo, a.hi + 1, a.covered + bucketAt buckets (a.hi + 1)⟩) ∨
    (0 < a.lo ∧ growArea buckets a =
      ⟨a.lo - 1, a.hi, a.covered + bucketAt buckets (a.lo - 1)⟩) := by
  rw [areaGrows, Bool.and_eq_true, Bool.or_eq_true, decide_eq_true_iff, decide_eq_true_iff,
    decide_eq_true_iff] at grows
  have below := bucketAt_nonneg nonneg (a.lo - 1)
  have above := bucketAt_nonneg nonneg (a.hi + 1)
  simp only [growArea]
  by_cases up : a.hi < buckets.length - 1
  · by_cases down : 0 < a.lo
    · rw [if_pos up, if_pos down]
      split_ifs with busier
      · exact .inl ⟨up, rfl⟩
      · exact .inr ⟨down, rfl⟩
    · rw [if_pos up, if_neg down, if_pos (by linarith)]
      exact .inl ⟨up, rfl⟩
  · have down := grows.2.resolve_right up
    rw [if_neg up, if_pos down, if_neg (by linarith)]
    exact .inr ⟨down, rfl⟩

/-- What is left for a block to grow over. -/
def areaLeft (buckets : List ℚ) (a : ValueArea) : ℕ := a.lo + (buckets.length - 1 - a.hi)

theorem Grown.growArea (grown : Grown buckets poc a) (nonneg : ∀ b ∈ buckets, 0 ≤ b)
    (grows : areaGrows buckets wanted a = true) :
    Grown buckets poc (growArea buckets a) ∧
      areaLeft buckets (growArea buckets a) < areaLeft buckets a := by
  have lo_le := grown.lo_le
  have le_hi := grown.le_hi
  have inside := grown.inside
  rcases growArea_cases nonneg grows with ⟨up, same⟩ | ⟨down, same⟩
  · rw [same]
    refine ⟨⟨lo_le, by dsimp only; omega, by dsimp only; omega, ?_⟩, ?_⟩
    · dsimp only
      rw [grown.covered, Finset.sum_Icc_succ_top (by omega)]
    · simp only [areaLeft]
      omega
  · rw [same]
    refine ⟨⟨by dsimp only; omega, le_hi, inside, ?_⟩, ?_⟩
    · dsimp only
      obtain ⟨lo, first⟩ := Nat.exists_eq_succ_of_ne_zero down.ne'
      rw [grown.covered, first, Nat.succ_eq_add_one, Nat.add_sub_cancel,
        ← Finset.insert_Icc_add_one_left_eq_Icc (by omega : lo ≤ a.hi),
        Finset.sum_insert (by simp), add_comm]
    · simp only [areaLeft]
      omega

theorem busiest_spec (some : 0 < buckets.length) :
    busiest buckets < buckets.length ∧
      ∀ i < buckets.length, bucketAt buckets i ≤ bucketAt buckets (busiest buckets) := by
  have ne : List.range buckets.length ≠ [] := by
    rw [ne_eq, List.range_eq_nil]
    omega
  obtain ⟨poc, isMost⟩ := Option.ne_none_iff_exists'.mp
    (List.argmax_eq_none (f := bucketAt buckets).not.mpr ne)
  rw [busiest, isMost, Option.getD_some]
  exact ⟨List.mem_range.mp (List.argmax_mem isMost), fun i inside =>
    List.le_of_mem_argmax (List.mem_range.mpr inside) isMost⟩

/-- The expansion ends, with a block that holds what is wanted or everything. -/
theorem expandArea_ends (some : 0 < buckets.length) (nonneg : ∀ b ∈ buckets, 0 ≤ b)
    (least : wanted ≤ buckets.sum) :
    ∃ area, expandArea buckets wanted = Option.some area ∧ Grown buckets (busiest buckets) area ∧
      wanted ≤ area.covered := by
  have start : Grown buckets (busiest buckets)
      ⟨busiest buckets, busiest buckets, bucketAt buckets (busiest buckets)⟩ :=
    ⟨le_rfl, le_rfl, (busiest_spec some).1, by simp⟩
  have inside := (busiest_spec some).1
  obtain ⟨area, ended, grown, done⟩ := whileLoop_ends (areaLeft buckets)
    (fun a grown grows => grown.growArea nonneg grows) start
    (show busiest buckets + (buckets.length - 1 - busiest buckets) ≤ buckets.length by omega)
  refine ⟨area, ended, grown, ?_⟩
  rw [areaGrows, Bool.and_eq_false_iff, Bool.or_eq_false_iff, decide_eq_false_iff_not,
    decide_eq_false_iff_not, decide_eq_false_iff_not] at done
  rcases done with enough | ⟨bottom, top⟩
  · exact not_lt.mp enough
  · -- nothing is left to grow over, and the block holds all
    have all : Finset.Icc area.lo area.hi = Finset.range buckets.length := by
      have inside := grown.inside
      ext i
      rw [Finset.mem_Icc, Finset.mem_range]
      omega
    rw [grown.covered, all, sum_bucketAt]
    exact least

end Grow

section Bins
variable {n : ℕ} {bottom width : ℚ} {buckets : List ℚ}

theorem tiles_volumeBins (some : 0 < n) (wide : 0 < width) :
    Tiles (volumeBins n bottom width buckets) bottom (bottom + n * width) := by
  obtain ⟨m, rfl⟩ := Nat.exists_eq_succ_of_ne_zero some.ne'
  constructor
  · rw [volumeBins, List.range_succ_eq_map]
    simp
  · rw [volumeBins, List.range_succ]
    simp
  · rw [volumeBins, List.isChain_map]
    refine (List.isChain_range_succ _ m).mpr fun i _ => ?_
    dsimp only
    rw [Nat.cast_succ]
  · intro b mem
    obtain ⟨i, -, rfl⟩ := List.mem_map.mp mem
    dsimp only
    linarith

theorem volumeBins_volumes (count : buckets.length = n) :
    (volumeBins n bottom width buckets).map VolumeBin.volume = buckets := by
  rw [volumeBins, List.map_map]
  apply List.ext_getElem
  · simp [count]
  · intro i inside inside'
    rw [List.getElem_map, List.getElem_range, Function.comp_apply, bucketAt,
      List.getD_eq_getElem _ _ inside']

theorem getD_volumeBins {i : ℕ} (inside : i < n) :
    (volumeBins n bottom width buckets).getD i ⟨0, 0, 0⟩ =
      ⟨bottom + i * width, bottom + (i + 1) * width, bucketAt buckets i⟩ := by
  rw [volumeBins, List.getD_eq_getElem _ _ (by simpa using inside), List.getElem_map,
    List.getElem_range]

end Bins

section Build
variable {candles : List ProfileCandle} {bins : ℕ} {valueArea : ℚ}

theorem mem_volumeRows {r : VolumeRow} (mem : r ∈ volumeRows candles) : r.lo ≤ r.hi := by
  obtain ⟨c, -, read⟩ := List.mem_filterMap.mp mem
  simp only at read
  split_ifs at read with valid
  cases read
  exact valid.2.2

theorem areaShare_of_mem (nonneg : 0 ≤ valueArea) (le_one : valueArea ≤ 1) :
    areaShare valueArea = valueArea := by
  rw [areaShare, min_eq_right le_one, max_eq_right nonneg]

/-- The lowest low and the highest high, as `build` takes them. -/
structure RangeOf (rows : List VolumeRow) (bottom top : ℚ) : Prop where
  top : (rows.map VolumeRow.hi).max? = some top
  bottom : (rows.map VolumeRow.lo).min? = some bottom

theorem RangeOf.isLeast {rows : List VolumeRow} {bottom top : ℚ} (range : RangeOf rows bottom top) :
    IsLeast { x | ∃ r ∈ rows, r.lo = x } bottom :=
  isLeast_of_min? range.bottom

theorem RangeOf.isGreatest {rows : List VolumeRow} {bottom top : ℚ}
    (range : RangeOf rows bottom top) : IsGreatest { x | ∃ r ∈ rows, r.hi = x } top :=
  isGreatest_of_max? range.top

variable {bottom top : ℚ}

theorem spans_of_range (range : RangeOf (volumeRows candles) bottom top) (apart : bottom < top)
    (some_bins : 0 < bins) :
    ∀ r ∈ volumeRows candles, Spans bins bottom ((top - bottom) / bins) r := by
  have pos : (0 : ℚ) < bins := Nat.cast_pos.mpr some_bins
  intro r listed
  refine ⟨some_bins, div_pos (sub_pos.mpr apart) pos, range.isLeast.2 ⟨r, listed, rfl⟩,
    mem_volumeRows listed, ?_⟩
  have most := range.isGreatest.2 ⟨r, listed, rfl⟩
  rw [mul_div_cancel₀ _ pos.ne']
  linarith

/-- The value area of filled buckets. -/
theorem areaOf_grown {buckets : List ℚ} {width : ℚ} {proxy : Bool} {area : ValueArea}
    (wide : 0 < width) (some_bins : 0 < bins) (count : buckets.length = bins)
    (grown : Grown buckets (busiest buckets) area)
    (enough : valueArea * buckets.sum ≤ area.covered) :
    AreaOf (profileOf bins bottom width proxy buckets area) valueArea area.lo (busiest buckets)
      area.hi := by
  subst count
  obtain ⟨p, eq⟩ : ∃ p, p = profileOf buckets.length bottom width proxy buckets area := ⟨_, rfl⟩
  have bins_eq : p.bins = volumeBins buckets.length bottom width buckets := by rw [eq]; rfl
  have edges : p.val = (p.binAt area.lo).low ∧ p.poc = (p.binAt (busiest buckets)).mid ∧
      p.vah = (p.binAt area.hi).high := by
    rw [eq]
    exact ⟨rfl, rfl, rfl⟩
  have reported : p.valueAreaVolume = roundTo 6 area.covered := by rw [eq]; rfl
  rw [← eq]
  clear eq
  have at_ : ∀ i < buckets.length, p.binAt i =
      ⟨bottom + i * width, bottom + (i + 1) * width, bucketAt buckets i⟩ := by
    intro i inside
    rw [VolumeProfile.binAt, bins_eq, getD_volumeBins inside]
  have pocBin := at_ _ (busiest_spec some_bins).1
  have volumes : ∑ i ∈ Finset.Icc area.lo area.hi, (p.binAt i).volume = area.covered := by
    rw [grown.covered]
    refine Finset.sum_congr rfl fun i mem => ?_
    rw [at_ i ((Finset.mem_Icc.mp mem).2.trans_lt grown.inside)]
  refine { within := ?_, busiest := ?_, edges := edges, between := ?_, share := ?_, reported := ?_ }
  · refine ⟨grown.lo_le, grown.le_hi, ?_⟩
    rw [bins_eq, volumeBins, List.length_map, List.length_range]
    exact grown.inside
  · intro b mem
    rw [bins_eq] at mem
    obtain ⟨i, inside, rfl⟩ := List.mem_map.mp mem
    rw [pocBin]
    exact (busiest_spec some_bins).2 i (List.mem_range.mp inside)
  · have starts : (area.lo : ℚ) * width ≤ busiest buckets * width :=
      mul_le_mul_of_nonneg_right (Nat.cast_le.mpr grown.lo_le) wide.le
    have stops : (busiest buckets : ℚ) * width ≤ area.hi * width :=
      mul_le_mul_of_nonneg_right (Nat.cast_le.mpr grown.le_hi) wide.le
    rw [edges.1, edges.2.1, edges.2.2, pocBin, at_ area.hi grown.inside,
      at_ area.lo ((grown.lo_le.trans grown.le_hi).trans_lt grown.inside), VolumeBin.mid]
    dsimp only
    constructor <;> linarith
  · rw [volumes, bins_eq, volumeBins_volumes rfl]
    exact enough
  · rw [volumes, reported]

theorem weights_pos {rows : List VolumeRow} {proxy : Bool} (some_rows : rows ≠ []) :
    0 < (rows.map (VolumeRow.weight proxy)).sum := by
  refine List.sum_pos _ (fun w mem => ?_) (List.map_eq_nil_iff.not.mpr some_rows)
  obtain ⟨r, -, rfl⟩ := List.mem_map.mp mem
  exact weight_pos

/-- The profile of buckets that hold the weights of the rows. -/
theorem conserves_profileOf {rows : List VolumeRow} {buckets : List ℚ} {area : ValueArea}
    (range : RangeOf rows bottom top) (apart : bottom < top) (some_bins : 0 < bins)
    (filled : FilledBuckets bins (rows.map (VolumeRow.weight (volumeProxy rows))).sum buckets)
    (grown : Grown buckets (busiest buckets) area)
    (enough : valueArea * buckets.sum ≤ area.covered) :
    ConservesVolume rows bins valueArea
      (profileOf bins bottom ((top - bottom) / bins) (volumeProxy rows) buckets area) := by
  have pos : (0 : ℚ) < bins := Nat.cast_pos.mpr some_bins
  have wide : 0 < (top - bottom) / bins := div_pos (sub_pos.mpr apart) pos
  have volumes : (profileOf bins bottom ((top - bottom) / bins) (volumeProxy rows) buckets
      area).bins.map VolumeBin.volume = buckets := volumeBins_volumes filled.count
  have tiled : Tiles (volumeBins bins bottom ((top - bottom) / bins) buckets) bottom
      (bottom + bins * ((top - bottom) / bins)) := tiles_volumeBins some_bins wide
  rw [mul_div_cancel₀ _ pos.ne', add_sub_cancel] at tiled
  refine { count := ?_, conserved := ?_, reported := ?_, tiles := ?_, area := ?_ }
  · rw [profileOf, volumeBins, List.length_map, List.length_range]
  · rw [volumes, filled.total]
  · rw [volumes, profileOf]
  · exact ⟨bottom, top, range.isLeast, range.isGreatest, tiled⟩
  · exact ⟨_, _, _, areaOf_grown wide some_bins filled.count grown enough⟩

/-- Where there is a range of prices, `build` returns a profile. -/
theorem build_of_range (range : RangeOf (volumeRows candles) bottom top) (apart : bottom < top)
    (some_bins : 0 < bins) (nonneg : 0 ≤ valueArea) (le_one : valueArea ≤ 1) :
    ∃ p, VolumeProfile.build candles bins valueArea = some p ∧
      ConservesVolume (volumeRows candles) bins valueArea p := by
  have filled := filled_fillBuckets (volumeProxy (volumeRows candles))
    (spans_of_range range apart some_bins)
  obtain ⟨buckets, eq⟩ : ∃ buckets, buckets = fillBuckets bins bottom ((top - bottom) / bins)
      (volumeProxy (volumeRows candles)) (volumeRows candles) := ⟨_, rfl⟩
  rw [← eq] at filled
  have total_pos : 0 < buckets.sum := by
    obtain ⟨r, listed, -⟩ := range.isLeast.1
    rw [filled.total]
    exact weights_pos (List.ne_nil_of_mem listed)
  have wanted : buckets.sum * areaShare valueArea = valueArea * buckets.sum := by
    rw [areaShare_of_mem nonneg le_one, mul_comm]
  obtain ⟨area, ended, grown, enough⟩ := expandArea_ends (by rw [filled.count]; exact some_bins)
    filled.nonneg (mul_le_of_le_one_left total_pos.le le_one)
  refine ⟨_, ?_, conserves_profileOf range apart some_bins filled grown enough⟩
  simp only [VolumeProfile.build, range.top, range.bottom]
  rw [if_neg (not_le.mpr apart), ← eq, if_neg (not_le.mpr total_pos), wanted, ended]
  rfl

end Build

/-- `build` returns no profile only where no two candles are apart, so that its expansion always
ends; and a profile holds what the candles weigh. -/
theorem volume_profile_conserves (candles : List ProfileCandle) (bins : ℕ) (valueArea : ℚ)
    (some_bins : 0 < bins) (nonneg : 0 ≤ valueArea) (le_one : valueArea ≤ 1) :
    (VolumeProfile.build candles bins valueArea = none ↔
      ∀ r ∈ volumeRows candles, ∀ r' ∈ volumeRows candles, r.hi ≤ r'.lo) ∧
    ∀ p, VolumeProfile.build candles bins valueArea = some p →
      ConservesVolume (volumeRows candles) bins valueArea p := by
  by_cases empty : volumeRows candles = []
  · have none : VolumeProfile.build candles bins valueArea = none := by
      simp [VolumeProfile.build, empty]
    rw [none, empty]
    exact ⟨iff_of_true rfl (List.forall_mem_nil _), fun p built => nomatch built⟩
  · obtain ⟨top, isTop⟩ := exists_max? VolumeRow.hi empty
    obtain ⟨bottom, isBottom⟩ := exists_min? VolumeRow.lo empty
    have range : RangeOf (volumeRows candles) bottom top := ⟨isTop, isBottom⟩
    rcases lt_or_ge bottom top with apart | flat
    · obtain ⟨p, built, conserves⟩ := build_of_range range apart some_bins nonneg le_one
      rw [built]
      refine ⟨iff_of_false nofun fun same => ?_, fun p' built' => ?_⟩
      · obtain ⟨r, listed, atTop⟩ := range.isGreatest.1
        obtain ⟨r', listed', atBottom⟩ := range.isLeast.1
        have le := same r listed r' listed'
        rw [atTop, atBottom] at le
        exact absurd le (not_le.mpr apart)
      · cases built'
        exact conserves
    · have none : VolumeProfile.build candles bins valueArea = none := by
        simp only [VolumeProfile.build, isTop, isBottom, if_pos flat]
      rw [none]
      refine ⟨iff_of_true rfl fun r listed r' listed' => ?_, fun p built => nomatch built⟩
      exact (range.isGreatest.2 ⟨r, listed, rfl⟩).trans
        (flat.trans (range.isLeast.2 ⟨r', listed', rfl⟩))

theorem volume_profile_conserves_default :
    ∃ p, VolumeProfile.build [{ high := some (some 110), low := some (some 100) }] defaultBins
        defaultValueArea = some p ∧
      ConservesVolume [⟨110, 100, 0⟩] defaultBins defaultValueArea p := by
  obtain ⟨noProfile, conserves⟩ := volume_profile_conserves
    [{ high := some (some 110), low := some (some 100) }] defaultBins defaultValueArea (by decide)
    (by decide +kernel) (by decide +kernel)
  obtain ⟨p, built⟩ := Option.ne_none_iff_exists'.mp fun none =>
    absurd (noProfile.mp none) (by decide)
  exact ⟨p, built, conserves p built⟩

/-- A wide candle and one without a span. -/
example : VolumeProfile.build
    [{ high := some (some 104), low := some (some 100), tickVolume := some (.number 4) },
      { h := some (some 103), l := some (some 103), volume := some (.text (some 6)) }] 2 (7 / 10) =
    some ⟨[⟨100, 102, 2⟩, ⟨102, 104, 8⟩], 103, 104, 102, 10, 8, false⟩ := by decide +kernel

end Forex
