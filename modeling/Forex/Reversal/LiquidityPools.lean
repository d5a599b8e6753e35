import Forex.Reversal.IctPatterns

/-!
The pools of equal highs and lows against the candles they come from. The extremes are
rounded to one decimal and made unique before they are clustered, so that equal ones
count once, and a cluster reaches as far as its steps do.
-/

namespace Forex.Ict
open Support

namespace PoolType

/-- The extreme of a candle that pools of the type are made of. -/
def extreme : PoolType → OhlcCandle → ℚ
  | .eqHigh => fun c => c.high
  | .eqLow => fun c => c.low

def rounded (type : PoolType) (c : OhlcCandle) : ℚ := roundTo 1 (type.extreme c)

end PoolType

section
variable (candles : List OhlcCandle) (lookback : ℕ) (tolerancePts : ℚ) (minTouches : ℕ)
variable (type : PoolType)

/-- The rounded values that are clustered. -/
def clusteredValues : List ℚ :=
  match type with
  | .eqHigh => highValues (recent lookback candles)
  | .eqLow => lowValues (recent lookback candles)

/-- The clusters that are reported as pools of the type. -/
def poolClusters : List (List ℚ) :=
  if candles.length < 5 then []
  else reported minTouches tolerancePts (clusteredValues candles lookback type)

/-- The candles that a cluster is made of. -/
def members (cluster : List ℚ) : List OhlcCandle :=
  (recent lookback candles).filter fun c => decide (type.rounded c ∈ cluster)

/-- Every pool that is reported is of as many extremes as it says, at least `minTouches`
of them and all within the tolerance of one another, and any two candles that
are so belong to one. -/
structure LiquidityGenuine : Prop where
  touched : ∀ type, ∀ k ∈ poolClusters candles lookback tolerancePts minTouches type,
    (poolOf type k).touches = (members candles lookback type k).length ∧
      minTouches ≤ (members candles lookback type k).length
  close : ∀ type, ∀ k ∈ poolClusters candles lookback tolerancePts minTouches type,
    (members candles lookback type k).Pairwise fun c d =>
      |type.extreme c - type.extreme d| ≤ tolerancePts
  complete : ∀ type, (recent lookback candles).Pairwise fun c d =>
    |type.extreme c - type.extreme d| ≤ tolerancePts →
      ∃ k ∈ poolClusters candles lookback tolerancePts minTouches type,
        c ∈ members candles lookback type k ∧ d ∈ members candles lookback type k

/-- A chain of rounded extremes within the tolerance, of a component with enough of them. -/
def Joined (c d : OhlcCandle) : Prop :=
  let values := (recent lookback candles).map type.rounded
  let Chained := Linked (fun u v => |u - v| ≤ tolerancePts) values
  5 ≤ candles.length ∧ Chained (type.rounded c) (type.rounded d) ∧
    minTouches ≤ {v | Chained (type.rounded c) v}.ncard

/-- The candles that are joined are those within the tolerance, and no two of them have
one rounded extreme. -/
def JoinsEquals : Prop :=
  (recent lookback candles).Pairwise fun c d =>
    (|type.extreme c - type.extreme d| ≤ tolerancePts ↔
      Joined candles lookback tolerancePts minTouches type c d) ∧
    (Joined candles lookback tolerancePts minTouches type c d → type.rounded c ≠ type.rounded d)

end

section Line
variable {tolerancePts : ℚ}

theorem onLine_le : OnLine (α := ℚ) (· ≤ ·) fun u v => |u - v| ≤ tolerancePts where
  total := le_total
  symm close := by rwa [abs_sub_comm]
  between close first second := by
    obtain ⟨low, high⟩ := abs_le.mp close
    exact ⟨abs_le.mpr ⟨by linarith, by linarith⟩, abs_le.mpr ⟨by linarith, by linarith⟩⟩

theorem onLine_ge : OnLine (α := ℚ) (· ≥ ·) fun u v => |u - v| ≤ tolerancePts where
  total u v := le_total v u
  symm close := by rwa [abs_sub_comm]
  between close first second := by
    obtain ⟨low, high⟩ := abs_le.mp close
    exact ⟨abs_le.mpr ⟨by linarith, by linarith⟩, abs_le.mpr ⟨by linarith, by linarith⟩⟩

end Line

section Clusters
variable {candles : List OhlcCandle} {lookback : ℕ} {tolerancePts : ℚ} {minTouches : ℕ}
variable {type : PoolType}

theorem detectEqualLevels_eq :
    detectEqualLevels candles lookback tolerancePts minTouches =
      (poolClusters candles lookback tolerancePts minTouches .eqHigh).map (poolOf .eqHigh) ++
        (poolClusters candles lookback tolerancePts minTouches .eqLow).map (poolOf .eqLow) := by
  unfold detectEqualLevels poolClusters
  split_ifs
  · rfl
  · rfl

theorem mem_clusteredValues {v : ℚ} :
    v ∈ clusteredValues candles lookback type ↔
      v ∈ (recent lookback candles).map type.rounded := by
  cases type
  all_goals
    change v ∈ List.insertionSort _ _ ↔ _
    rw [List.mem_insertionSort, List.mem_dedup]
    rfl

theorem nodup_clusteredValues : (clusteredValues candles lookback type).Nodup := by
  cases type
  all_goals exact (List.perm_insertionSort _ _).nodup_iff.mpr (List.nodup_dedup _)

variable (candles lookback tolerancePts type) in
/-- The clusters are the components of the rounded extremes, on either side. -/
theorem exists_clustered :
    ∃ r : ℚ → ℚ → Prop, OnLine r (fun u v => |u - v| ≤ tolerancePts) ∧
      Clustered r (fun u v => |u - v| ≤ tolerancePts) (clusteredValues candles lookback type)
        (clusters tolerancePts (clusteredValues candles lookback type)) := by
  cases type with
  | eqHigh =>
      exact ⟨_, onLine_ge, clustered_greedy onLine_ge (List.pairwise_insertionSort _ _)⟩
  | eqLow =>
      exact ⟨_, onLine_le, clustered_greedy onLine_le (List.pairwise_insertionSort _ _)⟩

theorem mem_members {k : List ℚ} {c : OhlcCandle} :
    c ∈ members candles lookback type k ↔ c ∈ recent lookback candles ∧ type.rounded c ∈ k := by
  rw [members, List.mem_filter, decide_eq_true_iff]

/-- Two candles are joined when one pool is made of both. -/
theorem joined_iff {c d : OhlcCandle} (seen : c ∈ recent lookback candles)
    (seen' : d ∈ recent lookback candles) :
    Joined candles lookback tolerancePts minTouches type c d ↔
      ∃ k ∈ poolClusters candles lookback tolerancePts minTouches type,
        c ∈ members candles lookback type k ∧ d ∈ members candles lookback type k := by
  obtain ⟨r, line, clustered⟩ := exists_clustered candles lookback tolerancePts type
  have values (a b : ℚ) : Linked (fun u v => |u - v| ≤ tolerancePts)
      ((recent lookback candles).map type.rounded) a b ↔
        Linked (fun u v => |u - v| ≤ tolerancePts) (clusteredValues candles lookback type) a b :=
    linked_congr fun _ => mem_clusteredValues.symm
  unfold Joined poolClusters
  dsimp only
  simp only [values]
  split_ifs with short
  · exact iff_of_false (fun joined => absurd joined.1 (not_le.mpr short))
      (fun ⟨k, mem, _⟩ => absurd mem List.not_mem_nil)
  · have enough : 5 ≤ candles.length := not_lt.mp short
    constructor
    · rintro ⟨-, linked, count⟩
      obtain ⟨k, mem, here⟩ := clustered.exists_mem
        (mem_clusteredValues.mpr (List.mem_map_of_mem seen))
      refine ⟨k, List.mem_filter.mpr ⟨mem, ?_⟩, mem_members.mpr ⟨seen, here⟩,
        mem_members.mpr ⟨seen', (clustered.mem_iff line mem here).mpr linked⟩⟩
      rw [clustered.length_eq line nodup_clusteredValues mem here]
      exact decide_eq_true count
    · rintro ⟨k, found, inK, inK'⟩
      obtain ⟨mem, count⟩ := List.mem_filter.mp found
      have here := (mem_members.mp inK).2
      refine ⟨enough, (clustered.mem_iff line mem here).mp (mem_members.mp inK').2, ?_⟩
      rw [← clustered.length_eq line nodup_clusteredValues mem here]
      exact of_decide_eq_true count

/-- A pool says how many candles it is of when no two of them have one rounded extreme. -/
theorem touches_eq_iff {k : List ℚ}
    (found : k ∈ poolClusters candles lookback tolerancePts minTouches type) :
    k.length = (members candles lookback type k).length ↔
      (members candles lookback type k).Pairwise fun c d => type.rounded c ≠ type.rounded d := by
  obtain ⟨r, line, clustered⟩ := exists_clustered candles lookback tolerancePts type
  have mem : k ∈ clusters tolerancePts (clusteredValues candles lookback type) := by
    unfold poolClusters at found
    split_ifs at found
    · cases found
    · exact (List.mem_filter.mp found).1
  have same : k.toFinset = ((members candles lookback type k).map type.rounded).toFinset := by
    ext v
    rw [List.mem_toFinset, List.mem_toFinset, List.mem_map]
    constructor
    · intro here
      obtain ⟨c, seen, rfl⟩ := List.mem_map.mp
        (mem_clusteredValues.mp (clustered.mem_of_mem mem here))
      exact ⟨c, mem_members.mpr ⟨seen, here⟩, rfl⟩
    · rintro ⟨c, inK, rfl⟩
      exact (mem_members.mp inK).2
  have size : k.length = ((members candles lookback type k).map type.rounded).toFinset.card := by
    rw [← same, List.toFinset_card_of_nodup (clustered.nodup nodup_clusteredValues mem)]
  rw [← List.pairwise_map (f := type.rounded) (R := (· ≠ ·)), ← List.length_map type.rounded, size]
  exact Multiset.toFinset_card_eq_card_iff_nodup

end Clusters

/-- Equal extremes, extremes that are rounded apart and chains that drift are all that
comes between the pools and the candles. -/
theorem liquidity_genuine_iff (candles : List OhlcCandle) (lookback : ℕ) (tolerancePts : ℚ)
    (minTouches : ℕ) :
    LiquidityGenuine candles lookback tolerancePts minTouches ↔
      ∀ type, JoinsEquals candles lookback tolerancePts minTouches type := by
  have seen {c d : OhlcCandle} (pair : [c, d].Sublist (recent lookback candles)) :
      c ∈ recent lookback candles ∧ d ∈ recent lookback candles :=
    ⟨pair.subset List.mem_cons_self, pair.subset (List.mem_cons_of_mem c List.mem_cons_self)⟩
  constructor
  · intro genuine type
    refine List.pairwise_iff_forall_sublist.mpr fun {c d} pair => ?_
    have joined := @joined_iff candles lookback tolerancePts minTouches type c d (seen pair).1
      (seen pair).2
    refine ⟨⟨fun near => joined.mpr ?_, fun together => ?_⟩, fun together => ?_⟩
    · exact List.pairwise_iff_forall_sublist.mp (genuine.complete type) pair near
    · obtain ⟨k, found, here, there⟩ := joined.mp together
      exact List.pairwise_iff_forall_sublist.mp
        (List.pairwise_filter.mp (genuine.close type k found)) pair
        (List.mem_filter.mp here).2 (List.mem_filter.mp there).2
    · obtain ⟨k, found, here, there⟩ := joined.mp together
      exact List.pairwise_iff_forall_sublist.mp
        (List.pairwise_filter.mp ((touches_eq_iff found).mp (genuine.touched type k found).1)) pair
        (List.mem_filter.mp here).2 (List.mem_filter.mp there).2
  · intro joins
    have each (type : PoolType) {c d : OhlcCandle}
        (pair : [c, d].Sublist (recent lookback candles)) :=
      List.pairwise_iff_forall_sublist.mp (joins type) pair
    have together (type : PoolType) {k : List ℚ}
        (found : k ∈ poolClusters candles lookback tolerancePts minTouches type) {c d : OhlcCandle}
        (pair : [c, d].Sublist (members candles lookback type k)) :
        [c, d].Sublist (recent lookback candles) ∧
          Joined candles lookback tolerancePts minTouches type c d := by
      have inside := pair.trans List.filter_sublist
      exact ⟨inside, (joined_iff (seen inside).1 (seen inside).2).mpr ⟨k, found,
        pair.subset List.mem_cons_self, pair.subset (List.mem_cons_of_mem c List.mem_cons_self)⟩⟩
    have exact_ (type : PoolType) {k : List ℚ}
        (found : k ∈ poolClusters candles lookback tolerancePts minTouches type) :
        k.length = (members candles lookback type k).length :=
      (touches_eq_iff found).mpr (List.pairwise_iff_forall_sublist.mpr fun {_ _} pair =>
        (each type (together type found pair).1).2 (together type found pair).2)
    refine ⟨fun type k found => ⟨exact_ type found, ?_⟩, fun type k found => ?_, fun type => ?_⟩
    · rw [← exact_ type found]
      unfold poolClusters at found
      split_ifs at found
      · cases found
      · exact of_decide_eq_true (List.mem_filter.mp found).2
    · exact List.pairwise_iff_forall_sublist.mpr fun {_ _} pair =>
        (each type (together type found pair).1).1.mpr (together type found pair).2
    · exact List.pairwise_iff_forall_sublist.mpr fun {_ _} pair near =>
        (joined_iff (seen pair).1 (seen pair).2).mp ((each type pair).1.mp near)

/-- Candles that have only the given highs in common. -/
def highsOf (highs : List ℚ) : List OhlcCandle :=
  highs.zipIdx.map fun p => ⟨⟨p.1, 1900 + 10 * p.2, 1950⟩, 900 * p.2, 1950⟩

/-- Five equal highs are no pool; three highs over three points are one, of touches that
are within one and a half of one another. -/
theorem equal_highs_missed :
    detectEqualLevels (highsOf [2000, 2000, 2000, 2000, 2000]) 40 (3 / 2) 2 = [] ∧
      ¬ LiquidityGenuine (highsOf [2000, 2000, 2000, 2000, 2000]) 40 (3 / 2) 2 ∧
      detectEqualLevels (highsOf [2000, 2001.5, 2003, 2020, 2040]) 40 (3 / 2) 2 =
        [⟨2001.5, .eqHigh, 3⟩] ∧
      ¬ LiquidityGenuine (highsOf [2000, 2001.5, 2003, 2020, 2040]) 40 (3 / 2) 2 := by
  refine ⟨by decide +kernel, fun genuine => ?_, by decide +kernel, fun genuine => ?_⟩
  · have first := (List.pairwise_cons.mp (genuine.complete .eqHigh)).1
    obtain ⟨k, found, -⟩ := first _ List.mem_cons_self (by decide +kernel)
    have none :
        poolClusters (highsOf [2000, 2000, 2000, 2000, 2000]) 40 (3 / 2) 2 .eqHigh = [] := by
      decide +kernel
    rw [none] at found
    cases found
  · have one : poolClusters (highsOf [2000, 2001.5, 2003, 2020, 2040]) 40 (3 / 2) 2 .eqHigh =
        [[2003, 2001.5, 2000]] := by decide +kernel
    have close := genuine.close .eqHigh [2003, 2001.5, 2000] (one ▸ List.mem_cons_self)
    exact absurd close (by decide +kernel)

end Forex.Ict
