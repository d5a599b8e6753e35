import Forex.Market.PurgedFolds
import Forex.Support.Overlap
import Mathlib.Algebra.BigOperators.Fin
import Mathlib.MeasureTheory.Integral.IntervalIntegral.Basic
import Mathlib.MeasureTheory.Measure.Lebesgue.Basic

/-!
The weights of `uniqueness_weights`: how much of its time a sample has to itself, added up
over the pieces that the starts and ends of all spans cut it into. Against them stands the
share of its time on the line, where a moment is divided among the samples that are live.
-/

namespace Forex
open Support MeasureTheory

section Weights
variable (spans : List LabelSpan)

/-- The samples that are live at a time. -/
def liveCount (t : ℚ) : ℕ := spans.countP fun s => decide (s.1 ≤ t ∧ t ≤ s.2)

/-- `max(1, live)`. -/
def sharers (t : ℚ) : ℕ := max 1 (liveCount spans t)

/-- The starts and ends, each once and in order. -/
def spanEdges : List ℚ := (spans.flatMap fun s => [s.1, s.2]).dedup.insertionSort (· ≤ ·)

def cutPoints (span : LabelSpan) : List ℚ :=
  let points := (spanEdges spans).filter fun t => decide (span.1 ≤ t ∧ t ≤ span.2)
  let points := if points.head?.any fun t => decide (span.1 < t) then span.1 :: points else points
  if points.getLast?.all fun t => decide (t < span.2) then points ++ [span.2] else points

def pieceTotal (pieces : List (ℚ × ℚ)) : ℚ :=
  (pieces.map fun p : ℚ × ℚ => (p.2 - p.1) / sharers spans ((p.1 + p.2) / 2)).sum

def uniquenessWeight (span : LabelSpan) : ℚ :=
  if span.2 ≤ span.1 then 1 / sharers spans span.1
  else
    let points := cutPoints spans span
    let pieces := (points.zip points.tail).filter fun p => decide (p.1 < p.2)
    let covered := (pieces.map fun p => p.2 - p.1).sum
    if 0 < covered then pieceTotal spans pieces / covered else 1

def uniquenessWeights : List ℚ := spans.map (uniquenessWeight spans)

/-- The time of a sample. -/
def spanSet (i : Fin spans.length) : Set ℝ := Set.Icc (spans[i].1 : ℝ) spans[i].2

def weightAt (i : Fin spans.length) : ℚ := (uniquenessWeights spans).getD i 0

/-- The weights are averages over the time of a sample of one over the number that is live,
or that at its moment where it has no more time than that. -/
structure UniqueInTime : Prop where
  oneEach : (uniquenessWeights spans).length = spans.length
  bounded : ∀ i, 0 < weightAt spans i ∧ weightAt spans i ≤ 1
  alone : ∀ i, weightAt spans i = 1 ↔ ∀ j ≠ i,
    if spans[i].1 < spans[i].2 then volume (spanSet spans i ∩ spanSet spans j) = 0
    else (spans[i].1 : ℝ) ∉ spanSet spans j
  average : ∀ i, (weightAt spans i : ℝ) =
    if spans[i].1 < spans[i].2 then
      (∫ t in (spans[i].1 : ℝ)..spans[i].2, (Overlap.live (spanSet spans) t : ℝ)⁻¹) /
        (spans[i].2 - spans[i].1)
    else (Overlap.live (spanSet spans) (spans[i].1 : ℝ) : ℝ)⁻¹
  conserved : ∑ i, (weightAt spans i : ℝ) * (spans[i].2 - spans[i].1) =
    volume.real (⋃ i, spanSet spans i)

end Weights

section Sorted
variable {l : List ℚ} {p : ℚ × ℚ} {t : ℚ}

/-- Neighbours in an increasing list have nothing of the list between them. -/
theorem mem_zip_tail (sorted : l.Pairwise (· < ·)) (mem : p ∈ l.zip l.tail) :
    p.1 ∈ l ∧ p.2 ∈ l ∧ p.1 < p.2 ∧ ∀ t ∈ l, t ≤ p.1 ∨ p.2 ≤ t := by
  obtain ⟨i, inside, rfl⟩ := List.mem_iff_getElem.mp mem
  rw [List.length_zip, List.length_tail] at inside
  simp only [List.getElem_zip, List.getElem_tail]
  have next : i + 1 < l.length := by omega
  refine ⟨List.getElem_mem _, List.getElem_mem _,
    List.pairwise_iff_getElem.mp sorted i (i + 1) (by omega) next i.lt_succ_self,
    fun t listed => ?_⟩
  obtain ⟨j, short, rfl⟩ := List.mem_iff_getElem.mp listed
  rcases Nat.lt_or_ge i j with later | sooner
  · rcases Nat.lt_or_eq_of_le (Nat.succ_le_of_lt later) with lt | rfl
    · exact .inr (List.pairwise_iff_getElem.mp sorted (i + 1) j next short lt).le
    · exact .inr le_rfl
  · rcases Nat.lt_or_eq_of_le sooner with lt | rfl
    · exact .inl (List.pairwise_iff_getElem.mp sorted j i short (by omega) lt).le
    · exact .inl le_rfl

theorem sum_zip_tail {G : Type} [AddCommGroup G] (F : ℚ → G) (p : ℚ) (ps : List ℚ) :
    (((p :: ps).zip ps).map fun x => F x.2 - F x.1).sum =
      F ((p :: ps).getLast (List.cons_ne_nil _ _)) - F p := by
  induction ps generalizing p with
  | nil => simp
  | cons q ps ih =>
      rw [List.zip_cons_cons, List.map_cons, List.sum_cons, ih q,
        List.getLast_cons (List.cons_ne_nil _ _)]
      abel

theorem head_le (sorted : (t :: l).Pairwise (· < ·)) {x : ℚ} (mem : x ∈ t :: l) : t ≤ x := by
  rcases List.mem_cons.mp mem with rfl | later
  · exact le_rfl
  · exact (List.rel_of_pairwise_cons sorted later).le

theorem le_getLast (sorted : l.Pairwise (· < ·)) (some : l ≠ []) (mem : t ∈ l) :
    t ≤ l.getLast some := by
  rw [← List.dropLast_append_getLast some] at sorted mem
  rcases List.mem_append.mp mem with before | last
  · exact ((List.pairwise_append.mp sorted).2.2 t before _ (List.mem_singleton.mpr rfl)).le
  · exact (List.mem_singleton.mp last).le

end Sorted

section Cuts
variable {spans : List LabelSpan} {span : LabelSpan}

theorem spanEdges_sorted (spans : List LabelSpan) : (spanEdges spans).Pairwise (· < ·) := by
  have nodup : (spanEdges spans).Nodup :=
    (List.perm_insertionSort _ _).nodup_iff.mpr (List.nodup_dedup _)
  exact ((List.pairwise_insertionSort (· ≤ ·) _).and nodup).imp
    fun ⟨le, ne⟩ => lt_of_le_of_ne le ne

theorem mem_spanEdges {t : ℚ} : t ∈ spanEdges spans ↔ ∃ s ∈ spans, t = s.1 ∨ t = s.2 := by
  rw [spanEdges, List.mem_insertionSort, List.mem_dedup, List.mem_flatMap]
  simp

/-- The start and the end of a span are edges, so that no point is added. -/
theorem cutPoints_eq (listed : span ∈ spans) (le : span.1 ≤ span.2) :
    cutPoints spans span =
      (spanEdges spans).filter fun t => decide (span.1 ≤ t ∧ t ≤ span.2) := by
  have sorted := (spanEdges_sorted spans).filter fun t => decide (span.1 ≤ t ∧ t ≤ span.2)
  have first : span.1 ∈ (spanEdges spans).filter fun t => decide (span.1 ≤ t ∧ t ≤ span.2) :=
    List.mem_filter.mpr ⟨mem_spanEdges.mpr ⟨span, listed, .inl rfl⟩, decide_eq_true ⟨le_rfl, le⟩⟩
  have last : span.2 ∈ (spanEdges spans).filter fun t => decide (span.1 ≤ t ∧ t ≤ span.2) :=
    List.mem_filter.mpr ⟨mem_spanEdges.mpr ⟨span, listed, .inr rfl⟩, decide_eq_true ⟨le, le_rfl⟩⟩
  rw [cutPoints]
  generalize (spanEdges spans).filter (fun t => decide (span.1 ≤ t ∧ t ≤ span.2)) = points at *
  have noFirst : (points.head?.any fun t => decide (span.1 < t)) = false := by
    cases points with
    | nil => rfl
    | cons t rest => exact decide_eq_false (not_lt.mpr (head_le sorted first))
  have noLast : (points.getLast?.all fun t => decide (t < span.2)) = false := by
    have some := List.ne_nil_of_mem last
    rw [List.getLast?_eq_some_getLast some]
    exact decide_eq_false (not_lt.mpr (le_getLast sorted some last))
  rw [noFirst, if_neg Bool.false_ne_true, noLast, if_neg Bool.false_ne_true]

/-- The pieces of a span: they follow on each other from its start to its end, and no span
starts or ends within one. -/
structure Cuts (spans : List LabelSpan) (span : LabelSpan) (pieces : List (ℚ × ℚ)) : Prop where
  adds : ∀ {G : Type} [AddCommGroup G] (F : ℚ → G),
    (pieces.map fun p => F p.2 - F p.1).sum = F span.2 - F span.1
  inside : ∀ p ∈ pieces, span.1 ≤ p.1 ∧ p.1 < p.2 ∧ p.2 ≤ span.2
  clear : ∀ p ∈ pieces, ∀ s ∈ spans, (s.1 ≤ p.1 ∨ p.2 ≤ s.1) ∧ (s.2 ≤ p.1 ∨ p.2 ≤ s.2)

theorem cuts_pieces (listed : span ∈ spans) (le : span.1 ≤ span.2) :
    Cuts spans span (((cutPoints spans span).zip (cutPoints spans span).tail).filter
      fun p => decide (p.1 < p.2)) := by
  have sorted : (cutPoints spans span).Pairwise (· < ·) := by
    rw [cutPoints_eq listed le]
    exact (spanEdges_sorted spans).filter _
  have mem : ∀ t, t ∈ cutPoints spans span ↔
      (∃ s ∈ spans, t = s.1 ∨ t = s.2) ∧ span.1 ≤ t ∧ t ≤ span.2 := by
    intro t
    rw [cutPoints_eq listed le, List.mem_filter, mem_spanEdges, decide_eq_true_iff]
  have all : (((cutPoints spans span).zip (cutPoints spans span).tail).filter
      fun p => decide (p.1 < p.2)) = (cutPoints spans span).zip (cutPoints spans span).tail :=
    List.filter_eq_self.mpr fun p piece => decide_eq_true (mem_zip_tail sorted piece).2.2.1
  have first := (mem span.1).mpr ⟨⟨span, listed, .inl rfl⟩, le_rfl, le⟩
  have last := (mem span.2).mpr ⟨⟨span, listed, .inr rfl⟩, le, le_rfl⟩
  rw [all]
  refine ⟨fun F => ?_, fun p piece => ?_, fun p piece s known => ?_⟩
  · cases points : cutPoints spans span with
    | nil => rw [points] at first; nomatch first
    | cons t rest =>
        rw [points] at sorted first last mem
        have start : t = span.1 :=
          le_antisymm (head_le sorted first) ((mem t).mp List.mem_cons_self).2.1
        have stop : (t :: rest).getLast (List.cons_ne_nil _ _) = span.2 :=
          le_antisymm ((mem _).mp (List.getLast_mem _)).2.2 (le_getLast sorted _ last)
        rw [List.tail_cons, sum_zip_tail, stop, start]
  · obtain ⟨start, stop, lt, -⟩ := mem_zip_tail sorted piece
    exact ⟨((mem _).mp start).2.1, lt, ((mem _).mp stop).2.2⟩
  · obtain ⟨start, stop, -, between⟩ := mem_zip_tail sorted piece
    have edge : ∀ t, (t = s.1 ∨ t = s.2) → t ≤ p.1 ∨ p.2 ≤ t := by
      intro t is
      by_cases inside : span.1 ≤ t ∧ t ≤ span.2
      · exact between t ((mem t).mpr ⟨⟨s, known, is⟩, inside⟩)
      · rcases not_and_or.mp inside with before | behind
        · exact .inl ((not_le.mp before).le.trans ((mem _).mp start).2.1)
        · exact .inr (((mem _).mp stop).2.2.trans (not_le.mp behind).le)
    exact ⟨edge _ (.inl rfl), edge _ (.inr rfl)⟩

end Cuts

section Live
variable {spans : List LabelSpan}

/-- The count of the code is that of the sets at a moment. -/
theorem live_eq_liveCount (t : ℚ) : Overlap.live (spanSet spans) (t : ℝ) = liveCount spans t := by
  have count : ∀ ss : List LabelSpan, ((liveCount ss t : ℕ) : ℝ) =
      (ss.map fun s => if s.1 ≤ t ∧ t ≤ s.2 then (1 : ℝ) else 0).sum := by
    intro ss
    induction ss with
    | nil => simp [liveCount]
    | cons s ss ih =>
        rw [liveCount, List.countP_cons, Nat.cast_add, List.map_cons, List.sum_cons, ← ih,
          liveCount]
        by_cases here : s.1 ≤ t ∧ t ≤ s.2
        · simp [here, add_comm]
        · simp [here]
  rw [← Nat.cast_inj (R := ℝ), Overlap.live_eq_sum, count, ← Fin.sum_univ_fun_getElem]
  refine Finset.sum_congr rfl fun i _ => ?_
  simp only [spanSet, Set.indicator_apply, Set.mem_Icc, Rat.cast_le]
  rfl

theorem liveCount_pos {s : LabelSpan} (listed : s ∈ spans) {t : ℚ} (here : s.1 ≤ t ∧ t ≤ s.2) :
    0 < liveCount spans t :=
  List.countP_pos_iff.mpr ⟨s, listed, decide_eq_true here⟩

theorem sharers_eq {s : LabelSpan} (listed : s ∈ spans) {t : ℚ} (here : s.1 ≤ t ∧ t ≤ s.2) :
    sharers spans t = liveCount spans t :=
  max_eq_right (liveCount_pos listed here)

/-- Within a piece the same samples are live. -/
theorem live_of_clear {p : ℚ × ℚ} (lt : p.1 < p.2)
    (clear : ∀ s ∈ spans, (s.1 ≤ p.1 ∨ p.2 ≤ s.1) ∧ (s.2 ≤ p.1 ∨ p.2 ≤ s.2)) {x : ℝ}
    (inside : x ∈ Set.Ioo (p.1 : ℝ) p.2) :
    Overlap.live (spanSet spans) x = liveCount spans ((p.1 + p.2) / 2) := by
  have mid : (((p.1 + p.2) / 2 : ℚ) : ℝ) ∈ Set.Ioo (p.1 : ℝ) p.2 := by
    constructor
    · exact Rat.cast_lt.mpr (by linarith)
    · exact Rat.cast_lt.mpr (by linarith)
  have same : ∀ i, ∀ y ∈ Set.Ioo (p.1 : ℝ) p.2, y ∈ spanSet spans i ↔
      spans[i].1 ≤ p.1 ∧ p.2 ≤ spans[i].2 := by
    intro i y between
    obtain ⟨starts, stops⟩ := clear spans[i] (List.getElem_mem _)
    constructor
    · rintro ⟨started, stopped⟩
      constructor
      · refine starts.resolve_right fun late => ?_
        exact absurd started (not_le.mpr (between.2.trans_le (Rat.cast_le.mpr late)))
      · refine stops.resolve_left fun early => ?_
        exact absurd stopped (not_le.mpr ((Rat.cast_le.mpr early).trans_lt between.1))
    · rintro ⟨started, stopped⟩
      exact ⟨(Rat.cast_le.mpr started).trans between.1.le,
        between.2.le.trans (Rat.cast_le.mpr stopped)⟩
  rw [← live_eq_liveCount, Overlap.live, Overlap.live]
  congr 1
  ext i
  simp only [Set.mem_toFinset, Set.mem_ofPred_eq, same i _ inside, same i _ mid]

end Live

section Average
variable {spans : List LabelSpan} {i : Fin spans.length}

theorem measurableSet_spanSet (i : Fin spans.length) : MeasurableSet (spanSet spans i) :=
  measurableSet_Icc

theorem volume_spanSet_ne_top (i : Fin spans.length) : volume (spanSet spans i) ≠ ⊤ :=
  measure_Icc_lt_top.ne

theorem volume_real_spanSet (le : spans[i].1 ≤ spans[i].2) :
    volume.real (spanSet spans i) = spans[i].2 - spans[i].1 :=
  Real.volume_real_Icc_of_le (Rat.cast_le.mpr le)

theorem share_eq_integral (le : spans[i].1 ≤ spans[i].2) :
    Overlap.share volume (spanSet spans) i =
      ∫ t in (spans[i].1 : ℝ)..spans[i].2, (Overlap.live (spanSet spans) t : ℝ)⁻¹ := by
  rw [Overlap.share, intervalIntegral.integral_of_le (Rat.cast_le.mpr le), spanSet,
    integral_Icc_eq_integral_Ioc]

theorem intervalIntegrable_live {a b : ℚ} (start : spans[i].1 ≤ a) (le : a ≤ b)
    (stop : b ≤ spans[i].2) :
    IntervalIntegrable (fun t => (Overlap.live (spanSet spans) t : ℝ)⁻¹) volume a b := by
  refine IntegrableOn.intervalIntegrable ((Overlap.integrableOn_live_inv measurableSet_spanSet
    volume_spanSet_ne_top i).mono_set ?_)
  rw [Set.uIcc_of_le (Rat.cast_le.mpr le)]
  exact Set.Icc_subset_Icc (Rat.cast_le.mpr start) (Rat.cast_le.mpr stop)

/-- The sum over the pieces is the integral over the time of the sample. -/
theorem pieceTotal_eq_share (le : spans[i].1 ≤ spans[i].2) {pieces : List (ℚ × ℚ)}
    (cuts : Cuts spans spans[i] pieces) :
    ((pieceTotal spans pieces : ℚ) : ℝ) = Overlap.share volume (spanSet spans) i := by
  have listed : spans[i] ∈ spans := List.getElem_mem _
  let F : ℚ → ℝ := fun t => ∫ x in (spans[i].1 : ℝ)..t, (Overlap.live (spanSet spans) x : ℝ)⁻¹
  have piece : ∀ p ∈ pieces,
      (((p.2 - p.1) / sharers spans ((p.1 + p.2) / 2) : ℚ) : ℝ) = F p.2 - F p.1 := by
    intro p mem
    obtain ⟨start, lt, stop⟩ := cuts.inside p mem
    have constant : ∫ x in (p.1 : ℝ)..p.2, (Overlap.live (spanSet spans) x : ℝ)⁻¹ =
        ∫ _ in (p.1 : ℝ)..p.2, (liveCount spans ((p.1 + p.2) / 2) : ℝ)⁻¹ :=
      intervalIntegral.integral_congr_Ioo_of_le (Rat.cast_le.mpr lt.le) fun x inside => by
        rw [live_of_clear lt (cuts.clear p mem) inside]
    rw [intervalIntegral.integral_interval_sub_left
      (intervalIntegrable_live le_rfl (start.trans lt.le) stop)
      (intervalIntegrable_live le_rfl start (lt.le.trans stop)), constant,
      intervalIntegral.integral_const, smul_eq_mul,
      sharers_eq listed ⟨by linarith, by linarith⟩]
    push_cast
    rw [div_eq_mul_inv]
  have sum : ((pieceTotal spans pieces : ℚ) : ℝ) = (pieces.map fun p => F p.2 - F p.1).sum := by
    rw [pieceTotal, ← Rat.coe_castHom, map_list_sum, List.map_map]
    exact congrArg List.sum (List.map_congr_left piece)
  rw [sum, cuts.adds F, share_eq_integral le]
  simp [F]

end Average

section Weight
variable {spans : List LabelSpan} {i : Fin spans.length}

theorem weightAt_eq (i : Fin spans.length) :
    weightAt spans i = uniquenessWeight spans spans[i] := by
  simp [weightAt, uniquenessWeights]

theorem weightAt_of_lt (lt : spans[i].1 < spans[i].2) :
    (weightAt spans i : ℝ) = Overlap.share volume (spanSet spans) i /
      (spans[i].2 - spans[i].1) := by
  have listed : spans[i] ∈ spans := List.getElem_mem _
  have cuts := cuts_pieces listed lt.le
  have covered := cuts.adds id
  simp only [id] at covered
  rw [weightAt_eq, uniquenessWeight, if_neg (not_le.mpr lt)]
  dsimp only
  rw [covered, if_pos (sub_pos.mpr lt), Rat.cast_div, pieceTotal_eq_share lt.le cuts, Rat.cast_sub]

theorem weightAt_of_point (point : spans[i].1 = spans[i].2) :
    (weightAt spans i : ℝ) = (Overlap.live (spanSet spans) (spans[i].1 : ℝ) : ℝ)⁻¹ := by
  have listed : spans[i] ∈ spans := List.getElem_mem _
  rw [weightAt_eq, uniquenessWeight, if_pos point.ge, sharers_eq listed ⟨le_rfl, point.le⟩,
    live_eq_liveCount, Rat.cast_div, Rat.cast_one, Rat.cast_natCast, one_div]

theorem start_mem (le : spans[i].1 ≤ spans[i].2) : (spans[i].1 : ℝ) ∈ spanSet spans i :=
  ⟨le_rfl, Rat.cast_le.mpr le⟩

/-- A sample has the share of the line that its weight makes of its length. -/
theorem weightAt_mul_length (le : spans[i].1 ≤ spans[i].2) :
    (weightAt spans i : ℝ) * (spans[i].2 - spans[i].1) =
      Overlap.share volume (spanSet spans) i := by
  rcases lt_or_eq_of_le le with lt | point
  · have length : ((spans[i].2 : ℝ) - spans[i].1) ≠ 0 :=
      sub_ne_zero.mpr (by exact_mod_cast (ne_of_gt lt))
    rw [weightAt_of_lt lt, div_mul_cancel₀ _ length]
  · rw [share_eq_integral le, point, sub_self, mul_zero, intervalIntegral.integral_same]

theorem weightAt_bounded (le : spans[i].1 ≤ spans[i].2) :
    0 < weightAt spans i ∧ weightAt spans i ≤ 1 := by
  have real : 0 < (weightAt spans i : ℝ) ∧ (weightAt spans i : ℝ) ≤ 1 := by
    rcases lt_or_eq_of_le le with lt | point
    · have length : (0 : ℝ) < spans[i].2 - spans[i].1 := sub_pos.mpr (Rat.cast_lt.mpr lt)
      have some : 0 < volume (spanSet spans i) := by
        rw [spanSet, Real.volume_Icc]
        exact ENNReal.ofReal_pos.mpr length
      have most := Overlap.share_le (μ := volume) measurableSet_spanSet volume_spanSet_ne_top i
      rw [volume_real_spanSet le] at most
      rw [weightAt_of_lt lt]
      exact ⟨div_pos (Overlap.share_pos measurableSet_spanSet volume_spanSet_ne_top some) length,
        (div_le_one length).mpr most⟩
    · rw [weightAt_of_point point]
      exact ⟨inv_pos.mpr (Nat.cast_pos.mpr (Overlap.live_pos (start_mem le))),
        Overlap.live_inv_le_one (start_mem le)⟩
  exact_mod_cast real

theorem weightAt_eq_one_iff (le : spans[i].1 ≤ spans[i].2) :
    weightAt spans i = 1 ↔ ∀ j ≠ i,
      if spans[i].1 < spans[i].2 then volume (spanSet spans i ∩ spanSet spans j) = 0
      else (spans[i].1 : ℝ) ∉ spanSet spans j := by
  rw [← Rat.cast_inj (α := ℝ), Rat.cast_one]
  rcases lt_or_eq_of_le le with lt | point
  · have length : ((spans[i].2 : ℝ) - spans[i].1) ≠ 0 :=
      sub_ne_zero.mpr (by exact_mod_cast (ne_of_gt lt))
    simp only [if_pos lt]
    rw [← Overlap.share_eq_iff measurableSet_spanSet volume_spanSet_ne_top, weightAt_of_lt lt,
      div_eq_one_iff_eq length, volume_real_spanSet le]
  · simp only [if_neg (not_lt.mpr point.ge)]
    rw [weightAt_of_point point, inv_eq_one, Nat.cast_eq_one,
      Overlap.live_eq_one_iff (start_mem le)]

end Weight

/-- The weights of `uniqueness_weights` divide the time that any sample is live. -/
theorem uniqueness_weights_in_time (spans : List LabelSpan) (ordered : ∀ s ∈ spans, s.1 ≤ s.2) :
    UniqueInTime spans := by
  have le : ∀ i : Fin spans.length, spans[i].1 ≤ spans[i].2 :=
    fun i => ordered _ (List.getElem_mem _)
  refine ⟨List.length_map _, fun i => weightAt_bounded (le i), fun i => weightAt_eq_one_iff (le i),
    fun i => ?_, ?_⟩
  · split_ifs with lt
    · rw [weightAt_of_lt lt, share_eq_integral (le i)]
    · exact weightAt_of_point (le_antisymm (le i) (not_lt.mp lt))
  · rw [← Overlap.sum_share measurableSet_spanSet volume_spanSet_ne_top]
    exact Finset.sum_congr rfl fun i _ => weightAt_mul_length (le i)

theorem uniqueness_weights_in_time_three : UniqueInTime [(0, 2), (1, 3), (5, 5)] :=
  uniqueness_weights_in_time [(0, 2), (1, 3), (5, 5)] (by decide)

/-- Half of each span is shared with the other. -/
example : uniquenessWeights [(0, 2), (1, 3), (5, 5)] = [3 / 4, 3 / 4, 1] := by decide +kernel

end Forex
