import Mathlib

/-!
Overlapping sets that share a measure: where several of them meet, each is given an equal
part. The shares add up to the measure of the union, and a set keeps its whole measure
exactly when it meets no other one beyond a null set.
-/

namespace Support
namespace Overlap
open MeasureTheory
universe u v
variable {X : Type u} {ι : Type v} [Fintype ι] {s : ι → Set X} {i : ι} {x : X}

open Classical in
/-- The number of sets at a point. -/
noncomputable def live (s : ι → Set X) (x : X) : ℕ := {j | x ∈ s j}.toFinset.card

theorem live_eq_sum (s : ι → Set X) (x : X) :
    (live s x : ℝ) = ∑ j, (s j).indicator (fun _ => 1) x := by
  classical
  simp only [Set.indicator_apply, Finset.sum_boole, live]
  congr
  ext j
  simp

theorem live_pos (mem : x ∈ s i) : 0 < live s x := by
  classical
  exact Finset.card_pos.mpr ⟨i, by simpa using mem⟩

theorem live_eq_one_iff (mem : x ∈ s i) : live s x = 1 ↔ ∀ j ≠ i, x ∉ s j := by
  classical
  rw [live, Finset.card_eq_one]
  constructor
  · rintro ⟨only, same⟩ j other inside
    have first : i ∈ ({only} : Finset ι) := same ▸ by simpa using mem
    have second : j ∈ ({only} : Finset ι) := same ▸ by simpa using inside
    exact other ((Finset.mem_singleton.mp second).trans (Finset.mem_singleton.mp first).symm)
  · intro alone
    refine ⟨i, Finset.ext fun j => ?_⟩
    rw [Set.mem_toFinset, Set.mem_ofPred_eq, Finset.mem_singleton]
    constructor
    · exact fun inside => by_contra fun other => alone j other inside
    · rintro rfl
      exact mem

theorem live_inv_le_one (mem : x ∈ s i) : (live s x : ℝ)⁻¹ ≤ 1 :=
  inv_le_one_of_one_le₀ (by exact_mod_cast live_pos mem)

section Shares
variable [MeasurableSpace X] {μ : Measure X}

/-- The part of a set that is its own, where a point is divided among the sets there. -/
noncomputable def share (μ : Measure X) (s : ι → Set X) (i : ι) : ℝ :=
  ∫ x in s i, (live s x : ℝ)⁻¹ ∂μ

variable (measurable : ∀ j, MeasurableSet (s j))
include measurable

theorem measurable_live : Measurable fun x => (live s x : ℝ) := by
  simp only [live_eq_sum]
  exact Finset.measurable_sum _ fun j _ => measurable_const.indicator (measurable j)

variable (finite : ∀ j, μ (s j) ≠ ⊤)
include finite

theorem integrableOn_live_inv (i : ι) : IntegrableOn (fun x => (live s x : ℝ)⁻¹) (s i) μ := by
  refine Measure.integrableOn_of_bounded (M := 1) (finite i)
    (measurable_live measurable).inv.aestronglyMeasurable ?_
  refine (ae_restrict_iff' (measurable i)).mpr (.of_forall fun x mem => ?_)
  rw [Real.norm_of_nonneg (inv_nonneg.mpr (Nat.cast_nonneg _))]
  exact live_inv_le_one mem

/-- What is lost to the others. -/
theorem measureReal_sub_share (i : ι) :
    μ.real (s i) - share μ s i = ∫ x in s i, (1 - (live s x : ℝ)⁻¹) ∂μ := by
  have constant : Integrable (fun _ => (1 : ℝ)) (μ.restrict (s i)) := integrableOn_const (finite i)
  rw [integral_sub constant (integrableOn_live_inv measurable finite i), setIntegral_const,
    smul_eq_mul, mul_one, share]

theorem share_le (i : ι) : share μ s i ≤ μ.real (s i) := by
  rw [← sub_nonneg, measureReal_sub_share measurable finite]
  exact setIntegral_nonneg (measurable i) fun x mem => sub_nonneg.mpr (live_inv_le_one mem)

theorem share_pos (some : 0 < μ (s i)) : 0 < share μ s i := by
  rw [share, setIntegral_pos_iff_support_of_nonneg_ae
    (.of_forall fun x => inv_nonneg.mpr (Nat.cast_nonneg _))
    (integrableOn_live_inv measurable finite i)]
  refine some.trans_le (measure_mono fun x mem => ⟨?_, mem⟩)
  exact inv_ne_zero (Nat.cast_ne_zero.mpr (Nat.ne_of_gt (live_pos mem)))

/-- A set keeps its measure just when no other set takes a part of it. -/
theorem share_eq_iff (i : ι) : share μ s i = μ.real (s i) ↔ ∀ j ≠ i, μ (s i ∩ s j) = 0 := by
  have nonneg : 0 ≤ᵐ[μ.restrict (s i)] fun x => 1 - (live s x : ℝ)⁻¹ :=
    (ae_restrict_iff' (measurable i)).mpr
      (.of_forall fun x mem => sub_nonneg.mpr (live_inv_le_one mem))
  have integrable : IntegrableOn (fun x => 1 - (live s x : ℝ)⁻¹) (s i) μ :=
    (integrableOn_const (finite i)).sub (integrableOn_live_inv measurable finite i)
  have crowded : {x | ¬ (x ∈ s i → 1 - (live s x : ℝ)⁻¹ = 0)} = ⋃ j ∈ {j | j ≠ i}, s i ∩ s j := by
    ext x
    simp only [Set.mem_ofPred_eq, Classical.not_imp, Set.mem_iUnion, Set.mem_inter_iff, exists_prop]
    constructor
    · rintro ⟨mem, lost⟩
      by_contra alone
      refine lost ?_
      have one : live s x = 1 := (live_eq_one_iff mem).mpr
        fun j other inside => alone ⟨j, other, mem, inside⟩
      rw [one, Nat.cast_one, inv_one, sub_self]
    · rintro ⟨j, other, mem, inside⟩
      refine ⟨mem, fun kept => ?_⟩
      have one : (live s x : ℝ) = 1 := inv_eq_one.mp (sub_eq_zero.mp kept).symm
      exact (live_eq_one_iff mem).mp (by exact_mod_cast one) j other inside
  rw [eq_comm, ← sub_eq_zero, measureReal_sub_share measurable finite,
    setIntegral_eq_zero_iff_of_nonneg_ae nonneg integrable]
  change (∀ᵐ x ∂μ.restrict (s i), 1 - (live s x : ℝ)⁻¹ = 0) ↔ _
  rw [ae_restrict_iff' (measurable i), ae_iff, crowded,
    measure_biUnion_null_iff (Set.toFinite _).countable]
  rfl

theorem sum_share : ∑ i, share μ s i = μ.real (⋃ i, s i) := by
  have part : ∀ i, share μ s i = ∫ x, (s i).indicator (fun x => (live s x : ℝ)⁻¹) x ∂μ :=
    fun i => (integral_indicator (measurable i)).symm
  have whole : ∀ x, ∑ i, (s i).indicator (fun x => (live s x : ℝ)⁻¹) x =
      (⋃ i, s i).indicator 1 x := by
    intro x
    have each : ∀ i, (s i).indicator (fun x => (live s x : ℝ)⁻¹) x =
        (s i).indicator (fun _ => 1) x * (live s x : ℝ)⁻¹ := by
      intro i
      by_cases mem : x ∈ s i <;> simp [mem]
    simp only [each]
    rw [← Finset.sum_mul, ← live_eq_sum]
    by_cases mem : x ∈ ⋃ i, s i
    · obtain ⟨i, inside⟩ := Set.mem_iUnion.mp mem
      rw [Set.indicator_of_mem mem, Pi.one_apply]
      exact mul_inv_cancel₀ (Nat.cast_ne_zero.mpr (Nat.ne_of_gt (live_pos inside)))
    · have none : live s x = 0 := by
        rw [← Nat.cast_inj (R := ℝ), live_eq_sum, Nat.cast_zero]
        refine Finset.sum_eq_zero fun i _ => Set.indicator_of_notMem ?_ _
        exact fun inside => mem (Set.mem_iUnion.mpr ⟨i, inside⟩)
      rw [Set.indicator_of_notMem mem, none, Nat.cast_zero, zero_mul]
  simp only [part]
  rw [← integral_finsetSum _ fun i _ =>
    (integrableOn_live_inv measurable finite i).integrable_indicator (measurable i)]
  simp only [whole]
  exact integral_indicator_one (MeasurableSet.iUnion measurable)

end Shares

end Overlap
end Support
