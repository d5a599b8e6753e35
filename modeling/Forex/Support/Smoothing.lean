import Mathlib.Algebra.Field.Basic
import Mathlib.Tactic.FieldSimp
import Mathlib.Tactic.Ring

/-!
Exponential smoothing. Each value is taken in with the weight `1 - q` and the
average so far with `q`, so that a value loses the factor `q` with each value
that follows it.
-/

namespace Support
universe u
variable {K : Type u} [Field K]

def smooth (q seed : K) (xs : List K) : K := xs.foldl (fun avg x => q * avg + (1 - q) * x) seed

/-- The sum of values with `q` to the number of values that follow. -/
def fading (q : K) : List K → K
  | [] => 0
  | x :: xs => q ^ xs.length * x + fading q xs

theorem smooth_cons (q seed x : K) (xs : List K) :
    smooth q seed (x :: xs) = smooth q (q * seed + (1 - q) * x) xs := rfl

theorem smooth_eq (q seed : K) (xs : List K) :
    smooth q seed xs = q ^ xs.length * seed + (1 - q) * fading q xs := by
  induction xs generalizing seed with
  | nil => simp [smooth, fading]
  | cons x xs ih =>
      rw [smooth_cons, ih, fading, List.length_cons]
      ring

/-- The mean of a list; 0 of none. -/
def mean (xs : List K) : K := xs.sum / xs.length

/-- Wilder's mean: the plain mean of the first `n` values, the others smoothed in with the
weight `1 / n`. -/
def wilderMean (n : ℕ) (xs : List K) : K :=
  if xs.length < n then mean xs
  else ((n - 1) / n) ^ (xs.length - n) * mean (xs.take n) + fading ((n - 1) / n : K) (xs.drop n) / n

theorem smooth_eq_wilderMean {n : ℕ} (pos : (n : K) ≠ 0) {xs : List K} (long : n ≤ xs.length) :
    smooth ((n - 1) / n : K) (mean (xs.take n)) (xs.drop n) = wilderMean n xs := by
  have weight : (1 : K) - (n - 1) / n = 1 / n := by
    field_simp
    ring
  rw [smooth_eq, wilderMean, if_neg (Nat.not_lt.mpr long), List.length_drop, weight,
    one_div_mul_eq_div]

/-- What each step of a scan keeps holds all along. -/
theorem forall_mem_scanl {α β : Type} {f : β → α → β} {I : β → Prop} {xs : List α} {s : β}
    (keep : ∀ s, I s → ∀ x ∈ xs, I (f s x)) (start : I s) : ∀ t ∈ xs.scanl f s, I t := by
  induction xs generalizing s with
  | nil =>
      intro t mem
      rw [List.scanl_nil, List.mem_singleton] at mem
      exact mem ▸ start
  | cons x xs ih =>
      intro t mem
      rw [List.scanl_cons, List.mem_cons] at mem
      rcases mem with rfl | later
      · exact start
      · exact ih (fun s held x mem => keep s held x (List.mem_cons_of_mem _ mem))
          (keep s start x List.mem_cons_self) t later

end Support
