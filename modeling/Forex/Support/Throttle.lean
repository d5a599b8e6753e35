import Mathlib.Algebra.Order.Monoid.Defs
import Mathlib.Data.List.Basic

/-!
Acts held apart by a gap in time, along a history that stands newest first. The
time of the newest act is all that a throttle has to remember.
-/

namespace Support
universe u v
variable {α : Type u} {K : Type v} [AddCommMonoid K] [LinearOrder K] [IsOrderedAddMonoid K]
  {time : α → K} {p : α → Bool} {gap now : K} {es : List α}

/-- The time of the newest of the entries that qualify. -/
def lastTime (time : α → K) (p : α → Bool) (es : List α) : Option K := (es.find? p).map time

/-- Entries that qualify are apart by the gap at least. -/
def Spaced (time : α → K) (p : α → Bool) (gap : K) (es : List α) : Prop :=
  es.Pairwise fun a b => p a = true → p b = true → time b + gap ≤ time a

omit [AddCommMonoid K] [LinearOrder K] [IsOrderedAddMonoid K] in
theorem lastTime_cons (e : α) (es : List α) :
    lastTime time p (e :: es) = if p e then some (time e) else lastTime time p es := by
  cases h : p e with
  | false => simp [lastTime, h]
  | true => simp [lastTime, h]

omit [IsOrderedAddMonoid K] in
theorem Spaced.nil : Spaced time p gap [] := List.Pairwise.nil

omit [IsOrderedAddMonoid K] in
theorem Spaced.cons {e : α} (spaced : Spaced time p gap es)
    (rested : p e = true → ∀ f ∈ es, p f = true → time f + gap ≤ time e) :
    Spaced time p gap (e :: es) :=
  List.pairwise_cons.mpr ⟨fun f mem counts older => rested counts f mem older, spaced⟩

/-- The newest entry stands for all of them. -/
theorem Spaced.rested_iff (spaced : Spaced time p gap es) (wide : 0 ≤ gap) :
    (∀ t ∈ lastTime time p es, t + gap ≤ now) ↔
      ∀ e ∈ es, p e = true → time e + gap ≤ now := by
  induction es with
  | nil => simp [lastTime]
  | cons e es ih =>
      obtain ⟨first, spaced⟩ := List.pairwise_cons.mp spaced
      rw [lastTime_cons, List.forall_mem_cons]
      cases counts : p e with
      | false => simpa using ih spaced
      | true =>
          simp only [if_true, Option.mem_some_iff, forall_eq', true_implies]
          constructor
          · intro rested
            refine ⟨rested, fun f mem older => ?_⟩
            calc time f + gap ≤ time e := first f mem counts older
              _ ≤ time e + gap := le_add_of_nonneg_right wide
              _ ≤ now := rested
          · exact fun both => both.1

end Support
