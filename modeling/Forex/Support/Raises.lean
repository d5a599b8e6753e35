import Mathlib.Data.List.Basic

/-!
Computations that can raise: exactly when one returns, and what then holds of its result.
-/

namespace Support
universe u v
variable {ε : Type u} {α : Type v} {β : Type v}

theorem bind_eq_ok_iff {r : Except ε α} {f : α → Except ε β} {b : β} :
    r >>= f = .ok b ↔ ∃ a, r = .ok a ∧ f a = .ok b := by
  cases r with
  | error e =>
      constructor
      · rintro ⟨⟩
      · rintro ⟨_, ⟨⟩, -⟩
  | ok a =>
      constructor
      · exact fun same => ⟨a, rfl, same⟩
      · rintro ⟨_, ⟨⟩, same⟩
        exact same

/-- It returns exactly if the condition is met, and with a result of the kind. -/
structure Ends (r : Except ε α) (ok : Prop) (I : α → Prop) : Prop where
  returns : ok → ∃ a, r = .ok a
  result : ∀ a, r = .ok a → ok ∧ I a

namespace Ends
variable {r : Except ε α} {ok ok' : Prop} {I J : α → Prop} {K : β → Prop}

theorem of_ok {a : α} (met : ok) (kind : I a) : Ends (.ok a : Except ε α) ok I := by
  refine ⟨fun _ => ⟨a, rfl⟩, fun a' same => ?_⟩
  cases same
  exact ⟨met, kind⟩

theorem of_error {e : ε} (unmet : ¬ ok) : Ends (.error e : Except ε α) ok I :=
  ⟨fun met => absurd met unmet, fun _ same => nomatch same⟩

theorem congr (h : Ends r ok I) (same : ok ↔ ok') : Ends r ok' I :=
  ⟨fun met => h.returns (same.mpr met), fun a result => (h.result a result).imp_left same.mp⟩

theorem mono (h : Ends r ok I) (weaker : ∀ a, I a → J a) : Ends r ok J :=
  ⟨h.returns, fun a result => (h.result a result).imp_right (weaker a)⟩

theorem also (h : Ends r ok I) (more : ∀ a, r = .ok a → J a) : Ends r ok fun a => I a ∧ J a :=
  ⟨h.returns, fun a result => ⟨(h.result a result).1, (h.result a result).2, more a result⟩⟩

theorem iff_returns (h : Ends r ok I) : (∃ a, r = .ok a ∧ I a) ↔ ok := by
  constructor
  · rintro ⟨a, result, -⟩
    exact (h.result a result).1
  · intro met
    obtain ⟨a, result⟩ := h.returns met
    exact ⟨a, result, (h.result a result).2⟩

/-- What comes next is met with any result of the kind. -/
theorem bind {f : α → Except ε β} (h : Ends r ok I) (next : ∀ a, I a → Ends (f a) ok' K) :
    Ends (r >>= f) (ok ∧ ok') K := by
  cases result : r with
  | error e =>
      refine of_error fun both => ?_
      obtain ⟨a, returned⟩ := h.returns both.1
      rw [result] at returned
      cases returned
  | ok a =>
      obtain ⟨met, kind⟩ := h.result a result
      exact (next a kind).congr (and_iff_right met).symm

theorem map {f : α → β} (h : Ends r ok I) (kind : ∀ a, I a → K (f a)) :
    Ends (r >>= fun a => .ok (f a)) ok K := by
  have next (a : α) (held : I a) : Ends (.ok (f a) : Except ε β) True K :=
    of_ok True.intro (kind a held)
  exact (h.bind next).congr (and_iff_left True.intro)

theorem mapM {f : α → Except ε β} {ok : α → Prop} (each : ∀ a, Ends (f a) (ok a) K)
    (as : List α) :
    Ends (as.mapM f) (∀ a ∈ as, ok a) fun bs => bs.length = as.length ∧ ∀ b ∈ bs, K b := by
  induction as with
  | nil => exact of_ok (fun _ mem => nomatch mem) ⟨rfl, fun _ mem => nomatch mem⟩
  | cons a as ih =>
      rw [List.mapM_cons]
      refine ((each a).bind fun b kind => ih.map fun bs kinds => ?_).congr
        List.forall_mem_cons.symm
      exact ⟨congrArg Nat.succ kinds.1, List.forall_mem_cons.mpr ⟨kind, kinds.2⟩⟩

end Ends
end Support
