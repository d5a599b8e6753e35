import Mathlib.Data.List.Perm.Basic

/-!
Walks that emit. A step takes a state and a label to a state and a list of
outputs, and states are told apart only up to a relation that the step
respects. Labels that do nothing can be left out of a walk, and labels whose
steps commute can be walked in any order.
-/

namespace Support
universe u v w
variable {σ : Type u} {α : Type v} {β : Type w}

def walk (step : σ → α → σ × List β) : σ → List α → σ × List β
  | s, [] => (s, [])
  | s, a :: as =>
      let next := step s a
      let rest := walk step next.1 as
      (rest.1, next.2 ++ rest.2)

/-- The same outputs, in states that are not told apart. -/
def Alike (same : σ → σ → Prop) (x y : σ × List β) : Prop := same x.1 y.1 ∧ x.2 = y.2

/-- The step does not see what the relation does not tell apart. -/
structure Respects (step : σ → α → σ × List β) (same : σ → σ → Prop) : Prop where
  equiv : Equivalence same
  step : ∀ {s t} a, same s t → Alike same (step s a) (step t a)

section Walk
variable {step : σ → α → σ × List β} {same : σ → σ → Prop}

theorem walk_append (s : σ) (as bs : List α) :
    walk step s (as ++ bs) =
      ((walk step (walk step s as).1 bs).1,
        (walk step s as).2 ++ (walk step (walk step s as).1 bs).2) := by
  induction as generalizing s with
  | nil => rfl
  | cons a as ih => simp [walk, ih]

namespace Respects
variable (h : Respects step same)
include h

theorem refl (x : σ × List β) : Alike same x x := ⟨h.equiv.refl _, rfl⟩

theorem symm {x y : σ × List β} (xy : Alike same x y) : Alike same y x :=
  ⟨h.equiv.symm xy.1, xy.2.symm⟩

theorem trans {x y z : σ × List β} (xy : Alike same x y) (yz : Alike same y z) : Alike same x z :=
  ⟨h.equiv.trans xy.1 yz.1, xy.2.trans yz.2⟩

theorem walk {s t : σ} (st : same s t) (as : List α) :
    Alike same (walk step s as) (Support.walk step t as) := by
  induction as generalizing s t with
  | nil => exact ⟨st, rfl⟩
  | cons a as ih =>
      obtain ⟨next, out⟩ := h.step a st
      obtain ⟨rest, later⟩ := ih next
      refine ⟨rest, ?_⟩
      simp only [Support.walk]
      rw [out, later]

/-- A walk goes on alike after alike walks. -/
theorem append {s t : σ} {as bs : List α}
    (prior : Alike same (Support.walk step s as) (Support.walk step t bs)) (cs : List α) :
    Alike same (Support.walk step s (as ++ cs)) (Support.walk step t (bs ++ cs)) := by
  obtain ⟨rest, later⟩ := h.walk prior.1 cs
  rw [walk_append, walk_append]
  refine ⟨rest, ?_⟩
  dsimp only
  rw [prior.2, later]

/-- What does nothing in a state does nothing in a state like it. -/
theorem idle_congr {s t : σ} (st : same s t) {a : α} (idle : Alike same (step s a) (s, [])) :
    Alike same (step t a) (t, []) := by
  obtain ⟨next, out⟩ := h.step a st
  exact ⟨h.equiv.trans (h.equiv.symm next) (h.equiv.trans idle.1 st), out.symm.trans idle.2⟩

theorem walk_idle {s : σ} {as : List α} (idle : ∀ a ∈ as, Alike same (step s a) (s, [])) :
    Alike same (Support.walk step s as) (s, []) := by
  induction as generalizing s with
  | nil => exact h.refl _
  | cons a as ih =>
      obtain ⟨next, out⟩ := idle a List.mem_cons_self
      obtain ⟨rest, later⟩ := ih (s := (step s a).1) fun b mem =>
        h.idle_congr (h.equiv.symm next) (idle b (List.mem_cons_of_mem a mem))
      refine ⟨h.equiv.trans rest next, ?_⟩
      simp only [Support.walk]
      rw [out, later]
      rfl

/-- A tail that does nothing can be left out. -/
theorem drop_idle {s : σ} {as bs : List α}
    (idle : ∀ b ∈ bs, Alike same (step (Support.walk step s as).1 b)
      ((Support.walk step s as).1, [])) :
    Alike same (Support.walk step s (as ++ bs)) (Support.walk step s as) := by
  obtain ⟨rest, later⟩ := h.walk_idle idle
  rw [walk_append]
  refine ⟨rest, ?_⟩
  dsimp only
  rw [later, List.append_nil]

/-- The order of a walk does not matter while the labels ahead stay free, which
each step must keep for the rest, and any two free labels commute. -/
theorem walk_perm (free : σ → List α → Prop)
    (reorder : ∀ {s as bs}, as.Perm bs → free s as → free s bs)
    (tail : ∀ {s a as}, free s (a :: as) → free (step s a).1 as)
    (comm : ∀ {s a b as}, free s (a :: b :: as) →
      Alike same (Support.walk step s [a, b]) (Support.walk step s [b, a]))
    {as bs : List α} (perm : as.Perm bs) {s : σ} (start : free s as) :
    Alike same (Support.walk step s as) (Support.walk step s bs) := by
  induction perm generalizing s with
  | nil => exact h.refl _
  | cons a _ ih =>
      obtain ⟨rest, later⟩ := ih (tail start)
      refine ⟨rest, ?_⟩
      simp only [Support.walk]
      rw [later]
  | swap a b as => exact h.append (comm start) as
  | trans first _ ih ih' => exact h.trans (ih start) (ih' (reorder first start))

end Respects
end Walk

end Support
