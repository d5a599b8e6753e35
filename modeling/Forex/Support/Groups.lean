import Mathlib.Data.List.Induction
import Mathlib.Data.List.Nodup

/-!
Totals by a key. The rows are taken in one at a time, a key gets its entry with the first
row that has it, and each entry is the total of the rows of its key in their order.
-/

namespace Support
universe u v w
variable {γ : Type u} {κ : Type v} {α : Type w} [DecidableEq κ]
variable (key : γ → κ) (init : α) (add : α → γ → α)

/-- Added to the entry of its key, or to a new one. -/
def credited : List (κ × α) → γ → List (κ × α)
  | [], c => [(key c, add init c)]
  | e :: rest, c =>
      if e.1 = key c then (e.1, add e.2 c) :: rest else e :: credited rest c

def totals (cs : List γ) : List (κ × α) := cs.foldl (credited key init add) []

theorem credited_keys (es : List (κ × α)) (c : γ) :
    (credited key init add es c).map Prod.fst =
      if key c ∈ es.map Prod.fst then es.map Prod.fst else es.map Prod.fst ++ [key c] := by
  induction es with
  | nil => rfl
  | cons e rest ih =>
      rw [credited]
      by_cases own : e.1 = key c
      · simp [own]
      · rw [if_neg own, List.map_cons, ih]
        by_cases later : key c ∈ rest.map Prod.fst
        · simp [later]
        · simp [later, Ne.symm own]

/-- The entries of the other keys are left, the own one gets the row. -/
theorem mem_credited {es : List (κ × α)} (apart : (es.map Prod.fst).Nodup) {c : γ} {e : κ × α}
    (mem : e ∈ credited key init add es c) :
    (e.1 ≠ key c ∧ e ∈ es) ∨ (e.1 = key c ∧ ∃ a, (key c, a) ∈ es ∧ e.2 = add a c) ∨
      (e.1 = key c ∧ key c ∉ es.map Prod.fst ∧ e.2 = add init c) := by
  induction es with
  | nil =>
      obtain rfl := List.mem_singleton.mp mem
      exact .inr (.inr ⟨rfl, List.not_mem_nil, rfl⟩)
  | cons x rest ih =>
      obtain ⟨fresh, apart⟩ := List.nodup_cons.mp apart
      rw [credited] at mem
      by_cases own : x.1 = key c
      · rw [if_pos own] at mem
        cases List.mem_cons.mp mem with
        | inl first =>
            subst first
            exact .inr (.inl ⟨own, x.2, List.mem_cons.mpr (.inl (Prod.ext own.symm rfl)), rfl⟩)
        | inr later =>
            refine .inl ⟨fun same => fresh ?_, List.mem_cons_of_mem _ later⟩
            rw [own, ← same]
            exact List.mem_map_of_mem later
      · rw [if_neg own] at mem
        cases List.mem_cons.mp mem with
        | inl first =>
            subst first
            exact .inl ⟨own, List.mem_cons_self⟩
        | inr later =>
            rcases ih apart later with ⟨other, old⟩ | ⟨same, a, old, value⟩ | ⟨same, new, value⟩
            · exact .inl ⟨other, List.mem_cons_of_mem _ old⟩
            · exact .inr (.inl ⟨same, a, List.mem_cons_of_mem _ old, value⟩)
            · refine .inr (.inr ⟨same, ?_, value⟩)
              rw [List.map_cons, List.mem_cons, not_or]
              exact ⟨fun eq => own eq.symm, new⟩

theorem totals_append_singleton (cs : List γ) (c : γ) :
    totals key init add (cs ++ [c]) = credited key init add (totals key init add cs) c := by
  simp [totals]

theorem totals_keys_nodup (cs : List γ) : ((totals key init add cs).map Prod.fst).Nodup := by
  induction cs using List.reverseRecOn with
  | nil => exact List.nodup_nil
  | append_singleton cs c ih =>
      rw [totals_append_singleton, credited_keys]
      split
      · exact ih
      · next new =>
        rw [List.nodup_append]
        exact ⟨ih, List.nodup_singleton _, fun k old j own same =>
          new (List.mem_singleton.mp own ▸ same ▸ old)⟩

theorem mem_totals_keys (cs : List γ) (k : κ) :
    k ∈ (totals key init add cs).map Prod.fst ↔ ∃ c ∈ cs, key c = k := by
  induction cs using List.reverseRecOn with
  | nil => simp [totals]
  | append_singleton cs c ih =>
      have split : (∃ x ∈ cs ++ [c], key x = k) ↔ (∃ x ∈ cs, key x = k) ∨ key c = k := by
        simp [or_and_right, exists_or]
      rw [totals_append_singleton, credited_keys, split, ← ih]
      by_cases old : key c ∈ (totals key init add cs).map Prod.fst
      · rw [if_pos old]
        exact ⟨.inl, fun either => either.elim id fun own => own ▸ old⟩
      · rw [if_neg old, List.mem_append, List.mem_singleton]
        exact or_congr_right eq_comm

/-- An entry is the total of the rows of its key. -/
theorem totals_entry {cs : List γ} {e : κ × α} (mem : e ∈ totals key init add cs) :
    e.2 = (cs.filter fun c => decide (key c = e.1)).foldl add init := by
  induction cs using List.reverseRecOn generalizing e with
  | nil => exact absurd mem List.not_mem_nil
  | append_singleton cs c ih =>
      rw [totals_append_singleton] at mem
      rw [List.filter_append]
      rcases mem_credited key init add (totals_keys_nodup key init add cs) mem with
        ⟨other, old⟩ | ⟨same, a, old, value⟩ | ⟨same, new, value⟩
      · rw [ih old]
        simp [Ne.symm other]
      · have before := ih old
        dsimp only at before
        rw [value, before, same]
        simp
      · have none : (cs.filter fun x => decide (key x = e.1)) = [] := by
          refine List.filter_eq_nil_iff.mpr fun x mem own => new ?_
          exact (mem_totals_keys key init add cs _).mpr
            ⟨x, mem, (of_decide_eq_true own).trans same⟩
        rw [value, none]
        simp [same]

end Support
