import Mathlib.Data.List.Basic

/-!
Runs of a total step function. A label that is not enabled in a state leaves
that state as it is, so every list of labels is a run. The guarded rule is the
only induction over runs in the development: an invariant kept by each step
that meets a condition holds in every state a run of such steps visits.
-/

namespace Support
universe u v
variable {σ : Type u} {α : Type v}

/-- The states a run visits, its start included. -/
def states (step : σ → α → σ) : σ → List α → List σ
  | s, [] => [s]
  | s, a :: as => s :: states step (step s a) as

/-- Each label of the run meets the condition in the state it is taken from. -/
def Meets (step : σ → α → σ) (ok : σ → α → Prop) : σ → List α → Prop
  | _, [] => True
  | s, a :: as => ok s a ∧ Meets step ok (step s a) as

instance decidableMeets (step : σ → α → σ) (ok : σ → α → Prop)
    [∀ s a, Decidable (ok s a)] : ∀ s as, Decidable (Meets step ok s as)
  | _, [] => isTrue True.intro
  | s, a :: as =>
      have := decidableMeets step ok (step s a) as
      inferInstanceAs (Decidable (ok s a ∧ Meets step ok (step s a) as))

theorem foldl_mem_states (step : σ → α → σ) (s : σ) (as : List α) :
    as.foldl step s ∈ states step s as := by
  induction as generalizing s with
  | nil => simp [states]
  | cons a as ih => exact List.mem_cons_of_mem s (ih (step s a))

/-- The states of a run are the ends of its initial segments. -/
theorem mem_states_iff {step : σ → α → σ} {s t : σ} {as : List α} :
    t ∈ states step s as ↔ ∃ ps, ps <+: as ∧ ps.foldl step s = t := by
  induction as generalizing s with
  | nil =>
      rw [states, List.mem_singleton]
      constructor
      · rintro rfl
        exact ⟨[], List.prefix_rfl, rfl⟩
      · rintro ⟨ps, short, rfl⟩
        rw [List.prefix_nil.mp short]
        rfl
  | cons a as ih =>
      rw [states, List.mem_cons, ih]
      constructor
      · rintro (rfl | ⟨ps, short, rfl⟩)
        · exact ⟨[], List.nil_prefix, rfl⟩
        · exact ⟨a :: ps, List.cons_prefix_cons.mpr ⟨rfl, short⟩, rfl⟩
      · rintro ⟨ps, short, rfl⟩
        cases ps with
        | nil => exact .inl rfl
        | cons b ps =>
            obtain ⟨rfl, shorter⟩ := List.cons_prefix_cons.mp short
            exact .inr ⟨ps, shorter, rfl⟩

theorem meets_of_forall {step : σ → α → σ} {ok : σ → α → Prop} (all : ∀ s a, ok s a) (s : σ)
    (as : List α) : Meets step ok s as := by
  induction as generalizing s with
  | nil => exact True.intro
  | cons a as ih => exact ⟨all s a, ih (step s a)⟩

/-- An invariant that every step meeting the condition keeps holds in every
state of a run whose steps all meet the condition. -/
theorem states_invariant {step : σ → α → σ} {ok : σ → α → Prop} {I : σ → Prop}
    (keep : ∀ s a, I s → ok s a → I (step s a))
    {s : σ} {as : List α} (start : I s) (run : Meets step ok s as) :
    ∀ t ∈ states step s as, I t := by
  induction as generalizing s with
  | nil =>
      intro t ht
      rw [List.mem_singleton.mp ht]
      exact start
  | cons a as ih =>
      intro t ht
      rcases List.mem_cons.mp ht with rfl | ht
      · exact start
      · exact ih (keep s a start run.1) run.2 t ht

/-- Along the same runs, whatever the invariant and the condition give of one
step is true of every step. -/
theorem meets_of_invariant {step : σ → α → σ} {ok P : σ → α → Prop} {I : σ → Prop}
    (keep : ∀ s a, I s → ok s a → I (step s a)) (give : ∀ s a, I s → ok s a → P s a)
    {s : σ} {as : List α} (start : I s) (run : Meets step ok s as) : Meets step P s as := by
  induction as generalizing s with
  | nil => exact True.intro
  | cons a as ih =>
      exact ⟨give s a start run.1, ih (keep s a start run.1) run.2⟩

/-- Where, within an invariant, a step leads to the property exactly when it
meets the condition, a run is within the property exactly when each of its steps
meets the condition. -/
theorem states_iff {step : σ → α → σ} {ok : σ → α → Prop} {I P : σ → Prop}
    (within : ∀ s, I s → P s) (keep : ∀ s a, I s → ok s a → I (step s a))
    (only : ∀ s a, I s → P (step s a) → ok s a) {s : σ} (as : List α) (start : I s) :
    (∀ t ∈ states step s as, P t) ↔ Meets step ok s as := by
  constructor
  · intro all
    induction as generalizing s with
    | nil => exact True.intro
    | cons a as ih =>
        rw [states, List.forall_mem_cons] at all
        have next : P (step s a) := by
          cases as with
          | nil => exact all.2 _ List.mem_cons_self
          | cons b bs => exact all.2 _ List.mem_cons_self
        have met := only s a start next
        exact ⟨met, ih (keep s a start met) all.2⟩
  · intro run t mem
    exact within t (states_invariant keep start run t mem)

theorem meets_congr {step : σ → α → σ} {ok ok' : σ → α → Prop}
    (same : ∀ s a, ok s a ↔ ok' s a) (s : σ) (as : List α) :
    Meets step ok s as ↔ Meets step ok' s as := by
  induction as generalizing s with
  | nil => exact Iff.rfl
  | cons a as ih => exact and_congr (same s a) (ih (step s a))

theorem Meets.and_forall {step : σ → α → σ} {ok : σ → α → Prop} {p : α → Prop} {s : σ}
    {as : List α} (run : Meets step ok s as) (all : ∀ a ∈ as, p a) :
    Meets step (fun s a => ok s a ∧ p a) s as := by
  induction as generalizing s with
  | nil => exact True.intro
  | cons a as ih =>
      rw [List.forall_mem_cons] at all
      exact ⟨⟨run.1, all.1⟩, ih run.2 all.2⟩

/-- Two conditions on a step that agree within an invariant agree along a run. -/
theorem meets_iff_of_invariant {step : σ → α → σ} {on ok ok' : σ → α → Prop} {I : σ → Prop}
    (keep : ∀ s a, I s → on s a → I (step s a))
    (same : ∀ s a, I s → on s a → (ok s a ↔ ok' s a)) {s : σ} {as : List α} (start : I s)
    (run : Meets step on s as) : Meets step ok s as ↔ Meets step ok' s as := by
  induction as generalizing s with
  | nil => exact Iff.rfl
  | cons a as ih =>
      exact and_congr (same s a start run.1) (ih (keep s a start run.1) run.2)

/-- A run of which only an image is looked at. -/
theorem meets_image {τ : Type*} {β : Type*} {step : σ → α → σ} {step' : τ → β → τ}
    {ok : τ → β → Prop} {image : σ → τ} {label : α → β}
    (same : ∀ s a, image (step s a) = step' (image s) (label a)) (s : σ) (as : List α) :
    Meets step (fun s a => ok (image s) (label a)) s as ↔
      Meets step' ok (image s) (as.map label) := by
  induction as generalizing s with
  | nil => exact Iff.rfl
  | cons a as ih =>
      rw [List.map_cons, Meets, Meets, ih, same]

/-- Two runs by the same labels: a relation kept by steps that both meet their conditions. -/
theorem foldl_related {τ : Type u} {step : σ → α → σ} {step' : τ → α → τ} {ok : σ → α → Prop}
    {ok' : τ → α → Prop} {R : σ → τ → Prop}
    (keep : ∀ s t a, R s t → ok s a → ok' t a → R (step s a) (step' t a)) {s : σ} {t : τ}
    {as : List α} (start : R s t) (run : Meets step ok s as) (run' : Meets step' ok' t as) :
    R (as.foldl step s) (as.foldl step' t) := by
  induction as generalizing s t with
  | nil => exact start
  | cons a as ih => exact ih (keep s t a start run.1 run'.1) run.2 run'.2

end Support
