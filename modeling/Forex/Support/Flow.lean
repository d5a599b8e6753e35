import Mathlib.Data.List.Basic

/-!
Loops that may be left early. A body hands its state on to the next element or
leaves the loop with it. The rules carry an invariant through the elements the
loop comes to, under a condition met in the state it comes to each of them in,
or together with what the last element that says anything has said.
-/

namespace Support
universe u v
variable {σ : Type u} {α : Type v}

inductive Flow (σ : Type u) where
  | next (s : σ)
  | stop (s : σ)

namespace Flow

def state : Flow σ → σ
  | .next s => s
  | .stop s => s

/-- What follows the loop is not told how it was left. -/
def fold (f : σ → α → Flow σ) : σ → List α → σ
  | s, [] => s
  | s, a :: as =>
      match f s a with
      | .next s => fold f s as
      | .stop s => s

def Goes (p : σ → Prop) : Flow σ → Prop
  | .next s => p s
  | .stop _ => True

instance (p : σ → Prop) [∀ s, Decidable (p s)] : ∀ x : Flow σ, Decidable (x.Goes p)
  | .next s => inferInstanceAs (Decidable (p s))
  | .stop _ => isTrue True.intro

def Leads (I Q : σ → Prop) : Flow σ → Prop
  | .next s => I s
  | .stop s => Q s

/-- Each element the loop comes to meets the condition in the state the loop
comes to it in. -/
def Meets (f : σ → α → Flow σ) (ok : σ → α → Prop) : σ → List α → Prop
  | _, [] => True
  | s, a :: as => ok s a ∧ (f s a).Goes fun s => Meets f ok s as

instance decidableMeets (f : σ → α → Flow σ) (ok : σ → α → Prop) [∀ s a, Decidable (ok s a)] :
    ∀ s as, Decidable (Meets f ok s as)
  | _, [] => isTrue True.intro
  | s, a :: as =>
      have := fun s => decidableMeets f ok s as
      inferInstanceAs (Decidable (ok s a ∧ (f s a).Goes fun s => Meets f ok s as))

/-- The verdict of the last element that gives one, else the one held before. -/
def lastSaid (f : σ → α → Flow σ) (said : σ → α → Option Bool) : Bool → σ → List α → Bool
  | held, _, [] => held
  | held, s, a :: as =>
      let held := (said s a).getD held
      match f s a with
      | .next s => lastSaid f said held s as
      | .stop _ => held

theorem leads_self {I : σ → Prop} : ∀ {x : Flow σ}, x.Leads I I ↔ I x.state
  | .next _ => Iff.rfl
  | .stop _ => Iff.rfl

variable {f : σ → α → Flow σ}

/-- The loop comes to its end with `I`, or is left with `Q`, which `I` gives. -/
theorem fold_leads {ok : σ → α → Prop} {I Q : σ → Prop} {as : List α}
    (keep : ∀ s, ∀ a ∈ as, I s → ok s a → (f s a).Leads I Q) (done : ∀ s, I s → Q s)
    {s : σ} (start : I s) (run : Meets f ok s as) : Q (fold f s as) := by
  induction as generalizing s with
  | nil => exact done s start
  | cons a as ih =>
      have kept := keep s a List.mem_cons_self start run.1
      have onward := run.2
      rw [fold]
      cases result : f s a with
      | next s' =>
          rw [result] at kept onward
          exact ih (fun s a mem => keep s a (List.mem_cons_of_mem _ mem)) kept onward
      | stop s' =>
          rw [result] at kept
          exact kept

theorem meets_true (s : σ) (as : List α) : Meets f (fun _ _ => True) s as := by
  induction as generalizing s with
  | nil => exact True.intro
  | cons a as ih =>
      refine ⟨True.intro, ?_⟩
      cases f s a with
      | next s' => exact ih s'
      | stop s' => exact True.intro

/-- An invariant that every element keeps. -/
theorem fold_keeps {I : σ → Prop} {as : List α}
    (keep : ∀ s, ∀ a ∈ as, I s → (f s a).Leads I I) {s : σ} (start : I s) : I (fold f s as) :=
  fold_leads (fun s a mem held _ => keep s a mem held) (fun _ held => held) start (meets_true s as)

/-- An invariant that the elements before one that leaves the loop keep. -/
theorem fold_left_at {I : σ → Prop} {front rest : List α} {a : α}
    (keep : ∀ s, ∀ b ∈ front, I s → (f s b).Leads I I)
    (leaves : ∀ s, I s → (f s a).Leads (fun _ => False) I) {s : σ} (start : I s) :
    I (fold f s (front ++ a :: rest)) := by
  induction front generalizing s with
  | nil =>
      have left := leaves s start
      rw [List.nil_append, fold]
      cases result : f s a with
      | next s' =>
          rw [result] at left
          exact left.elim
      | stop s' =>
          rw [result] at left
          exact left
  | cons b front ih =>
      have kept := keep s b List.mem_cons_self start
      rw [List.cons_append, fold]
      cases result : f s b with
      | next s' =>
          rw [result] at kept
          exact ih (fun s b mem => keep s b (List.mem_cons_of_mem _ mem)) kept
      | stop s' =>
          rw [result] at kept
          exact kept

/-- What each element leaves as it was exactly if its condition is met, all of them leave so
exactly if each meets its condition. -/
theorem fold_iff_meets {ok : σ → α → Prop} {I Q : σ → Prop} {as : List α}
    (each : ∀ s, ∀ a ∈ as, I s → I (f s a).state ∧ (Q (f s a).state ↔ Q s ∧ ok s a)) {s : σ}
    (start : I s) : Q (fold f s as) ↔ Q s ∧ Meets f ok s as := by
  induction as generalizing s with
  | nil => exact (and_iff_left True.intro).symm
  | cons a as ih =>
      obtain ⟨kept, same⟩ := each s a List.mem_cons_self start
      rw [fold, Meets]
      cases result : f s a with
      | next s' =>
          rw [result] at kept same
          have onward := ih (fun s a mem => each s a (List.mem_cons_of_mem _ mem)) kept
          exact onward.trans ((and_congr_left' same).trans and_assoc)
      | stop s' =>
          rw [result] at same
          exact same.trans (and_congr_right' (and_iff_left True.intro).symm)

theorem lastSaid_invariant {said : σ → α → Option Bool} {J : Bool → σ → Prop} {as : List α}
    (keep : ∀ held s, ∀ a ∈ as, J held s → J ((said s a).getD held) (f s a).state)
    {held : Bool} {s : σ} (start : J held s) : J (lastSaid f said held s as) (fold f s as) := by
  induction as generalizing held s with
  | nil => exact start
  | cons a as ih =>
      have kept := keep held s a List.mem_cons_self start
      rw [fold, lastSaid]
      cases result : f s a with
      | next s' =>
          rw [result] at kept
          exact ih (fun held s a mem => keep held s a (List.mem_cons_of_mem _ mem)) kept
      | stop s' =>
          rw [result] at kept
          exact kept

end Flow
end Support
