import Mathlib.Data.List.Basic
import Mathlib.Data.List.Range
import Mathlib.Order.Lattice

/-!
A loop over a list that a result may leave early, and what it can know of the
list: where it is left is decided by the elements up to there, so that lists
that agree so far give the same result. And a loop that goes on while a
condition holds, which ends where each step leaves less to do.
-/

namespace Support
universe u v w
variable {σ : Type u} {α : Type v} {ε : Type w}

/-- The result with the index where the loop was left, or the variables after the last
element. -/
def loop (body : σ → α → ε ⊕ σ) : ℕ → σ → List α → (ℕ × ε) ⊕ σ
  | _, s, [] => .inr s
  | i, s, a :: as =>
      match body s a with
      | .inl e => .inl (i, e)
      | .inr s => loop body (i + 1) s as

/-- The same elements up to an index, or the same end before it. -/
def AgreeTo (k : ℕ) (as bs : List α) : Prop := ∀ i ≤ k, as[i]? = bs[i]?

namespace AgreeTo
variable {k : ℕ} {as bs : List α}

theorem refl (k : ℕ) (as : List α) : AgreeTo k as as := fun _ _ => rfl

theorem symm (agree : AgreeTo k as bs) : AgreeTo k bs as := fun i le => (agree i le).symm

theorem mono {j : ℕ} (agree : AgreeTo k as bs) (le : j ≤ k) : AgreeTo j as bs := fun i short =>
  agree i (Nat.le_trans short le)

theorem map {β : Type w} (f : α → β) (agree : AgreeTo k as bs) :
    AgreeTo k (as.map f) (bs.map f) := by
  intro i le
  rw [List.getElem?_map, List.getElem?_map, agree i le]

theorem drop (agree : AgreeTo k as bs) {n : ℕ} (inside : n ≤ k) :
    AgreeTo (k - n) (as.drop n) (bs.drop n) := by
  intro i le
  rw [List.getElem?_drop, List.getElem?_drop]
  exact agree _ (by omega)

theorem take (agree : AgreeTo k as bs) (n : ℕ) : AgreeTo k (as.take n) (bs.take n) := by
  intro i le
  rw [List.getElem?_take, List.getElem?_take, agree i le]

/-- A list that ends early is all the same. -/
theorem eq_of_length_le (agree : AgreeTo k as bs) (short : as.length ≤ k) : as = bs := by
  have none : bs[k]? = none := by rw [← agree k (Nat.le_refl k), List.getElem?_eq_none short]
  have short' : bs.length ≤ k := List.getElem?_eq_none_iff.mp none
  apply List.ext_getElem?
  intro i
  by_cases inside : i ≤ k
  · exact agree i inside
  · rw [List.getElem?_eq_none (by omega), List.getElem?_eq_none (by omega)]

/-- Segments that end by the index are the same. -/
theorem take_eq (agree : AgreeTo k as bs) {n : ℕ} (short : n ≤ k + 1) : as.take n = bs.take n := by
  apply List.ext_getElem?
  intro i
  rw [List.getElem?_take, List.getElem?_take]
  split_ifs with inside
  · exact agree i (by omega)
  · rfl

/-- Lists that go on differently behind the index. -/
theorem append {ls : List α} (behind : k < ls.length) (as bs : List α) :
    AgreeTo k (ls ++ as) (ls ++ bs) := by
  intro i le
  rw [List.getElem?_append_left (by omega), List.getElem?_append_left (by omega)]

theorem head_tail {a : α} (agree : AgreeTo k (a :: as) bs) :
    ∃ rest, bs = a :: rest ∧ ∀ j < k, AgreeTo j as rest := by
  cases bs with
  | nil => exact absurd (agree 0 (Nat.zero_le k)) (by simp)
  | cons b rest =>
      have same : a = b := Option.some.inj (agree 0 (Nat.zero_le k))
      refine ⟨rest, by rw [same], fun j lt i le => ?_⟩
      exact agree (i + 1) (by omega)

end AgreeTo

section Loop
variable {body : σ → α → ε ⊕ σ}

theorem loop_index {i j : ℕ} {s : σ} {as : List α} {e : ε} (left : loop body i s as = .inl (j, e)) :
    i ≤ j ∧ j < i + as.length := by
  induction as generalizing i s with
  | nil => nomatch left
  | cons a as ih =>
      rw [loop] at left
      split at left
      · cases left
        exact ⟨Nat.le_refl _, by simp⟩
      · have rest := ih left
        rw [List.length_cons]
        omega

/-- Where a loop is left, and with what, is known from the elements up to there. -/
theorem loop_of_agreeTo {i j : ℕ} {s : σ} {as bs : List α} {e : ε}
    (left : loop body i s as = .inl (j, e)) (agree : AgreeTo (j - i) as bs) :
    loop body i s bs = .inl (j, e) := by
  induction as generalizing i s bs with
  | nil => nomatch left
  | cons a as ih =>
      obtain ⟨rest, rfl, later⟩ := agree.head_tail
      rw [loop] at left ⊢
      split at left
      · exact left
      · have further := (loop_index left).1
        exact ih left (later _ (by omega))

theorem loop_append {i : ℕ} {s t : σ} {as : List α} (bs : List α)
    (ended : loop body i s as = .inr t) :
    loop body i s (as ++ bs) = loop body (i + as.length) t bs := by
  induction as generalizing i s with
  | nil =>
      cases ended
      rfl
  | cons a as ih =>
      rw [List.cons_append, loop]
      rw [loop] at ended
      split at ended
      · nomatch ended
      · rw [ih ended, List.length_cons]
        congr 1
        omega

/-- A loop that is left has come through all elements before. -/
theorem loop_left_split {i j : ℕ} {s : σ} {as : List α} {e : ε}
    (left : loop body i s as = .inl (j, e)) :
    ∃ pre a post t, as = pre ++ a :: post ∧ j = i + pre.length ∧
      loop body i s pre = .inr t ∧ body t a = .inl e := by
  induction as generalizing i s with
  | nil => nomatch left
  | cons a as ih =>
      rw [loop] at left
      cases result : body s a with
      | inl e' =>
          rw [result] at left
          cases left
          exact ⟨[], a, as, s, rfl, rfl, rfl, result⟩
      | inr s' =>
          rw [result] at left
          obtain ⟨pre, b, post, t, rfl, rfl, ended, leaves⟩ := ih left
          refine ⟨a :: pre, b, post, t, rfl, ?_, ?_, leaves⟩
          · rw [List.length_cons]
            omega
          · rw [loop, result]
            exact ended

/-- A loop that comes to the end has come through all elements before the last. -/
theorem loop_concat {i : ℕ} {s t : σ} {as : List α} {a : α}
    (ended : loop body i s (as ++ [a]) = .inr t) :
    ∃ t', loop body i s as = .inr t' ∧ body t' a = .inr t := by
  induction as generalizing i s with
  | nil =>
      rw [List.nil_append, loop] at ended
      split at ended
      · nomatch ended
      · next result =>
        cases ended
        exact ⟨s, rfl, result⟩
  | cons b as ih =>
      rw [List.cons_append, loop] at ended
      split at ended
      · nomatch ended
      · next result =>
        obtain ⟨t', before, last⟩ := ih ended
        refine ⟨t', ?_, last⟩
        rw [loop, result]
        exact before

/-- What each body carries on from the elements so far holds of all at the end. -/
theorem loop_carries {I : List α → σ → Prop}
    (keep : ∀ pre a t t', I pre t → body t a = .inr t' → I (pre ++ [a]) t') {i : ℕ} {s t : σ}
    {as : List α} (start : I [] s) (ended : loop body i s as = .inr t) : I as t := by
  suffices general : ∀ pre i s, I pre s → loop body i s as = .inr t → I (pre ++ as) t from
    general [] i s start ended
  clear start ended
  induction as with
  | nil =>
      intro pre i s held ended
      cases ended
      rwa [List.append_nil]
  | cons a as ih =>
      intro pre i s held ended
      rw [loop] at ended
      split at ended
      · nomatch ended
      · next result =>
        rw [List.append_cons]
        exact ih _ _ _ (keep _ _ _ _ held result) ended

end Loop

section Visited
variable (body : σ → α → ε ⊕ σ) (after : σ → α → σ)

/-- The variables that the loop comes to. -/
def visited : σ → List α → List σ
  | s, [] => [s]
  | s, a :: as =>
      s ::
        match body s a with
        | .inl _ => []
        | .inr s => visited s as

/-- The variables that the loop ends with, where `after` says what they are when the body
leaves it. -/
def lastVars : σ → List α → σ
  | s, [] => s
  | s, a :: as =>
      match body s a with
      | .inl _ => after s a
      | .inr s => lastVars s as

variable {body after} {I : σ → Prop} {as : List α}

theorem visited_head? (s : σ) (as : List α) : (visited body s as).head? = some s := by
  cases as <;> rfl

/-- A loop that is left is left by the body of an element, from the invariant. -/
theorem loop_left (keep : ∀ s, ∀ a ∈ as, I s → ∀ s', body s a = .inr s' → I s') {i j : ℕ} {s : σ}
    {e : ε} (start : I s) (left : loop body i s as = .inl (j, e)) :
    ∃ t a, I t ∧ as[j - i]? = some a ∧ body t a = .inl e ∧
      lastVars body after s as = after t a := by
  induction as generalizing i s with
  | nil => nomatch left
  | cons a as ih =>
      rw [loop] at left
      rw [lastVars]
      cases result : body s a with
      | inl e' =>
          rw [result] at left
          cases left
          exact ⟨s, a, start, by simp, result, rfl⟩
      | inr s' =>
          rw [result] at left
          obtain ⟨t, b, held, at_, leaves, last⟩ :=
            ih (fun s a mem => keep s a (List.mem_cons_of_mem _ mem))
              (keep s a List.mem_cons_self start s' result) left
          have later := (loop_index left).1
          refine ⟨t, b, held, ?_, leaves, last⟩
          rw [show j - i = j - (i + 1) + 1 by omega, List.getElem?_cons_succ]
          exact at_

/-- A loop that comes to the end of the list keeps the invariant, and its last body does
not leave it. -/
theorem loop_over (keep : ∀ s, ∀ a ∈ as, I s → ∀ s', body s a = .inr s' → I s') {i : ℕ} {s t : σ}
    (start : I s) (ended : loop body i s as = .inr t) :
    lastVars body after s as = t ∧ I t ∧
      ∀ a, as.getLast? = some a → ∃ s, I s ∧ body s a = .inr t := by
  induction as generalizing i s with
  | nil =>
      cases ended
      exact ⟨rfl, start, fun a last => nomatch last⟩
  | cons a as ih =>
      rw [loop] at ended
      rw [lastVars]
      cases result : body s a with
      | inl e => simp [result] at ended
      | inr s' =>
          rw [result] at ended
          have next := keep s a List.mem_cons_self start s' result
          obtain ⟨last, held, lastBody⟩ :=
            ih (fun s a mem => keep s a (List.mem_cons_of_mem _ mem)) next ended
          refine ⟨last, held, fun b isLast => ?_⟩
          cases as with
          | nil =>
              cases ended
              cases isLast
              exact ⟨s, start, result⟩
          | cons c as => exact lastBody b (by rwa [List.getLast?_cons_cons] at isLast)

/-- What no body lowers only rises along the loop. -/
theorem visited_pairwise {K : Type*} [Preorder K] {f : σ → K}
    (keep : ∀ s, ∀ a ∈ as, I s → ∀ s', body s a = .inr s' → I s' ∧ f s ≤ f s') {s : σ}
    (start : I s) :
    ((visited body s as).map f).Pairwise (· ≤ ·) ∧ ∀ t ∈ visited body s as, I t ∧ f s ≤ f t := by
  induction as generalizing s with
  | nil =>
      refine ⟨List.pairwise_singleton _ _, fun t mem => ?_⟩
      rw [List.mem_singleton.mp mem]
      exact ⟨start, le_rfl⟩
  | cons a as ih =>
      rw [visited]
      cases result : body s a with
      | inl e =>
          refine ⟨List.pairwise_singleton _ _, fun t mem => ?_⟩
          rw [List.mem_singleton.mp mem]
          exact ⟨start, le_rfl⟩
      | inr s' =>
          obtain ⟨next, rises⟩ := keep s a List.mem_cons_self start s' result
          obtain ⟨ordered, above⟩ := ih (fun s a mem => keep s a (List.mem_cons_of_mem _ mem)) next
          refine ⟨List.pairwise_cons.mpr ⟨fun x mem => ?_, ordered⟩, fun t mem => ?_⟩
          · obtain ⟨t, held, rfl⟩ := List.mem_map.mp mem
            exact rises.trans (above t held).2
          · rcases List.mem_cons.mp mem with rfl | later
            · exact ⟨start, le_rfl⟩
            · exact ⟨(above t later).1, rises.trans (above t later).2⟩

end Visited

section While
variable (cond : σ → Bool) (step : σ → σ)

/-- A loop that goes on while the condition holds, for so many steps at most. -/
def whileLoop : ℕ → σ → Option σ
  | 0, s => if cond s then none else some s
  | fuel + 1, s => if cond s then whileLoop fuel (step s) else some s

variable {cond step} {I : σ → Prop}

/-- A loop ends where each step leaves less to do, and its invariant holds at the end. -/
theorem whileLoop_ends (left : σ → ℕ)
    (keep : ∀ s, I s → cond s = true → I (step s) ∧ left (step s) < left s) {fuel : ℕ} {s : σ}
    (start : I s) (enough : left s ≤ fuel) :
    ∃ t, whileLoop cond step fuel s = some t ∧ I t ∧ cond t = false := by
  induction fuel generalizing s with
  | zero =>
      have done : cond s = false := by
        by_contra more
        have less := (keep s start (eq_true_of_ne_false more)).2
        omega
      exact ⟨s, by simp [whileLoop, done], start, done⟩
  | succ fuel ih =>
      cases more : cond s with
      | false => exact ⟨s, by simp [whileLoop, more], start, more⟩
      | true =>
          obtain ⟨next, less⟩ := keep s start more
          obtain ⟨t, ended, held, done⟩ := ih next (by omega)
          exact ⟨t, by simp [whileLoop, more, ended], held, done⟩

end While

/-- A search from the last index down ends at the last index that gives a result. -/
theorem findSome?_range_reverse {β : Type w} {f : ℕ → Option β} {n : ℕ} {b : β} :
    (List.range n).reverse.findSome? f = some b ↔
      ∃ i < n, f i = some b ∧ ∀ j, i < j → j < n → f j = none := by
  induction n with
  | zero => simp
  | succ n ih =>
      rw [List.range_succ, List.reverse_append, List.reverse_singleton, List.singleton_append,
        List.findSome?_cons]
      cases last : f n with
      | some c =>
          constructor
          · intro found
            cases found
            exact ⟨n, n.lt_succ_self, last, fun j later short => absurd short (by omega)⟩
          · rintro ⟨i, short, found, none⟩
            rcases Nat.lt_succ_iff_lt_or_eq.mp short with before | rfl
            · rw [none n before n.lt_succ_self] at last
              nomatch last
            · exact last.symm.trans found
      | none =>
          rw [ih]
          constructor
          · rintro ⟨i, short, found, none⟩
            refine ⟨i, short.trans n.lt_succ_self, found, fun j later lt => ?_⟩
            rcases Nat.lt_succ_iff_lt_or_eq.mp lt with before | rfl
            · exact none j later before
            · exact last
          · rintro ⟨i, short, found, none⟩
            have ne : i ≠ n := by
              rintro rfl
              rw [last] at found
              nomatch found
            exact ⟨i, by omega, found, fun j later lt => none j later (by omega)⟩

end Support
