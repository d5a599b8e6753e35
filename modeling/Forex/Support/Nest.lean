import Mathlib.Data.List.Basic

/-!
Code whose writes stand inside transaction blocks, with handlers anywhere. A
block within a block may belong to the enclosing one, so that its writes go the
way of that one, or be undone on its own when an exception leaves it. The two
meanings agree exactly where a block left so has no write that remains.
-/

namespace Support
universe u
variable {ω : Type u}

/-- Code on one connection; the index says whether it stands inside a block. -/
inductive Code (ω : Type u) : Bool → Type u where
  | skip {inside : Bool} : Code ω inside
  | raise {inside : Bool} : Code ω inside
  | write (w : ω) : Code ω true
  | seq {inside : Bool} (p q : Code ω inside) : Code ω inside
  | block {inside : Bool} (p : Code ω true) : Code ω inside
  | guarded {inside : Bool} (p handler : Code ω inside) : Code ω inside

namespace Code

/-- The code is left by an exception. -/
def raises {i : Bool} : Code ω i → Bool
  | skip | write _ => false
  | raise => true
  | seq p q => p.raises || q.raises
  | block p => p.raises
  | guarded p handler => p.raises && handler.raises

/-- The writes that remain when only the outermost block undoes its own. -/
def remains : {i : Bool} → Code ω i → List ω
  | _, skip | _, raise => []
  | _, write w => [w]
  | _, seq p q => p.remains ++ if p.raises then [] else q.remains
  | true, block p => p.remains
  | false, block p => if p.raises then [] else p.remains
  | _, guarded p handler => p.remains ++ if p.raises then handler.remains else []

/-- The writes outside every block that is left by an exception. -/
def kept {i : Bool} : Code ω i → List ω
  | skip | raise => []
  | write w => [w]
  | seq p q => p.kept ++ if p.raises then [] else q.kept
  | block p => if p.raises then [] else p.kept
  | guarded p handler => p.kept ++ if p.raises then handler.kept else []

/-- In an outermost block that completes, no block is left by an exception with
a write carried out in it. -/
def Tidy : {i : Bool} → Code ω i → Prop
  | _, skip | _, raise | _, write _ => True
  | _, seq p q => p.Tidy ∧ (p.raises = false → q.Tidy)
  | true, block p => if p.raises then p.remains = [] else p.Tidy
  | false, block p => p.raises = false → p.Tidy
  | _, guarded p handler => p.Tidy ∧ (p.raises = true → handler.Tidy)

theorem kept_sublist {i : Bool} (p : Code ω i) : p.kept.Sublist p.remains := by
  induction p with
  | skip | raise | write _ => exact List.Sublist.refl _
  | seq p q ihp ihq =>
      refine ihp.append ?_
      split
      · exact List.Sublist.refl _
      · exact ihq
  | @block inside p ih =>
      rw [kept]
      split
      · exact List.nil_sublist _
      · next completes =>
          cases inside with
          | true => exact ih
          | false =>
              rw [remains, if_neg completes]
              exact ih
  | guarded p handler ihp ihh =>
      refine ihp.append ?_
      split
      · exact ihh
      · exact List.Sublist.refl _

/-- Lists of which one part is a sublist of the other's agree part by part. -/
theorem append_eq_append_of_sublist {a b c d : List ω} (ac : a.Sublist c) (bd : b.Sublist d) :
    c ++ d = a ++ b ↔ c = a ∧ d = b := by
  constructor
  · intro same
    have lengths := congrArg List.length same
    rw [List.length_append, List.length_append] at lengths
    have first := ac.length_le
    have second := bd.length_le
    exact ⟨(ac.eq_of_length (by omega)).symm, (bd.eq_of_length (by omega)).symm⟩
  · rintro ⟨rfl, rfl⟩
    rfl

theorem remains_eq_kept_iff {i : Bool} (p : Code ω i) : p.remains = p.kept ↔ p.Tidy := by
  induction p with
  | skip | raise | write _ => simp [remains, kept, Tidy]
  | seq p q ihp ihq =>
      rw [remains, kept, Tidy]
      cases left : p.raises with
      | true => simpa using ihp
      | false =>
          rw [if_neg Bool.false_ne_true, if_neg Bool.false_ne_true,
            append_eq_append_of_sublist p.kept_sublist q.kept_sublist, ihp, ihq]
          simp
  | @block inside p ih =>
      cases inside with
      | true =>
          rw [remains, kept, Tidy]
          cases left : p.raises with
          | true => simp
          | false => simpa using ih
      | false =>
          rw [remains, kept, Tidy]
          cases left : p.raises with
          | true => simp
          | false => simpa using ih
  | guarded p handler ihp ihh =>
      rw [remains, kept, Tidy]
      cases left : p.raises with
      | false => simpa using ihp
      | true =>
          rw [if_pos rfl, if_pos rfl,
            append_eq_append_of_sublist p.kept_sublist handler.kept_sublist, ihp, ihh]
          simp

/-- Pieces of code one after another. -/
def all {i : Bool} : List (Code ω i) → Code ω i
  | [] => skip
  | p :: rest => seq p (all rest)

/-- Code that catches its own exceptions goes on whatever happens in it. -/
theorem raises_all_guarded {i : Bool} (ps : List (Code ω i)) :
    (all (ps.map fun p => guarded p skip)).raises = false := by
  induction ps with
  | nil => rfl
  | cons p rest ih => simpa [all, raises] using ih

theorem remains_all_guarded {i : Bool} (ps : List (Code ω i)) :
    (all (ps.map fun p => guarded p skip)).remains = ps.flatMap remains := by
  induction ps with
  | nil => cases i <;> rfl
  | cons p rest ih => cases i <;> simp [all, raises, remains, ih]

end Code
end Support
