import Mathlib.Data.List.Basic

/-!
Regular expressions that backtrack: all that an expression can take from a place in a text,
in the order in which a matcher tries it. The first is the match. Only classes of single
characters are repeated, so that every expression takes finitely many words.
-/

namespace Support
universe u
variable {α : Type u}

inductive Regex (α : Type u) where
  | empty
  | one (p : α → Bool)
  /-- As many as there are, and fewer where that does not lead on. -/
  | many (p : α → Bool)
  /-- A look at what is before, nearest first, and at what is behind. -/
  | look (p : List α → List α → Bool)
  | seq (a b : Regex α)
  | alt (a b : Regex α)
  | group (n : ℕ) (a : Regex α)

/-- What was taken, and what the groups have taken of it. -/
structure Found (α : Type u) where
  word : List α
  groups : List (ℕ × List α)
deriving DecidableEq

/-- A match, between what is before it, nearest first, and what is behind. -/
structure Hit (α : Type u) where
  before : List α
  found : Found α
  rest : List α
deriving DecidableEq

namespace Hit

/-- A group that took no part is empty. -/
def group (h : Hit α) (n : ℕ) : List α := (h.found.groups.lookup n).getD []

def passed (h : Hit α) : List α := h.found.word.reverse ++ h.before

end Hit

namespace Regex

def plus (p : α → Bool) : Regex α := .seq (.one p) (.many p)

def opt (a : Regex α) : Regex α := .alt a .empty

def all (parts : List (Regex α)) : Regex α := parts.foldr .seq .empty

def finds : Regex α → List α → List α → List (Found α)
  | .empty, _, _ => [⟨[], []⟩]
  | .one _, _, [] => []
  | .one p, _, c :: _ => if p c then [⟨[c], []⟩] else []
  | .many p, _, rest => (rest.takeWhile p).inits.reverse.map (⟨·, []⟩)
  | .look p, before, rest => if p before rest then [⟨[], []⟩] else []
  | .seq a b, before, rest =>
      (a.finds before rest).flatMap fun f =>
        (b.finds (f.word.reverse ++ before) (rest.drop f.word.length)).map fun g =>
          ⟨f.word ++ g.word, f.groups ++ g.groups⟩
  | .alt a b, before, rest => a.finds before rest ++ b.finds before rest
  | .group n a, before, rest =>
      (a.finds before rest).map fun f => ⟨f.word, f.groups ++ [(n, f.word)]⟩

def matchAt (r : Regex α) (before rest : List α) : Option (Hit α) :=
  (r.finds before rest).head?.map fun f => ⟨before, f, rest.drop f.word.length⟩

/-- The first match from a place on. -/
def search (r : Regex α) : List α → List α → Option (Hit α)
  | before, [] => r.matchAt before []
  | before, c :: rest =>
      match r.matchAt before (c :: rest) with
      | some h => some h
      | none => search r (c :: before) rest

/-- The matches one after the other, of an expression that takes a character at least. -/
def findFrom (r : Regex α) : ℕ → List α → List α → List (Hit α)
  | 0, _, _ => []
  | n + 1, before, rest =>
      match r.search before rest with
      | none => []
      | some h => h :: findFrom r n h.passed h.rest

def findIter (r : Regex α) (text : List α) : List (Hit α) := r.findFrom (text.length + 1) [] text

def subFrom (r : Regex α) (f : Hit α → List α) : ℕ → List α → List α → List α
  | 0, _, rest => rest
  | n + 1, before, rest =>
      match r.search before rest with
      | none => rest
      | some h =>
          rest.take (h.before.length - before.length) ++ f h ++ subFrom r f n h.passed h.rest

/-- Each match replaced. -/
def sub (r : Regex α) (f : Hit α → List α) (text : List α) : List α :=
  r.subFrom f (text.length + 1) [] text

/-- There is a match exactly if there is a first one. -/
theorem findIter_eq_nil_iff (r : Regex α) (text : List α) :
    r.findIter text = [] ↔ r.search [] text = none := by
  rw [findIter, findFrom]
  cases r.search [] text with
  | none => simp
  | some h => simp

end Regex
end Support
