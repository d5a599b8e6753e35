import Mathlib.Data.List.Infix

/-!
Where a word can occur in a message. A message is written from a pattern, literal
pieces with fields between them, and a field is either a figure, which has none of
the word's characters, or a name, which may be any text at all. If no occurrence
can begin in a piece and none can reach into one from the name before it, the word
occurs in the message just when it occurs in one of the names.
-/

namespace Support
universe u v
variable {α : Type u} {β : Type v}

/-- Neither list begins the other. -/
def Clash (a b : List α) : Prop := ¬ a <+: b ∧ ¬ b <+: a

/-- The lists differ at a place that both have. -/
def clashes [DecidableEq α] : List α → List α → Bool
  | a :: as, b :: bs => if a = b then clashes as bs else true
  | _, _ => false

theorem clash_iff [DecidableEq α] {a b : List α} : clashes a b = true ↔ Clash a b := by
  induction a generalizing b with
  | nil => simp [clashes, Clash]
  | cons c a ih =>
      cases b with
      | nil => simp [clashes, Clash]
      | cons d b =>
          rw [clashes, Clash, List.cons_prefix_cons, List.cons_prefix_cons]
          by_cases same : c = d
          · simpa [same, Clash] using ih
          · simp [same, Ne.symm same]

instance [DecidableEq α] (a b : List α) : Decidable (Clash a b) :=
  decidable_of_iff (clashes a b = true) clash_iff

theorem Clash.not_prefix_append {a b rest : List α} (clash : Clash a b) : ¬ a <+: b ++ rest :=
  fun begins =>
    (List.prefix_or_prefix_of_prefix begins (List.prefix_append b rest)).elim clash.1 clash.2

/-- No occurrence of the word begins in the piece, whatever comes after it. -/
def NoneBegins (word piece : List α) : Prop := ∀ s ∈ piece.tails, s ≠ [] → Clash word s

/-- No occurrence that has begun before the piece goes on in it. -/
def NoneReaches (word piece : List α) : Prop :=
  ∀ s ∈ word.tails, s ≠ [] → s ≠ word → Clash s piece

instance [DecidableEq α] (word piece : List α) : Decidable (NoneBegins word piece) :=
  inferInstanceAs (Decidable (∀ s ∈ piece.tails, _))

instance [DecidableEq α] (word piece : List α) : Decidable (NoneReaches word piece) :=
  inferInstanceAs (Decidable (∀ s ∈ word.tails, _))

theorem infix_append_of_noneBegins {word piece rest : List α} (none : NoneBegins word piece) :
    word <:+: piece ++ rest ↔ word <:+: rest := by
  induction piece with
  | nil => rfl
  | cons c piece ih =>
      rw [NoneBegins, List.tails_cons, List.forall_mem_cons] at none
      have here : ¬ word <+: (c :: piece) ++ rest :=
        (none.1 (List.cons_ne_nil c piece)).not_prefix_append
      rw [List.cons_append, List.infix_cons_iff, ih none.2]
      exact or_iff_right here

theorem infix_append_of_noneReaches {word name piece rest : List α}
    (none : NoneReaches word piece) :
    word <:+: name ++ (piece ++ rest) ↔ word <:+: name ∨ word <:+: piece ++ rest := by
  rw [List.infix_append_iff, ← or_assoc]
  refine or_iff_left_of_imp ?_
  rintro ⟨front, back, rfl, ends, begins⟩
  by_cases all : front = []
  · rw [all, List.nil_append]
    exact .inr begins.isInfix
  · by_cases past : back = []
    · rw [past, List.append_nil]
      exact .inl ends.isInfix
    · have proper : back ≠ front ++ back := fun same =>
        all (List.append_left_eq_self.mp same.symm)
      have tail : back ∈ (front ++ back).tails := (List.mem_tails _ _).mpr (List.suffix_append _ _)
      exact absurd begins (none back tail past proper).not_prefix_append

theorem infix_append_of_disjoint {word figure rest : List α} (apart : ∀ c ∈ figure, c ∉ word) :
    word <:+: figure ++ rest ↔ word <:+: rest := by
  induction figure with
  | nil => rfl
  | cons c figure ih =>
      rw [List.forall_mem_cons] at apart
      rw [List.cons_append, List.infix_cons_iff, ih apart.2]
      refine or_iff_right_of_imp fun begins => ?_
      cases word with
      | nil => exact List.nil_infix
      | cons d word =>
          exact absurd (List.cons_prefix_cons.mp begins).1 fun same =>
            apart.1 (same ▸ List.mem_cons_self)

inductive Piece (α : Type u) where
  | lit (text : List α)
  | name (i : ℕ)
  | figure (i : ℕ)
deriving DecidableEq

/-- What is written into the fields. -/
structure Fields (α : Type u) where
  names : ℕ → List α
  figures : ℕ → List α

namespace Fields

def write (fields : Fields α) : Piece α → List α
  | .lit text => text
  | .name i => fields.names i
  | .figure i => fields.figures i

def render (fields : Fields α) (pattern : List (Piece α)) : List α :=
  pattern.flatMap fields.write

@[simp] theorem render_nil (fields : Fields α) : fields.render [] = [] := rfl

@[simp] theorem render_cons (fields : Fields α) (piece : Piece α) (pattern : List (Piece α)) :
    fields.render (piece :: pattern) = fields.write piece ++ fields.render pattern := rfl

def map (f : α → β) (fields : Fields α) : Fields β :=
  ⟨fun i => (fields.names i).map f, fun i => (fields.figures i).map f⟩

end Fields

def Piece.map (f : α → β) : Piece α → Piece β
  | .lit text => .lit (text.map f)
  | .name i => .name i
  | .figure i => .figure i

/-- No piece lets the word begin in it, or reach into it from the name before. A
piece that ends the message, or has a figure after it, need only be without it. -/
def Separates (word : List α) : List (Piece α) → Prop
  | [] => True
  | [.lit text] => ¬ word <:+: text
  | .lit text :: .figure _ :: rest => ¬ word <:+: text ∧ Separates word rest
  | .lit text :: rest => NoneBegins word text ∧ Separates word rest
  | .figure _ :: rest => Separates word rest
  | [.name _] => True
  | .name _ :: .lit text :: rest => NoneReaches word text ∧ Separates word (.lit text :: rest)
  | .name _ :: _ => False

instance decidableSeparates [DecidableEq α] (word : List α) :
    ∀ pattern, Decidable (Separates word pattern)
  | [] => isTrue True.intro
  | [.lit text] => inferInstanceAs (Decidable (¬ word <:+: text))
  | .lit text :: .figure _ :: rest =>
      have := decidableSeparates word rest
      inferInstanceAs (Decidable (¬ word <:+: text ∧ Separates word rest))
  | .lit text :: .lit text' :: rest =>
      have := decidableSeparates word (.lit text' :: rest)
      inferInstanceAs (Decidable (NoneBegins word text ∧ Separates word (.lit text' :: rest)))
  | .lit text :: .name i :: rest =>
      have := decidableSeparates word (.name i :: rest)
      inferInstanceAs (Decidable (NoneBegins word text ∧ Separates word (.name i :: rest)))
  | .figure _ :: rest => decidableSeparates word rest
  | [.name _] => isTrue True.intro
  | .name _ :: .lit text :: rest =>
      have := decidableSeparates word (.lit text :: rest)
      inferInstanceAs (Decidable (NoneReaches word text ∧ Separates word (.lit text :: rest)))
  | .name _ :: .name _ :: _ => isFalse id
  | .name _ :: .figure _ :: _ => isFalse id

theorem not_infix_of_noneBegins {word piece : List α} (some' : word ≠ [])
    (none : NoneBegins word piece) : ¬ word <:+: piece := by
  rw [← List.append_nil piece, infix_append_of_noneBegins none, List.infix_nil]
  exact some'

theorem Separates.cons_lit {word text : List α} {pattern : List (Piece α)} (some' : word ≠ [])
    (none : NoneBegins word text) (separates : Separates word pattern) :
    Separates word (.lit text :: pattern) := by
  cases pattern with
  | nil => exact not_infix_of_noneBegins some' none
  | cons piece pattern =>
      cases piece with
      | figure i => exact ⟨not_infix_of_noneBegins some' none, separates⟩
      | lit text' | name i => exact ⟨none, separates⟩

theorem render_map (f : α → β) (fields : Fields α) (pattern : List (Piece α)) :
    (fields.render pattern).map f = (fields.map f).render (pattern.map (Piece.map f)) := by
  induction pattern with
  | nil => rfl
  | cons piece pattern ih =>
      rw [Fields.render_cons, List.map_append, List.map_cons, Fields.render_cons]
      refine congrArg₂ (· ++ ·) ?_ ih
      cases piece with
      | lit text | name i | figure i => rfl

theorem infix_render_of_lit {word text : List α} {pattern : List (Piece α)}
    (mem : .lit text ∈ pattern) (here : word <:+: text) (fields : Fields α) :
    word <:+: fields.render pattern :=
  here.trans (List.infix_of_mem_flatten (List.mem_map_of_mem mem))

theorem noneReaches_of_disjoint {word figure : List α} (some' : figure ≠ [])
    (apart : ∀ c ∈ figure, c ∉ word) : NoneReaches word figure := by
  intro s tail nonempty _
  have within := ((List.mem_tails _ _).mp tail).subset
  cases s with
  | nil => exact absurd rfl nonempty
  | cons d s =>
      cases figure with
      | nil => exact absurd rfl some'
      | cons c figure =>
          have differ : d ≠ c := fun same =>
            apart c List.mem_cons_self (same ▸ within List.mem_cons_self)
          exact ⟨fun begins => differ (List.cons_prefix_cons.mp begins).1,
            fun begins => differ (List.cons_prefix_cons.mp begins).1.symm⟩

/-- A figure ends whatever has begun before it. -/
theorem infix_append_figure {word text figure rest : List α} (some' : figure ≠ [])
    (apart : ∀ c ∈ figure, c ∉ word) :
    word <:+: text ++ (figure ++ rest) ↔ word <:+: text ∨ word <:+: rest := by
  rw [infix_append_of_noneReaches (noneReaches_of_disjoint some' apart),
    infix_append_of_disjoint apart]

/-- In a pattern that separates the names, the word comes from one of them. -/
theorem infix_render_iff {word : List α} (some' : word ≠ []) (fields : Fields α)
    (figures : ∀ i, fields.figures i ≠ [] ∧ ∀ c ∈ fields.figures i, c ∉ word) :
    ∀ {pattern : List (Piece α)}, Separates word pattern →
      (word <:+: fields.render pattern ↔ ∃ i, .name i ∈ pattern ∧ word <:+: fields.names i)
  | [], _ => by simp [some']
  | [.lit text], without => by
      have without : ¬ word <:+: text := without
      simp [Fields.write, without]
  | .lit text :: .figure i :: rest, separates => by
      have tail := infix_render_iff some' fields figures separates.2
      rw [Fields.render_cons, Fields.render_cons, Fields.write, Fields.write,
        infix_append_figure (figures i).1 (figures i).2, tail, or_iff_right separates.1]
      simp
  | .lit text :: .lit text' :: rest, separates => by
      have tail := infix_render_iff some' fields figures separates.2
      rw [Fields.render_cons, Fields.write, infix_append_of_noneBegins separates.1, tail]
      simp
  | .lit text :: .name i :: rest, separates => by
      have tail := infix_render_iff some' fields figures separates.2
      rw [Fields.render_cons, Fields.write, infix_append_of_noneBegins separates.1, tail]
      simp
  | .figure i :: rest, separates => by
      have tail := @infix_render_iff word some' fields figures rest separates
      rw [Fields.render_cons, Fields.write, infix_append_of_disjoint (figures i).2, tail]
      simp
  | [.name i], _ => by simp [Fields.write]
  | .name i :: .lit text :: rest, separates => by
      have tail := infix_render_iff some' fields figures separates.2
      rw [Fields.render_cons, Fields.write, Fields.render_cons, Fields.write,
        infix_append_of_noneReaches separates.1, ← Fields.write.eq_1 fields text,
        ← Fields.render_cons, tail]
      simp

end Support
