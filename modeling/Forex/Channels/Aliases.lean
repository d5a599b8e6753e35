import Forex.Store.ChannelRename
import Mathlib.Data.List.DropRight

/-!
The alias table of the channel names under renames, and the canonical name of a
source string: a name of the table, or the string without its wrapper. A value of the
table leads to itself; a wrapper is taken off once.
-/

namespace Forex
open Support

/-- The string that is looked up second: stripped, and without its wrapper. -/
def bareName (source : String) : String := String.ofList (undecorated (strip source.toList))

/-- In the "Telegram Auto (<channel>)" wrapper, in any case. -/
def isWrapped (src : List Char) : Bool :=
  tgAutoOpen.isPrefixOf (lower src) && decide (src.getLast? = some ')')

namespace ChannelAliases
variable (A : ChannelAliases)

/-- The table has the string, or has it without its wrapper. -/
def Lists (source : String) : Prop :=
  (A.get source).isSome = true ∨ (A.get (bareName source)).isSome = true

/-- What a name leads to leads to itself. -/
def Settled : Prop := ∀ name canon, A.get name = some canon → A.get canon = some canon

instance (source : String) : Decidable (A.Lists source) := inferInstanceAs (Decidable (_ ∨ _))

@[simp] theorem get_nil (name : String) : ChannelAliases.get [] name = none := rfl

@[simp] theorem get_cons (e : String × String) (name : String) :
    ChannelAliases.get (e :: A) name = if e.1 = name then some e.2 else A.get name := by
  rw [get, List.find?_cons]
  by_cases same : e.1 = name <;> simp [same, get]

theorem get_append (B : ChannelAliases) (name : String) :
    ChannelAliases.get (A ++ B) name = (A.get name).or (B.get name) := by
  induction A with
  | nil => rfl
  | cons e A ih =>
      rw [List.cons_append, get_cons, get_cons, ih]
      split <;> rfl

/-- Every entry with one value is given another. -/
theorem get_move (canon new name : String) :
    ChannelAliases.get (A.map fun e => if e.2 = canon then (e.1, new) else e) name =
      (A.get name).map fun value => if value = canon then new else value := by
  induction A with
  | nil => rfl
  | cons e A ih =>
      rw [List.map_cons, get_cons, get_cons, ih]
      by_cases same : e.1 = name
      · by_cases moved : e.2 = canon <;> simp [same, moved]
      · by_cases moved : e.2 = canon <;> simp [same, moved]

/-- The entry of one name is made to lead to itself. -/
theorem get_selfMap (new name : String) :
    ChannelAliases.get (A.map fun e => if e.1 = new then (new, new) else e) name =
      if name = new then (A.get new).map fun _ => new else A.get name := by
  induction A with
  | nil => simp
  | cons e A ih =>
      rw [List.map_cons, get_cons, get_cons, get_cons, ih]
      by_cases own : e.1 = new
      · by_cases same : name = new
        · simp [own, same]
        · simp [own, same, Ne.symm same]
      · by_cases same : name = new
        · simp [own, same]
        · simp [own, same]

/-- A rename moves every name of the old channel, and lists the new name. -/
theorem get_moveAliases (names : RenameNames) (name : String) :
    (names.moveAliases A).get name =
      if name = names.new then some names.new
      else (A.get name).map fun value => if value = names.canon then names.new else value := by
  rw [RenameNames.moveAliases]
  split
  · next there =>
      rw [get_selfMap, get_move, get_move, Option.map_map]
      obtain ⟨value, there⟩ := Option.isSome_iff_exists.mp there
      rw [there]
      rfl
  · next absent =>
      rw [get_append, get_move, get_cons, get_nil]
      by_cases same : name = names.new
      · rw [same, Option.not_isSome_iff_eq_none.mp absent]
        simp
      · rw [if_neg same, if_neg (Ne.symm same), Option.or_none]

theorem get_moveAliases_isSome (names : RenameNames) {name : String}
    (listed : (A.get name).isSome = true) : ((names.moveAliases A).get name).isSome = true := by
  rw [get_moveAliases]
  split
  · rfl
  · rwa [Option.isSome_map]

variable {A}

theorem Settled.moveAliases (settled : A.Settled) (names : RenameNames) :
    ChannelAliases.Settled (names.moveAliases A) := by
  intro name canon leads
  rw [get_moveAliases] at leads ⊢
  split at leads
  · rw [if_pos (Option.some.inj leads).symm, leads]
  · obtain ⟨value, was, became⟩ := Option.map_eq_some_iff.mp leads
    split at became
    · rw [if_pos became.symm, became]
    · next other =>
        split
        · next same => rw [same]
        · rw [← became, settled name value was, Option.map_some, if_neg other]

theorem settled_canonicalChannels : Settled canonicalChannels := by
  have listed : ∀ e ∈ canonicalChannels, canonicalChannels.get e.2 = some e.2 := by decide
  intro name canon leads
  obtain ⟨e, found, rfl⟩ := Option.map_eq_some_iff.mp leads
  exact listed e (List.mem_of_find?_eq_some found)

end ChannelAliases

section Canonical
variable {A : ChannelAliases} {source : String}

theorem canonical_of_get {canon : String} (leads : A.get source = some canon) :
    canonical A source = canon := by
  rw [canonical, leads]

theorem canonical_of_get_none (unlisted : A.get source = none) :
    canonical A source = (A.get (bareName source)).getD (bareName source) := by
  rw [canonical, unlisted]
  rfl

theorem canonical_of_not_lists (unlisted : ¬ A.Lists source) :
    canonical A source = bareName source := by
  rw [ChannelAliases.Lists, not_or, Option.not_isSome_iff_eq_none,
    Option.not_isSome_iff_eq_none] at unlisted
  rw [canonical_of_get_none unlisted.1, unlisted.2]
  rfl

/-- The canonical name of a listed string is a value of the table. -/
theorem get_canonical_of_lists (settled : A.Settled) (listed : A.Lists source) :
    A.get (canonical A source) = some (canonical A source) := by
  cases whole : A.get source with
  | some canon =>
      rw [canonical_of_get whole]
      exact settled source canon whole
  | none =>
      rw [canonical_of_get_none whole]
      have bare := listed.resolve_left (by simp [whole])
      obtain ⟨canon, leads⟩ := Option.isSome_iff_exists.mp bare
      rw [leads]
      exact settled _ canon leads

theorem get_canonical_of_not_lists (unlisted : ¬ A.Lists source) :
    A.get (canonical A source) = none := by
  rw [canonical_of_not_lists unlisted]
  exact Option.not_isSome_iff_eq_none.mp fun bare => unlisted (.inr bare)

/-- The table has the canonical name of a string exactly when it lists the string. -/
theorem get_canonical_isSome_iff (settled : A.Settled) :
    (A.get (canonical A source)).isSome = true ↔ A.Lists source := by
  constructor
  · intro leads
    by_contra unlisted
    rw [get_canonical_of_not_lists unlisted] at leads
    exact nomatch leads
  · intro listed
    rw [get_canonical_of_lists settled listed]
    rfl

end Canonical

theorem strip_eq (text : List Char) :
    strip text = (text.dropWhile isSpace).rdropWhile isSpace := rfl

theorem strip_strip (text : List Char) : strip (strip text) = strip text := by
  rw [strip_eq text, strip_eq]
  have begins : ((text.dropWhile isSpace).rdropWhile isSpace).dropWhile isSpace =
      (text.dropWhile isSpace).rdropWhile isSpace := by
    rw [List.dropWhile_eq_self_iff]
    intro some
    -- what is left begins as what had the spaces taken off its front
    have first := List.dropWhile_eq_self_iff.mp (List.dropWhile_idempotent isSpace text)
    have whole := List.rdropWhile_prefix isSpace (l := text.dropWhile isSpace)
    have longer := Nat.lt_of_lt_of_le some whole.length_le
    rw [whole.getElem some]
    exact first longer
  rw [begins, List.rdropWhile_idempotent]

theorem toList_bareName (source : String) :
    (bareName source).toList = undecorated (strip source.toList) := String.toList_ofList

theorem undecorated_eq (src : List Char) :
    undecorated src =
      if isWrapped src then strip (src.drop tgAutoOpen.length).dropLast else src := rfl

theorem strip_undecorated {src : List Char} (plain : strip src = src) :
    strip (undecorated src) = undecorated src := by
  rw [undecorated_eq]
  split
  · exact strip_strip _
  · exact plain

theorem bareName_bareName_toList (source : String) :
    (bareName (bareName source)).toList = undecorated (bareName source).toList := by
  rw [toList_bareName, toList_bareName, strip_undecorated (strip_strip _)]

theorem length_strip_le (text : List Char) : (strip text).length ≤ text.length := by
  rw [strip_eq]
  exact (List.rdropWhile_prefix isSpace _).length_le.trans
    (List.dropWhile_suffix isSpace).length_le

/-- A wrapper that is taken off leaves a shorter string. -/
theorem undecorated_eq_self_iff (src : List Char) :
    undecorated src = src ↔ isWrapped src = false := by
  rw [undecorated_eq]
  cases wrapped : isWrapped src with
  | false => simp
  | true =>
      have opens : tgAutoOpen <+: lower src :=
        List.isPrefixOf_iff_prefix.mp (Bool.and_eq_true_iff.mp wrapped).1
      have long : tgAutoOpen.length ≤ src.length := by
        have le := opens.length_le
        rwa [lower, List.length_map] at le
      have shorter : (strip (src.drop tgAutoOpen.length).dropLast).length < src.length := by
        have le := length_strip_le (src.drop tgAutoOpen.length).dropLast
        rw [List.length_dropLast, List.length_drop] at le
        have some : 0 < tgAutoOpen.length := by decide
        omega
      rw [if_pos rfl]
      constructor
      · intro same
        rw [same] at shorter
        exact absurd shorter (Nat.lt_irrefl _)
      · intro no
        cases no

/-- The canonical name of a string is its own canonical name exactly when the table lists
the string or no second wrapper is left. -/
theorem canonical_idempotent_iff {A : ChannelAliases} (settled : A.Settled) (source : String) :
    canonical A (canonical A source) = canonical A source ↔
      A.Lists source ∨ isWrapped (bareName source).toList = false := by
  by_cases listed : A.Lists source
  · rw [canonical_of_get (get_canonical_of_lists settled listed)]
    simp [listed]
  · have absent := get_canonical_of_not_lists listed
    rw [canonical_of_get_none absent]
    rw [canonical_of_not_lists listed] at absent ⊢
    rw [← undecorated_eq_self_iff, ← bareName_bareName_toList, String.toList_inj,
      or_iff_right listed]
    constructor
    · intro same
      cases leads : A.get (bareName (bareName source)) with
      | none => rwa [leads] at same
      | some canon =>
          rw [leads, Option.getD_some] at same
          rw [← same, settled _ canon leads] at absent
          exact nomatch absent
    · intro same
      rw [same, absent]
      rfl

end Forex
