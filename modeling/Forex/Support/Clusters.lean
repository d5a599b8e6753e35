import Mathlib.Data.List.Pairwise
import Mathlib.Data.Set.Card
import Mathlib.Logic.Relation

/-!
Greedy clustering of a list: an element joins the first cluster whose last element is
near it. Where the list is in order along a line, and nearness goes by distance on it,
the clusters are the connected components.
-/

namespace Support
open Relation

variable {α : Type}

/-- An element joins the first cluster whose last element is near it. -/
def joinFirst (near : α → α → Prop) [DecidableRel near] : List (List α) → α → List (List α)
  | [], v => [[v]]
  | k :: ks, v =>
      if k.getLast?.any fun u => decide (near u v) then (k ++ [v]) :: ks
      else k :: joinFirst near ks v

def greedyClusters (near : α → α → Prop) [DecidableRel near] (l : List α) : List (List α) :=
  l.foldl (joinFirst near) []

/-- A chain of near elements of the list leads from one to the other. -/
def Linked (near : α → α → Prop) (l : List α) : α → α → Prop :=
  ReflTransGen fun a b => a ∈ l ∧ b ∈ l ∧ near a b

/-- What lies between two near elements is near to both. -/
structure OnLine (r near : α → α → Prop) : Prop where
  total : ∀ a b, r a b ∨ r b a
  symm : ∀ {a b}, near a b → near b a
  between : ∀ {a b c}, near a c → r a b → r b c → near a b ∧ near b c

/-- The clusters of a list are its components, each with its last element at the end. -/
structure Clustered (r near : α → α → Prop) (l : List α) (ks : List (List α)) : Prop where
  perm : ks.flatten.Perm l
  ends : ∀ k ∈ ks, ∀ u ∈ k.getLast?, ∀ a ∈ k, r a u
  linked : ∀ k ∈ ks, ∀ a ∈ k, ∀ b ∈ k, Linked near l a b
  apart : ks.Pairwise fun k k' => ∀ a ∈ k, ∀ b ∈ k', ¬ near a b

section Linked
variable {near : α → α → Prop} {l l' : List α} {a b : α}

theorem Linked.mono (linked : Linked near l a b) (sub : ∀ x ∈ l, x ∈ l') : Linked near l' a b := by
  induction linked with
  | refl => exact ReflTransGen.refl
  | tail _ step ih => exact ih.tail ⟨sub _ step.1, sub _ step.2.1, step.2.2⟩

theorem linked_congr (same : ∀ x, x ∈ l ↔ x ∈ l') : Linked near l a b ↔ Linked near l' a b :=
  ⟨fun linked => linked.mono fun x => (same x).mp, fun linked => linked.mono fun x => (same x).mpr⟩

theorem Linked.symm (sym : ∀ {a b}, near a b → near b a) (linked : Linked near l a b) :
    Linked near l b a := by
  induction linked with
  | refl => exact ReflTransGen.refl
  | tail _ step ih => exact ReflTransGen.head ⟨step.2.1, step.1, sym step.2.2⟩ ih

theorem Linked.mem (linked : Linked near l a b) (mem : a ∈ l) : b ∈ l := by
  induction linked with
  | refl => exact mem
  | tail _ step _ => exact step.2.1

end Linked

section Grow
variable {r near : α → α → Prop} {l : List α} {ks : List (List α)} {v : α}

theorem Clustered.mem_of_mem {k : List α} {a : α} (inv : Clustered r near l ks) (mem : k ∈ ks)
    (here : a ∈ k) : a ∈ l :=
  inv.perm.mem_iff.mp (List.mem_flatten.mpr ⟨k, mem, here⟩)

theorem Linked.snoc {a b : α} (linked : Linked near l a b) (v : α) : Linked near (l ++ [v]) a b :=
  linked.mono fun _ => List.mem_append_left [v]

/-- Of two elements near the last one, each is near the other. -/
theorem OnLine.near_of_last (line : OnLine r near) {a u : α} (a_last : r a v) (u_last : r u v)
    (near_a : near a v) (near_u : near u v) : near a u := by
  obtain first | first := line.total a u
  · exact (line.between near_a first u_last).1
  · exact line.symm (line.between near_u first a_last).1

/-- The last element, when it is near the end of no cluster. -/
theorem Clustered.opened (line : OnLine r near) (inv : Clustered r near l ks)
    (behind : ∀ u ∈ l, r u v) (none_near : ∀ k ∈ ks, ∀ u ∈ k.getLast?, ¬ near u v) :
    Clustered r near (l ++ [v]) (ks ++ [[v]]) := by
  have itself : r v v := (line.total v v).elim id id
  refine ⟨?_, ?_, ?_, ?_⟩
  · rw [List.flatten_append, List.flatten_singleton]
    exact inv.perm.append_right [v]
  · intro k mem u last a here
    obtain old | rfl := (List.mem_append.mp mem).imp_right List.mem_singleton.mp
    · exact inv.ends k old u last a here
    · obtain rfl := Option.some.inj last
      rw [List.mem_singleton.mp here]
      exact itself
  · intro k mem a here b there
    obtain old | rfl := (List.mem_append.mp mem).imp_right List.mem_singleton.mp
    · exact (inv.linked k old a here b there).snoc v
    · rw [List.mem_singleton.mp here, List.mem_singleton.mp there]
      exact ReflTransGen.refl
  · refine List.pairwise_append.mpr ⟨inv.apart, List.pairwise_singleton _ _, ?_⟩
    intro k old k' single a here b there close
    rw [List.mem_singleton.mp single, List.mem_singleton] at there
    subst there
    -- the end of the cluster lies between the element and the new one
    obtain ⟨u, last⟩ := Option.isSome_iff_exists.mp
      (List.getLast?_isSome.mpr (List.ne_nil_of_mem here))
    have within := inv.ends k old u last a here
    have after := behind u (inv.mem_of_mem old (List.mem_of_getLast? last))
    exact none_near k old u last (line.between close within after).2

theorem perm_flatten_extended (before after : List (List α)) (k : List α) (v : α) :
    (before ++ (k ++ [v]) :: after).flatten.Perm ((before ++ k :: after).flatten ++ [v]) := by
  simp only [List.flatten_append, List.flatten_cons, List.append_assoc]
  exact (List.perm_append_comm.append_left k).append_left before.flatten

/-- The last element, when it goes to the end of a cluster. -/
theorem Clustered.extended (line : OnLine r near) {before after : List (List α)} {k : List α}
    {u : α} (inv : Clustered r near l (before ++ k :: after)) (behind : ∀ u ∈ l, r u v)
    (last : u ∈ k.getLast?) (close : near u v) :
    Clustered r near (l ++ [v]) (before ++ (k ++ [v]) :: after) := by
  have own : k ∈ before ++ k :: after := List.mem_append_right before (List.mem_cons_self)
  have uk : u ∈ k := List.mem_of_getLast? last
  have ul : u ∈ l := inv.mem_of_mem own uk
  -- an element near the new one is near the one that it has joined
  have shared {a : α} (mem : a ∈ l) (near_v : near a v) : near a u :=
    line.near_of_last (behind a mem) (behind u ul) near_v close
  have toNew {a : α} (here : a ∈ k) : Linked near (l ++ [v]) a v :=
    ((inv.linked k own a here u uk).snoc v).tail
      ⟨List.mem_append_left [v] ul, List.mem_append_right l (List.mem_singleton_self v), close⟩
  obtain ⟨left, right, across⟩ := List.pairwise_append.mp inv.apart
  obtain ⟨fromK, rest⟩ := List.pairwise_cons.mp right
  refine ⟨?_, ?_, ?_, ?_⟩
  · exact (perm_flatten_extended before after k v).trans (inv.perm.append_right [v])
  · intro k' mem u' last' a here
    obtain old | rfl | old := (List.mem_append.mp mem).imp_right List.mem_cons.mp
    · exact inv.ends k' (List.mem_append_left _ old) u' last' a here
    · rw [List.getLast?_append, List.getLast?_singleton, Option.some_or] at last'
      obtain rfl := Option.some.inj last'
      obtain earlier | new := List.mem_append.mp here
      · exact behind a (inv.mem_of_mem own earlier)
      · rw [List.mem_singleton.mp new]
        exact (line.total v v).elim id id
    · exact inv.ends k' (List.mem_append_right _ (List.mem_cons_of_mem k old)) u' last' a here
  · intro k' mem a here b there
    obtain old | rfl | old := (List.mem_append.mp mem).imp_right List.mem_cons.mp
    · exact (inv.linked k' (List.mem_append_left _ old) a here b there).snoc v
    · obtain old | new := (List.mem_append.mp here).imp_right List.mem_singleton.mp
      all_goals obtain old' | new' := (List.mem_append.mp there).imp_right List.mem_singleton.mp
      · exact (inv.linked k own a old b old').snoc v
      · rw [new']
        exact toNew old
      · rw [new]
        exact (toNew old').symm line.symm
      · rw [new, new']
        exact ReflTransGen.refl
    · exact (inv.linked k' (List.mem_append_right _ (List.mem_cons_of_mem k old)) a here
        b there).snoc v
  · refine List.pairwise_append.mpr ⟨left, List.pairwise_cons.mpr ⟨?_, rest⟩, ?_⟩
    · intro k' mem a here b there near_b
      obtain old | new := (List.mem_append.mp here).imp_right List.mem_singleton.mp
      · exact fromK k' mem a old b there near_b
      · have bl := inv.mem_of_mem (List.mem_append_right before (List.mem_cons_of_mem k mem)) there
        exact fromK k' mem u uk b there (line.symm (shared bl (line.symm (new ▸ near_b))))
    · intro k' mem k'' there
      obtain rfl | old := List.mem_cons.mp there
      · intro a here b there' near_b
        obtain old | new := (List.mem_append.mp there').imp_right List.mem_singleton.mp
        · exact across k' mem k List.mem_cons_self a here b old near_b
        · have al := inv.mem_of_mem (List.mem_append_left (k :: after) mem) here
          exact across k' mem k List.mem_cons_self a here u uk (shared al (new ▸ near_b))
      · exact across k' mem k'' (List.mem_cons_of_mem k old)

end Grow

section Join
variable {r near : α → α → Prop} [DecidableRel near] {l : List α} {ks : List (List α)} {v : α}

/-- The element starts a cluster of its own, or goes to the end of one. -/
theorem joinFirst_cases (ks : List (List α)) (v : α) :
    ((∀ k ∈ ks, ∀ u ∈ k.getLast?, ¬ near u v) ∧ joinFirst near ks v = ks ++ [[v]]) ∨
      ∃ before k u after, ks = before ++ k :: after ∧ u ∈ k.getLast? ∧ near u v ∧
        joinFirst near ks v = before ++ (k ++ [v]) :: after := by
  induction ks with
  | nil => exact .inl ⟨fun k mem => absurd mem List.not_mem_nil, rfl⟩
  | cons k ks ih =>
      by_cases joins : k.getLast?.any fun u => decide (near u v)
      · obtain ⟨u, last, close⟩ := (Option.any_eq_true _ _).mp joins
        exact .inr ⟨[], k, u, ks, rfl, last, of_decide_eq_true close, by
          rw [joinFirst, if_pos joins, List.nil_append]⟩
      · have here : ∀ u ∈ k.getLast?, ¬ near u v := fun u last close =>
          joins ((Option.any_eq_true _ _).mpr ⟨u, last, decide_eq_true close⟩)
        rw [joinFirst, if_neg joins]
        obtain ⟨none_near, opens⟩ | ⟨before, k', u, after, rfl, last, close, joined⟩ := ih
        · refine .inl ⟨?_, by rw [opens, List.cons_append]⟩
          intro k' mem
          obtain rfl | mem := List.mem_cons.mp mem
          · exact here
          · exact none_near k' mem
        · exact .inr ⟨k :: before, k', u, after, rfl, last, close, by
            rw [joined, List.cons_append]⟩

/-- One element more, behind all the others. -/
theorem Clustered.join (line : OnLine r near) (inv : Clustered r near l ks)
    (behind : ∀ u ∈ l, r u v) : Clustered r near (l ++ [v]) (joinFirst near ks v) := by
  obtain ⟨none_near, opens⟩ | ⟨before, k, u, after, rfl, last, close, joined⟩ :=
    @joinFirst_cases α near _ ks v
  · rw [opens]
    exact inv.opened line behind none_near
  · rw [joined]
    exact inv.extended line behind last close

/-- Of a list in order, the greedy clusters are the components. -/
theorem clustered_greedy (line : OnLine r near) (sorted : l.Pairwise r) :
    Clustered r near l (greedyClusters near l) := by
  have walk (rest done : List α) (ks : List (List α)) (inv : Clustered r near done ks)
      (order : (done ++ rest).Pairwise r) :
      Clustered r near (done ++ rest) (rest.foldl (joinFirst near) ks) := by
    induction rest generalizing done ks with
    | nil =>
        rw [List.append_nil]
        exact inv
    | cons v rest ih =>
        have behind : ∀ u ∈ done, r u v := fun u mem =>
          (List.pairwise_append.mp order).2.2 u mem v List.mem_cons_self
        have shift : done ++ v :: rest = done ++ [v] ++ rest := by
          rw [List.append_assoc, List.singleton_append]
        rw [List.foldl_cons, shift]
        exact ih (done ++ [v]) _ (inv.join line behind) (shift ▸ order)
  have start : Clustered r near [] [] :=
    ⟨List.Perm.refl [], fun _ mem => absurd mem List.not_mem_nil,
      fun _ mem => absurd mem List.not_mem_nil, List.Pairwise.nil⟩
  exact walk l [] [] start sorted

end Join

section Components
variable {r near : α → α → Prop} {l k : List α} {ks : List (List α)} {a b : α}

theorem Clustered.exists_mem (inv : Clustered r near l ks) (mem : a ∈ l) : ∃ k ∈ ks, a ∈ k :=
  List.mem_flatten.mp (inv.perm.mem_iff.mpr mem)

/-- A cluster is the component of each of its elements. -/
theorem Clustered.mem_iff (line : OnLine r near) (inv : Clustered r near l ks) (mem : k ∈ ks)
    (here : a ∈ k) : b ∈ k ↔ Linked near l a b := by
  constructor
  · exact inv.linked k mem a here b
  · intro linked
    induction linked with
    | refl => exact here
    | tail _ step ih =>
        obtain ⟨k', mem', there⟩ := inv.exists_mem step.2.1
        by_contra outside
        have differ : k ≠ k' := fun same => outside (same ▸ there)
        -- apart is symmetric, so that the order of the two clusters does not matter
        have sym : Std.Symm fun k k' : List α => ∀ a ∈ k, ∀ b ∈ k', ¬ near a b :=
          ⟨fun _ _ apart a here b there close => apart b there a here (line.symm close)⟩
        exact inv.apart.forall mem mem' differ _ ih _ there step.2.2

theorem Clustered.nodup (inv : Clustered r near l ks) (distinct : l.Nodup) (mem : k ∈ ks) :
    k.Nodup :=
  ((inv.perm.nodup_iff.mpr distinct).sublist (List.sublist_flatten_of_mem mem))

theorem Clustered.length_eq (line : OnLine r near) (inv : Clustered r near l ks)
    (distinct : l.Nodup) (mem : k ∈ ks) (here : a ∈ k) :
    k.length = {b | Linked near l a b}.ncard := by
  classical
  have same : {b | Linked near l a b} = (k.toFinset : Set α) := by
    ext b
    rw [Set.mem_ofPred_eq, Finset.mem_coe, List.mem_toFinset]
    exact (inv.mem_iff line mem here).symm
  rw [same, Set.ncard_coe_finset, List.toFinset_card_of_nodup (inv.nodup distinct mem)]

end Components
end Support
