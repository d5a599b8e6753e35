import Mathlib.Algebra.BigOperators.Group.List.Basic
import Mathlib.Data.List.Nodup
import Mathlib.Order.Lattice
import Mathlib.Tactic.Abel

/-!
Tables whose rows carry a primary key. The key is unique by construction, so
an update by key touches at most one row and its effect on any total over the
table is the difference at that row. Row order is insertion order.
-/

namespace Support
universe u v w
variable {α : Type u} {κ : Type v} {M : Type w} {key : α → κ}

@[ext]
structure Table (α : Type u) {κ : Type v} (key : α → κ) where
  rows : List α
  unique : (rows.map key).Nodup

/-- The `SET` clause of an update: it never writes the key. -/
structure Assign (key : α → κ) where
  apply : α → α
  keeps : ∀ r, key (apply r) = key r

namespace Assign

instance : CoeFun (Assign key) fun _ => α → α := ⟨Assign.apply⟩

def skip : Assign key := ⟨id, fun _ => rfl⟩

def comp (g f : Assign key) : Assign key :=
  ⟨fun r => g (f r), fun r => (g.keeps (f r)).trans (f.keeps r)⟩

@[simp] theorem skip_apply (r : α) : (skip : Assign key) r = r := rfl

@[simp] theorem comp_apply (g f : Assign key) (r : α) : g.comp f r = g (f r) := rfl

end Assign

namespace Table

def empty : Table α key := ⟨[], List.nodup_nil⟩

def single (r : α) : Table α key := ⟨[r], List.nodup_singleton (key r)⟩

/-- `UPDATE … WHERE p`. -/
def updateWhere (t : Table α key) (p : α → Bool) (f : Assign key) : Table α key where
  rows := t.rows.map fun r => if p r then f r else r
  unique := by
    have same : (t.rows.map fun r => if p r then f r else r).map key = t.rows.map key := by
      rw [List.map_map]
      refine List.map_congr_left fun r _ => ?_
      by_cases h : p r <;> simp [h, f.keeps]
    rw [same]
    exact t.unique

def total [AddCommMonoid M] (t : Table α key) (g : α → M) : M :=
  (t.rows.map g).sum

/-- `SELECT COUNT(*) … WHERE p`. -/
def count (t : Table α key) (p : α → Bool) : ℕ := t.total fun r => (p r).toNat

theorem count_eq_countP (t : Table α key) (p : α → Bool) : t.count p = t.rows.countP p := by
  rw [count, total]
  induction t.rows with
  | nil => rfl
  | cons r rows ih =>
      rw [List.map_cons, List.sum_cons, ih, List.countP_cons, Nat.add_comm]
      cases p r <;> rfl

theorem mem_updateWhere {t : Table α key} {p : α → Bool} {f : Assign key} {r : α} :
    r ∈ (t.updateWhere p f).rows ↔
      ∃ old ∈ t.rows, r = if p old then f old else old := by
  simp only [updateWhere, List.mem_map]
  exact exists_congr fun old => and_congr_right fun _ => eq_comm

theorem keys_updateWhere (t : Table α key) (p : α → Bool) (f : Assign key) :
    (t.updateWhere p f).rows.map key = t.rows.map key := by
  rw [updateWhere, List.map_map]
  refine List.map_congr_left fun r _ => ?_
  by_cases h : p r <;> simp [h, f.keeps]

theorem eq_of_mem_of_key {t : Table α key} {r s : α} (hr : r ∈ t.rows) (hs : s ∈ t.rows)
    (h : key r = key s) : r = s :=
  List.inj_on_of_nodup_map t.unique hr hs h

variable [DecidableEq κ]

def find (t : Table α key) (k : κ) : Option α :=
  t.rows.find? fun r => decide (key r = k)

def update (t : Table α key) (k : κ) (f : Assign key) : Table α key :=
  t.updateWhere (fun r => decide (key r = k)) f

/-- `INSERT`; a key already present is a constraint violation. -/
def insert (t : Table α key) (r : α) : Option (Table α key) :=
  if fresh : key r ∈ t.rows.map key then none
  else some
    { rows := t.rows ++ [r]
      unique := by
        rw [List.map_append, List.map_singleton, List.nodup_append]
        refine ⟨t.unique, List.nodup_singleton _, ?_⟩
        rintro k hk j hj rfl
        exact fresh (List.mem_singleton.mp hj ▸ hk) }

theorem find_mem {t : Table α key} {k : κ} {r : α} (h : t.find k = some r) :
    r ∈ t.rows :=
  List.mem_of_find?_eq_some h

theorem key_of_find {t : Table α key} {k : κ} {r : α} (h : t.find k = some r) :
    key r = k := by
  simpa using List.find?_some h

theorem find_eq_some_iff {t : Table α key} {k : κ} {r : α} :
    t.find k = some r ↔ r ∈ t.rows ∧ key r = k := by
  constructor
  · exact fun h => ⟨find_mem h, key_of_find h⟩
  · rintro ⟨hr, rfl⟩
    cases found : t.find (key r) with
    | none => simpa using List.find?_eq_none.mp found r hr
    | some s => rw [eq_of_mem_of_key (find_mem found) hr (key_of_find found)]

theorem find_eq_none_iff {t : Table α key} {k : κ} :
    t.find k = none ↔ k ∉ t.rows.map key := by
  simp [find]

/-- The rows that a condition on the one with a key selects. -/
theorem filter_of_find {t : Table α key} {k : κ} {r : α} (found : t.find k = some r) {p : α → Bool}
    (only : ∀ s ∈ t.rows, p s = true → key s = k) :
    t.rows.filter p = if p r then [r] else [] := by
  obtain ⟨mem, rfl⟩ := find_eq_some_iff.mp found
  have mine : ∀ s, s ∈ t.rows.filter p ↔ s = r ∧ p r = true := by
    intro s
    rw [List.mem_filter]
    constructor
    · rintro ⟨here, fits⟩
      have same : s = r := eq_of_mem_of_key here mem (only s here fits)
      exact ⟨same, same ▸ fits⟩
    · rintro ⟨rfl, fits⟩
      exact ⟨mem, fits⟩
  cases fits : p r with
  | false =>
      refine List.eq_nil_iff_forall_not_mem.mpr fun s here => ?_
      have fits' := ((mine s).mp here).2
      rw [fits] at fits'
      cases fits'
  | true =>
      refine List.perm_singleton.mp ?_
      refine (List.perm_ext_iff_of_nodup (t.unique.of_map.filter p) (List.nodup_singleton r)).mpr ?_
      intro s
      rw [mine, fits, List.mem_singleton]
      exact and_iff_left rfl

theorem find_isSome_iff {t : Table α key} {k : κ} :
    (t.find k).isSome ↔ k ∈ t.rows.map key := by
  rw [← Option.ne_none_iff_isSome, ne_eq, find_eq_none_iff, not_not]

theorem mem_update {t : Table α key} {k : κ} {f : Assign key} {r : α} :
    r ∈ (t.update k f).rows ↔
      ∃ old ∈ t.rows, r = if key old = k then f old else old := by
  simp [update, mem_updateWhere]

/-- What holds between each row and what the update makes of it leads from the rows
before to those after, and back. -/
theorem update_related {t : Table α key} {k : κ} {f : Assign key} {R : α → α → Prop}
    (mine : ∀ r, key r = k → R r (f r)) (others : ∀ r, key r ≠ k → R r r) :
    (∀ r ∈ t.rows, ∃ r' ∈ (t.update k f).rows, R r r') ∧
      ∀ r' ∈ (t.update k f).rows, ∃ r ∈ t.rows, R r r' := by
  have related (r : α) : R r (if key r = k then f r else r) := by
    split_ifs with own
    · exact mine r own
    · exact others r own
  constructor
  · intro r mem
    exact ⟨_, mem_update.mpr ⟨r, mem, rfl⟩, related r⟩
  · intro r' mem
    obtain ⟨r, here, rfl⟩ := mem_update.mp mem
    exact ⟨r, here, related r⟩

theorem forall_update {t : Table α key} {k : κ} {f : Assign key} {P : α → Prop}
    (others : ∀ r ∈ t.rows, key r ≠ k → P r) (mine : ∀ r, t.find k = some r → P (f r)) :
    ∀ r ∈ (t.update k f).rows, P r := by
  intro r hr
  obtain ⟨old, hold, rfl⟩ := mem_update.mp hr
  by_cases h : key old = k
  · rw [if_pos h]
    exact mine old (find_eq_some_iff.mpr ⟨hold, h⟩)
  · rw [if_neg h]
    exact others old hold h

theorem keys_update (t : Table α key) (k : κ) (f : Assign key) :
    (t.update k f).rows.map key = t.rows.map key :=
  t.keys_updateWhere _ f

theorem update_update (t : Table α key) (k : κ) (f g : Assign key) :
    (t.update k f).update k g = t.update k (g.comp f) := by
  apply Table.ext
  simp only [update, updateWhere, List.map_map]
  apply List.map_congr_left
  intro r _
  by_cases h : key r = k <;> simp [h, f.keeps]

@[simp] theorem update_skip (t : Table α key) (k : κ) : t.update k Assign.skip = t := by
  apply Table.ext
  simp [update, updateWhere]

theorem find_updateWhere (t : Table α key) (p : α → Bool) (f : Assign key) (k : κ) :
    (t.updateWhere p f).find k = (t.find k).map fun r => if p r then f r else r := by
  cases found : t.find k with
  | none =>
      rw [Option.map_none, find_eq_none_iff, keys_updateWhere]
      exact find_eq_none_iff.mp found
  | some r =>
      obtain ⟨hr, rfl⟩ := find_eq_some_iff.mp found
      refine find_eq_some_iff.mpr ⟨mem_updateWhere.mpr ⟨r, hr, rfl⟩, ?_⟩
      by_cases h : p r <;> simp [h, f.keeps]

theorem find_update_self (t : Table α key) (k : κ) (f : Assign key) :
    (t.update k f).find k = (t.find k).map f := by
  cases found : t.find k with
  | none =>
      rw [Option.map_none, find_eq_none_iff, keys_update]
      exact find_eq_none_iff.mp found
  | some r =>
      obtain ⟨hr, rfl⟩ := find_eq_some_iff.mp found
      exact find_eq_some_iff.mpr ⟨mem_update.mpr ⟨r, hr, by simp⟩, f.keeps r⟩

theorem find_update_of_ne (t : Table α key) {k j : κ} (f : Assign key) (ne : j ≠ k) :
    (t.update k f).find j = t.find j := by
  cases found : t.find j with
  | none =>
      rw [find_eq_none_iff, keys_update]
      exact find_eq_none_iff.mp found
  | some r =>
      obtain ⟨hr, rfl⟩ := find_eq_some_iff.mp found
      exact find_eq_some_iff.mpr ⟨mem_update.mpr ⟨r, hr, by simp [ne]⟩, rfl⟩

private theorem sum_update_of_nodup [AddCommMonoid M] (f : Assign key) (g : α → M) {k : κ} {r : α} :
    ∀ {rows : List α}, (rows.map key).Nodup → r ∈ rows → key r = k →
      ((rows.map fun r => if decide (key r = k) then f r else r).map g).sum + g r =
        (rows.map g).sum + g (f r)
  | [], _, hr, _ => by simp at hr
  | s :: rows, unique, hr, hk => by
      rw [List.map_cons, List.nodup_cons] at unique
      obtain ⟨fresh, unique⟩ := unique
      by_cases hs : key s = k
      · have other : ∀ x ∈ rows, key x ≠ k := fun x hx hxk =>
          fresh (hs ▸ hxk ▸ List.mem_map_of_mem hx)
        have same : (rows.map fun r => if decide (key r = k) then f r else r) = rows := by
          conv_rhs => rw [← List.map_id rows]
          exact List.map_congr_left fun x hx => by simp [other x hx]
        have head : r = s := by
          cases List.mem_cons.mp hr with
          | inl h => exact h
          | inr h => exact absurd hk (other r h)
        subst head
        simp only [List.map_cons, List.sum_cons, same, hk, decide_true, if_true]
        abel
      · have tail : r ∈ rows := by
          cases List.mem_cons.mp hr with
          | inl h => exact absurd (h ▸ hk) hs
          | inr h => exact h
        have ih := sum_update_of_nodup f g unique tail hk
        simp only [List.map_cons, List.sum_cons, hs, decide_false, Bool.false_eq_true, if_false]
        rw [add_assoc, ih, add_assoc]

/-- What an update by key does to a total: the old row's amount is exchanged
for the new row's. -/
theorem total_update [AddCommMonoid M] {t : Table α key} {k : κ} {r : α}
    (found : t.find k = some r) (f : Assign key)
    (g : α → M) :
    (t.update k f).total g + g r = t.total g + g (f r) :=
  sum_update_of_nodup f g t.unique (find_mem found) (key_of_find found)

theorem insert_eq_some {t s : Table α key} {r : α} (h : t.insert r = some s) :
    key r ∉ t.rows.map key ∧ s.rows = t.rows ++ [r] := by
  rw [insert] at h
  split at h
  · exact absurd h (by simp)
  · rename_i fresh
    exact ⟨fresh, by rw [← Option.some.inj h]⟩

/-- `DELETE … WHERE key = k`. -/
def delete (t : Table α key) (k : κ) : Table α key where
  rows := t.rows.filter fun r => decide (key r ≠ k)
  unique := t.unique.sublist ((List.filter_sublist).map key)

theorem find_delete_self (t : Table α key) (k : κ) : (t.delete k).find k = none := by
  rw [find_eq_none_iff]
  simp [delete]

theorem insert_of_fresh {t : Table α key} {r : α} (fresh : key r ∉ t.rows.map key) :
    ∃ s, t.insert r = some s ∧ s.rows = t.rows ++ [r] := by
  refine ⟨_, dif_neg fresh, rfl⟩

theorem find_insert_self {t s : Table α key} {r : α} (h : t.insert r = some s) :
    s.find (key r) = some r := by
  rw [find_eq_some_iff, (insert_eq_some h).2]
  simp

/-- An update by key commutes with a selection by key. -/
theorem filter_update (t : Table α key) (k : κ) (f : Assign key) (own : κ → Bool) :
    (t.update k f).rows.filter (fun r => own (key r)) =
      (t.rows.filter fun r => own (key r)).map fun r => if key r = k then f r else r := by
  rw [update, updateWhere, List.filter_map]
  simp only [decide_eq_true_eq]
  congr 1
  refine List.filter_congr fun r _ => ?_
  by_cases h : key r = k
  · simp [h, f.keeps]
  · simp [h]

theorem filter_update_of_not {t : Table α key} {k : κ} {own : κ → Bool} (h : own k = false)
    (f : Assign key) :
    (t.update k f).rows.filter (fun r => own (key r)) = t.rows.filter fun r => own (key r) := by
  rw [filter_update]
  conv_rhs => rw [← List.map_id (t.rows.filter fun r => own (key r))]
  refine List.map_congr_left fun r mem => ?_
  have ne : key r ≠ k := by
    rintro rfl
    simp [h] at mem
  rw [if_neg ne, id]

/-- `INSERT OR IGNORE`. -/
def insertOrIgnore (t : Table α key) (r : α) : Table α key := (t.insert r).getD t

theorem rows_insertOrIgnore (t : Table α key) (r : α) :
    (t.insertOrIgnore r).rows = if (t.find (key r)).isSome then t.rows else t.rows ++ [r] := by
  rw [insertOrIgnore, insert]
  by_cases old : key r ∈ t.rows.map key
  · rw [dif_pos old, if_pos (find_isSome_iff.mpr old)]
    rfl
  · rw [dif_neg old, if_neg (fun found => old (find_isSome_iff.mp found))]
    rfl

theorem find_insertOrIgnore (t : Table α key) (r : α) (k : κ) :
    (t.insertOrIgnore r).find k = (t.find k).or (if key r = k then some r else none) := by
  have appended : (t.rows ++ [r]).find? (fun s => decide (key s = k)) =
      (t.find k).or (if key r = k then some r else none) := by
    rw [List.find?_append]
    by_cases same : key r = k <;> simp [find, same]
  rw [find, rows_insertOrIgnore]
  split
  · next old =>
      by_cases same : key r = k
      · obtain ⟨s, found⟩ := Option.isSome_iff_exists.mp old
        rw [same] at found
        have kept : t.find k = (t.find k).or (if key r = k then some r else none) := by
          rw [found, Option.some_or]
        exact kept
      · simp [find, same]
  · exact appended

theorem filter_insertOrIgnore (t : Table α key) (r : α) (own : κ → Bool) :
    (t.insertOrIgnore r).rows.filter (fun s => own (key s)) =
      if (t.find (key r)).isSome then t.rows.filter (fun s => own (key s))
      else t.rows.filter (fun s => own (key s)) ++ if own (key r) then [r] else [] := by
  rw [rows_insertOrIgnore]
  split
  · rfl
  · rw [List.filter_append]
    cases mine : own (key r) <;> simp [mine]

theorem update_of_missing {t : Table α key} {k : κ} (h : t.find k = none) (f : Assign key) :
    t.update k f = t := by
  apply Table.ext
  rw [update, updateWhere]
  conv_rhs => rw [← List.map_id t.rows]
  apply List.map_congr_left
  intro r mem
  have other : key r ≠ k := fun same => find_eq_none_iff.mp h (same ▸ List.mem_map_of_mem mem)
  simp [other]

theorem count_insert {t s : Table α key} {r : α} (h : t.insert r = some s) (p : α → Bool) :
    s.count p = t.count p + (p r).toNat := by
  simp [count, total, (insert_eq_some h).2]

theorem count_update {t : Table α key} {k : κ} {r : α} (found : t.find k = some r)
    (f : Assign key) (p : α → Bool) :
    (t.update k f).count p + (p r).toNat = t.count p + (p (f r)).toNat :=
  total_update found f fun r => (p r).toNat

theorem count_update_le (t : Table α key) (k : κ) (f : Assign key) {p : α → Bool}
    (fewer : ∀ r, p (f r) = true → p r = true) : (t.update k f).count p ≤ t.count p := by
  cases found : t.find k with
  | none => rw [update_of_missing found]
  | some r =>
      have exchange := count_update found f p
      have le : (p (f r)).toNat ≤ (p r).toNat := by
        cases new : p (f r) with
        | false => exact Nat.zero_le _
        | true => rw [fewer r new]
      omega

end Table

section Newest
variable {τ : Type w} [LinearOrder τ] (time : α → τ)

def newer (best : Option α) (r : α) : Option α :=
  match best with
  | none => some r
  | some b => if time b < time r then some r else some b

/-- `ORDER BY time DESC LIMIT 1`; of equally new rows the first inserted. -/
def newest (rows : List α) : Option α := rows.foldl (newer time) none

theorem newest_mem {rows : List α} {r : α} (found : newest time rows = some r) : r ∈ rows := by
  have walk : ∀ (rows : List α) (best : Option α),
      rows.foldl (newer time) best = some r → r ∈ rows ∨ best = some r := by
    intro rows
    induction rows with
    | nil => exact fun best found => .inr found
    | cons x rows ih =>
        intro best found
        cases ih (newer time best x) found with
        | inl mem => exact .inl (List.mem_cons_of_mem x mem)
        | inr same =>
            cases best with
            | none => exact .inl (by simp [Option.some.inj same])
            | some b =>
                simp only [newer] at same
                split at same
                · exact .inl (by simp [Option.some.inj same])
                · exact .inr same
  cases walk rows none found with
  | inl mem => exact mem
  | inr same => exact absurd same (by simp)

/-- No row is newer than the newest. -/
theorem newest_ge {rows : List α} {r : α} (found : newest time rows = some r) :
    ∀ s ∈ rows, time s ≤ time r := by
  have walk : ∀ (rows : List α) (best : Option α), rows.foldl (newer time) best = some r →
      (∀ s ∈ rows, time s ≤ time r) ∧ ∀ b ∈ best, time b ≤ time r := by
    intro rows
    induction rows with
    | nil => exact fun best same => ⟨by simp, fun b held => by simp_all⟩
    | cons x rows ih =>
        intro best same
        obtain ⟨rest, bound⟩ := ih (newer time best x) same
        cases best with
        | none =>
            have first := bound x rfl
            exact ⟨List.forall_mem_cons.mpr ⟨first, rest⟩, by simp⟩
        | some b =>
            rw [newer] at bound
            by_cases later : time b < time x
            · rw [if_pos later] at bound
              have first := bound x rfl
              refine ⟨List.forall_mem_cons.mpr ⟨first, rest⟩, fun c held => ?_⟩
              cases held
              exact later.le.trans first
            · rw [if_neg later] at bound
              have first := bound b rfl
              refine ⟨List.forall_mem_cons.mpr ⟨(not_lt.mp later).trans first, rest⟩, ?_⟩
              exact fun c held => by cases held; exact first
  exact (walk rows none found).1

end Newest

end Support
