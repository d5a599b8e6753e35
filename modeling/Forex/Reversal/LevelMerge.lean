import Forex.Reversal.LevelDetector
import Mathlib.Data.Set.Finite.Lattice

/-!
What the merge of the levels keeps. The level that is kept climbs with every stronger
one that is near it, which can leave the first of its group behind; and a merge counts up
a dictionary of the caller, who finds it changed in the next call.
-/

namespace Forex
open Support

/-- The loop once more, with the levels that each returned one was merged from. -/
def groupsFrom (cur : LevelDict) (members : List LevelDict) :
    List LevelDict → List (LevelDict × List LevelDict)
  | [] => [(cur, members)]
  | lvl :: rest =>
      if lvl.nearTo cur then groupsFrom (cur.absorb lvl) (members ++ [lvl]) rest
      else (cur, members) :: groupsFrom lvl [lvl] rest

def mergeGroups (levels : List LevelDict) : List (LevelDict × List LevelDict) :=
  match byPrice levels with
  | [] => []
  | cur :: rest => groupsFrom cur [cur] rest

/-- The levels returned are in order and apart, near to every level that went in and no
weaker than those they were merged from. -/
structure MergesWell (levels : List LevelDict) : Prop where
  apart : (deduplicateLevels levels).1.Pairwise fun a b => a.price + minLevelSeparationPts ≤ b.price
  covered : ∀ l ∈ levels, ∃ r ∈ (deduplicateLevels levels).1, l.nearTo r
  groups : (mergeGroups levels).map Prod.fst = (deduplicateLevels levels).1 ∧
    ((mergeGroups levels).flatMap Prod.snd).Perm levels
  stronger : ∀ g ∈ mergeGroups levels, ∀ l ∈ g.2, l.strength ≤ g.1.strength

/-- A level that takes over from a weaker one is within the separation of the first of
the group. -/
def KeepsReach (first cur : LevelDict) : List LevelDict → Prop
  | [] => True
  | lvl :: rest =>
      if lvl.nearTo cur then
        (cur.strength < lvl.strength → lvl.price - first.price < minLevelSeparationPts) ∧
          KeepsReach first (cur.absorb lvl) rest
      else KeepsReach lvl lvl rest

def TakeoversInReach (levels : List LevelDict) : Prop :=
  match byPrice levels with
  | [] => True
  | cur :: rest => KeepsReach cur cur rest

/-- However often the levels are asked for, they are the same. -/
def SameAgain (h1Candles : List OhlcCandle) (currentPrice : ℚ) (extraLevels : List Level) : Prop :=
  ∀ n, (getAllLevels h1Candles currentPrice
      ((fun e => (getAllLevels h1Candles currentPrice e).2)^[n] extraLevels)).1 =
    (getAllLevels h1Candles currentPrice extraLevels).1

/-- Whenever two levels are merged, the one that is kept is the detector's own. -/
def KeepsOwn (cur : LevelDict) : List LevelDict → Prop
  | [] => True
  | lvl :: rest =>
      if lvl.nearTo cur then (cur.absorb lvl).owner = none ∧ KeepsOwn (cur.absorb lvl) rest
      else KeepsOwn lvl rest

/-- The first merge that keeps a level of the caller keeps the one of the index. -/
def FirstKept (i : ℕ) (cur : LevelDict) : List LevelDict → Prop
  | [] => False
  | lvl :: rest =>
      if lvl.nearTo cur then
        (cur.absorb lvl).owner = some i ∨
          (cur.absorb lvl).owner = none ∧ FirstKept i (cur.absorb lvl) rest
      else FirstKept i lvl rest

/-- No level of the caller is kept in a merge of the first call. -/
def NoExtraKept (h1Candles : List OhlcCandle) (currentPrice : ℚ) (extraLevels : List Level) :
    Prop :=
  h1Candles ≠ [] → 0 < currentPrice →
    match byPrice
      (ownedLevels extraLevels ++ (foundLevels h1Candles currentPrice).map Level.own) with
    | [] => True
    | cur :: rest => KeepsOwn cur rest

/-- In order of price. -/
def PriceAscending (levels : List LevelDict) : Prop := levels.Pairwise fun a b => a.price ≤ b.price

section Absorb
variable {cur lvl : LevelDict}

theorem absorb_of_stronger (stronger : cur.strength < lvl.strength) :
    cur.absorb lvl = { lvl with strength := lvl.strength + 1 } := by
  rw [LevelDict.absorb, if_pos stronger]

theorem absorb_of_weaker (weaker : lvl.strength ≤ cur.strength) :
    cur.absorb lvl = { cur with strength := cur.strength + 1 } := by
  rw [LevelDict.absorb, if_neg (not_lt.mpr weaker)]

/-- What is kept is stronger than both. -/
theorem le_absorb_strength :
    cur.strength ≤ (cur.absorb lvl).strength ∧ lvl.strength ≤ (cur.absorb lvl).strength := by
  obtain stronger | weaker := lt_or_ge cur.strength lvl.strength
  · rw [absorb_of_stronger stronger]
    constructor
    · dsimp only
      omega
    · dsimp only
      omega
  · rw [absorb_of_weaker weaker]
    constructor
    · dsimp only
      omega
    · dsimp only
      omega

variable (cur lvl) in
theorem absorb_owner : (cur.absorb lvl).owner = cur.owner ∨ (cur.absorb lvl).owner = lvl.owner := by
  obtain stronger | weaker := lt_or_ge cur.strength lvl.strength
  · rw [absorb_of_stronger stronger]
    exact .inr rfl
  · rw [absorb_of_weaker weaker]
    exact .inl rfl

theorem PriceAscending.absorb {rest : List LevelDict}
    (sorted : PriceAscending (cur :: lvl :: rest)) :
    PriceAscending (cur.absorb lvl :: rest) ∧ cur.price ≤ (cur.absorb lvl).price := by
  obtain ⟨first, behind⟩ := List.pairwise_cons.mp sorted
  obtain ⟨second, tail⟩ := List.pairwise_cons.mp behind
  obtain stronger | weaker := lt_or_ge cur.strength lvl.strength
  · rw [absorb_of_stronger stronger]
    exact ⟨List.pairwise_cons.mpr ⟨second, tail⟩, first lvl List.mem_cons_self⟩
  · rw [absorb_of_weaker weaker]
    have ahead := fun l mem => first l (List.mem_cons_of_mem lvl mem)
    exact ⟨List.pairwise_cons.mpr ⟨ahead, tail⟩, le_rfl⟩

theorem nearTo_iff_of_le (below : cur.price ≤ lvl.price) :
    lvl.nearTo cur ↔ lvl.price - cur.price < minLevelSeparationPts := by
  rw [LevelDict.nearTo, abs_of_nonneg (sub_nonneg.mpr below)]

end Absorb

section Merge
variable {cur first : LevelDict} {rest members : List LevelDict}

theorem mergeFrom_cons_near {lvl : LevelDict} (near : lvl.nearTo cur) :
    mergeFrom cur (lvl :: rest) =
      ((mergeFrom (cur.absorb lvl) rest).1,
        (cur.absorb lvl).owner :: (mergeFrom (cur.absorb lvl) rest).2) := by
  rw [mergeFrom, if_pos near]

theorem mergeFrom_cons_far {lvl : LevelDict} (far : ¬ lvl.nearTo cur) :
    mergeFrom cur (lvl :: rest) = (cur :: (mergeFrom lvl rest).1, (mergeFrom lvl rest).2) := by
  rw [mergeFrom, if_neg far]

/-- Nothing is returned below the level that is kept. -/
theorem le_mergeFrom (sorted : PriceAscending (cur :: rest)) :
    ∀ r ∈ (mergeFrom cur rest).1, cur.price ≤ r.price := by
  induction rest generalizing cur with
  | nil =>
      intro r mem
      rw [List.mem_singleton.mp mem]
  | cons lvl rest ih =>
      intro r mem
      by_cases near : lvl.nearTo cur
      · rw [mergeFrom_cons_near near] at mem
        exact sorted.absorb.2.trans (ih sorted.absorb.1 r mem)
      · rw [mergeFrom_cons_far near] at mem
        obtain ⟨below, tail⟩ := List.pairwise_cons.mp sorted
        obtain rfl | behind := List.mem_cons.mp mem
        · exact le_rfl
        · exact (below lvl List.mem_cons_self).trans (ih tail r behind)

theorem mergeFrom_apart (sorted : PriceAscending (cur :: rest)) :
    (mergeFrom cur rest).1.Pairwise fun a b => a.price + minLevelSeparationPts ≤ b.price := by
  induction rest generalizing cur with
  | nil => exact List.pairwise_singleton _ cur
  | cons lvl rest ih =>
      by_cases near : lvl.nearTo cur
      · rw [mergeFrom_cons_near near]
        exact ih sorted.absorb.1
      · rw [mergeFrom_cons_far near]
        obtain ⟨below, tail⟩ := List.pairwise_cons.mp sorted
        refine List.pairwise_cons.mpr ⟨fun r mem => ?_, ih tail⟩
        have step := not_lt.mp (mt (nearTo_iff_of_le (below lvl List.mem_cons_self)).mpr near)
        have above := le_mergeFrom tail r mem
        linarith

theorem minLevelSeparationPts_pos : (0 : ℚ) < minLevelSeparationPts := by decide

theorem nearTo_of {l r : LevelDict} (low : l.price - r.price < minLevelSeparationPts)
    (high : r.price - l.price < minLevelSeparationPts) : l.nearTo r :=
  abs_lt.mpr ⟨by linarith, low⟩

/-- A level that is near to the one kept is near to what is returned near to the first of
its group. -/
theorem near_of_firstNear (sorted : PriceAscending (cur :: lvl :: rest))
    (below : first.price ≤ cur.price) (near : lvl.nearTo cur)
    (base : ∃ r ∈ (mergeFrom (cur.absorb lvl) rest).1, first.nearTo r) :
    ∃ r ∈ (mergeFrom (cur.absorb lvl) rest).1, lvl.nearTo r := by
  have step := (List.pairwise_cons.mp sorted).1 lvl List.mem_cons_self
  have close := (nearTo_iff_of_le step).mp near
  obtain ⟨r, mem, nearFirst⟩ := base
  have above := sorted.absorb.2.trans (le_mergeFrom sorted.absorb.1 r mem)
  exact ⟨r, mem, nearTo_of (by linarith) (by linarith [(abs_lt.mp nearFirst).1])⟩

/-- Nothing behind a new group is near to the level kept before it. -/
theorem near_drop_iff (sorted : PriceAscending (cur :: lvl :: rest)) (far : ¬ lvl.nearTo cur)
    {l : LevelDict} (mem : l ∈ lvl :: rest) :
    (∃ r ∈ cur :: (mergeFrom lvl rest).1, l.nearTo r) ↔
      ∃ r ∈ (mergeFrom lvl rest).1, l.nearTo r := by
  obtain ⟨first_le, tail⟩ := List.pairwise_cons.mp sorted
  have apart := not_lt.mp (mt (nearTo_iff_of_le (first_le lvl List.mem_cons_self)).mpr far)
  constructor
  · rintro ⟨r, found, close⟩
    obtain rfl | behind := List.mem_cons.mp found
    · have above : lvl.price ≤ l.price := by
        obtain rfl | later := List.mem_cons.mp mem
        · exact le_rfl
        · exact (List.pairwise_cons.mp tail).1 l later
      have within := (abs_lt.mp close).2
      linarith
    · exact ⟨r, behind, close⟩
  · rintro ⟨r, found, close⟩
    exact ⟨r, List.mem_cons_of_mem cur found, close⟩

/-- Every level of the walk has one near it among those returned exactly when no
takeover goes out of reach of the first of its group. -/
theorem covered_iff (sorted : PriceAscending (cur :: rest)) (below : first.price ≤ cur.price)
    (reach : cur.price - first.price < minLevelSeparationPts) :
    (∃ r ∈ (mergeFrom cur rest).1, first.nearTo r) ∧
        (∀ l ∈ rest, ∃ r ∈ (mergeFrom cur rest).1, l.nearTo r) ↔
      KeepsReach first cur rest := by
  have positive := minLevelSeparationPts_pos
  induction rest generalizing cur first with
  | nil =>
      refine iff_of_true ⟨⟨cur, List.mem_singleton_self cur, nearTo_of ?_ reach⟩, ?_⟩ trivial
      · linarith
      · intro l mem
        cases mem
  | cons lvl rest ih =>
      by_cases near : lvl.nearTo cur
      · have climbs := sorted.absorb
        rw [mergeFrom_cons_near near, KeepsReach, if_pos near]
        have split : ((∃ r ∈ (mergeFrom (cur.absorb lvl) rest).1, first.nearTo r) ∧
            ∀ l ∈ lvl :: rest, ∃ r ∈ (mergeFrom (cur.absorb lvl) rest).1, l.nearTo r) ↔
              (∃ r ∈ (mergeFrom (cur.absorb lvl) rest).1, first.nearTo r) ∧
                ∀ l ∈ rest, ∃ r ∈ (mergeFrom (cur.absorb lvl) rest).1, l.nearTo r := by
          rw [List.forall_mem_cons]
          exact ⟨fun ⟨base, _, behind⟩ => ⟨base, behind⟩,
            fun ⟨base, behind⟩ => ⟨base, near_of_firstNear sorted below near base, behind⟩⟩
        refine split.trans ?_
        by_cases inReach : (cur.absorb lvl).price - first.price < minLevelSeparationPts
        · refine (ih climbs.1 (below.trans climbs.2) inReach).trans ?_
          refine ⟨fun keeps => ⟨fun stronger => ?_, keeps⟩, And.right⟩
          rwa [absorb_of_stronger stronger] at inReach
        · refine iff_of_false ?_ ?_
          · rintro ⟨⟨r, mem, nearFirst⟩, -⟩
            have above := le_mergeFrom climbs.1 r mem
            exact inReach (by linarith [(abs_lt.mp nearFirst).1])
          · rintro ⟨takeover, -⟩
            obtain stronger | weaker := lt_or_ge cur.strength lvl.strength
            · exact inReach (absorb_of_stronger stronger ▸ takeover stronger)
            · exact inReach (absorb_of_weaker weaker ▸ reach)
      · have tail := (List.pairwise_cons.mp sorted).2
        have behind := ih tail le_rfl (by rw [sub_self]; exact positive)
        rw [mergeFrom_cons_far near, KeepsReach, if_neg near]
        refine Iff.trans ?_ behind
        have base : ∃ r ∈ cur :: (mergeFrom lvl rest).1, first.nearTo r :=
          ⟨cur, List.mem_cons_self, nearTo_of (by linarith) reach⟩
        rw [and_iff_right base, List.forall_mem_cons,
          near_drop_iff sorted near List.mem_cons_self]
        refine and_congr_right fun _ => forall₂_congr fun l mem => ?_
        exact near_drop_iff sorted near (List.mem_cons_of_mem lvl mem)

theorem map_groupsFrom (members : List LevelDict) :
    (groupsFrom cur members rest).map Prod.fst = (mergeFrom cur rest).1 := by
  induction rest generalizing cur members with
  | nil => rfl
  | cons lvl rest ih =>
      by_cases near : lvl.nearTo cur
      · rw [groupsFrom, if_pos near, mergeFrom_cons_near near, ih]
      · rw [groupsFrom, if_neg near, mergeFrom_cons_far near, List.map_cons, ih]

theorem flatMap_groupsFrom (members : List LevelDict) :
    (groupsFrom cur members rest).flatMap Prod.snd = members ++ rest := by
  induction rest generalizing cur members with
  | nil => rw [groupsFrom, List.flatMap_singleton, List.append_nil]
  | cons lvl rest ih =>
      by_cases near : lvl.nearTo cur
      · rw [groupsFrom, if_pos near, ih, List.append_assoc, List.singleton_append]
      · rw [groupsFrom, if_neg near, List.flatMap_cons, ih, List.singleton_append]

/-- The level that is kept is as strong as all of its group. -/
theorem groupsFrom_stronger (kept : ∀ l ∈ members, l.strength ≤ cur.strength) :
    ∀ g ∈ groupsFrom cur members rest, ∀ l ∈ g.2, l.strength ≤ g.1.strength := by
  induction rest generalizing cur members with
  | nil =>
      intro g mem
      rw [List.mem_singleton.mp mem]
      exact kept
  | cons lvl rest ih =>
      intro g mem
      by_cases near : lvl.nearTo cur
      · rw [groupsFrom, if_pos near] at mem
        refine ih (fun l inside => ?_) g mem
        obtain old | new := List.mem_append.mp inside
        · exact (kept l old).trans le_absorb_strength.1
        · exact (List.mem_singleton.mp new) ▸ le_absorb_strength.2
      · rw [groupsFrom, if_neg near] at mem
        obtain rfl | behind := List.mem_cons.mp mem
        · exact kept
        · exact ih (fun l inside => (List.mem_singleton.mp inside) ▸ le_rfl) g behind

end Merge

/-- The merge does all that it is for when the takeovers stay within reach. -/
theorem mergesWell_iff (levels : List LevelDict) : MergesWell levels ↔ TakeoversInReach levels := by
  have order : PriceAscending (byPrice levels) := List.pairwise_insertionSort _ _
  have perm : (byPrice levels).Perm levels := List.perm_insertionSort _ _
  unfold TakeoversInReach
  rcases list : byPrice levels with _ | ⟨cur, rest⟩
  · have empty : levels = [] := List.perm_nil.mp (list ▸ perm).symm
    subst empty
    exact iff_of_true ⟨List.Pairwise.nil, fun l mem => absurd mem List.not_mem_nil, ⟨rfl, .nil⟩,
      fun g mem => absurd mem List.not_mem_nil⟩ trivial
  · rw [list] at order perm
    have result : deduplicateLevels levels = mergeFrom cur rest := by
      rw [deduplicateLevels, list]
    have groups : mergeGroups levels = groupsFrom cur [cur] rest := by
      rw [mergeGroups, list]
    have positive : cur.price - cur.price < minLevelSeparationPts := by
      rw [sub_self]
      decide
    have covered : (∀ l ∈ cur :: rest, ∃ r ∈ (mergeFrom cur rest).1, l.nearTo r) ↔
        KeepsReach cur cur rest :=
      List.forall_mem_cons.trans (covered_iff order le_rfl positive)
    refine Iff.trans ?_ covered
    constructor
    · intro well l mem
      exact result ▸ well.covered l (perm.mem_iff.mp mem)
    · intro all
      refine ⟨result ▸ mergeFrom_apart order, fun l mem => result ▸ all l (perm.mem_iff.mpr mem),
        ?_, ?_⟩
      · rw [groups, result]
        refine ⟨map_groupsFrom [cur], ?_⟩
        rw [flatMap_groupsFrom, List.singleton_append]
        exact perm
      · rw [groups]
        exact groupsFrom_stronger fun l mem => (List.mem_singleton.mp mem) ▸ le_rfl

namespace LevelDict

/-- A dictionary of the caller that has been counted up. -/
def raise (gain : ℕ → ℤ) (l : LevelDict) : LevelDict :=
  { l with strength := l.strength + (l.owner.map gain).getD 0 }

theorem raise_of_zero {gain : ℕ → ℤ} {l : LevelDict} (zero : ∀ i, l.owner = some i → gain i = 0) :
    l.raise gain = l := by
  obtain ⟨level, owner⟩ := l
  have none_ : (owner.map gain).getD 0 = 0 := by
    cases owner with
    | none => rfl
    | some i => exact zero i rfl
  rw [raise, none_, add_zero]

theorem le_raise {gain : ℕ → ℤ} (nonneg : ∀ i, 0 ≤ gain i) (l : LevelDict) :
    l.strength ≤ (l.raise gain).strength := by
  obtain ⟨level, owner⟩ := l
  cases owner with
  | none => exact le_of_eq (add_zero _).symm
  | some i => exact le_add_of_nonneg_right (nonneg i)

theorem raise_count (gain : ℕ → ℤ) (l : LevelDict) :
    ({ l with strength := l.strength + 1 } : LevelDict).raise gain =
      { l.raise gain with strength := (l.raise gain).strength + 1 } := by
  rw [raise, raise, LevelDict.mk.injEq, Level.mk.injEq]
  exact ⟨⟨rfl, rfl, add_right_comm _ _ _⟩, rfl⟩

end LevelDict

/-- No two are the same dictionary of the caller. -/
def Distinct (levels : List LevelDict) : Prop :=
  levels.Pairwise fun a b => ∀ i, a.owner = some i → b.owner ≠ some i

section Repeated
variable {cur : LevelDict} {rest : List LevelDict} {gain : ℕ → ℤ} {i : ℕ}

/-- What is counted up has been kept. -/
theorem counted_owner {o : Option ℕ} (mem : o ∈ (mergeFrom cur rest).2) :
    ∃ l ∈ cur :: rest, l.owner = o := by
  induction rest generalizing cur with
  | nil => cases mem
  | cons lvl rest ih =>
      by_cases near : lvl.nearTo cur
      · rw [mergeFrom_cons_near near] at mem
        have either : ∃ l ∈ cur :: lvl :: rest, l.owner = (cur.absorb lvl).owner := by
          obtain same | same := absorb_owner cur lvl
          · exact ⟨cur, List.mem_cons_self, same.symm⟩
          · exact ⟨lvl, List.mem_cons_of_mem cur List.mem_cons_self, same.symm⟩
        obtain rfl | behind := List.mem_cons.mp mem
        · exact either
        · obtain ⟨l, inside, same⟩ := ih behind
          obtain rfl | later := List.mem_cons.mp inside
          · exact same ▸ either
          · exact ⟨l, List.mem_cons_of_mem cur (List.mem_cons_of_mem lvl later), same⟩
      · rw [mergeFrom_cons_far near] at mem
        obtain ⟨l, inside, same⟩ := ih mem
        exact ⟨l, List.mem_cons_of_mem cur inside, same⟩

theorem keepsOwn_iff : KeepsOwn cur rest ↔ ∀ o ∈ (mergeFrom cur rest).2, o = none := by
  induction rest generalizing cur with
  | nil => exact iff_of_true trivial fun o mem => absurd mem List.not_mem_nil
  | cons lvl rest ih =>
      by_cases near : lvl.nearTo cur
      · rw [KeepsOwn, if_pos near, mergeFrom_cons_near near, List.forall_mem_cons, ih]
      · rw [KeepsOwn, if_neg near, mergeFrom_cons_far near, ih]

theorem exists_firstKept (kept : ¬ KeepsOwn cur rest) : ∃ i, FirstKept i cur rest := by
  induction rest generalizing cur with
  | nil => exact absurd trivial kept
  | cons lvl rest ih =>
      by_cases near : lvl.nearTo cur
      · rw [KeepsOwn, if_pos near] at kept
        rcases owner : (cur.absorb lvl).owner with _ | i
        · obtain ⟨i, later⟩ := ih fun own => kept ⟨owner, own⟩
          exact ⟨i, by rw [FirstKept, if_pos near]; exact .inr ⟨owner, later⟩⟩
        · exact ⟨i, by rw [FirstKept, if_pos near]; exact .inl owner⟩
      · rw [KeepsOwn, if_neg near] at kept
        obtain ⟨i, later⟩ := ih kept
        exact ⟨i, by rw [FirstKept, if_neg near]; exact later⟩

theorem FirstKept.counted (kept : FirstKept i cur rest) : some i ∈ (mergeFrom cur rest).2 := by
  induction rest generalizing cur with
  | nil => cases kept
  | cons lvl rest ih =>
      by_cases near : lvl.nearTo cur
      · rw [FirstKept, if_pos near] at kept
        rw [mergeFrom_cons_near near]
        obtain now | ⟨-, later⟩ := kept
        · exact now ▸ List.mem_cons_self
        · exact List.mem_cons_of_mem _ (ih later)
      · rw [FirstKept, if_neg near] at kept
        rw [mergeFrom_cons_far near]
        exact ih kept

/-- If only the one that is kept gains, the same one is kept. -/
theorem absorb_raise {lvl : LevelDict} (nonneg : ∀ i, 0 ≤ gain i)
    (idle : cur.strength < lvl.strength → ∀ i, cur.owner = some i → gain i = 0)
    (idle' : lvl.strength ≤ cur.strength → ∀ i, lvl.owner = some i → gain i = 0) :
    (cur.raise gain).absorb (lvl.raise gain) = (cur.absorb lvl).raise gain := by
  obtain stronger | weaker := lt_or_ge cur.strength lvl.strength
  · rw [LevelDict.raise_of_zero (idle stronger), absorb_of_stronger stronger,
      absorb_of_stronger (stronger.trans_le (LevelDict.le_raise nonneg lvl)),
      LevelDict.raise_count]
  · rw [LevelDict.raise_of_zero (idle' weaker), absorb_of_weaker weaker,
      absorb_of_weaker (weaker.trans (LevelDict.le_raise nonneg cur)), LevelDict.raise_count]

/-- Whoever was kept first gains, and is kept first again. -/
theorem FirstKept.persists (distinct : Distinct (cur :: rest)) (nonneg : ∀ i, 0 ≤ gain i)
    (only : ∀ j, gain j ≠ 0 → some j ∈ (mergeFrom cur rest).2) (kept : FirstKept i cur rest) :
    FirstKept i (cur.raise gain) (rest.map (LevelDict.raise gain)) := by
  induction rest generalizing cur with
  | nil => cases kept
  | cons lvl rest ih =>
      obtain ⟨curDistinct, tail⟩ := List.pairwise_cons.mp distinct
      obtain ⟨lvlDistinct, restDistinct⟩ := List.pairwise_cons.mp tail
      rw [List.map_cons]
      by_cases near : lvl.nearTo cur
      · have near' : (lvl.raise gain).nearTo (cur.raise gain) := near
        rw [FirstKept, if_pos near] at kept
        rw [mergeFrom_cons_near near] at only
        -- a dictionary that gains is the kept one or behind
        have gains {j : ℕ} (gain_j : gain j ≠ 0) :
            ∃ l ∈ cur.absorb lvl :: rest, l.owner = some j := by
          obtain now | later := List.mem_cons.mp (only j gain_j)
          · exact ⟨_, List.mem_cons_self, now.symm⟩
          · exact counted_owner later
        have same : (cur.raise gain).absorb (lvl.raise gain) = (cur.absorb lvl).raise gain := by
          refine absorb_raise nonneg (fun stronger j owner => ?_) fun weaker j owner => ?_
          · by_contra gain_j
            obtain ⟨l, mem, own⟩ := gains gain_j
            rw [absorb_of_stronger stronger] at mem
            obtain rfl | behind := List.mem_cons.mp mem
            · exact curDistinct lvl List.mem_cons_self j owner own
            · exact curDistinct l (List.mem_cons_of_mem lvl behind) j owner own
          · by_contra gain_j
            obtain ⟨l, mem, own⟩ := gains gain_j
            rw [absorb_of_weaker weaker] at mem
            obtain rfl | behind := List.mem_cons.mp mem
            · exact curDistinct lvl List.mem_cons_self j own owner
            · exact lvlDistinct l behind j owner own
        rw [FirstKept, if_pos near', same]
        obtain now | ⟨own, later⟩ := kept
        · exact .inl now
        · refine .inr ⟨own, ih ?_ (fun j gain_j => ?_) later⟩
          · refine List.pairwise_cons.mpr ⟨fun l _ j owner => ?_, restDistinct⟩
            cases own.symm.trans owner
          · obtain now | later := List.mem_cons.mp (only j gain_j)
            · cases own.symm.trans now.symm
            · exact later
      · have far' : ¬ (lvl.raise gain).nearTo (cur.raise gain) := near
        rw [FirstKept, if_neg near] at kept
        rw [mergeFrom_cons_far near] at only
        rw [FirstKept, if_neg far']
        exact ih tail only kept

end Repeated

section Calls
variable {h1Candles : List OhlcCandle} {currentPrice : ℚ} {extraLevels found : List Level}

theorem own_owner {l : LevelDict} (mem : l ∈ found.map Level.own) : l.owner = none := by
  obtain ⟨l', -, rfl⟩ := List.mem_map.mp mem
  rfl

theorem getElem?_of_owner {l : LevelDict} {i : ℕ} (mem : l ∈ ownedLevels extraLevels)
    (owner : l.owner = some i) : extraLevels[i]? = some l.toLevel := by
  obtain ⟨j, inside, rfl⟩ := List.mem_mapIdx.mp mem
  obtain rfl := Option.some.inj owner
  exact List.getElem?_eq_getElem inside

theorem distinct_candidates (extraLevels found : List Level) :
    Distinct (ownedLevels extraLevels ++ found.map Level.own) := by
  refine List.pairwise_append.mpr ⟨?_, ?_, ?_⟩
  · rw [List.pairwise_iff_getElem]
    intro i j first second before k owner owner'
    simp only [ownedLevels, List.getElem_mapIdx] at owner owner'
    exact absurd ((Option.some.inj owner).trans (Option.some.inj owner').symm) before.ne
  · refine List.pairwise_iff_forall_sublist.mpr fun {a b} pair k owner => ?_
    cases (own_owner (pair.subset List.mem_cons_self)).symm.trans owner
  · intro a _ b mem k _ owner'
    cases (own_owner mem).symm.trans owner'

/-- In the next call the dictionaries are those that were counted up. -/
theorem byPrice_countedUp (extraLevels found : List Level) (counted : List (Option ℕ)) :
    byPrice (ownedLevels (countedUp extraLevels counted) ++ found.map Level.own) =
      (byPrice (ownedLevels extraLevels ++ found.map Level.own)).map
        (LevelDict.raise fun i => (counted.count (some i) : ℤ)) := by
  have owned : ownedLevels (countedUp extraLevels counted) =
      (ownedLevels extraLevels).map (LevelDict.raise fun i => (counted.count (some i) : ℤ)) := by
    rw [ownedLevels, countedUp, List.mapIdx_mapIdx]
    refine List.mapIdx_eq_iff.mpr fun i => ?_
    rw [ownedLevels, List.getElem?_map, List.getElem?_mapIdx, Option.map_map]
    rfl
  have own : (found.map Level.own).map (LevelDict.raise fun i => (counted.count (some i) : ℤ)) =
      found.map Level.own := by
    rw [List.map_map]
    refine List.map_congr_left fun l _ => ?_
    exact LevelDict.raise_of_zero fun i none_ => by cases none_
  have sorted := List.map_insertionSort (r := fun a b : LevelDict => a.price ≤ b.price)
    (s := fun a b => a.price ≤ b.price)
    (LevelDict.raise fun i => (counted.count (some i) : ℤ))
    (ownedLevels extraLevels ++ found.map Level.own) fun _ _ _ _ => Iff.rfl
  rw [List.map_append, own, ← owned] at sorted
  exact sorted.symm

theorem countedUp_of_own {counted : List (Option ℕ)} (own : ∀ o ∈ counted, o = none) :
    countedUp extraLevels counted = extraLevels := by
  refine List.mapIdx_eq_iff.mpr fun i => ?_
  have zero : counted.count (some i) = 0 := List.count_eq_zero.mpr fun mem => by cases own _ mem
  rw [zero]
  cases extraLevels[i]? with
  | none => rfl
  | some l =>
      rw [Option.map_some, Nat.cast_zero, add_zero]

/-- Each level that goes in is no stronger than one that comes out. -/
theorem exists_stronger (levels : List LevelDict) :
    ∀ l ∈ levels, ∃ r ∈ (deduplicateLevels levels).1, l.strength ≤ r.strength := by
  intro l mem
  have sorted :=
    (List.perm_insertionSort (fun a b : LevelDict => a.price ≤ b.price) levels).mem_iff.mpr mem
  change l ∈ byPrice levels at sorted
  unfold deduplicateLevels
  rcases list : byPrice levels with _ | ⟨cur, rest⟩
  · rw [list] at sorted
    cases sorted
  · have flat : (groupsFrom cur [cur] rest).flatMap Prod.snd = cur :: rest :=
      flatMap_groupsFrom [cur]
    rw [list, ← flat] at sorted
    obtain ⟨g, group, inside⟩ := List.mem_flatMap.mp sorted
    have kept : ∀ l ∈ [cur], l.strength ≤ cur.strength := fun l mem =>
      (List.mem_singleton.mp mem) ▸ le_rfl
    exact ⟨g.1, map_groupsFrom [cur] ▸ List.mem_map_of_mem group,
      groupsFrom_stronger kept g group l inside⟩

/-- The caller's dictionaries after a number of calls. -/
def afterCalls (h1Candles : List OhlcCandle) (currentPrice : ℚ) (extraLevels : List Level) (n : ℕ) :
    List Level :=
  (fun e => (getAllLevels h1Candles currentPrice e).2)^[n] extraLevels

theorem afterCalls_succ (n : ℕ) :
    afterCalls h1Candles currentPrice extraLevels (n + 1) =
      (getAllLevels h1Candles currentPrice (afterCalls h1Candles currentPrice extraLevels n)).2 :=
  Function.iterate_succ_apply' _ n extraLevels

theorem getAllLevels_of (some_ : h1Candles ≠ []) (positive : 0 < currentPrice)
    (extraLevels : List Level) :
    getAllLevels h1Candles currentPrice extraLevels =
      ((deduplicateLevels (ownedLevels extraLevels ++
          (foundLevels h1Candles currentPrice).map Level.own)).1.map LevelDict.toLevel,
        countedUp extraLevels (deduplicateLevels (ownedLevels extraLevels ++
          (foundLevels h1Candles currentPrice).map Level.own)).2) := by
  rw [getAllLevels, if_neg (not_or.mpr ⟨some_, not_le.mpr positive⟩)]

/-- A level of the caller that is kept first is one of the list. -/
theorem getElem?_of_firstKept {cur : LevelDict} {rest : List LevelDict} {i : ℕ}
    (sorted : byPrice (ownedLevels extraLevels ++ found.map Level.own) = cur :: rest)
    (kept : FirstKept i cur rest) :
    ∃ l ∈ ownedLevels extraLevels ++ found.map Level.own,
      l.owner = some i ∧ extraLevels[i]? = some l.toLevel := by
  obtain ⟨l, inside, owner⟩ := counted_owner kept.counted
  rw [← sorted] at inside
  have mem : l ∈ ownedLevels extraLevels ++ found.map Level.own :=
    (List.perm_insertionSort _ _).mem_iff.mp inside
  refine ⟨l, mem, owner, ?_⟩
  obtain caller | own := List.mem_append.mp mem
  · exact getElem?_of_owner caller owner
  · cases (own_owner own).symm.trans owner

/-- It gains with every call, and is kept first again. -/
theorem gains_every_call {cur : LevelDict} {rest : List LevelDict} {i : ℕ}
    (some_ : h1Candles ≠ []) (positive : 0 < currentPrice)
    (sorted : byPrice (ownedLevels extraLevels ++
      (foundLevels h1Candles currentPrice).map Level.own) = cur :: rest)
    (kept : FirstKept i cur rest) {l : Level} (start : extraLevels[i]? = some l) (n : ℕ) :
    ∃ cur' rest' l', byPrice (ownedLevels (afterCalls h1Candles currentPrice extraLevels n) ++
        (foundLevels h1Candles currentPrice).map Level.own) = cur' :: rest' ∧
      FirstKept i cur' rest' ∧
      (afterCalls h1Candles currentPrice extraLevels n)[i]? = some l' ∧
      l.strength + n ≤ l'.strength := by
  induction n with
  | zero => exact ⟨cur, rest, l, sorted, kept, start, (add_zero _).le⟩
  | succ n ih =>
      obtain ⟨cur', rest', l', sorted', kept', here, grown⟩ := ih
      obtain ⟨e, calls⟩ : ∃ e, e = afterCalls h1Candles currentPrice extraLevels n := ⟨_, rfl⟩
      rw [← calls] at sorted' here
      have next : afterCalls h1Candles currentPrice extraLevels (n + 1) =
          countedUp e (mergeFrom cur' rest').2 := by
        rw [afterCalls_succ, ← calls, getAllLevels_of some_ positive, deduplicateLevels, sorted']
      have distinct : Distinct (cur' :: rest') := by
        have all := distinct_candidates e (foundLevels h1Candles currentPrice)
        have sym : Std.Symm fun a b : LevelDict => ∀ i, a.owner = some i → b.owner ≠ some i :=
          ⟨fun _ _ differ i owner owner' => differ i owner' owner⟩
        exact sorted' ▸ ((List.perm_insertionSort _ _).pairwise_iff (sym.symm _ _)).mpr all
      have again : FirstKept i
          (cur'.raise fun j => ((mergeFrom cur' rest').2.count (some j) : ℤ))
          (rest'.map (LevelDict.raise fun j => ((mergeFrom cur' rest').2.count (some j) : ℤ))) :=
        kept'.persists distinct (fun _ => Int.natCast_nonneg _) fun j gain =>
          List.count_pos_iff.mp (Nat.pos_of_ne_zero fun zero => gain (by rw [zero]; rfl))
      rw [next]
      refine ⟨_, _,
        { l' with strength := l'.strength + ((mergeFrom cur' rest').2.count (some i) : ℤ) },
        ?_, again, ?_, ?_⟩
      · rw [byPrice_countedUp, sorted', List.map_cons]
      · rw [countedUp, List.getElem?_mapIdx, here]
        rfl
      · have counted : 1 ≤ (mergeFrom cur' rest').2.count (some i) :=
          List.count_pos_iff.mpr kept'.counted
        push_cast
        omega

/-- Such a call counts nothing up. -/
theorem NoExtraKept.unchanged {h1Candles : List OhlcCandle} {currentPrice : ℚ}
    {extraLevels : List Level} (own : NoExtraKept h1Candles currentPrice extraLevels) :
    (getAllLevels h1Candles currentPrice extraLevels).2 = extraLevels := by
  by_cases empty : h1Candles = [] ∨ currentPrice ≤ 0
  · rw [getAllLevels, if_pos empty]
  · obtain ⟨some_, positive⟩ := not_or.mp empty
    have keeps := own some_ (not_le.mp positive)
    rw [getAllLevels_of some_ (not_le.mp positive)]
    refine countedUp_of_own ?_
    unfold deduplicateLevels
    rcases sorted : byPrice (ownedLevels extraLevels ++
        (foundLevels h1Candles currentPrice).map Level.own) with _ | ⟨cur, rest⟩
    · intro o mem
      cases mem
    · rw [sorted] at keeps
      exact keepsOwn_iff.mp keeps

/-- The levels stay the same over all calls when none of the caller's is kept in a merge
of the first. -/
theorem sameAgain_iff (h1Candles : List OhlcCandle) (currentPrice : ℚ) (extraLevels : List Level) :
    SameAgain h1Candles currentPrice extraLevels ↔
      NoExtraKept h1Candles currentPrice extraLevels := by
  constructor
  · intro same some_ positive
    rcases sorted : byPrice (ownedLevels extraLevels ++
        (foundLevels h1Candles currentPrice).map Level.own) with _ | ⟨cur, rest⟩
    · trivial
    · by_contra gains
      obtain ⟨i, kept⟩ := exists_firstKept gains
      obtain ⟨d, -, -, start⟩ := getElem?_of_firstKept sorted kept
      obtain ⟨bound, above⟩ := ((getAllLevels h1Candles currentPrice extraLevels).1.map
        fun r => r.strength).toFinset.bddAbove
      obtain ⟨n, beyond⟩ : ∃ n : ℕ, bound < d.strength + n :=
        ⟨(bound - d.strength).toNat + 1, by push_cast; omega⟩
      obtain ⟨cur', rest', l', -, -, here, grown⟩ :=
        gains_every_call some_ positive sorted kept start n
      obtain ⟨e, calls⟩ : ∃ e, e = afterCalls h1Candles currentPrice extraLevels n := ⟨_, rfl⟩
      rw [← calls] at here
      have dict : (⟨l', some i⟩ : LevelDict) ∈ ownedLevels e ++
          (foundLevels h1Candles currentPrice).map Level.own := by
        refine List.mem_append_left _ (List.mem_mapIdx.mpr ?_)
        obtain ⟨inside, value⟩ := List.getElem?_eq_some_iff.mp here
        exact ⟨i, inside, by rw [value]⟩
      obtain ⟨r, returned, stronger⟩ := exists_stronger _ _ dict
      have level : r.toLevel ∈ (getAllLevels h1Candles currentPrice extraLevels).1 := by
        have again : (getAllLevels h1Candles currentPrice e).1 =
            (getAllLevels h1Candles currentPrice extraLevels).1 := calls ▸ same n
        rw [← again, getAllLevels_of some_ positive]
        exact List.mem_map_of_mem returned
      have under : r.strength ≤ bound := above (by
        rw [List.coe_toFinset]
        exact List.mem_map_of_mem (f := fun r : Level => r.strength) level)
      dsimp only at stronger
      omega
  · intro own n
    rw [Function.iterate_fixed own.unchanged n]

end Calls

/-- The two halves of the merge: over one list, and over repeated calls. -/
theorem level_merging_iff (levels : List LevelDict) (h1Candles : List OhlcCandle)
    (currentPrice : ℚ) (extraLevels : List Level) :
    (MergesWell levels ↔ TakeoversInReach levels) ∧
      (SameAgain h1Candles currentPrice extraLevels ↔
        NoExtraKept h1Candles currentPrice extraLevels) :=
  ⟨mergesWell_iff levels, sameAgain_iff h1Candles currentPrice extraLevels⟩

/-- Three new levels in a row, each stronger than the last. -/
def climbing : List LevelDict :=
  [(⟨2000, .swingLow, 1⟩ : Level).own, (⟨2002.5, .congestion, 2⟩ : Level).own,
    (⟨2005, .round5, 4⟩ : Level).own]

/-- One candle in the morning, at a round number. -/
def morning : List OhlcCandle := [⟨⟨2000, 2000, 2000⟩, 32400, 2000⟩]

/-- The first level is five points from the one it is merged into; and a level of the
caller two points from a round number comes back stronger from the second call. -/
theorem merge_leaves_level :
    (deduplicateLevels climbing).1 = [(⟨2005, .round5, 5⟩ : Level).own] ∧
      ¬ MergesWell climbing ∧
      (⟨2002, .other "pdh", 5⟩ : Level) ∈ (getAllLevels morning 2000 [⟨2002, .other "pdh", 4⟩]).1 ∧
      (getAllLevels morning 2000 [⟨2002, .other "pdh", 4⟩]).2 = [⟨2002, .other "pdh", 5⟩] ∧
      ¬ SameAgain morning 2000 [⟨2002, .other "pdh", 4⟩] := by
  have merged : (deduplicateLevels climbing).1 = [(⟨2005, .round5, 5⟩ : Level).own] := by
    decide +kernel
  have after : (getAllLevels morning 2000 [⟨2002, .other "pdh", 4⟩]).2 =
      [⟨2002, .other "pdh", 5⟩] := by decide +kernel
  refine ⟨merged, fun well => ?_, by decide +kernel, after, fun same => ?_⟩
  · obtain ⟨r, mem, near⟩ := well.covered _ List.mem_cons_self
    rw [merged] at mem
    rw [List.mem_singleton.mp mem] at near
    exact absurd near (by decide +kernel)
  · have second := same 1
    rw [Function.iterate_one, after] at second
    exact absurd second (by decide +kernel)

end Forex
