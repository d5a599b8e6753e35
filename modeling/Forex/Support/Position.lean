import Mathlib.Algebra.Order.Ring.Defs
import Mathlib.Algebra.Order.Monoid.WithTop
import Mathlib.Data.List.Forall2
import Mathlib.Order.WithBot
import Mathlib.Tactic.Linarith

/-!
A position in the gains of its prices: targets taken in order, and a stop that
only tightens. One step is given the most and the least favourable gain of an
interval. Intervals of one gain each, and their union in one interval, are
compared: where the stop is left alone inside of it, the two steps agree.
-/

namespace Support.Coarse
universe u

structure Target (K : Type u) where
  gain : K
  share : K
  taken : Bool

inductive Trail (K : Type u) where
  | off
  /-- A distance behind the gain, moved by no less than the second amount. -/
  | behind (dist least : K)
  | targets

structure PositionRules (K : Type u) where
  climbs : Bool
  inParts : Bool
  lastTakesAll : Bool
  breakevenAt : ℕ
  breakeven : K
  armAt : ℕ
  activation : K
  trail : Trail K

structure Position (K : Type u) where
  stop : WithBot K
  armed : Bool
  targets : List (Target K)
  banked : K
  lots : K

variable {K : Type u}

def takenAt (ts : List (Target K)) (n : ℕ) : Bool :=
  decide (0 < n) && (ts[n - 1]?).any Target.taken

/-- The gain of the last target before the first one that is not taken. -/
def bestTaken : List (Target K) → WithBot K
  | [] => ⊥
  | t :: ts => if t.taken then ((bestTaken ts).unbotD t.gain : K) else ⊥

structure Climbed (K : Type u) where
  targets : List (Target K)
  banked : K
  lots : K

def Climbed.push (t : Target K) (c : Climbed K) : Climbed K := { c with targets := t :: c.targets }

/-- The trail is not held back, and the best target taken is the last one. -/
def Trail.Plain [Zero K] [LE K] : Trail K → List K → Prop
  | .off, _ => True
  | .behind _ least, _ => least ≤ 0
  | .targets, gains => gains.Pairwise (· ≤ ·)

instance decidablePlain [Zero K] [LE K] [DecidableLE K] :
    ∀ (trail : Trail K) (gains : List K), Decidable (trail.Plain gains)
  | .off, _ => isTrue True.intro
  | .behind _ least, _ => inferInstanceAs (Decidable (least ≤ 0))
  | .targets, gains => inferInstanceAs (Decidable (gains.Pairwise (· ≤ ·)))

namespace PositionRules
variable [CommRing K] [LinearOrder K] (r : PositionRules K)

/-- The targets reached in order, each closing its share of what is left. -/
def climb (fav : K) : List (Target K) → K → K → Climbed K
  | [], banked, lots => ⟨[], banked, lots⟩
  | t :: ts, banked, lots =>
      if t.taken then (climb fav ts banked lots).push t
      else if fav < t.gain then ⟨t :: ts, banked, lots⟩
      else if ts.isEmpty && (r.lastTakesAll || !r.inParts) then
        ⟨{ t with taken := true } :: ts, banked + t.gain * lots, 0⟩
      else if r.inParts = false then ⟨t :: ts, banked, lots⟩
      else if min t.share lots ≤ 0 then (climb fav ts banked lots).push { t with taken := true }
      else
        (climb fav ts (banked + t.gain * min t.share lots) (lots - min t.share lots)).push
          { t with taken := true }

def pull (fav : K) (ts : List (Target K)) (stop : WithBot K) : WithBot K :=
  match r.trail with
  | .off => stop
  | .behind dist least =>
      if least ≤ 0 ∨ stop + least ≤ (fav - dist : K) then max stop (fav - dist : K) else stop
  | .targets => max stop (bestTaken ts)

def secured (ts : List (Target K)) (stop : WithBot K) : WithBot K :=
  if takenAt ts r.breakevenAt then max stop r.breakeven else stop

def arms (fav : K) (ts : List (Target K)) (armed : Bool) : Bool :=
  armed || (decide (0 < r.activation) && decide (r.activation ≤ fav)) || takenAt ts r.armAt

def ratchet (fav : K) (ts : List (Target K)) (stop : WithBot K) (armed : Bool) : WithBot K :=
  if r.arms fav ts armed then r.pull fav ts (r.secured ts stop) else r.secured ts stop

def take (fav : K) (ts : List (Target K)) (banked lots : K) : Climbed K :=
  if r.climbs then r.climb fav ts banked lots else ⟨ts, banked, lots⟩

/-- What a step does that the stop does not end. -/
def carryOn (fav : K) (p : Position K) : Position K :=
  let c := r.take fav p.targets p.banked p.lots
  if c.lots ≤ 0 then { p with targets := c.targets, banked := c.banked, lots := c.lots }
  else
    ⟨r.ratchet fav c.targets p.stop p.armed, r.arms fav c.targets p.armed, c.targets, c.banked,
      c.lots⟩

def stopOut (p : Position K) : Position K :=
  { p with banked := p.banked + p.stop.unbotD 0 * p.lots, lots := 0 }

/-- One interval; a closed position stays as it is. -/
def step (fav adv : K) (p : Position K) : Position K :=
  if p.lots ≤ 0 then p
  else if (adv : WithBot K) ≤ p.stop then stopOut p
  else r.carryOn fav p

def ticks (ms : List K) (p : Position K) : Position K := ms.foldl (fun p m => r.step m m p) p

def Plain (ts : List (Target K)) : Prop := r.trail.Plain (ts.map Target.gain)

/-- Within an interval, each gain finds the stop behind it, and one that is the
best so far finds the stop of the start, unless the trail is plain. -/
def Calm (start : WithBot K) : K → Position K → List K → Prop
  | _, _, [] => True
  | best, p, m :: ms =>
      (p.lots ≤ 0 ∨ p.stop < m ∧ (m ≤ best ∨ p.stop = start ∨ r.Plain p.targets)) ∧
        Calm start (max best m) (r.step m m p) ms

end PositionRules

/-- The targets of a list, of which at least as many are taken. -/
abbrev Grown : List (Target K) → List (Target K) → Prop :=
  List.Forall₂ fun a b => a.gain = b.gain ∧ (a.taken = true → b.taken = true)

theorem Grown.refl (ts : List (Target K)) : Grown ts ts := by
  induction ts with
  | nil => exact .nil
  | cons t ts ih => exact .cons ⟨rfl, id⟩ ih

theorem Grown.takenAt {ts ts' : List (Target K)} (grown : Grown ts ts') (n : ℕ)
    (h : takenAt ts n = true) : takenAt ts' n = true := by
  simp only [Coarse.takenAt, Bool.and_eq_true, Option.any_eq_true] at h ⊢
  obtain ⟨pos, t, at_n, taken⟩ := h
  obtain ⟨bound, rfl⟩ := List.getElem?_eq_some_iff.mp at_n
  have bound' : n - 1 < ts'.length := grown.length_eq ▸ bound
  refine ⟨pos, ts'[n - 1], List.getElem?_eq_getElem bound', ?_⟩
  exact (List.forall₂_iff_get.mp grown).2 (n - 1) bound bound' |>.2 taken

theorem Grown.gains {ts ts' : List (Target K)} (grown : Grown ts ts') :
    ts.map Target.gain = ts'.map Target.gain := by
  induction grown with
  | nil => rfl
  | cons same _ ih => rw [List.map_cons, List.map_cons, same.1, ih]

theorem bestTaken_mem {ts : List (Target K)} {x : K} (h : bestTaken ts = x) :
    ∃ t ∈ ts, t.gain = x := by
  induction ts generalizing x with
  | nil => cases h
  | cons t ts ih =>
      rw [bestTaken] at h
      split_ifs at h with taken
      · cases best : bestTaken ts with
        | bot =>
            rw [best] at h
            exact ⟨t, List.mem_cons_self, WithBot.coe_inj.mp h⟩
        | coe y =>
            rw [best] at h
            obtain ⟨u, mem, gain⟩ := ih best
            exact ⟨u, List.mem_cons_of_mem t mem, gain.trans (WithBot.coe_inj.mp h)⟩
      · exact absurd h.symm (WithBot.coe_ne_bot)

theorem Grown.bestTaken_le [LinearOrder K] {ts ts' : List (Target K)} (grown : Grown ts ts')
    (rising : (ts'.map Target.gain).Pairwise (· ≤ ·)) : bestTaken ts ≤ bestTaken ts' := by
  induction grown with
  | nil => exact le_rfl
  | @cons a b as bs same grown ih =>
      rw [bestTaken, bestTaken]
      by_cases taken : a.taken = true
      · rw [if_pos taken, if_pos (same.2 taken), same.1, WithBot.coe_le_coe]
        have later := ih (List.pairwise_cons.mp rising).2
        cases best : bestTaken as with
        | bot =>
            cases best' : bestTaken bs with
            | bot => exact le_rfl
            | coe y =>
                obtain ⟨u, mem, rfl⟩ := bestTaken_mem best'
                exact (List.pairwise_cons.mp rising).1 _ (List.mem_map_of_mem mem)
        | coe x =>
            rw [best] at later
            cases best' : bestTaken bs with
            | bot => exact absurd (best' ▸ later) (WithBot.not_coe_le_bot x)
            | coe y => exact WithBot.coe_le_coe.mp (best' ▸ later)
      · rw [if_neg taken]
        exact bot_le

section Extremes
variable [LinearOrder K]

theorem le_foldl_max (m : K) (ms : List K) : m ≤ ms.foldl max m := by
  rw [List.foldl_max]
  exact le_max_left _ _

theorem mem_le_foldl_max {m a : K} {ms : List K} (mem : a ∈ m :: ms) : a ≤ ms.foldl max m :=
  (List.max?_le_iff List.max?_cons').mp le_rfl a mem

theorem foldl_min_mem (m : K) (ms : List K) : ms.foldl min m ∈ m :: ms :=
  List.min?_mem List.min?_cons'

theorem foldl_min_le {m a : K} {ms : List K} (mem : a ∈ m :: ms) : ms.foldl min m ≤ a :=
  (List.le_min?_iff List.min?_cons').mp le_rfl a mem

end Extremes

namespace PositionRules
variable [CommRing K] [LinearOrder K] {r : PositionRules K}

theorem climb_climb (fav fav' : K) (ts : List (Target K)) (banked lots : K) :
    r.climb fav' (r.climb fav ts banked lots).targets (r.climb fav ts banked lots).banked
        (r.climb fav ts banked lots).lots =
      r.climb (max fav fav') ts banked lots := by
  induction ts generalizing banked lots with
  | nil => rfl
  | cons t ts ih =>
      by_cases taken : t.taken = true
      · simp only [climb, if_pos taken, Climbed.push, ih]
      · by_cases short : fav < t.gain
        · have within : max fav fav' < t.gain ↔ fav' < t.gain := by simp [short]
          by_cases short' : fav' < t.gain
          · simp only [climb, if_neg taken, if_pos short, if_pos short', if_pos (within.mpr short')]
          · have higher : max fav fav' = fav' := max_eq_right (short.le.trans (not_lt.mp short'))
            simp only [climb, if_neg taken, if_pos short, higher]
        · have reached : ¬ max fav fav' < t.gain := by simp [not_lt.mp short]
          by_cases last : (ts.isEmpty && (r.lastTakesAll || !r.inParts)) = true
          · have alone : ts = [] := List.isEmpty_iff.mp (Bool.and_eq_true_iff.mp last).1
            subst alone
            simp only [climb, if_neg taken, if_neg short, if_neg reached, if_pos last, if_true,
              Climbed.push]
          · by_cases whole : r.inParts = false
            · by_cases short' : fav' < t.gain
              · simp only [climb, if_neg taken, if_neg short, if_neg reached, if_neg last,
                  if_pos whole, if_pos short']
              · simp only [climb, if_neg taken, if_neg short, if_neg reached, if_neg last,
                  if_pos whole, if_neg short']
            · by_cases nothing : min t.share lots ≤ 0
              · simp only [climb, if_neg taken, if_neg short, if_neg reached, if_neg last,
                  if_neg whole, if_pos nothing, Climbed.push, if_true, ih]
              · simp only [climb, if_neg taken, if_neg short, if_neg reached, if_neg last,
                  if_neg whole, if_neg nothing, Climbed.push, if_true, ih]

theorem climb_grown (fav : K) (ts : List (Target K)) (banked lots : K) :
    Grown ts (r.climb fav ts banked lots).targets := by
  induction ts generalizing banked lots with
  | nil => exact .nil
  | cons t ts ih =>
      rw [climb]
      split_ifs
      · exact .cons ⟨rfl, id⟩ (ih _ _)
      · exact Grown.refl _
      · exact .cons ⟨rfl, fun _ => rfl⟩ (Grown.refl _)
      · exact Grown.refl _
      · exact .cons ⟨rfl, fun _ => rfl⟩ (ih _ _)
      · exact .cons ⟨rfl, fun _ => rfl⟩ (ih _ _)

theorem climb_lots_nonneg [IsStrictOrderedRing K] (fav : K) (ts : List (Target K))
    {banked lots : K} (nonneg : 0 ≤ lots) :
    0 ≤ (r.climb fav ts banked lots).lots := by
  induction ts generalizing banked lots with
  | nil => exact nonneg
  | cons t ts ih =>
      rw [climb]
      split_ifs
      · exact ih nonneg
      · exact nonneg
      · exact le_rfl
      · exact nonneg
      · exact ih nonneg
      · exact ih (sub_nonneg.mpr (min_le_right _ _))

theorem climb_closed (fav : K) (ts : List (Target K)) (banked : K) :
    (r.climb fav ts banked 0).banked = banked ∧ (r.climb fav ts banked 0).lots = 0 := by
  induction ts with
  | nil => exact ⟨rfl, rfl⟩
  | cons t ts ih =>
      rw [climb]
      split_ifs with _ _ _ _ nothing
      · exact ih
      · exact ⟨rfl, rfl⟩
      · exact ⟨by rw [mul_zero, add_zero], rfl⟩
      · exact ⟨rfl, rfl⟩
      · exact ih
      · exact absurd (min_le_right t.share 0) nothing

theorem take_take (fav fav' : K) (ts : List (Target K)) (banked lots : K) :
    r.take fav' (r.take fav ts banked lots).targets (r.take fav ts banked lots).banked
        (r.take fav ts banked lots).lots =
      r.take (max fav fav') ts banked lots := by
  simp only [take]
  split_ifs
  · exact climb_climb fav fav' ts banked lots
  · rfl

theorem take_grown (fav : K) (ts : List (Target K)) (banked lots : K) :
    Grown ts (r.take fav ts banked lots).targets := by
  rw [take]
  split_ifs
  · exact climb_grown fav ts banked lots
  · exact Grown.refl ts

theorem take_closed (fav : K) (ts : List (Target K)) (banked : K) :
    (r.take fav ts banked 0).banked = banked ∧ (r.take fav ts banked 0).lots = 0 := by
  rw [take]
  split_ifs
  · exact climb_closed fav ts banked
  · exact ⟨rfl, rfl⟩

theorem take_lots_nonneg [IsStrictOrderedRing K] (fav : K) (ts : List (Target K)) {banked lots : K}
    (nonneg : 0 ≤ lots) : 0 ≤ (r.take fav ts banked lots).lots := by
  rw [take]
  split_ifs
  · exact climb_lots_nonneg fav ts nonneg
  · exact nonneg

/-! The ratchet of two gains, and of the better one of them. -/

/-- The breakeven gain once its target is taken. -/
def footing (r : PositionRules K) (ts : List (Target K)) : WithBot K :=
  if takenAt ts r.breakevenAt then r.breakeven else ⊥

omit [CommRing K] in
theorem secured_eq (ts : List (Target K)) (stop : WithBot K) :
    r.secured ts stop = max stop (r.footing ts) := by
  rw [secured, footing]
  split_ifs
  · rfl
  · exact (max_bot_right stop).symm

omit [CommRing K] in
theorem footing_le {ts ts' : List (Target K)} (grown : Grown ts ts') :
    r.footing ts ≤ r.footing ts' := by
  rw [footing]
  split_ifs with taken
  · rw [footing, if_pos (grown.takenAt _ taken)]
  · exact bot_le

theorem arms_arms (fav fav' : K) {ts ts' : List (Target K)} (grown : Grown ts ts') (armed : Bool) :
    r.arms fav' ts' (r.arms fav ts armed) = r.arms (max fav fav') ts' armed := by
  have later := grown.takenAt r.armAt
  rw [Bool.eq_iff_iff]
  simp only [arms, Bool.or_eq_true, Bool.and_eq_true, decide_eq_true_eq, le_max_iff]
  tauto

theorem le_pull (fav : K) (ts : List (Target K)) (stop : WithBot K) :
    stop ≤ r.pull fav ts stop := by
  cases trail : r.trail with
  | off => simp only [pull, trail, le_refl]
  | behind dist least =>
      simp only [pull, trail]
      split_ifs
      · exact le_max_left _ _
      · exact le_rfl
  | targets =>
      simp only [pull, trail]
      exact le_max_left _ _

/-- A gain that is not the better one does not pull the stop again. -/
theorem pull_pull_of_le [IsStrictOrderedRing K] {fav fav' : K} (le : fav' ≤ fav)
    (ts : List (Target K)) (stop : WithBot K) :
    r.pull fav' ts (r.pull fav ts stop) = r.pull fav ts stop := by
  cases trail : r.trail with
  | off => simp only [pull, trail]
  | behind dist least =>
      have behind : ((fav' - dist : K) : WithBot K) ≤ (fav - dist : K) :=
        WithBot.coe_le_coe.mpr (sub_le_sub_right le dist)
      simp only [pull, trail]
      by_cases moved : least ≤ 0 ∨ stop + least ≤ (fav - dist : K)
      · rw [if_pos moved, max_eq_left (behind.trans (le_max_right _ _)), ite_self]
      · rw [if_neg moved, if_neg]
        exact fun again => moved (again.imp_right fun reach => reach.trans behind)
  | targets => simp only [pull, trail, max_assoc, max_self]

theorem ratchet_ratchet [IsStrictOrderedRing K] {fav fav' : K} {ts ts' : List (Target K)}
    (grown : Grown ts ts') (still : fav' ≤ fav → ts' = ts) {stop : WithBot K} {armed : Bool}
    (calm : fav' ≤ fav ∨ r.ratchet fav ts stop armed = stop ∨ r.Plain ts') :
    r.ratchet fav' ts' (r.ratchet fav ts stop armed) (r.arms fav ts armed) =
      r.ratchet (max fav fav') ts' stop armed := by
  have again := arms_arms (r := r) fav fav' grown armed
  by_cases le : fav' ≤ fav
  · rw [still le] at again ⊢
    have standing : r.footing ts ≤ r.ratchet fav ts stop armed := by
      rw [ratchet, secured_eq]
      split_ifs
      · exact (le_max_right _ _).trans (le_pull _ _ _)
      · exact le_max_right _ _
    rw [ratchet, again, secured_eq, max_eq_left standing, max_eq_left le]
    by_cases arm : r.arms fav ts armed = true
    · rw [if_pos arm, ratchet, if_pos arm, pull_pull_of_le le]
    · rw [if_neg arm]
  · have better : max fav fav' = fav' := max_eq_right (not_le.mp le).le
    rw [better] at again ⊢
    rcases calm with less | kept | plain
    · exact absurd less le
    · rw [kept, ratchet, again, ratchet]
    · have twice : ∀ x : WithBot K,
          max (max (max stop (r.footing ts)) x) (r.footing ts') =
            max (max stop (r.footing ts')) x := by
        intro x
        rw [max_right_comm _ x, max_assoc stop, max_eq_right (footing_le grown)]
      have secure : r.secured ts' (r.secured ts stop) = r.secured ts' stop := by
        rw [secured_eq, secured_eq, secured_eq, max_assoc, max_eq_right (footing_le grown)]
      rw [ratchet, again, ratchet, ratchet]
      by_cases arm' : r.arms fav' ts' armed = true
      · rw [if_pos arm', if_pos arm']
        by_cases arm : r.arms fav ts armed = true
        · rw [if_pos arm, secured_eq ts', secured_eq ts, secured_eq ts']
          cases trail : r.trail with
          | off =>
              simp only [pull, trail]
              rw [max_assoc, max_eq_right (footing_le grown)]
          | behind dist least =>
              have free : least ≤ 0 := by simpa only [Plain, trail, Trail.Plain] using plain
              have behind : ((fav - dist : K) : WithBot K) ≤ (fav' - dist : K) :=
                WithBot.coe_le_coe.mpr (sub_le_sub_right (not_le.mp le).le dist)
              simp only [pull, trail, if_pos (Or.inl free)]
              rw [twice, max_assoc, max_eq_right behind]
          | targets =>
              have rising : (ts'.map Target.gain).Pairwise (· ≤ ·) := by
                simpa only [Plain, trail, Trail.Plain] using plain
              simp only [pull, trail]
              rw [twice, max_assoc, max_eq_right (grown.bestTaken_le rising)]
        · rw [if_neg arm, secure]
      · have early : ¬ r.arms fav ts armed = true := by
          intro arm
          rw [← again, arm] at arm'
          exact arm' (by simp [arms])
        rw [if_neg arm', if_neg early, if_neg arm', secure]

/-- Positions that are equal, or both closed with the same amount banked. -/
def Same (p q : Position K) : Prop := p = q ∨ (p.lots = 0 ∧ q.lots = 0 ∧ p.banked = q.banked)

theorem carryOn_lots (fav : K) (p : Position K) :
    (r.carryOn fav p).lots = (r.take fav p.targets p.banked p.lots).lots := by
  rw [carryOn]
  split_ifs <;> rfl

theorem carryOn_banked (fav : K) (p : Position K) :
    (r.carryOn fav p).banked = (r.take fav p.targets p.banked p.lots).banked := by
  rw [carryOn]
  split_ifs <;> rfl

section Intervals
variable [IsStrictOrderedRing K]

theorem carryOn_lots_nonneg (fav : K) {p : Position K} (nonneg : 0 ≤ p.lots) :
    0 ≤ (r.carryOn fav p).lots := by
  rw [carryOn_lots]
  exact take_lots_nonneg fav _ nonneg

omit [IsStrictOrderedRing K] in
/-- A position that an interval closes is closed alike by one that goes higher. -/
theorem carryOn_of_closed {fav fav' : K} {p : Position K} (le : fav ≤ fav')
    (closed : (r.carryOn fav p).lots = 0) :
    Same (r.carryOn fav p) (r.carryOn fav' p) := by
  have further := take_take (r := r) fav fav' p.targets p.banked p.lots
  rw [max_eq_right le] at further
  rw [carryOn_lots] at closed
  have none_left := take_closed (r := r) fav' (r.take fav p.targets p.banked p.lots).targets
    (r.take fav p.targets p.banked p.lots).banked
  rw [closed] at further
  rw [further] at none_left
  refine .inr ⟨?_, ?_, ?_⟩
  · rw [carryOn_lots, closed]
  · rw [carryOn_lots, none_left.2]
  · rw [carryOn_banked, carryOn_banked, none_left.1]

theorem carryOn_carryOn {fav fav' : K} {p : Position K} (nonneg : 0 ≤ p.lots)
    (live : 0 < (r.carryOn fav p).lots)
    (calm : fav' ≤ fav ∨ (r.carryOn fav p).stop = p.stop ∨ r.Plain (r.carryOn fav p).targets) :
    Same (r.carryOn fav' (r.carryOn fav p)) (r.carryOn (max fav fav') p) := by
  have further := take_take (r := r) fav fav' p.targets p.banked p.lots
  rw [carryOn_lots] at live
  have first : r.carryOn fav p =
      ⟨r.ratchet fav (r.take fav p.targets p.banked p.lots).targets p.stop p.armed,
        r.arms fav (r.take fav p.targets p.banked p.lots).targets p.armed,
        (r.take fav p.targets p.banked p.lots).targets,
        (r.take fav p.targets p.banked p.lots).banked,
        (r.take fav p.targets p.banked p.lots).lots⟩ := by
    rw [carryOn, if_neg (not_le.mpr live)]
  have grown : Grown (r.take fav p.targets p.banked p.lots).targets
      (r.take (max fav fav') p.targets p.banked p.lots).targets := further ▸ take_grown fav' _ _ _
  rw [first] at calm ⊢
  by_cases closed : (r.take (max fav fav') p.targets p.banked p.lots).lots ≤ 0
  · have none_left := le_antisymm closed (take_lots_nonneg _ _ nonneg)
    refine .inr ⟨?_, ?_, ?_⟩
    · rw [carryOn_lots, further, none_left]
    · rw [carryOn_lots, none_left]
    · rw [carryOn_banked, carryOn_banked, further]
  · left
    have still : fav' ≤ fav → (r.take (max fav fav') p.targets p.banked p.lots).targets =
        (r.take fav p.targets p.banked p.lots).targets := fun le => by rw [max_eq_left le]
    have even : fav' ≤ fav ∨
        r.ratchet fav (r.take fav p.targets p.banked p.lots).targets p.stop p.armed = p.stop ∨
          r.Plain (r.take (max fav fav') p.targets p.banked p.lots).targets :=
      calm.imp_right fun h => h.imp_right fun plain => by
        simpa only [Plain, grown.gains] using plain
    simp only [carryOn, further, if_neg closed]
    rw [ratchet_ratchet grown still even, arms_arms _ _ grown]

end Intervals

section Steps
variable [IsStrictOrderedRing K]

omit [IsStrictOrderedRing K] in
theorem step_of_closed {fav adv : K} {p : Position K} (closed : p.lots = 0) :
    r.step fav adv p = p := by
  rw [step, if_pos closed.le]

omit [IsStrictOrderedRing K] in
theorem ticks_of_closed {ms : List K} {p : Position K} (closed : p.lots = 0) :
    r.ticks ms p = p := by
  induction ms with
  | nil => rfl
  | cons m ms ih => rw [ticks, List.foldl_cons, step_of_closed closed, ← ticks, ih]

theorem step_lots_nonneg (fav adv : K) {p : Position K} (nonneg : 0 ≤ p.lots) :
    0 ≤ (r.step fav adv p).lots := by
  rw [step]
  split_ifs
  · exact nonneg
  · exact le_rfl
  · exact carryOn_lots_nonneg fav nonneg

/-- The gains of a calm interval, one after the other, and their best at once. -/
theorem ticks_calm {p : Position K} (nonneg : 0 ≤ p.lots) {best : K} {ms : List K}
    (calm : r.Calm p.stop best (r.carryOn best p) ms) :
    Same (r.ticks ms (r.carryOn best p)) (r.carryOn (ms.foldl max best) p) := by
  induction ms generalizing best with
  | nil => exact .inl rfl
  | cons m ms ih =>
      obtain ⟨now, later⟩ := calm
      rcases (carryOn_lots_nonneg best nonneg).eq_or_lt with closed | live
      · rw [ticks_of_closed closed.symm]
        exact carryOn_of_closed ((le_max_left best m).trans (le_foldl_max _ ms)) closed.symm
      · obtain ⟨ahead, even⟩ := now.resolve_left (not_le.mpr live)
        have stepped : r.step m m (r.carryOn best p) = r.carryOn m (r.carryOn best p) := by
          rw [step, if_neg (not_le.mpr live), if_neg (not_le.mpr ahead)]
        rw [ticks, List.foldl_cons, stepped, ← ticks, List.foldl_cons]
        rw [stepped] at later
        rcases carryOn_carryOn nonneg live even with same | ⟨closed, closed', banked⟩
        · rw [same] at later ⊢
          exact ih later
        · rw [ticks_of_closed closed]
          rcases carryOn_of_closed (le_foldl_max (max best m) ms) closed' with
            same | ⟨_, closed'', banked'⟩
          · exact .inr ⟨closed, same ▸ closed', by rw [banked, same]⟩
          · exact .inr ⟨closed, closed'', banked.trans banked'⟩

end Steps

/-! An interval that the stop ends: whatever its gains do first is no worse. -/

/-- What the position is worth at a gain. -/
def worth (x : K) (p : Position K) : K := p.banked + x * p.lots

/-- No target that is still open, and that a gain can reach, is behind the stop. -/
def Open (x fav : K) (ts : List (Target K)) : Prop :=
  ∀ t ∈ ts, t.taken = false → t.gain ≤ fav → x ≤ t.gain

section Stopped
variable [IsStrictOrderedRing K]

omit [IsStrictOrderedRing K] in
theorem climb_open {x top : K} (fav : K) {ts : List (Target K)} (ahead : Open x top ts)
    (banked lots : K) : Open x top (r.climb fav ts banked lots).targets := by
  induction ts generalizing banked lots with
  | nil => exact ahead
  | cons t ts ih =>
      have rest : Open x top ts := fun u mem => ahead u (List.mem_cons_of_mem t mem)
      have taking : ∀ us : List (Target K), Open x top us →
          Open x top ({ t with taken := true } :: us) := by
        intro us open' u mem free
        rcases List.mem_cons.mp mem with rfl | mem
        · cases free
        · exact open' u mem free
      rw [climb]
      split_ifs with taken
      · intro u mem free
        rcases List.mem_cons.mp mem with rfl | mem
        · exact absurd taken (by simp [free])
        · exact ih rest banked lots u mem free
      · exact ahead
      · exact taking _ rest
      · exact ahead
      · exact taking _ (ih rest _ _)
      · exact taking _ (ih rest _ _)

theorem le_worth_climb {x top fav : K} (within : fav ≤ top) {ts : List (Target K)}
    (ahead : Open x top ts) {banked lots : K} (nonneg : 0 ≤ lots) :
    banked + x * lots ≤
      (r.climb fav ts banked lots).banked + x * (r.climb fav ts banked lots).lots := by
  induction ts generalizing banked lots with
  | nil => exact le_rfl
  | cons t ts ih =>
      have rest : Open x top ts := fun u mem => ahead u (List.mem_cons_of_mem t mem)
      rw [climb]
      split_ifs with taken short
      · exact ih rest nonneg
      · exact le_rfl
      · have past := (not_lt.mp short).trans within
        have gain := ahead t List.mem_cons_self (by simpa using taken) past
        have closes := mul_le_mul_of_nonneg_right gain nonneg
        linarith
      · exact le_rfl
      · exact ih rest nonneg
      · have past := (not_lt.mp short).trans within
        have gain := ahead t List.mem_cons_self (by simpa using taken) past
        have part : 0 ≤ min t.share lots := by linarith
        have closes := mul_le_mul_of_nonneg_right gain part
        refine le_trans ?_ (ih rest (sub_nonneg.mpr (min_le_right _ _)))
        linarith

/-- The position of an interval that the stop `x` is going to end. -/
structure Bound (x top : K) (p : Position K) : Prop where
  stop : (x : WithBot K) ≤ p.stop
  ahead : Open x top p.targets
  nonneg : 0 ≤ p.lots

theorem Bound.step {x top m : K} (within : m ≤ top) {p : Position K} (bound : Bound x top p) :
    Bound x top (r.step m m p) ∧ worth x p ≤ worth x (r.step m m p) ∧
      (m ≤ x → (r.step m m p).lots = 0) := by
  by_cases closed : p.lots ≤ 0
  · rw [PositionRules.step, if_pos closed]
    exact ⟨bound, le_rfl, fun _ => le_antisymm closed bound.nonneg⟩
  by_cases hit : (m : WithBot K) ≤ p.stop
  · rw [PositionRules.step, if_neg closed, if_pos hit]
    refine ⟨⟨bound.stop, bound.ahead, le_rfl⟩, ?_, fun _ => rfl⟩
    cases stop : p.stop with
    | bot => exact absurd (stop ▸ bound.stop) (WithBot.not_coe_le_bot x)
    | coe y =>
        have tighter : x ≤ y := WithBot.coe_le_coe.mp (stop ▸ bound.stop)
        have closes := mul_le_mul_of_nonneg_right tighter bound.nonneg
        simp only [worth, stopOut, stop, WithBot.unbotD_coe]
        linarith
  · rw [PositionRules.step, if_neg closed, if_neg hit]
    have higher : p.stop ≤ (r.carryOn m p).stop := by
      rw [carryOn]
      split_ifs
      · exact le_rfl
      · rw [ratchet, secured_eq]
        split_ifs
        · exact (le_max_left _ _).trans (le_pull _ _ _)
        · exact le_max_left _ _
    have targets : (r.carryOn m p).targets = (r.take m p.targets p.banked p.lots).targets := by
      rw [carryOn]
      split_ifs <;> rfl
    refine ⟨⟨bound.stop.trans higher, ?_, carryOn_lots_nonneg m bound.nonneg⟩, ?_, fun le => ?_⟩
    · rw [targets, take]
      split_ifs
      · exact climb_open m bound.ahead _ _
      · exact bound.ahead
    · rw [worth, worth, carryOn_banked, carryOn_lots, take]
      split_ifs
      · exact le_worth_climb within bound.ahead bound.nonneg
      · exact le_rfl
    · exact absurd ((WithBot.coe_le_coe.mpr le).trans bound.stop) hit

theorem Bound.ticks {x top : K} {ms : List K} (within : ∀ m ∈ ms, m ≤ top) {p : Position K}
    (bound : Bound x top p) :
    worth x p ≤ worth x (r.ticks ms p) ∧ ((∃ m ∈ ms, m ≤ x) → (r.ticks ms p).lots = 0) := by
  induction ms generalizing p with
  | nil => exact ⟨le_rfl, fun ⟨_, mem, _⟩ => absurd mem List.not_mem_nil⟩
  | cons m ms ih =>
      obtain ⟨kept, grows, ends⟩ := bound.step (r := r) (within m List.mem_cons_self)
      obtain ⟨later, closes⟩ := ih (fun a mem => within a (List.mem_cons_of_mem m mem)) kept
      rw [PositionRules.ticks, List.foldl_cons, ← PositionRules.ticks]
      refine ⟨grows.trans later, ?_⟩
      rintro ⟨a, mem, le⟩
      rcases List.mem_cons.mp mem with rfl | mem
      · rw [ticks_of_closed (ends le)]
        exact ends le
      · exact closes ⟨a, mem, le⟩

end Stopped

/-! Whole walks: over the intervals, and over their gains one after the other. -/

section Walks

/-- A non-empty list of gains. -/
abbrev Interval (K : Type u) := K × List K

def Interval.best (b : Interval K) : K := b.2.foldl max b.1

def Interval.worst (b : Interval K) : K := b.2.foldl min b.1

def Interval.gains (b : Interval K) : List K := b.1 :: b.2

def walk (r : PositionRules K) (bs : List (Interval K)) (p : Position K) : Position K :=
  bs.foldl (fun p b => r.step (Interval.best b) (Interval.worst b) p) p

/-- Of each interval, if the stop ends it, no open target within it is behind
the stop; if not, it is calm. -/
def CalmWalk (r : PositionRules K) : Position K → List (Interval K) → Prop
  | _, [] => True
  | p, b :: bs =>
      p.lots ≤ 0 ∨
        if ((Interval.worst b : K) : WithBot K) ≤ p.stop then
          Open (p.stop.unbotD 0) (Interval.best b) p.targets
        else
          r.Calm p.stop b.1 (r.carryOn b.1 p) b.2 ∧
            CalmWalk r (r.step (Interval.best b) (Interval.worst b) p) bs

instance (r : PositionRules K) (ts : List (Target K)) : Decidable (r.Plain ts) :=
  inferInstanceAs (Decidable (r.trail.Plain (ts.map Target.gain)))

instance decidableOpen (x fav : K) (ts : List (Target K)) : Decidable (Open x fav ts) :=
  inferInstanceAs (Decidable (∀ t ∈ ts, t.taken = false → t.gain ≤ fav → x ≤ t.gain))

instance decidableCalm (r : PositionRules K) (start : WithBot K) :
    ∀ (best : K) (p : Position K) (ms : List K), Decidable (r.Calm start best p ms)
  | _, _, [] => isTrue True.intro
  | best, p, m :: ms =>
      have := decidableCalm r start (max best m) (r.step m m p) ms
      inferInstanceAs (Decidable
        ((p.lots ≤ 0 ∨ p.stop < m ∧ (m ≤ best ∨ p.stop = start ∨ r.Plain p.targets)) ∧ _))

instance decidableCalmWalk (r : PositionRules K) :
    ∀ (p : Position K) (bs : List (Interval K)), Decidable (r.CalmWalk p bs)
  | _, [] => isTrue True.intro
  | p, b :: bs =>
      have := decidableCalmWalk r (r.step (Interval.best b) (Interval.worst b) p) bs
      inferInstanceAs (Decidable (p.lots ≤ 0 ∨
        if ((Interval.worst b : K) : WithBot K) ≤ p.stop then
          Open (p.stop.unbotD 0) (Interval.best b) p.targets
        else
          r.Calm p.stop b.1 (r.carryOn b.1 p) b.2 ∧
            CalmWalk r (r.step (Interval.best b) (Interval.worst b) p) bs))

theorem walk_of_closed {bs : List (Interval K)} {p : Position K} (closed : p.lots = 0) :
    r.walk bs p = p := by
  induction bs with
  | nil => rfl
  | cons b bs ih => rw [walk, List.foldl_cons, step_of_closed closed, ← walk, ih]

omit [LinearOrder K] in
theorem worth_of_closed {x : K} {p : Position K} (closed : p.lots = 0) : worth x p = p.banked := by
  rw [worth, closed, mul_zero, add_zero]

/-- A calm walk over intervals is worth no more than the walk over the gains. -/
theorem worth_walk_le [IsStrictOrderedRing K] {bs : List (Interval K)} {p : Position K}
    (nonneg : 0 ≤ p.lots) (calm : r.CalmWalk p bs) (x : K) :
    worth x (r.walk bs p) ≤ worth x (r.ticks (bs.flatMap Interval.gains) p) := by
  induction bs generalizing p with
  | nil => exact le_rfl
  | cons b bs ih =>
      rcases nonneg.eq_or_lt with closed | live
      · rw [walk_of_closed closed.symm, ticks_of_closed closed.symm]
      have some_left := not_le.mpr live
      rw [walk, List.foldl_cons, ← walk, List.flatMap_cons, ticks, List.foldl_append, ← ticks,
        ← ticks]
      rw [CalmWalk, or_iff_right some_left] at calm
      by_cases hit : ((Interval.worst b : K) : WithBot K) ≤ p.stop
      · rw [if_pos hit] at calm
        rw [PositionRules.step, if_neg some_left, if_pos hit, walk_of_closed rfl,
          worth_of_closed rfl]
        cases stop : p.stop with
        | bot => exact absurd (stop ▸ hit) (WithBot.not_coe_le_bot _)
        | coe y =>
            rw [stop] at calm hit
            have bound : Bound y (Interval.best b) p := ⟨stop.ge, calm, nonneg⟩
            have within : ∀ m ∈ Interval.gains b, m ≤ _ := fun m mem => mem_le_foldl_max mem
            obtain ⟨grows, ends⟩ := bound.ticks (r := r) within
            have closed := ends ⟨Interval.worst b, foldl_min_mem b.1 b.2, WithBot.coe_le_coe.mp hit⟩
            rw [ticks_of_closed closed, worth_of_closed closed, ← worth_of_closed (x := y) closed]
            simpa only [stopOut, stop, WithBot.unbotD_coe, worth] using grows
      · rw [if_neg hit] at calm
        have first : r.step b.1 b.1 p = r.carryOn b.1 p := by
          rw [PositionRules.step, if_neg some_left, if_neg]
          exact fun touched =>
            hit ((WithBot.coe_le_coe.mpr (foldl_min_le List.mem_cons_self)).trans touched)
        have whole : r.step (Interval.best b) (Interval.worst b) p =
            r.carryOn (Interval.best b) p := by
          rw [PositionRules.step, if_neg some_left, if_neg hit]
        have even : Same (r.ticks (Interval.gains b) p)
            (r.step (Interval.best b) (Interval.worst b) p) := by
          rw [whole, Interval.gains, ticks, List.foldl_cons, first, ← ticks]
          exact ticks_calm nonneg calm.1
        rcases even with same | ⟨closed, closed', banked⟩
        · rw [same]
          exact ih (step_lots_nonneg _ _ nonneg) calm.2
        · rw [walk_of_closed closed', ticks_of_closed closed, worth_of_closed closed,
            worth_of_closed closed', banked]

end Walks

end PositionRules
end Support.Coarse
