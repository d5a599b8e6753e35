import Forex.Ea.LegEvents
import Mathlib.Data.List.Perm.Subperm

/-!
`_on_grid_leg_cancelled`: the placeholder of a grid is closed when as many
cancellations have been counted as the grid has legs. The counter counts
reports and not legs. The handler awaits between its reads and its writes, and
a fill may be recorded in between.
-/

namespace Forex
open Support

/-- A grid as the EA placed it; `grid_legs_total` is their number, or unknown. -/
structure Grid where
  tradeId : String
  legs : List String
  distinct : legs.Nodup
  legsTotal : Option ℕ
  counted : ∀ total ∈ legsTotal, total = legs.length

def Grid.reached (grid : Grid) (cancelled : ℕ) : Bool :=
  grid.legsTotal.any fun total => decide (total ≤ cancelled)

theorem Grid.length_le_of_reached {grid : Grid} {cancelled : ℕ}
    (h : grid.reached cancelled = true) : grid.legs.length ≤ cancelled := by
  cases known : grid.legsTotal with
  | none => simp [reached, known] at h
  | some total =>
      rw [reached, known] at h
      rw [← grid.counted total known]
      exact of_decide_eq_true h

/-- Where the handler of a cancellation stands. -/
inductive CancelPhase where
  | idle
  /-- The row was open and without a ticket. -/
  | counting
  /-- Every leg has been counted. -/
  | checking
  | closing
  | writing (w : FullWrite)

namespace CancelPhase

/-- A cancellation whose report is being counted. -/
def uncounted : CancelPhase → ℕ
  | .counting => 1
  | _ => 0

/-- The handler has left the counter behind it. -/
def concluded : CancelPhase → Bool
  | .checking | .closing | .writing _ => true
  | _ => false

end CancelPhase

structure GridDesk where
  db : Db
  /-- `grid_legs_cancelled` of the row. -/
  legsCancelled : ℕ
  phase : CancelPhase
  /-- The reports that have come in, by leg. -/
  cancelled : List String
  filled : List String

inductive GridStep where
  | legCancelled (leg : String)
  | count
  | check (bridge : Bool)
  | readRow (now : ℚ)
  | write
  | legFilled (f : LegFill)

namespace GridDesk
variable (grid : Grid) (s : GridDesk)

def start (db : Db) : GridDesk := ⟨db, 0, .idle, [], []⟩

/-- The row is open and no leg has filled it. -/
def waiting : Bool :=
  (s.db.getTrade grid.tradeId).any fun t => t.isOpen && decide (t.mt5Ticket.getD 0 = 0)

/-- The connection hands on one report at a time. -/
def legCancelled (leg : String) : GridDesk :=
  match s.phase with
  | .idle =>
      if legParent leg = some grid.tradeId then
        { s with
          cancelled := leg :: s.cancelled
          phase := if s.waiting grid then .counting else .idle }
      else s
  | _ => s

/-- `incr_grid_leg_cancelled`, and the comparison with the total. -/
def count : GridDesk :=
  match s.phase with
  | .counting =>
      if (s.db.getTrade grid.tradeId).isSome then
        { s with
          legsCancelled := s.legsCancelled + 1
          phase := if grid.reached (s.legsCancelled + 1) then .checking else .idle }
      else { s with phase := if grid.reached 0 then .checking else .idle }
  | _ => s

/-- The re-check, and `_close_dead_grid_placeholder` as far as `record_close`. -/
def check (bridge : Bool) : GridDesk :=
  match s.phase with
  | .checking => { s with phase := if s.waiting grid && bridge then .closing else .idle }
  | _ => s

def readRow (now : ℚ) : GridDesk :=
  match s.phase with
  | .closing =>
      { s with
        phase := match recordClose s.db grid.tradeId 0 "no_fill_expired" now with
          | some w => .writing w
          | none => .idle }
  | _ => s

def write : GridDesk :=
  match s.phase with
  | .writing w => { s with db := (w.apply s.db).1, phase := .idle }
  | _ => s

def legFilled (f : LegFill) : GridDesk :=
  if f.parent = some grid.tradeId then
    { s with db := promoteLegFill s.db f, filled := f.tradeId :: s.filled }
  else s

def step : GridStep → GridDesk
  | .legCancelled leg => s.legCancelled grid leg
  | .count => s.count grid
  | .check bridge => s.check grid bridge
  | .readRow now => s.readRow grid now
  | .write => s.write
  | .legFilled f => s.legFilled grid f

def isOpen : Bool := (s.db.getTrade grid.tradeId).any Trade.isOpen

/-- The step closes the row only if every leg has been reported cancelled, and
none filled. -/
def OnlyDead (a : GridStep) : Prop :=
  s.isOpen grid = true → (s.step grid a).isOpen grid = false →
    ∀ leg ∈ grid.legs, leg ∈ s.cancelled ∧ leg ∉ s.filled

instance (a : GridStep) : Decidable (s.OnlyDead grid a) :=
  inferInstanceAs (Decidable (_ → _ → ∀ leg ∈ grid.legs, _))

/-- A report names a leg of the grid, no leg's cancellation is reported twice,
and no leg is reported both cancelled and filled. -/
def Once : GridStep → Prop
  | .legCancelled leg =>
      legParent leg = some grid.tradeId →
        leg ∈ grid.legs ∧ leg ∉ s.cancelled ∧ leg ∉ s.filled
  | .legFilled f => f.parent = some grid.tradeId → f.tradeId ∉ s.cancelled
  | _ => True

instance : ∀ a, Decidable (s.Once grid a)
  | .legCancelled _ => inferInstanceAs (Decidable (_ → _))
  | .legFilled _ => inferInstanceAs (Decidable (_ → _))
  | .count | .check _ | .readRow _ | .write => isTrue True.intro

/-- Each count is a leg of its own, and whoever is past the counter has counted
every leg. -/
structure Counts (grid : Grid) (s : GridDesk) : Prop where
  distinct : s.cancelled.Nodup
  mine : ∀ leg ∈ s.cancelled, leg ∈ grid.legs
  apart : ∀ leg ∈ s.cancelled, leg ∉ s.filled
  count : s.legsCancelled + s.phase.uncounted ≤ s.cancelled.length
  all : s.phase.concluded = true → grid.legs.length ≤ s.legsCancelled

variable {grid s}

theorem Counts.start (db : Db) : Counts grid (start db) where
  distinct := List.nodup_nil
  mine := by simp [GridDesk.start]
  apart := by simp [GridDesk.start]
  count := Nat.le_refl 0
  all := by simp [GridDesk.start, CancelPhase.concluded]

theorem Counts.legCancelled (h : Counts grid s) {leg : String}
    (once : s.Once grid (.legCancelled leg)) : Counts grid (s.legCancelled grid leg) := by
  rw [GridDesk.legCancelled]
  split
  · next phase =>
      by_cases mine : legParent leg = some grid.tradeId
      · rw [if_pos mine]
        obtain ⟨isLeg, new, unfilled⟩ := once mine
        have counted := h.count
        refine ⟨List.nodup_cons.mpr ⟨new, h.distinct⟩, ?_, ?_, ?_, ?_⟩
        · exact List.forall_mem_cons.mpr ⟨isLeg, h.mine⟩
        · exact List.forall_mem_cons.mpr ⟨unfilled, h.apart⟩
        · cases s.waiting grid with
          | false =>
              change s.legsCancelled + 0 ≤ s.cancelled.length + 1
              omega
          | true =>
              change s.legsCancelled + 1 ≤ s.cancelled.length + 1
              omega
        · cases s.waiting grid <;> simp [CancelPhase.concluded]
      · rw [if_neg mine]
        exact h
  · exact h

theorem Counts.tallied (h : Counts grid s) {counted reached : ℕ}
    (le : counted ≤ s.cancelled.length) (same : reached ≤ counted) :
    Counts grid
      { s with
        legsCancelled := counted
        phase := if grid.reached reached then .checking else .idle } := by
  refine ⟨h.distinct, h.mine, h.apart, ?_, ?_⟩
  · cases grid.reached reached <;> exact le
  · intro past
    cases enough : grid.reached reached with
    | false => simp [enough, CancelPhase.concluded] at past
    | true => exact (Grid.length_le_of_reached enough).trans same

theorem Counts.tally (h : Counts grid s) : Counts grid (s.count grid) := by
  rw [GridDesk.count]
  split
  · next phase =>
      have counted := h.count
      rw [phase] at counted
      split
      · exact h.tallied counted le_rfl
      · exact h.tallied ((Nat.le_add_right _ _).trans counted) (Nat.zero_le _)
  · exact h

/-- The later phases leave the counter and the reports as they are. -/
theorem Counts.movesOn (h : Counts grid s) {db : Db} {phase : CancelPhase}
    (past : s.phase.concluded = true) (uncounted : phase.uncounted = 0) :
    Counts grid { s with db := db, phase := phase } where
  distinct := h.distinct
  mine := h.mine
  apart := h.apart
  count := by
    have counted := h.count
    rw [uncounted]
    exact (Nat.le_add_right _ _).trans counted
  all _ := h.all past

theorem Counts.check (h : Counts grid s) (bridge : Bool) : Counts grid (s.check grid bridge) := by
  rw [GridDesk.check]
  split
  · next phase =>
      refine h.movesOn (by rw [phase]; rfl) ?_
      split <;> rfl
  · exact h

theorem Counts.readRow (h : Counts grid s) (now : ℚ) : Counts grid (s.readRow grid now) := by
  rw [GridDesk.readRow]
  split
  · next phase =>
      refine h.movesOn (by rw [phase]; rfl) ?_
      split <;> rfl
  · exact h

theorem Counts.write (h : Counts grid s) : Counts grid s.write := by
  rw [GridDesk.write]
  split
  · next w phase => exact h.movesOn (by rw [phase]; rfl) rfl
  · exact h

theorem Counts.legFilled (h : Counts grid s) {f : LegFill} (once : s.Once grid (.legFilled f)) :
    Counts grid (s.legFilled grid f) := by
  rw [GridDesk.legFilled]
  by_cases mine : f.parent = some grid.tradeId
  · rw [if_pos mine]
    refine ⟨h.distinct, h.mine, ?_, h.count, h.all⟩
    intro leg mem filled
    cases List.mem_cons.mp filled with
    | inl same => exact once mine (same ▸ mem)
    | inr old => exact h.apart leg mem old
  · rw [if_neg mine]
    exact h

theorem Counts.step (h : Counts grid s) (a : GridStep) (once : s.Once grid a) :
    Counts grid (s.step grid a) := by
  cases a with
  | legCancelled leg => exact h.legCancelled once
  | count => exact h.tally
  | check bridge => exact h.check bridge
  | readRow now => exact h.readRow now
  | write => exact h.write
  | legFilled f => exact h.legFilled once

/-- As many distinct legs as the grid has are all of its legs. -/
theorem Counts.everyLeg (h : Counts grid s) (past : s.phase.concluded = true) :
    ∀ leg ∈ grid.legs, leg ∈ s.cancelled := by
  have sub : s.cancelled.Subperm grid.legs := List.subperm_of_subset h.distinct h.mine
  have le : grid.legs.length ≤ s.cancelled.length :=
    (h.all past).trans ((Nat.le_add_right _ _).trans h.count)
  intro leg mem
  exact (sub.perm_of_length_le le).mem_iff.mpr mem

theorem isOpen_promoteLegFill (f : LegFill) :
    isOpen grid { s with db := promoteLegFill s.db f } = s.isOpen grid := by
  cases promoteLegFill_getTrade s.db f grid.tradeId with
  | inl same => exact congrArg (Option.any Trade.isOpen) same
  | inr claimed =>
      obtain ⟨-, row, found, -, after⟩ := claimed
      rw [isOpen, isOpen, after, found]
      rfl

/-- Nothing but the last write of the handler closes the row. -/
theorem concluded_of_closes {a : GridStep} (was : s.isOpen grid = true)
    (closed : (s.step grid a).isOpen grid = false) : s.phase.concluded = true := by
  by_contra early
  have kept : (s.step grid a).isOpen grid = s.isOpen grid := by
    cases a with
    | legCancelled leg =>
        simp only [step, legCancelled]
        split <;> [split; skip] <;> rfl
    | count =>
        simp only [step, count]
        split <;> [split; skip] <;> rfl
    | check bridge =>
        simp only [step, check]
        split <;> rfl
    | readRow now =>
        simp only [step, readRow]
        split <;> rfl
    | write =>
        simp only [step, write]
        split
        · next w phase => exact absurd (congrArg CancelPhase.concluded phase) early
        · rfl
    | legFilled f =>
        simp only [step, legFilled]
        split
        · exact isOpen_promoteLegFill f
        · rfl
  exact absurd (was.symm.trans (kept.symm.trans closed)) (by simp)

theorem Counts.onlyDead (h : Counts grid s) (a : GridStep) : s.OnlyDead grid a := by
  intro was closed leg mem
  have cancelled := h.everyLeg (concluded_of_closes was closed) leg mem
  exact ⟨cancelled, h.apart leg cancelled⟩

/-- From any book and along every run of cancellations and fills, the handler
closes the row only when every leg has been cancelled and none filled, as long
as no leg's cancellation is reported twice and no leg is reported both ways. -/
theorem placeholder_closed_only_dead (grid : Grid) (db : Db) (run : List GridStep)
    (once : Meets (step grid) (Once grid) (GridDesk.start db) run) :
    Meets (step grid) (OnlyDead grid) (GridDesk.start db) run :=
  meets_of_invariant (I := Counts grid) (fun _ a h once => h.step a once)
    (fun _ a h _ => h.onlyDead a) (Counts.start db) once

def twoLegs : Grid where
  tradeId := "t1"
  legs := ["t1-g1", "t1-g2"]
  distinct := by decide
  legsTotal := some 2
  counted := by simp

def placeholderBook : GridDesk := start (Db.single Trade.gridPlaceholder Table.empty)

/-- Both legs are cancelled, and the row is closed. -/
theorem placeholder_closed_only_dead_twoLegs :
    (Meets (step twoLegs) (Once twoLegs) placeholderBook
      [.legCancelled "t1-g1", .count, .legCancelled "t1-g2", .count, .check true, .readRow 5,
        .write]) ∧
    Meets (step twoLegs) (OnlyDead twoLegs) placeholderBook
      [.legCancelled "t1-g1", .count, .legCancelled "t1-g2", .count, .check true, .readRow 5,
        .write] := by
  have once : Meets (step twoLegs) (Once twoLegs) placeholderBook
      [.legCancelled "t1-g1", .count, .legCancelled "t1-g2", .count, .check true, .readRow 5,
        .write] := by
    decide
  exact ⟨once, placeholder_closed_only_dead twoLegs _ _ once⟩

/-- One leg's cancellation is reported twice, and the row is closed with the
other leg on the book. -/
theorem repeated_cancel_closes_live_grid :
    ¬ Meets (step twoLegs) (OnlyDead twoLegs) placeholderBook
      [.legCancelled "t1-g1", .count, .legCancelled "t1-g1", .count, .check true, .readRow 5,
        .write] := by
  decide

end GridDesk

end Forex
