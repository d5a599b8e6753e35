import Forex.Telegram.Orders

/-!
The gap-adjusted entry of one signal, at its arrival and from the pending queue,
in the levels of its row. The arrival stores the shifted levels with the row; the
watcher writes them before the open and puts the old ones back when that raises.
-/

namespace Forex
open Support

/-- The levels all moved by one amount. -/
def Parsed.translate (p : Parsed) (shift : ℚ) : Parsed :=
  { p with
    entryLow := p.entryLow + shift
    entryHigh := p.entryHigh + shift
    stopLoss := p.stopLoss.map (· + shift)
    tps := p.tps.map (Option.map (· + shift)) }

/-- The gap that is fired into; a signal without a stop opens nothing. -/
def gapOf (ime : Bool) (p : Parsed) (tick : Tick) : Option ℚ :=
  let gap := match p.direction with
    | .buy => roundTo 2 (tick.ask - p.entryHigh)
    | .sell => roundTo 2 (p.entryLow - tick.bid)
  if ime && decide (0 < gap ∧ gap ≤ maxGapFirePts) then some gap else none

theorem gapToFire_eq (env : ScanEnv) (p : Parsed) (tick : Tick) :
    gapToFire env p tick = gapOf env.settings.immediateMarketEntry p tick := rfl

/-- How the open of a signal ends; it may raise after the trade is there, and be
cancelled before or after its claim. -/
inductive GapOutcome where
  | opened (raises : Bool)
  | failed
  | unanswered
  | cancelled (claimed : Bool)
deriving DecidableEq, Repr

/-- How a signal is met: the settings that decide about the gap, and the quote. -/
structure Meeting where
  ime : Bool
  grid : Bool
  tick : Tick
deriving DecidableEq, Repr

inductive WatchGate where
  | aged
  | held
  | duplicate
  | clear
deriving DecidableEq, Repr

structure WatchCycle where
  gate : WatchGate
  meeting : Meeting
  ends : GapOutcome
  /-- The write that puts the old levels back succeeds. -/
  reverts : Bool
  /-- The failure is the last that is let pass. -/
  abandons : Bool
deriving DecidableEq, Repr

/-- One signal: the levels of its row, the row's status if it is there, and the
levels that it was opened on through a gap. -/
structure GapSignal where
  stored : Parsed
  status : Option SignalStatus
  isOpen : Bool
  openedOn : List Parsed
deriving DecidableEq, Repr

/-- Where a signal is entered: not yet, in its zone, or through a gap. -/
inductive GapEntry where
  | waits
  | inZone
  | gap (by' : ℚ)
deriving DecidableEq, Repr

def gapEntry (p : Parsed) (m : Meeting) : GapEntry :=
  if m.grid || inEntryRange p.direction p.entryLow p.entryHigh m.tick then .inZone
  else
    match gapOf m.ime p m.tick with
    | some gap => if p.stopLoss.isSome then .gap gap else .waits
    | none => .waits

inductive GapStep where
  | arrives (m : Meeting) (ends : GapOutcome)
  | queued
  | cycle (c : WatchCycle)
  | released
deriving DecidableEq, Repr

namespace GapSignal
variable (s : GapSignal)

/-- The open at the arrival, with the row inserted. -/
def openFresh (grid : Bool) (fired : List Parsed) : GapOutcome → GapSignal
  | .opened raises =>
      { s with
        status := some (if raises && !grid then .pending else .activated)
        isOpen := true
        openedOn := fired ++ s.openedOn }
  | .failed => { s with status := some (if grid then .active else .pending) }
  | .unanswered => { s with status := some (if grid then .active else .unknown) }
  | .cancelled _ => { s with status := some .active }

/-- The end of `_execute_auto_signal`. -/
def executeAutoSignal (m : Meeting) (ends : GapOutcome) : GapSignal :=
  match gapEntry s.stored m with
  | .inZone => s.openFresh m.grid [] ends
  | .gap gap =>
      let shifted := gapShift s.stored gap
      { s with stored := shifted }.openFresh false [shifted] ends
  | .waits => { s with status := some .pending }

/-- The open from the queue, with `levels` written for it and `fired` when they
are those of a gap. -/
def openQueued (levels : Parsed) (fired : List Parsed) (c : WatchCycle) : GapSignal :=
  let left := if c.reverts then s.stored else levels
  match c.ends with
  | .opened raises =>
      { stored := if raises then left else levels
        status := some (if raises && c.abandons then .expired else .activated)
        isOpen := true
        openedOn := fired ++ s.openedOn }
  | .failed =>
      { s with stored := left, status := some (if c.abandons then .expired else .pending) }
  | .unanswered =>
      { s with stored := left, status := some (if c.abandons then .expired else .unknown) }
  | .cancelled claimed =>
      { s with stored := levels, status := some (if claimed then .activating else .pending) }

/-- One visit of the watcher to the signal. -/
def watch (c : WatchCycle) : GapSignal :=
  match c.gate with
  | .aged => { s with status := some .expired }
  | .held => s
  | .duplicate =>
      match gapEntry s.stored c.meeting with
      | .waits => s
      | _ => { s with status := some .activated }
  | .clear =>
      match gapEntry s.stored c.meeting with
      | .waits => s
      | .inZone => s.openQueued s.stored [] c
      | .gap gap => s.openQueued (gapShift s.stored gap) [gapShift s.stored gap] c

def step : GapStep → GapSignal
  | .arrives m ends => if s.status = none then s.executeAutoSignal m ends else s
  | .queued => if s.status = none then { s with status := some .pending } else s
  | .cycle c => if s.status = some .pending then s.watch c else s
  | .released =>
      if s.status = some .activating then { s with status := some .pending } else s

/-- The row keeps the distances of the levels sent, and the levels themselves
until the signal opens; through a gap it opens on levels at the same distances. -/
structure Faithful (sent : Parsed) (s : GapSignal) : Prop where
  row : ∃ d, s.stored = sent.translate d
  unopened : s.isOpen = false → s.stored = sent
  opened : ∀ p ∈ s.openedOn, ∃ d, p = sent.translate d

end GapSignal

/-- The shift moves every level by one amount, its rounding included. -/
def ShiftsAlike (p : Parsed) (gap : ℚ) : Prop :=
  gapShift p gap = p.translate ((gapShift p gap).entryLow - p.entryLow)

namespace GapSignal

/-- What an open through a gap must not do: at the arrival, fail; from the queue,
fail without the old levels being put back, or be cancelled; and where levels are
left shifted or opened on, round them differently. -/
def GapEnds (s : GapSignal) (gap : ℚ) (reverts : Bool) : GapOutcome → Prop
  | .opened _ => ShiftsAlike s.stored gap
  | .failed | .unanswered => reverts = true ∨ (s.isOpen = true ∧ ShiftsAlike s.stored gap)
  | .cancelled _ => s.isOpen = true ∧ ShiftsAlike s.stored gap

def Unharmed (s : GapSignal) : GapStep → Prop
  | .arrives m ends =>
      s.status = none → ∀ gap, gapEntry s.stored m = .gap gap → s.GapEnds gap false ends
  | .cycle c =>
      s.status = some .pending → c.gate = .clear →
        ∀ gap, gapEntry s.stored c.meeting = .gap gap → s.GapEnds gap c.reverts c.ends
  | .queued | .released => True

end GapSignal

section Shift
variable {p q sent : Parsed} {gap : ℚ}

theorem translate_zero (p : Parsed) : p.translate 0 = p := by
  simp [Parsed.translate]

theorem translate_translate (p : Parsed) (d e : ℚ) :
    (p.translate d).translate e = p.translate (d + e) := by
  have both : (fun x : ℚ => x + e) ∘ (fun x => x + d) = fun x => x + (d + e) := by
    funext x
    exact add_assoc x d e
  simp [Parsed.translate, both, add_assoc]

/-- How far levels have been moved shows at the low end of the zone. -/
theorem eq_translate_iff :
    (∃ d, q = p.translate d) ↔ q = p.translate (q.entryLow - p.entryLow) := by
  constructor
  · rintro ⟨d, rfl⟩
    rw [show (p.translate d).entryLow - p.entryLow = d from add_sub_cancel_left _ _]
  · intro moved
    exact ⟨_, moved⟩

theorem shiftsAlike_iff {d : ℚ} (moved : p = sent.translate d) :
    (∃ e, gapShift p gap = sent.translate e) ↔ ShiftsAlike p gap := by
  rw [ShiftsAlike, ← eq_translate_iff]
  constructor
  · rintro ⟨e, shifted⟩
    refine ⟨e - d, ?_⟩
    rw [shifted, moved, translate_translate, add_sub_cancel]
  · rintro ⟨e, shifted⟩
    refine ⟨d + e, ?_⟩
    rw [shifted, moved, translate_translate]

/-- A gap that is fired into moves the low end of the zone. -/
theorem gapShift_ne (grid : OnGrid 2 gap) (pos : 0 < gap) : gapShift p gap ≠ p := by
  intro same
  have low : roundTo 2 (p.entryLow + p.direction.sign * gap) = p.entryLow :=
    congrArg Parsed.entryLow same
  have onGrid : OnGrid 2 p.entryLow := low ▸ roundTo_onGrid 2 _
  have moved : OnGrid 2 (p.entryLow + p.direction.sign * gap) := by
    cases p.direction with
    | buy => simpa [Direction.sign] using onGrid.add grid
    | sell => simpa [Direction.sign, sub_eq_add_neg] using onGrid.sub grid
  have sign : p.direction.sign ≠ 0 := by
    cases p.direction <;> simp [Direction.sign]
  rw [roundTo_of_onGrid moved, add_eq_left] at low
  exact mul_ne_zero sign pos.ne' low

theorem gapOf_some {ime : Bool} {tick : Tick} (fired : gapOf ime p tick = some gap) :
    OnGrid 2 gap ∧ 0 < gap := by
  cases way : p.direction with
  | buy | sell =>
      simp only [gapOf, way] at fired
      split at fired
      · next fires =>
          rw [Bool.and_eq_true, decide_eq_true_eq] at fires
          cases fired
          exact ⟨roundTo_onGrid 2 _, fires.2.1⟩
      · cases fired

theorem gapEntry_gap {m : Meeting} (entry : gapEntry p m = .gap gap) :
    OnGrid 2 gap ∧ 0 < gap := by
  rw [gapEntry] at entry
  split at entry
  · cases entry
  · split at entry
    · next g fired =>
        split at entry
        · cases entry
          exact gapOf_some fired
        · cases entry
    · cases entry

/-- Levels at two decimals are all moved by the gap itself. -/
theorem shiftsAlike_of_onGrid (gapGrid : OnGrid 2 gap) (low : OnGrid 2 p.entryLow)
    (high : OnGrid 2 p.entryHigh) (stop : ∀ level ∈ p.stopLoss, OnGrid 2 level)
    (tps : ∀ target ∈ p.tps, ∀ level ∈ target, OnGrid 2 level) : ShiftsAlike p gap := by
  refine eq_translate_iff.mp ⟨p.direction.sign * gap, ?_⟩
  have shift : OnGrid 2 (p.direction.sign * gap) := by
    cases p.direction with
    | buy => simpa [Direction.sign] using gapGrid
    | sell => simpa [Direction.sign] using (onGrid_zero 2).sub gapGrid
  have exact' : ∀ level, OnGrid 2 level →
      roundTo 2 (level + p.direction.sign * gap) = level + p.direction.sign * gap :=
    fun level grid => roundTo_of_onGrid (grid.add shift)
  have targets : p.tps.map (Option.map fun level => roundTo 2 (level + p.direction.sign * gap)) =
      p.tps.map (Option.map (· + p.direction.sign * gap)) := by
    refine List.map_congr_left fun target mem => ?_
    exact Option.map_congr fun level inside => exact' level (tps target mem level inside)
  have stopped : p.stopLoss.map (fun level => roundTo 2 (level + p.direction.sign * gap)) =
      p.stopLoss.map (· + p.direction.sign * gap) :=
    Option.map_congr fun level inside => exact' level (stop level inside)
  simp only [gapShift, Parsed.translate, exact' _ low, exact' _ high, targets, stopped]

end Shift

namespace GapSignal
variable {sent : Parsed} {s : GapSignal}

/-- Faithful, and not open before its row is there. -/
structure Sound (sent : Parsed) (s : GapSignal) : Prop where
  faithful : s.Faithful sent
  absent : s.status = none → s.isOpen = false

/-- What an open leaves is faithful if the row's levels and those opened on are. -/
theorem faithful_open (h : s.Faithful sent) (levels : Parsed) (status : Option SignalStatus)
    (fired : List Parsed) :
    Faithful sent ⟨levels, status, true, fired ++ s.openedOn⟩ ↔
      (∃ d, levels = sent.translate d) ∧ ∀ p ∈ fired, ∃ d, p = sent.translate d := by
  constructor
  · intro after
    exact ⟨after.row, fun p mem => after.opened p (List.mem_append_left _ mem)⟩
  · rintro ⟨row, opened⟩
    refine ⟨row, fun no => absurd no.symm Bool.false_ne_true, fun p mem => ?_⟩
    cases List.mem_append.mp mem with
    | inl now => exact opened p now
    | inr before => exact h.opened p before

/-- A failure leaves it faithful if it leaves the row so. -/
theorem faithful_left (h : s.Faithful sent) (levels : Parsed) (status : Option SignalStatus) :
    Faithful sent ⟨levels, status, s.isOpen, s.openedOn⟩ ↔
      (∃ d, levels = sent.translate d) ∧ (s.isOpen = false → levels = sent) :=
  ⟨fun after => ⟨after.row, after.unopened⟩, fun row => ⟨row.1, row.2, h.opened⟩⟩

theorem shifted_left (h : s.Faithful sent) {gap : ℚ} (grid : OnGrid 2 gap) (pos : 0 < gap) :
    ((∃ d, gapShift s.stored gap = sent.translate d) ∧
        (s.isOpen = false → gapShift s.stored gap = sent)) ↔
      s.isOpen = true ∧ ShiftsAlike s.stored gap := by
  obtain ⟨d, moved⟩ := h.row
  rw [shiftsAlike_iff moved]
  cases opened : s.isOpen with
  | true => simp
  | false =>
      have differs : gapShift s.stored gap ≠ sent := by
        rw [← h.unopened opened]
        exact gapShift_ne grid pos
      simp [differs]

theorem openFresh_gap (h : s.Faithful sent) {gap : ℚ} (grid : OnGrid 2 gap) (pos : 0 < gap)
    (ends : GapOutcome) :
    ({ s with stored := gapShift s.stored gap }.openFresh false [gapShift s.stored gap]
        ends).Faithful sent ↔ s.GapEnds gap false ends := by
  obtain ⟨d, moved⟩ := h.row
  cases ends with
  | opened raises =>
      rw [openFresh, GapEnds, faithful_open h, shiftsAlike_iff moved]
      simp [shiftsAlike_iff moved]
  | failed | unanswered =>
      rw [openFresh, GapEnds, faithful_left h, shifted_left h grid pos]
      simp
  | cancelled claimed => rw [openFresh, GapEnds, faithful_left h, shifted_left h grid pos]

theorem openQueued_gap (h : s.Faithful sent) {gap : ℚ} (grid : OnGrid 2 gap) (pos : 0 < gap)
    (c : WatchCycle) :
    (s.openQueued (gapShift s.stored gap) [gapShift s.stored gap] c).Faithful sent ↔
      s.GapEnds gap c.reverts c.ends := by
  obtain ⟨d, moved⟩ := h.row
  rw [openQueued]
  cases c.ends with
  | opened raises =>
      dsimp only
      rw [GapEnds, faithful_open h, List.forall_mem_singleton, shiftsAlike_iff moved]
      refine and_iff_right_of_imp fun alike => ?_
      split
      · split
        · exact h.row
        · exact (shiftsAlike_iff moved).mpr alike
      · exact (shiftsAlike_iff moved).mpr alike
  | failed | unanswered =>
      dsimp only
      rw [GapEnds, faithful_left h]
      cases c.reverts with
      | true => exact iff_of_true ⟨h.row, h.unopened⟩ (.inl rfl)
      | false =>
          rw [if_neg Bool.false_ne_true, shifted_left h grid pos]
          simp
  | cancelled claimed => rw [GapEnds, faithful_left h, shifted_left h grid pos]

theorem openFresh_zone (h : s.Faithful sent) (grid : Bool) (ends : GapOutcome) :
    (s.openFresh grid [] ends).Faithful sent := by
  cases ends with
  | opened raises =>
      exact (faithful_open h _ _ []).mpr ⟨h.row, fun p mem => absurd mem List.not_mem_nil⟩
  | failed | unanswered | cancelled claimed =>
      exact (faithful_left h _ _).mpr ⟨h.row, h.unopened⟩

theorem openQueued_zone (h : s.Faithful sent) (c : WatchCycle) :
    (s.openQueued s.stored [] c).Faithful sent := by
  rw [openQueued, ite_self]
  cases c.ends with
  | opened raises =>
      dsimp only
      rw [ite_self]
      exact (faithful_open h _ _ []).mpr ⟨h.row, fun p mem => absurd mem List.not_mem_nil⟩
  | failed | unanswered | cancelled claimed =>
      exact (faithful_left h _ _).mpr ⟨h.row, h.unopened⟩

theorem faithful_status (h : s.Faithful sent) (status : Option SignalStatus) :
    { s with status := status }.Faithful sent :=
  (faithful_left h s.stored status).mpr ⟨h.row, h.unopened⟩

/-- One step keeps a faithful signal faithful exactly when it is unharmed. -/
theorem step_faithful_iff (h : s.Sound sent) (a : GapStep) :
    (s.step a).Faithful sent ↔ s.Unharmed a := by
  have here := h.faithful
  cases a with
  | arrives m ends =>
      rw [step, Unharmed]
      by_cases absent : s.status = none
      · rw [if_pos absent, executeAutoSignal]
        cases entry : gapEntry s.stored m with
        | waits => simp [faithful_status here]
        | inZone => simp [openFresh_zone here]
        | gap gap =>
            obtain ⟨grid, pos⟩ := gapEntry_gap entry
            dsimp only
            rw [openFresh_gap here grid pos]
            simp [absent]
      · rw [if_neg absent]
        exact iff_of_true here fun none => absurd none absent
  | queued =>
      rw [step]
      split
      · exact iff_of_true (faithful_status here _) True.intro
      · exact iff_of_true here True.intro
  | released =>
      rw [step]
      split
      · exact iff_of_true (faithful_status here _) True.intro
      · exact iff_of_true here True.intro
  | cycle c =>
      rw [step, Unharmed]
      by_cases pending : s.status = some .pending
      · rw [if_pos pending, watch]
        cases c.gate with
        | aged => simp [faithful_status here]
        | held => simp [here]
        | duplicate =>
            cases gapEntry s.stored c.meeting with
            | waits => simp [here]
            | inZone | gap _ => simp [faithful_status here]
        | clear =>
            cases entry : gapEntry s.stored c.meeting with
            | waits => simp [here]
            | inZone => simp [openQueued_zone here]
            | gap gap =>
                obtain ⟨grid, pos⟩ := gapEntry_gap entry
                dsimp only
                rw [openQueued_gap here grid pos]
                simp [pending]
      · rw [if_neg pending]
        exact iff_of_true here fun is => absurd is pending

theorem openFresh_status (s : GapSignal) (grid : Bool) (fired : List Parsed) (ends : GapOutcome) :
    (s.openFresh grid fired ends).status ≠ none := by
  cases ends <;> exact Option.some_ne_none _

theorem openQueued_status (s : GapSignal) (levels : Parsed) (fired : List Parsed)
    (c : WatchCycle) : (s.openQueued levels fired c).status ≠ none := by
  rw [openQueued]
  cases c.ends <;> exact Option.some_ne_none _

theorem watch_status (there : s.status ≠ none) (c : WatchCycle) : (s.watch c).status ≠ none := by
  rw [watch]
  split
  · exact Option.some_ne_none _
  · exact there
  · split
    · exact there
    · exact Option.some_ne_none _
  · split
    · exact there
    · exact openQueued_status _ _ _ _
    · exact openQueued_status _ _ _ _

/-- A row that is there stays there. -/
theorem step_absent (absent : s.status = none → s.isOpen = false) (a : GapStep) :
    (s.step a).status = none → (s.step a).isOpen = false := by
  intro none
  cases a with
  | arrives m ends =>
      rw [step] at none ⊢
      split at none
      · rw [executeAutoSignal] at none
        split at none
        · exact absurd none (openFresh_status _ _ _ _)
        · exact absurd none (openFresh_status _ _ _ _)
        · exact absurd none (Option.some_ne_none _)
      · next there => exact absurd none there
  | queued =>
      rw [step] at none
      split at none
      · exact absurd none (Option.some_ne_none _)
      · next there => exact absurd none there
  | released =>
      rw [step] at none ⊢
      split at none
      · exact absurd none (Option.some_ne_none _)
      · next other => exact (if_neg other).symm ▸ absent none
  | cycle c =>
      rw [step] at none ⊢
      split at none
      · next pending =>
          have there : s.status ≠ .none := pending ▸ Option.some_ne_none _
          exact absurd none (watch_status there c)
      · next other => exact (if_neg other).symm ▸ absent none

/-- A signal that has not come in yet. -/
def sentSignal (sent : Parsed) : GapSignal := ⟨sent, none, false, []⟩

/-- Along a run the row keeps the levels sent until the signal opens, and a gap
only moves them together, exactly when no attempt through a gap leaves them
shifted without opening and every one rounds them alike. -/
theorem gap_shifts_never_compound (sent : Parsed) (run : List GapStep) :
    (∀ s ∈ states step (sentSignal sent) run, s.Faithful sent) ↔
      Meets step Unharmed (sentSignal sent) run := by
  refine states_iff (I := Sound sent) (fun s h => h.faithful) ?_ ?_ run ?_
  · intro s a h ok
    exact ⟨(step_faithful_iff h a).mpr ok, step_absent h.absent a⟩
  · intro s a h after
    exact (step_faithful_iff h a).mp after
  · exact ⟨⟨⟨0, (translate_zero sent).symm⟩, fun _ => rfl,
      fun p mem => absurd mem List.not_mem_nil⟩, fun _ => rfl⟩

/-- A BUY two points under the market. -/
def goldBuy : Parsed where
  direction := .buy
  entryLow := 2000
  entryHigh := 2001
  stopLoss := some 1990
  tps := [some 2010, some 2020]
  tpOpen := none

/-- The attempt at the arrival fails, and so does that of the next cycle. -/
def twoFailedAttempts : List GapStep :=
  [.arrives ⟨true, false, ⟨2003, 2003⟩⟩ .failed,
    .cycle ⟨.clear, ⟨true, false, ⟨2006, 2006⟩⟩, .failed, true, false⟩]

theorem failed_arrival_keeps_shift :
    ¬ ∀ (sent : Parsed) (run : List GapStep),
      ∀ s ∈ states step (sentSignal sent) run, s.Faithful sent := by
  intro all
  have last := all goldBuy twoFailedAttempts _ (foldl_mem_states step _ _)
  have same := last.unopened (by decide +kernel)
  exact absurd same (by decide +kernel)

end GapSignal

end Forex
