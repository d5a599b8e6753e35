import Forex.Broker.Sides
import Forex.Support.Loop
import Mathlib.Tactic.LinearCombination

/-!
The replay of an exit rule over the path of a trade, `exit_replay.py`. What a replay may
return is set against the furthest that the path went with the trade: only a breakeven stop
with a buffer beyond that can pay more.
-/

namespace Forex
open Support

/-- A tick, or a bar, of a path. -/
structure PathPoint where
  ts : ℚ
  high : ℚ
  low : ℚ
deriving DecidableEq, Repr

/-- An exit rule, in points; zero is off. -/
structure ExitPolicy where
  stopPts : ℚ
  targetPts : ℚ := 0
  targetFrac : ℚ := 1
  runnerTargetPts : ℚ := 0
  beTriggerPts : ℚ := 0
  beBufferPts : ℚ := 0
  trailActivationPts : ℚ := 0
  trailDistancePts : ℚ := 0
  trailStepPts : ℚ := 0
  timeStopS : ℚ := 0
  costPts : ℚ := 0

inductive ExitReason where
  | stop
  | breakeven
  | trail
  | target
  | runner
  | time
  | pathEnd
deriving DecidableEq, Repr

structure ExitResult where
  rMultiple : ℚ
  exitTs : ℚ
  reason : ExitReason
  mfePts : ℚ
  maePts : ℚ
  partialTaken : Bool
deriving DecidableEq, Repr

/-- What `finish` is called with: an end of the replay, in R before the cost. -/
structure ReplayExit where
  r : ℚ
  ts : ℚ
  reason : ExitReason
  partialTaken : Bool
deriving DecidableEq, Repr

/-- The variables of the loop. -/
structure ReplayVars where
  stopPx : ℚ
  stopReason : ExitReason
  bestFav : ℚ
  realisedR : ℚ
  remaining : ℚ
  partialTaken : Bool

namespace PathPoint
variable (d : Direction) (p : PathPoint)

def adversePx : ℚ :=
  match d with
  | .buy => p.low
  | .sell => p.high

def favourablePx : ℚ :=
  match d with
  | .buy => p.high
  | .sell => p.low

/-- `_mid`. -/
def mid : ℚ := (p.high + p.low) / 2

end PathPoint

section Replay
variable (P : ExitPolicy) (d : Direction) (entry startTs : ℚ)

/-- The points that a price is ahead of the entry. -/
def favourable (px : ℚ) : ℚ := (px - entry) * d.sign

/-- The best and the worst so far, with one more point. -/
def excursionStep (e : ℚ × ℚ) (p : PathPoint) : ℚ × ℚ :=
  match d with
  | .buy => (max e.1 (p.high - entry), max e.2 (entry - p.low))
  | .sell => (max e.1 (entry - p.low), max e.2 (p.high - entry))

def excursions (path : List PathPoint) : ℚ × ℚ := path.foldl (excursionStep d entry) (0, 0)

def excursion (path : List PathPoint) : Option (ℚ × ℚ) :=
  if path = [] then none
  else some
    (roundTo 4 (max 0 (excursions d entry path).1), roundTo 4 (max 0 (excursions d entry path).2))

def stopHit (adverse stopPx : ℚ) : Bool :=
  match d with
  | .buy => decide (adverse ≤ stopPx)
  | .sell => decide (stopPx ≤ adverse)

/-- `remaining` closed at so many points. -/
def ReplayVars.close (v : ReplayVars) (pts ts : ℚ) (reason : ExitReason) : ReplayExit where
  r := v.realisedR + v.remaining * (pts / P.stopPts)
  ts := ts
  reason := reason
  partialTaken := v.partialTaken

def targetReached (v : ReplayVars) (fav : ℚ) : Prop :=
  0 < P.targetPts ∧ v.partialTaken = false ∧ P.targetPts ≤ fav

instance (v : ReplayVars) (fav : ℚ) : Decidable (targetReached P v fav) :=
  inferInstanceAs (Decidable (_ ∧ _ ∧ _))

/-- `min(1.0, max(0.0, target_frac))`. -/
def ExitPolicy.frac : ℚ := min 1 (max 0 P.targetFrac)

def takeTarget (v : ReplayVars) (fav : ℚ) : ReplayVars :=
  if targetReached P v fav then
    { v with
      realisedR := v.realisedR + P.frac * (P.targetPts / P.stopPts)
      remaining := v.remaining - P.frac
      partialTaken := true }
  else v

/-- Whether the breakeven price is better than the stop. -/
def breakevenImproves (stopPx bePx : ℚ) : Bool :=
  match d with
  | .buy => decide (stopPx < bePx)
  | .sell => decide (bePx < stopPx)

def moveToBreakeven (v : ReplayVars) : ReplayVars :=
  let bePx := entry + d.sign * P.beBufferPts
  if 0 < P.beTriggerPts ∧ P.beTriggerPts ≤ v.bestFav ∧ breakevenImproves d v.stopPx bePx then
    { v with stopPx := bePx, stopReason := .breakeven }
  else v

/-- Whether a new place of the trail is better than the stop by a step. -/
def trailImproves (stopPx step candidate : ℚ) : Bool :=
  match d with
  | .buy => decide (stopPx + step ≤ candidate)
  | .sell => decide (candidate ≤ stopPx - step)

def moveTrail (v : ReplayVars) : ReplayVars :=
  let candidate := entry + d.sign * (v.bestFav - P.trailDistancePts)
  if 0 < P.trailActivationPts ∧ P.trailActivationPts ≤ v.bestFav ∧
      trailImproves d v.stopPx P.trailStepPts candidate then
    { v with stopPx := candidate, stopReason := .trail }
  else v

/-- Stop maintenance, after the exits. -/
def maintain (v : ReplayVars) (fav : ℚ) : ReplayVars :=
  moveTrail P d entry (moveToBreakeven P d entry { v with bestFav := max v.bestFav fav })

/-- The body of the loop, for one point. -/
def replayPoint (v : ReplayVars) (p : PathPoint) : ReplayExit ⊕ ReplayVars :=
  let fav := favourable d entry (p.favourablePx d)
  if stopHit d (p.adversePx d) v.stopPx then
    .inl (v.close P (favourable d entry v.stopPx) p.ts v.stopReason)
  else
    let taken := takeTarget P v fav
    if targetReached P v fav ∧ taken.remaining ≤ 1 / 10 ^ 9 then
      .inl ⟨taken.realisedR, p.ts, .target, taken.partialTaken⟩
    else if taken.partialTaken ∧ 0 < P.runnerTargetPts ∧ 0 < taken.remaining ∧
        P.runnerTargetPts ≤ fav then
      .inl (taken.close P P.runnerTargetPts p.ts .runner)
    else if 0 < P.timeStopS ∧ P.timeStopS ≤ p.ts - startTs then
      .inl (taken.close P (favourable d entry p.mid) p.ts .time)
    else .inr (maintain P d entry taken fav)

def ReplayVars.start : ReplayVars := ⟨entry - d.sign * P.stopPts, .stop, 0, 0, 1, false⟩

/-- The loop and what follows it. -/
def replayExit : List PathPoint → Option ReplayExit
  | [] => none
  | first :: rest =>
      let last := (first :: rest).getLast (List.cons_ne_nil first rest)
      match loop (replayPoint P d entry first.ts) 0 (.start P d entry) (first :: rest) with
      | .inl (_, e) => some e
      | .inr v => some (v.close P (favourable d entry last.mid) last.ts .pathEnd)

/-- `finish`. -/
def ReplayExit.finish (e : ReplayExit) (mfeMae : ℚ × ℚ) : ExitResult where
  rMultiple := roundTo 10 (e.r - P.costPts / P.stopPts)
  exitTs := e.ts
  reason := e.reason
  mfePts := mfeMae.1
  maePts := mfeMae.2
  partialTaken := e.partialTaken

def replay (path : List PathPoint) : Except String (Option ExitResult) :=
  if P.stopPts ≤ 0 then .error "stop_pts must be positive: it is the denominator of R"
  else .ok ((replayExit P d entry path).map fun e =>
    e.finish P ((excursion d entry path).getD (0, 0)))

/-- The furthest that a path goes with the trade. -/
def reach (path : List PathPoint) : ℚ := (excursions d entry path).1

/-- What has been closed at the first target, where `reached` is enough for it, and the rest
at `pts`. -/
def settled (reached pts : ℚ) : ℚ :=
  if 0 < P.targetPts ∧ P.targetPts ≤ reached then
    P.frac * P.targetPts + (1 - P.frac) * pts
  else pts

/-- The replay never returns more than the path gave, nor less than the stop; its stop does not
move back, and what comes after its exit is only measured. -/
structure BoundedByPath (path : List PathPoint) : Prop where
  bounded : ∃ e, replayExit P d entry path = some e ∧
    -1 ≤ e.r ∧ e.r ≤ reach d entry path / P.stopPts
  stops : ∀ startTs, ((visited (replayPoint P d entry startTs) (.start P d entry) path).map
    fun v => favourable d entry v.stopPx).Pairwise (· ≤ ·)
  later : ∃ res pre p post, replay P d entry path = .ok (some res) ∧ path = pre ++ p :: post ∧
    res.exitTs = p.ts ∧ (res.reason = .pathEnd → post = []) ∧
      (res.reason ≠ .pathEnd → ∀ other, ∃ mfe mae,
        replay P d entry (pre ++ p :: other) =
          .ok (some { res with mfePts := mfe, maePts := mae }))

/-- `path[0][0]`. -/
def startOf (path : List PathPoint) : ℚ := (path.head?.map PathPoint.ts).getD 0

/-- The trade is open after so many points. -/
def OpenAfter (path : List PathPoint) (n : ℕ) : Prop :=
  ∃ v, loop (replayPoint P d entry (startOf path)) 0 (.start P d entry) (path.take n) = .inr v

/-- Where a trade that goes on has come to the breakeven trigger, its rest is worth no more at
the buffer than the path gives. -/
def BufferWithin (path : List PathPoint) : Prop :=
  ∀ n < path.length, OpenAfter P d entry path n → 0 < P.beTriggerPts →
    P.beTriggerPts ≤ reach d entry (path.take n) →
      settled P (reach d entry (path.take n)) P.beBufferPts ≤ reach d entry path

end Replay

section Prices
variable {P : ExitPolicy} {d : Direction} {entry : ℚ}

theorem favourable_add_sign_mul (x : ℚ) : favourable d entry (entry + d.sign * x) = x := by
  rw [favourable]
  linear_combination x * d.sign_mul_sign

theorem favourable_start : favourable d entry (ReplayVars.start P d entry).stopPx = -P.stopPts := by
  rw [ReplayVars.start, favourable]
  linear_combination -P.stopPts * d.sign_mul_sign

theorem favourable_le_iff {px px' : ℚ} :
    favourable d entry px ≤ favourable d entry px' ↔
      match d with
      | .buy => px ≤ px'
      | .sell => px' ≤ px := by
  cases d with
  | buy => simp [favourable, Direction.sign]
  | sell =>
      simp only [favourable, Direction.sign]
      constructor <;> intro le <;> linarith

theorem stopHit_iff (entry : ℚ) {adverse stopPx : ℚ} :
    stopHit d adverse stopPx = true ↔ favourable d entry adverse ≤ favourable d entry stopPx := by
  rw [favourable_le_iff]
  cases d with
  | buy => exact decide_eq_true_iff
  | sell => exact decide_eq_true_iff

/-- What is worse for the trade at a point, its middle, and what is better. -/
theorem adverse_le_mid {p : PathPoint} (ordered : p.low ≤ p.high) :
    favourable d entry (p.adversePx d) ≤ favourable d entry p.mid := by
  rw [favourable_le_iff]
  cases d with
  | buy => simp only [PathPoint.adversePx, PathPoint.mid]; linarith
  | sell => simp only [PathPoint.adversePx, PathPoint.mid]; linarith

theorem mid_le_favourable {p : PathPoint} (ordered : p.low ≤ p.high) :
    favourable d entry p.mid ≤ favourable d entry (p.favourablePx d) := by
  rw [favourable_le_iff]
  cases d with
  | buy => simp only [PathPoint.favourablePx, PathPoint.mid]; linarith
  | sell => simp only [PathPoint.favourablePx, PathPoint.mid]; linarith

theorem reach_nil : reach d entry [] = 0 := rfl

theorem reach_concat (path : List PathPoint) (p : PathPoint) :
    reach d entry (path ++ [p]) =
      max (reach d entry path) (favourable d entry (p.favourablePx d)) := by
  rw [reach, excursions, List.foldl_append, List.foldl_cons, List.foldl_nil, ← excursions, reach]
  cases d with
  | buy => simp [excursionStep, favourable, PathPoint.favourablePx, Direction.sign]
  | sell => simp [excursionStep, favourable, PathPoint.favourablePx, Direction.sign]

theorem reach_le_append (path more : List PathPoint) :
    reach d entry path ≤ reach d entry (path ++ more) := by
  induction more using List.reverseRecOn with
  | nil => rw [List.append_nil]
  | append_singleton more p ih =>
      rw [← List.append_assoc, reach_concat]
      exact ih.trans (le_max_left _ _)

theorem reach_nonneg (path : List PathPoint) : 0 ≤ reach d entry path :=
  reach_le_append [] path

theorem frac_mem : 0 ≤ P.frac ∧ P.frac ≤ 1 :=
  ⟨le_min zero_le_one (le_max_left _ _), min_le_left _ _⟩

end Prices

/-- The first target has been taken if what is reached is enough for it. -/
structure Banked (P : ExitPolicy) (reached : ℚ) (v : ReplayVars) : Prop where
  taken : v.partialTaken = true ↔ 0 < P.targetPts ∧ P.targetPts ≤ reached
  realised : v.realisedR = if v.partialTaken = true then P.frac * (P.targetPts / P.stopPts) else 0
  remaining : v.remaining = if v.partialTaken = true then 1 - P.frac else 1

/-- What the variables carry after the points of `path`. -/
structure Carries (P : ExitPolicy) (d : Direction) (entry : ℚ) (path : List PathPoint)
    (v : ReplayVars) : Prop extends Banked P (reach d entry path) v where
  best : v.bestFav = reach d entry path
  reason : v.stopReason ≠ .pathEnd
  least : -P.stopPts ≤ favourable d entry v.stopPx
  moved : 0 < P.beTriggerPts → P.beTriggerPts ≤ reach d entry path →
    P.beBufferPts ≤ favourable d entry v.stopPx
  most : favourable d entry v.stopPx ≤ reach d entry path ∨
    favourable d entry v.stopPx = P.beBufferPts ∧ 0 < P.beTriggerPts ∧
      P.beTriggerPts ≤ reach d entry path

section Banked
variable {P : ExitPolicy} {reached fav : ℚ} {v w : ReplayVars}

theorem Banked.congr (banked : Banked P reached v) (taken : w.partialTaken = v.partialTaken)
    (realised : w.realisedR = v.realisedR) (remaining : w.remaining = v.remaining) :
    Banked P reached w := by
  constructor
  · rw [taken]
    exact banked.taken
  · rw [taken, realised]
    exact banked.realised
  · rw [taken, remaining]
    exact banked.remaining

theorem Banked.close_r (banked : Banked P reached v) (pts ts : ℚ) (reason : ExitReason) :
    (v.close P pts ts reason).r = settled P reached pts / P.stopPts := by
  rw [ReplayVars.close, settled, banked.realised, banked.remaining]
  by_cases hit : v.partialTaken = true
  · rw [if_pos hit, if_pos hit, if_pos (banked.taken.mp hit)]
    ring
  · rw [if_neg hit, if_neg hit, if_neg (mt banked.taken.mpr hit)]
    ring

/-- The first target is taken at the point that reaches it. -/
theorem Banked.takeTarget (banked : Banked P reached v) (fav : ℚ) :
    Banked P (max reached fav) (takeTarget P v fav) := by
  rw [Forex.takeTarget]
  split_ifs with now
  · obtain ⟨target, fresh, le⟩ := now
    have ne : ¬ v.partialTaken = true := by simp [fresh]
    have realised := banked.realised
    have remaining := banked.remaining
    rw [if_neg ne] at realised remaining
    constructor
    · exact iff_of_true rfl ⟨target, le_max_of_le_right le⟩
    · simp [realised]
    · simp [remaining]
  · refine ⟨banked.taken.trans ?_, banked.realised, banked.remaining⟩
    rw [le_max_iff]
    constructor
    · rintro ⟨target, le⟩
      exact ⟨target, .inl le⟩
    · rintro ⟨target, before | here⟩
      · exact ⟨target, before⟩
      · by_cases taken : v.partialTaken = true
        · exact banked.taken.mp taken
        · exact absurd ⟨target, eq_false_of_ne_true taken, here⟩ now

@[simp] theorem takeTarget_stopPx : (takeTarget P v fav).stopPx = v.stopPx := by
  rw [takeTarget]
  split_ifs <;> rfl

@[simp] theorem takeTarget_stopReason : (takeTarget P v fav).stopReason = v.stopReason := by
  rw [takeTarget]
  split_ifs <;> rfl

@[simp] theorem takeTarget_bestFav : (takeTarget P v fav).bestFav = v.bestFav := by
  rw [takeTarget]
  split_ifs <;> rfl

theorem settled_le {pts most : ℚ} (le : reached ≤ most) (pts_le : pts ≤ most) :
    settled P reached pts ≤ most := by
  rw [settled]
  split_ifs with hit
  · have target := mul_le_mul_of_nonneg_left (hit.2.trans le) (frac_mem (P := P)).1
    have rest := mul_le_mul_of_nonneg_left pts_le (sub_nonneg.mpr (frac_mem (P := P)).2)
    linarith
  · exact pts_le

theorem neg_le_settled (reached : ℚ) {pts : ℚ} (stop : 0 ≤ P.stopPts) (least : -P.stopPts ≤ pts) :
    -P.stopPts ≤ settled P reached pts := by
  rw [settled]
  split_ifs with hit
  · have target := mul_nonneg (frac_mem (P := P)).1 hit.1.le
    have rest := mul_le_mul_of_nonneg_left least (sub_nonneg.mpr (frac_mem (P := P)).2)
    have part := mul_nonneg (frac_mem (P := P)).1 stop
    linarith
  · exact least

end Banked

section Maintain
variable {P : ExitPolicy} {d : Direction} {entry reached fav : ℚ} {v : ReplayVars}

theorem breakevenImproves_iff (entry : ℚ) {stopPx px : ℚ} :
    breakevenImproves d stopPx px = true ↔
      favourable d entry stopPx < favourable d entry px := by
  rw [← not_le, favourable_le_iff]
  cases d with
  | buy => exact decide_eq_true_iff.trans not_le.symm
  | sell => exact decide_eq_true_iff.trans not_le.symm

theorem trailImproves_iff (entry : ℚ) {stopPx step px : ℚ} :
    trailImproves d stopPx step px = true ↔
      favourable d entry stopPx + step ≤ favourable d entry px := by
  cases d with
  | buy =>
      refine decide_eq_true_iff.trans ?_
      simp only [favourable, Direction.sign]
      constructor <;> intro le <;> linarith
  | sell =>
      refine decide_eq_true_iff.trans ?_
      simp only [favourable, Direction.sign]
      constructor <;> intro le <;> linarith

/-- The breakeven stop, where it is set, is the better of the two. -/
theorem moveToBreakeven_stop :
    favourable d entry (moveToBreakeven P d entry v).stopPx =
      if 0 < P.beTriggerPts ∧ P.beTriggerPts ≤ v.bestFav then
        max (favourable d entry v.stopPx) P.beBufferPts
      else favourable d entry v.stopPx := by
  simp only [moveToBreakeven, breakevenImproves_iff entry, favourable_add_sign_mul]
  by_cases armed : 0 < P.beTriggerPts ∧ P.beTriggerPts ≤ v.bestFav
  · rw [if_pos armed]
    by_cases better : favourable d entry v.stopPx < P.beBufferPts
    · rw [if_pos ⟨armed.1, armed.2, better⟩, favourable_add_sign_mul, max_eq_right better.le]
    · rw [if_neg fun moves => better moves.2.2, max_eq_left (not_lt.mp better)]
  · rw [if_neg armed, if_neg fun moves => armed ⟨moves.1, moves.2.1⟩]

theorem moveTrail_stop :
    favourable d entry (moveTrail P d entry v).stopPx =
      if 0 < P.trailActivationPts ∧ P.trailActivationPts ≤ v.bestFav ∧
          favourable d entry v.stopPx + P.trailStepPts ≤ v.bestFav - P.trailDistancePts then
        v.bestFav - P.trailDistancePts
      else favourable d entry v.stopPx := by
  simp only [moveTrail, trailImproves_iff entry, favourable_add_sign_mul]
  split_ifs with moves
  · exact favourable_add_sign_mul _
  · rfl

theorem Banked.moveToBreakeven (banked : Banked P reached v) :
    Banked P reached (moveToBreakeven P d entry v) := by
  simp only [Forex.moveToBreakeven]
  split_ifs
  · exact banked.congr rfl rfl rfl
  · exact banked

theorem Banked.moveTrail (banked : Banked P reached v) :
    Banked P reached (moveTrail P d entry v) := by
  simp only [Forex.moveTrail]
  split_ifs
  · exact banked.congr rfl rfl rfl
  · exact banked

theorem Banked.maintain (banked : Banked P reached v) :
    Banked P reached (maintain P d entry v fav) :=
  Banked.moveTrail (Banked.moveToBreakeven (banked.congr rfl rfl rfl))

theorem moveToBreakeven_bestFav : (moveToBreakeven P d entry v).bestFav = v.bestFav := by
  simp only [moveToBreakeven]
  split_ifs <;> rfl

theorem maintain_bestFav : (maintain P d entry v fav).bestFav = max v.bestFav fav := by
  simp only [maintain, moveTrail]
  split_ifs <;> exact moveToBreakeven_bestFav

theorem maintain_reason (open_ : v.stopReason ≠ .pathEnd) :
    (maintain P d entry v fav).stopReason ≠ .pathEnd := by
  simp only [maintain, moveTrail, moveToBreakeven]
  split_ifs
  all_goals first | exact open_ | exact nofun

/-- The stop after a point: the breakeven stop if that is better, and then the trail. -/
theorem maintain_stop (P : ExitPolicy) (d : Direction) (entry : ℚ) (v : ReplayVars) (fav : ℚ) :
    favourable d entry (maintain P d entry v fav).stopPx =
      let best := max v.bestFav fav
      let stop :=
        if 0 < P.beTriggerPts ∧ P.beTriggerPts ≤ best then
          max (favourable d entry v.stopPx) P.beBufferPts
        else favourable d entry v.stopPx
      if 0 < P.trailActivationPts ∧ P.trailActivationPts ≤ best ∧
          stop + P.trailStepPts ≤ best - P.trailDistancePts then
        best - P.trailDistancePts
      else stop := by
  rw [maintain, moveTrail_stop, moveToBreakeven_bestFav, moveToBreakeven_stop]

theorem le_maintain_stop (step : 0 ≤ P.trailStepPts) (d : Direction) (entry : ℚ) (v : ReplayVars)
    (fav : ℚ) :
    favourable d entry v.stopPx ≤ favourable d entry (maintain P d entry v fav).stopPx := by
  rw [maintain_stop]
  dsimp only
  split_ifs with armed trails trails
  · exact (le_max_left _ P.beBufferPts).trans (by linarith [trails.2.2])
  · exact le_max_left _ _
  · linarith [trails.2.2]
  · exact le_rfl

end Maintain

section Steps
variable {P : ExitPolicy} {d : Direction} {entry startTs : ℚ} {path : List PathPoint}
  {v v' : ReplayVars} {p : PathPoint} {e : ReplayExit}

theorem carries_start (stop : 0 < P.stopPts) : Carries P d entry [] (.start P d entry) where
  taken := by
    refine iff_of_false Bool.false_ne_true ?_
    rintro ⟨target, le⟩
    exact absurd le (not_le.mpr target)
  realised := rfl
  remaining := rfl
  best := rfl
  reason := nofun
  least := favourable_start.ge
  moved trigger le := absurd le (not_le.mpr trigger)
  most := by
    rw [favourable_start, reach_nil]
    exact .inl (by linarith)

theorem replayPoint_stopped
    (hit : favourable d entry (p.adversePx d) ≤ favourable d entry v.stopPx) :
    replayPoint P d entry startTs v p =
      .inl (v.close P (favourable d entry v.stopPx) p.ts v.stopReason) := by
  simp only [replayPoint, if_pos ((stopHit_iff entry).mpr hit)]

theorem replayPoint_goes (goes : replayPoint P d entry startTs v p = .inr v') :
    favourable d entry v.stopPx < favourable d entry (p.adversePx d) ∧
      v' = maintain P d entry (takeTarget P v (favourable d entry (p.favourablePx d)))
        (favourable d entry (p.favourablePx d)) := by
  simp only [replayPoint] at goes
  split_ifs at goes with hit
  cases goes
  exact ⟨not_le.mp (mt (stopHit_iff entry).mpr hit), rfl⟩

/-- One point carries on. -/
theorem Carries.point (carries : Carries P d entry path v) (distance : 0 ≤ P.trailDistancePts)
    (step : 0 ≤ P.trailStepPts) (goes : replayPoint P d entry startTs v p = .inr v') :
    Carries P d entry (path ++ [p]) v' := by
  obtain ⟨-, rfl⟩ := replayPoint_goes goes
  have stop := maintain_stop P d entry (takeTarget P v (favourable d entry (p.favourablePx d)))
    (favourable d entry (p.favourablePx d))
  simp only [takeTarget_bestFav, takeTarget_stopPx, carries.best, ← reach_concat] at stop
  have further : reach d entry path ≤ reach d entry (path ++ [p]) := reach_le_append _ _
  refine { toBanked := ?_, best := ?_, reason := ?_, least := ?_, moved := ?_, most := ?_ }
  · rw [reach_concat]
    exact (carries.toBanked.takeTarget _).maintain
  · rw [maintain_bestFav, takeTarget_bestFav, carries.best, reach_concat]
  · refine maintain_reason ?_
    rw [takeTarget_stopReason]
    exact carries.reason
  · have kept := le_maintain_stop step d entry
      (takeTarget P v (favourable d entry (p.favourablePx d)))
      (favourable d entry (p.favourablePx d))
    rw [takeTarget_stopPx] at kept
    exact carries.least.trans kept
  · intro trigger reached
    rw [stop]
    split_ifs with armed trails trails
    · have best := le_max_right (favourable d entry v.stopPx) P.beBufferPts
      linarith [trails.2.2]
    · exact le_max_right _ _
    · exact absurd ⟨trigger, reached⟩ armed
    · exact absurd ⟨trigger, reached⟩ armed
  · have before : favourable d entry v.stopPx ≤ reach d entry (path ++ [p]) ∨
        favourable d entry v.stopPx = P.beBufferPts ∧ 0 < P.beTriggerPts ∧
          P.beTriggerPts ≤ reach d entry (path ++ [p]) := by
      rcases carries.most with within | ⟨buffer, trigger, reached⟩
      · exact .inl (within.trans further)
      · exact .inr ⟨buffer, trigger, reached.trans further⟩
    rw [stop]
    split_ifs with armed trails trails
    · exact .inl (by linarith)
    · rcases max_choice (favourable d entry v.stopPx) P.beBufferPts with same | moves
      · rwa [same]
      · exact .inr ⟨moves, armed⟩
    · exact .inl (by linarith)
    · exact before

/-- How the trade ends at a point: at the stop it had, or at a price of the point. -/
theorem Carries.leaves (carries : Carries P d entry path v) (ordered : p.low ≤ p.high)
    (stop : 0 < P.stopPts) (leaves : replayPoint P d entry startTs v p = .inl e) :
    e.ts = p.ts ∧ e.reason ≠ .pathEnd ∧
      (e.r = settled P (reach d entry path) (favourable d entry v.stopPx) / P.stopPts ∨
        ∃ pts, -P.stopPts ≤ pts ∧ pts ≤ reach d entry (path ++ [p]) ∧
          e.r = settled P (reach d entry (path ++ [p])) pts / P.stopPts) := by
  have fav := le_max_right (reach d entry path) (favourable d entry (p.favourablePx d))
  rw [← reach_concat] at fav
  have banked := carries.toBanked.takeTarget (favourable d entry (p.favourablePx d))
  rw [← reach_concat] at banked
  simp only [replayPoint] at leaves
  split_ifs at leaves with hit target runner time
  · cases leaves
    exact ⟨rfl, carries.reason, .inl (carries.toBanked.close_r _ _ _)⟩
  · cases leaves
    have nonneg : 0 ≤ reach d entry (path ++ [p]) := reach_nonneg _
    refine ⟨rfl, nofun, .inr ⟨0, by linarith, nonneg, ?_⟩⟩
    rw [← banked.close_r 0 p.ts .target, ReplayVars.close, zero_div, mul_zero, add_zero]
  · cases leaves
    exact ⟨rfl, nofun, .inr ⟨_, by linarith [runner.2.1], runner.2.2.2.trans fav,
      banked.close_r _ _ _⟩⟩
  · cases leaves
    have above := not_le.mp (mt (stopHit_iff entry).mpr hit)
    have least := carries.least.trans (above.le.trans (adverse_le_mid ordered))
    exact ⟨rfl, nofun, .inr ⟨_, least, (mid_le_favourable ordered).trans fav,
      banked.close_r _ _ _⟩⟩

end Steps

section Paths
variable {P : ExitPolicy} {d : Direction} {entry startTs : ℚ} {path : List PathPoint}

theorem carries_of_loop (stop : 0 < P.stopPts) (distance : 0 ≤ P.trailDistancePts)
    (step : 0 ≤ P.trailStepPts) {v : ReplayVars}
    (ended : loop (replayPoint P d entry startTs) 0 (.start P d entry) path = .inr v) :
    Carries P d entry path v :=
  loop_carries (I := Carries P d entry)
    (fun _ _ _ _ carries goes => carries.point distance step goes) (carries_start stop) ended

theorem stops_pairwise (step : 0 ≤ P.trailStepPts) :
    ((visited (replayPoint P d entry startTs) (.start P d entry) path).map
      fun v => favourable d entry v.stopPx).Pairwise (· ≤ ·) := by
  refine (visited_pairwise (I := fun _ => True) (fun v p _ _ v' goes => ⟨trivial, ?_⟩) trivial).1
  obtain ⟨-, rfl⟩ := replayPoint_goes goes
  have kept := le_maintain_stop step d entry
    (takeTarget P v (favourable d entry (p.favourablePx d))) (favourable d entry (p.favourablePx d))
  rwa [takeTarget_stopPx] at kept

theorem startOf_append (pre post : List PathPoint) (p : PathPoint) :
    startOf (pre ++ p :: post) = startOf (pre ++ [p]) := by
  cases pre <;> rfl

theorem replayExit_eq (some_ : path ≠ []) :
    replayExit P d entry path =
      match loop (replayPoint P d entry (startOf path)) 0 (.start P d entry) path with
      | .inl (_, e) => some e
      | .inr v => some (v.close P (favourable d entry (path.getLast some_).mid)
          (path.getLast some_).ts .pathEnd) := by
  cases path with
  | nil => exact absurd rfl some_
  | cons first rest => rfl

section Exit
variable {pre post : List PathPoint} {p : PathPoint} {v : ReplayVars} {e : ReplayExit}

/-- Where the trade ends, and how, does not depend on what comes after. -/
theorem replayExit_of_leaves
    (ended : loop (replayPoint P d entry (startOf (pre ++ [p]))) 0 (.start P d entry) pre = .inr v)
    (leaves : replayPoint P d entry (startOf (pre ++ [p])) v p = .inl e)
    (other : List PathPoint) : replayExit P d entry (pre ++ p :: other) = some e := by
  rw [replayExit_eq (by simp), startOf_append, loop_append _ ended, loop, leaves]

/-- A replay ends at a point, or after the last one. -/
theorem exists_end (P : ExitPolicy) (d : Direction) (entry : ℚ) (some_ : path ≠ []) :
    ∃ pre p post v, path = pre ++ p :: post ∧
      loop (replayPoint P d entry (startOf (pre ++ [p]))) 0 (.start P d entry) pre = .inr v ∧
        ((∃ e, replayPoint P d entry (startOf (pre ++ [p])) v p = .inl e) ∨
          post = [] ∧ ∃ v',
            loop (replayPoint P d entry (startOf path)) 0 (.start P d entry) path = .inr v' ∧
              replayPoint P d entry (startOf path) v p = .inr v') := by
  cases result : loop (replayPoint P d entry (startOf path)) 0 (.start P d entry) path with
  | inl out =>
      obtain ⟨j, e⟩ := out
      obtain ⟨pre, p, post, v, rfl, -, ended, leaves⟩ := loop_left_split result
      rw [startOf_append] at ended leaves
      exact ⟨pre, p, post, v, rfl, ended, .inl ⟨e, leaves⟩⟩
  | inr v' =>
      rw [← List.dropLast_append_getLast some_] at result
      obtain ⟨v, before, last⟩ := loop_concat result
      rw [List.dropLast_append_getLast some_] at before last
      refine ⟨path.dropLast, path.getLast some_, [], v, (List.dropLast_append_getLast some_).symm,
        ?_, .inr ⟨rfl, v', rfl, last⟩⟩
      rwa [List.dropLast_append_getLast some_]

theorem reach_pre_le : reach d entry pre ≤ reach d entry (pre ++ p :: post) :=
  reach_le_append _ _

theorem reach_point_le : reach d entry (pre ++ [p]) ≤ reach d entry (pre ++ p :: post) := by
  rw [List.append_cons pre p post]
  exact reach_le_append _ _

theorem favourable_le_reach :
    favourable d entry (p.favourablePx d) ≤ reach d entry (pre ++ p :: post) := by
  refine le_trans ?_ reach_point_le
  rw [reach_concat]
  exact le_max_right _ _

/-- What a close pays between the stop and the furthest price of the path. -/
theorem settled_bounds (stop : 0 < P.stopPts) {reached pts most : ℚ} (least : -P.stopPts ≤ pts)
    (reached_le : reached ≤ most) (pts_le : pts ≤ most) :
    -1 ≤ settled P reached pts / P.stopPts ∧
      settled P reached pts / P.stopPts ≤ most / P.stopPts := by
  constructor
  · rw [le_div_iff₀ stop]
    linarith [neg_le_settled reached stop.le least]
  · exact div_le_div_of_nonneg_right (settled_le reached_le pts_le) stop.le

/-- Where a trade ends at a point, it ends within the path, or it has gone on from the trigger
and ends at the buffer. -/
theorem Carries.leaves_bounds (carries : Carries P d entry pre v) (stop : 0 < P.stopPts)
    (ordered : p.low ≤ p.high) (leaves : replayPoint P d entry startTs v p = .inl e)
    (post : List PathPoint) :
    -1 ≤ e.r ∧ (e.r ≤ reach d entry (pre ++ p :: post) / P.stopPts ∨
      0 < P.beTriggerPts ∧ P.beTriggerPts ≤ reach d entry pre ∧
        e.r = settled P (reach d entry pre) P.beBufferPts / P.stopPts) := by
  obtain ⟨-, -, atStop | ⟨pts, least, most, r⟩⟩ := carries.leaves ordered stop leaves
  · rcases carries.most with within | ⟨buffer, trigger, reached⟩
    · rw [atStop]
      exact (settled_bounds stop carries.least reach_pre_le (within.trans reach_pre_le)).imp_right
        .inl
    · refine ⟨?_, .inr ⟨trigger, reached, by rw [atStop, buffer]⟩⟩
      rw [atStop, le_div_iff₀ stop]
      linarith [neg_le_settled (reach d entry pre) stop.le carries.least]
  · rw [r]
    exact (settled_bounds stop least reach_point_le (most.trans reach_point_le)).imp_right .inl

/-- A trade that is still open after the last point ends at the middle of it. -/
theorem Carries.end_bounds (carries : Carries P d entry pre v) (stop : 0 < P.stopPts)
    (distance : 0 ≤ P.trailDistancePts) (step : 0 ≤ P.trailStepPts) (ordered : p.low ≤ p.high)
    {v' : ReplayVars} (goes : replayPoint P d entry startTs v p = .inr v') (ts : ℚ)
    (reason : ExitReason) :
    -1 ≤ (v'.close P (favourable d entry p.mid) ts reason).r ∧
      (v'.close P (favourable d entry p.mid) ts reason).r ≤
        reach d entry (pre ++ [p]) / P.stopPts := by
  obtain ⟨above, -⟩ := replayPoint_goes goes
  rw [(carries.point distance step goes).toBanked.close_r]
  exact settled_bounds stop (carries.least.trans (above.le.trans (adverse_le_mid ordered))) le_rfl
    ((mid_le_favourable ordered).trans favourable_le_reach)

/-- With a buffer beyond the path, the point after the trigger closes the trade at the buffer. -/
theorem Carries.leaves_at_buffer (carries : Carries P d entry pre v) (ordered : p.low ≤ p.high)
    (trigger : 0 < P.beTriggerPts) (reached : P.beTriggerPts ≤ reach d entry pre)
    (beyond : reach d entry (pre ++ p :: post) < P.beBufferPts) :
    ∃ e, replayPoint P d entry startTs v p = .inl e ∧
      e.r = settled P (reach d entry pre) P.beBufferPts / P.stopPts := by
  have atBuffer : favourable d entry v.stopPx = P.beBufferPts := by
    refine le_antisymm ?_ (carries.moved trigger reached)
    rcases carries.most with within | ⟨buffer, -⟩
    · exact (within.trans reach_pre_le).trans beyond.le
    · exact buffer.le
  have hit : favourable d entry (p.adversePx d) ≤ favourable d entry v.stopPx := by
    rw [atBuffer]
    exact ((adverse_le_mid ordered).trans (mid_le_favourable ordered)).trans
      (favourable_le_reach.trans beyond.le)
  refine ⟨_, replayPoint_stopped hit, ?_⟩
  rw [carries.toBanked.close_r, atBuffer]

theorem openAfter_length
    (ended : loop (replayPoint P d entry (startOf (pre ++ [p]))) 0 (.start P d entry) pre =
      .inr v) :
    OpenAfter P d entry (pre ++ p :: post) pre.length := by
  refine ⟨v, ?_⟩
  rw [List.take_left, startOf_append]
  exact ended

end Exit

section Bounded
variable (ordered : ∀ p ∈ path, p.low ≤ p.high) (stop : 0 < P.stopPts)
  (distance : 0 ≤ P.trailDistancePts) (step : 0 ≤ P.trailStepPts)
include ordered stop distance step

theorem replayExit_bounds (some_ : path ≠ []) :
    ∃ e, replayExit P d entry path = some e ∧ -1 ≤ e.r ∧
      (BufferWithin P d entry path → e.r ≤ reach d entry path / P.stopPts) := by
  obtain ⟨pre, p, post, v, rfl, ended, ending⟩ := exists_end P d entry some_
  have carries := carries_of_loop stop distance step ended
  have ordered_p : p.low ≤ p.high := ordered p (by simp)
  rcases ending with ⟨e, leaves⟩ | ⟨rfl, v', through, last⟩
  · obtain ⟨least, most⟩ := carries.leaves_bounds stop ordered_p leaves post
    refine ⟨e, replayExit_of_leaves ended leaves post, least, fun buffer => ?_⟩
    rcases most with within | ⟨trigger, reached, r⟩
    · exact within
    · have rest := buffer pre.length (by simp) (openAfter_length ended) trigger
      rw [List.take_left] at rest
      rw [r]
      exact div_le_div_of_nonneg_right (rest reached) stop.le
  · rw [replayExit_eq some_, through]
    simp only [List.getLast_concat]
    obtain ⟨least, most⟩ := carries.end_bounds stop distance step ordered_p last p.ts .pathEnd
    exact ⟨_, rfl, least, fun _ => most⟩

theorem bufferWithin_of_bound {e : ReplayExit} (exit : replayExit P d entry path = some e)
    (most : e.r ≤ reach d entry path / P.stopPts) : BufferWithin P d entry path := by
  intro n inside open_ trigger reached
  obtain ⟨v, ended⟩ := open_
  obtain ⟨pre, p, post, rfl, taken⟩ :
      ∃ pre p post, path = pre ++ p :: post ∧ path.take n = pre := by
    refine ⟨path.take n, path[n], path.drop (n + 1), ?_, rfl⟩
    rw [← List.drop_eq_getElem_cons inside, List.take_append_drop]
  rw [taken] at ended reached ⊢
  rw [startOf_append] at ended
  have carries := carries_of_loop stop distance step ended
  by_contra beyond
  have further : reach d entry (pre ++ p :: post) < P.beBufferPts := by
    by_contra within
    exact beyond (settled_le reach_pre_le (not_lt.mp within))
  obtain ⟨e', leaves, r⟩ :
      ∃ e', replayPoint P d entry (startOf (pre ++ [p])) v p = .inl e' ∧
        e'.r = settled P (reach d entry pre) P.beBufferPts / P.stopPts :=
    carries.leaves_at_buffer (ordered p (by simp)) trigger reached further
  rw [replayExit_of_leaves ended leaves post] at exit
  cases exit
  rw [r] at most
  exact beyond ((div_le_div_iff_of_pos_right stop).mp most)

omit ordered distance step in
theorem replay_of_exit {e : ReplayExit} (exit : replayExit P d entry path = some e) :
    replay P d entry path =
      .ok (some (e.finish P ((excursion d entry path).getD (0, 0)))) := by
  rw [replay, if_neg (not_le.mpr stop), exit]
  rfl

/-- The end of a replay is that of any path with the same points up to it. -/
theorem replay_later (some_ : path ≠ []) :
    ∃ res pre p post, replay P d entry path = .ok (some res) ∧ path = pre ++ p :: post ∧
      res.exitTs = p.ts ∧ (res.reason = .pathEnd → post = []) ∧
        (res.reason ≠ .pathEnd → ∀ other, ∃ mfe mae,
          replay P d entry (pre ++ p :: other) =
            .ok (some { res with mfePts := mfe, maePts := mae })) := by
  obtain ⟨pre, p, post, v, rfl, ended, ending⟩ := exists_end P d entry some_
  have carries := carries_of_loop stop distance step ended
  rcases ending with ⟨e, leaves⟩ | ⟨rfl, v', through, last⟩
  · have exit := replayExit_of_leaves ended leaves
    obtain ⟨ts, goesOn, -⟩ := carries.leaves (ordered p (by simp)) stop leaves
    refine ⟨_, pre, p, post, replay_of_exit stop (exit post), rfl, ts,
      fun last => absurd last goesOn, fun _ other => ⟨_, _, replay_of_exit stop (exit other)⟩⟩
  · have exit : replayExit P d entry (pre ++ [p]) =
        some (v'.close P (favourable d entry p.mid) p.ts .pathEnd) := by
      rw [replayExit_eq some_, through]
      simp only [List.getLast_concat]
    exact ⟨_, pre, p, [], replay_of_exit stop exit, rfl, rfl, fun _ => rfl,
      fun goesOn => absurd rfl goesOn⟩

end Bounded

end Paths

/-- A replay is bounded by its path exactly where no trade goes on from the breakeven trigger
with more to come at the buffer than the path gives. -/
theorem replay_bounded_iff (P : ExitPolicy) (d : Direction) (entry : ℚ) (path : List PathPoint)
    (some_ : path ≠ []) (ordered : ∀ p ∈ path, p.low ≤ p.high) (stop : 0 < P.stopPts)
    (distance : 0 ≤ P.trailDistancePts) (step : 0 ≤ P.trailStepPts) :
    BoundedByPath P d entry path ↔ BufferWithin P d entry path := by
  constructor
  · rintro ⟨⟨e, exit, -, most⟩, -, -⟩
    exact bufferWithin_of_bound ordered stop distance step exit most
  · intro buffer
    obtain ⟨e, exit, least, most⟩ := replayExit_bounds ordered stop distance step some_
    exact ⟨⟨e, exit, least, most buffer⟩, fun _ => stops_pairwise step,
      replay_later ordered stop distance step some_⟩

/-- A buffer that is no further than the trigger never pays more than the path gives. -/
theorem bufferWithin_of_le {P : ExitPolicy} {d : Direction} {entry : ℚ} {path : List PathPoint}
    (le : P.beBufferPts ≤ P.beTriggerPts) : BufferWithin P d entry path := by
  intro n _ _ _ reached
  have upto : reach d entry (path.take n) ≤ reach d entry path := by
    conv_rhs => rw [← List.take_append_drop n path]
    exact reach_le_append _ _
  exact settled_le upto ((le.trans reached).trans upto)

theorem replay_bounded_small_buffer :
    BoundedByPath { stopPts := 3, beTriggerPts := 3, beBufferPts := 1 / 10 } .buy 3300
      [⟨0, 3300, 3300⟩, ⟨1, 3303, 3303⟩, ⟨2, 3300, 3300⟩] :=
  (replay_bounded_iff { stopPts := 3, beTriggerPts := 3, beBufferPts := 1 / 10 } .buy 3300
    [⟨0, 3300, 3300⟩, ⟨1, 3303, 3303⟩, ⟨2, 3300, 3300⟩] (by simp) (by decide)
    (by decide) (by decide) (by decide)).mpr
    (bufferWithin_of_le (by decide +kernel))

/-- Three points ahead at best, and five are paid. -/
theorem replay_pays_buffer :
    replayExit { stopPts := 3, beTriggerPts := 3, beBufferPts := 5 } .buy 3300
        [⟨0, 3300, 3300⟩, ⟨1, 3303, 3303⟩, ⟨2, 3301, 3301⟩] =
      some ⟨5 / 3, 2, .breakeven, false⟩ ∧
      ¬ BoundedByPath { stopPts := 3, beTriggerPts := 3, beBufferPts := 5 } .buy 3300
        [⟨0, 3300, 3300⟩, ⟨1, 3303, 3303⟩, ⟨2, 3301, 3301⟩] := by
  have paid : replayExit { stopPts := 3, beTriggerPts := 3, beBufferPts := 5 } .buy 3300
      [⟨0, 3300, 3300⟩, ⟨1, 3303, 3303⟩, ⟨2, 3301, 3301⟩] =
        some ⟨5 / 3, 2, .breakeven, false⟩ := by decide +kernel
  refine ⟨paid, ?_⟩
  rintro ⟨⟨e, exit, -, most⟩, -, -⟩
  rw [paid] at exit
  cases exit
  exact absurd most (by decide +kernel)

end Forex
