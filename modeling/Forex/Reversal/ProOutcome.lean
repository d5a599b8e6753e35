import Forex.Backtest.TemplateLadder
import Forex.Support.Run
import Mathlib.Data.List.Sort

/-!
The outcome of a captured professional call, judged on M1 candles. A pass reads
the candles from its cursor on; the row keeps the cursor and, with a verdict,
the fill. What passes store is compared with one scan of all the candles.
-/

namespace Forex
namespace Reversal
open Support Backtest

structure Candle where
  ts : ℚ
  high : ℚ
  low : ℚ
  close : ℚ
deriving DecidableEq, Repr

/-- The order that a pass sorts its candles in. -/
def Candle.notAfter (c c' : Candle) : Prop := c.ts ≤ c'.ts

instance : DecidableRel Candle.notAfter := fun c c' => inferInstanceAs (Decidable (c.ts ≤ c'.ts))

/-- `not (high and low)`. -/
def Candle.blank (c : Candle) : Bool := decide (c.high = 0) || decide (c.low = 0)

inductive ProResult where
  | win
  | loss
  | noFill
  | timeout
  | invalid
deriving DecidableEq, Repr

structure Verdict where
  outcome : ProResult
  r : Option ℚ
  fill : Option ℚ
deriving DecidableEq, Repr

/-- The columns of a snapshot that state the call; a missing time is 0. -/
structure ProCall where
  direction : Direction
  signalTs : ℚ
  entryLow : ℚ
  entryHigh : ℚ
  stopLoss : ℚ
  tp1 : ℚ

structure ProRow where
  call : ProCall
  resolveCursorTs : Option ℚ
  entryFillPrice : Option ℚ
  outcome : Option ProResult
  outcomeR : Option ℚ

def fillWindowS : ℚ := 4 * 3600

def maxHoldS : ℚ := 12 * 3600

/-- Where the loop over the candles stands. -/
inductive Scan where
  | looking (fill : Option ℚ)
  | decided (v : Verdict)
deriving DecidableEq, Repr

def Scan.verdict : Scan → Option Verdict
  | .looking _ => none
  | .decided v => some v

def Scan.fill : Scan → Option ℚ
  | .looking fill => fill
  | .decided _ => none

namespace ProCall
variable (call : ProCall)

/-- The edge of the zone that a touch fills at. -/
def edge : ℚ :=
  match call.direction with
  | .buy => call.entryHigh
  | .sell => call.entryLow

def touches (c : Candle) : Bool :=
  decide (c.low ≤ call.entryHigh) && decide (call.entryLow ≤ c.high)

def pastWindow (window : ℚ) (c : Candle) : Bool :=
  decide (call.signalTs ≠ 0) && decide (window < c.ts - call.signalTs)

def hitSl (c : Candle) : Bool :=
  match call.direction with
  | .buy => decide (c.low ≤ call.stopLoss)
  | .sell => decide (call.stopLoss ≤ c.high)

def hitTp1 (c : Candle) : Bool :=
  match call.direction with
  | .buy => decide (call.tp1 ≤ c.high)
  | .sell => decide (c.low ≤ call.tp1)

/-- The part of the loop body that needs a fill. -/
def judge (fill : ℚ) (c : Candle) : Scan :=
  let riskF := |fill - call.stopLoss|
  if riskF ≤ 0 then .decided ⟨.invalid, none, some fill⟩
  else if call.hitSl c then .decided ⟨.loss, some (-1), some fill⟩
  else if call.hitTp1 c then
    .decided ⟨.win, some (roundTo 4 (|call.tp1 - fill| / riskF)), some fill⟩
  else if call.pastWindow maxHoldS c then
    let r := (orElseOf c.close fill - fill) * call.direction.sign / riskF
    .decided ⟨.timeout, some (roundTo 4 r), some fill⟩
  else .looking (some fill)

def resolveCandle (fill : Option ℚ) (c : Candle) : Scan :=
  if c.blank then .looking fill
  else
    match fill with
    | some f => call.judge f c
    | none =>
        if call.touches c then call.judge call.edge c
        else if call.pastWindow fillWindowS c then .decided ⟨.noFill, none, none⟩
        else .looking none

def next (s : Scan) (c : Candle) : Scan :=
  match s with
  | .looking fill => call.resolveCandle fill c
  | .decided v => .decided v

/-- Before the loop: without risk between zone and stop the call is invalid. -/
def begin (fill : Option ℚ) : Scan :=
  if |(call.entryLow + call.entryHigh) / 2 - call.stopLoss| ≤ 0 then
    .decided ⟨.invalid, none, none⟩
  else .looking fill

end ProCall

/-- `_resolve_row`. -/
def resolveRow (row : ProRow) (candles : List Candle) : Option Verdict :=
  (candles.foldl row.call.next (row.call.begin row.entryFillPrice)).verdict

/-- `set_cursor`. -/
def ProRow.setCursor (row : ProRow) (cursorTs : ℚ) (entryFillPrice : Option ℚ) : ProRow :=
  { row with
    resolveCursorTs := some cursorTs
    entryFillPrice := entryFillPrice.or row.entryFillPrice }

/-- `set_outcome`. -/
def ProRow.setOutcome (row : ProRow) (outcome : ProResult) (outcomeR : Option ℚ) : ProRow :=
  { row with outcome := some outcome, outcomeR }

/-- One pass of `resolve_pending` over one row; `unresolved` leaves out a row
with an outcome. -/
def resolvePass (row : ProRow) (endTs : ℚ) (candles : List Candle) : ProRow :=
  if row.outcome.isSome then row
  else if orElseOf (row.resolveCursorTs.getD 0) row.call.signalTs = 0 then row
  else
    let candles := candles.insertionSort Candle.notAfter
    match candles.getLast? with
    | none => row
    | some last =>
        let cursor := orElseOf last.ts endTs
        match resolveRow row candles with
        | none => row.setCursor cursor row.entryFillPrice
        | some v => (row.setCursor cursor v.fill).setOutcome v.outcome v.r

/-- What a delivery is made of: candles in order, and the ends of the passes
between them, each with the end of its range. -/
inductive Delivered where
  | candle (c : Candle)
  | passEnds (endTs : ℚ)

/-- The candles of each pass: from the second on, they begin with the last one
that was read before. -/
def chunksFrom (endTs : ℚ) (read : List Candle) : List Delivered → List (ℚ × List Candle)
  | [] => [(endTs, read)]
  | .candle c :: ds => chunksFrom endTs (read ++ [c]) ds
  | .passEnds passEnd :: ds => (passEnd, read) :: chunksFrom endTs read.getLast?.toList ds

def resolvePasses (row : ProRow) (chunks : List (ℚ × List Candle)) : ProRow :=
  chunks.foldl (fun row p => resolvePass row p.1 p.2) row

def delivered : List Delivered → List Candle
  | [] => []
  | .candle c :: ds => c :: delivered ds
  | .passEnds _ :: ds => delivered ds

abbrev StoredOutcome := Option ProResult × Option ℚ × Option ℚ

/-- The verdict, the R and the fill that a row stores. -/
def ProRow.stored (row : ProRow) : StoredOutcome :=
  (row.outcome, row.outcomeR, row.entryFillPrice)

def storedOf : Option Verdict → StoredOutcome
  | none => (none, none, none)
  | some v => (some v.outcome, v.r, v.fill)

/-- A captured call that no pass has read yet. -/
structure ProRow.Captured (row : ProRow) : Prop where
  dated : row.call.signalTs ≠ 0
  unfilled : row.entryFillPrice = none
  open' : row.outcome = none ∧ row.outcomeR = none

/-- One scan of all the candles beside the scan of the pass that is under way. -/
structure Scans where
  one : Scan
  pass : Scan
  last : Candle

namespace Scans
variable (call : ProCall)

def start (c : Candle) : Scans :=
  ⟨call.next (call.begin none) c, call.next (call.begin none) c, c⟩

def step (s : Scans) : Delivered → Scans
  | .candle c => ⟨call.next s.one c, call.next s.pass c, c⟩
  | .passEnds _ =>
      match s.pass with
      | .decided _ => s
      | .looking _ => { s with pass := call.next (call.begin none) s.last }

/-- With a fill that the pass under way does not have: a candle that is read
touches the zone, or neither decides the call nor is past the fill window. -/
def Finds (c : Candle) (decides : Bool) : Prop :=
  c.blank = true ∨ call.touches c = true ∨
    (decides = false ∧ call.pastWindow fillWindowS c = false)

instance (c : Candle) (decides : Bool) : Decidable (Finds call c decides) :=
  inferInstanceAs (Decidable (_ ∨ _ ∨ _))

/-- The fill that a pass ends with is found again before it is needed. -/
def Refinds (s : Scans) : Delivered → Prop
  | .candle c =>
      ∀ fill ∈ s.one.fill, s.pass = .looking none →
        Finds call c (call.judge fill c).verdict.isSome
  | .passEnds _ => s.one.fill.isSome = true → Finds call s.last false

instance (s : Scans) : ∀ d : Delivered, Decidable (s.Refinds call d)
  | .candle c => inferInstanceAs (Decidable (∀ fill ∈ s.one.fill, s.pass = .looking none →
      Finds call c (call.judge fill c).verdict.isSome))
  | .passEnds _ =>
      inferInstanceAs (Decidable (s.one.fill.isSome = true → Finds call s.last false))

/-- Both scans have decided alike, or the pass is at most a fill behind. -/
inductive Abreast (s : Scans) : Prop where
  | decided (v : Verdict) (one : s.one = .decided v) (pass : s.pass = .decided v)
  | unfilled (one : s.one = .looking none) (pass : s.pass = .looking none)
      (quiet : call.resolveCandle none s.last = .looking none)
      (risk : call.begin none = .looking none)
  | filled (one : s.one = .looking (some call.edge))
      (pass : s.pass = .looking (some call.edge) ∨ s.pass = .looking none)
      (quiet : call.resolveCandle (some call.edge) s.last = .looking (some call.edge))
      (risk : call.begin none = .looking none)

section Steps
variable {call}

theorem judge_cases (call : ProCall) (fill : ℚ) (c : Candle) :
    call.judge fill c = .looking (some fill) ∨
      ∃ v, call.judge fill c = .decided v ∧ v.fill = some fill := by
  simp only [ProCall.judge]
  split_ifs
  · exact .inr ⟨_, rfl, rfl⟩
  · exact .inr ⟨_, rfl, rfl⟩
  · exact .inr ⟨_, rfl, rfl⟩
  · exact .inr ⟨_, rfl, rfl⟩
  · exact .inl rfl

/-- What a candle makes of a scan without a fill. -/
theorem resolveCandle_none (call : ProCall) (c : Candle) :
    call.resolveCandle none c =
      if c.blank then .looking none
      else if call.touches c then call.judge call.edge c
      else if call.pastWindow fillWindowS c then .decided ⟨.noFill, none, none⟩
      else .looking none := rfl

theorem resolveCandle_some (call : ProCall) (fill : ℚ) (c : Candle) :
    call.resolveCandle (some fill) c =
      if c.blank then .looking (some fill) else call.judge fill c := rfl

theorem Finds.pass_of_found {c : Candle} (finds : Finds call c false)
    (quiet : call.resolveCandle (some call.edge) c = .looking (some call.edge)) :
    call.resolveCandle none c = .looking (some call.edge) ∨
      call.resolveCandle none c = .looking none := by
  rw [resolveCandle_some] at quiet
  rw [resolveCandle_none]
  split_ifs at quiet ⊢ with blank touches past
  · exact .inr rfl
  · exact .inl quiet
  · rcases finds with blank' | touches' | ⟨_, early⟩
    · exact absurd blank' blank
    · exact absurd touches' touches
    · exact absurd past (by simp [early])
  · exact .inr rfl

/-- A candle that finds the fill again: the pass catches up, or nothing happens. -/
theorem Finds.catches_up {c : Candle}
    (finds : Finds call c (call.judge call.edge c).verdict.isSome) :
    call.resolveCandle none c = call.resolveCandle (some call.edge) c ∨
      call.resolveCandle none c = .looking none ∧
        call.resolveCandle (some call.edge) c = .looking (some call.edge) := by
  rw [resolveCandle_none, resolveCandle_some]
  split_ifs with blank touches past
  · exact .inr ⟨rfl, rfl⟩
  · exact .inl rfl
  all_goals rcases finds with blank' | touches' | ⟨idle, early⟩
  · exact absurd blank' blank
  · exact absurd touches' touches
  · exact absurd past (by simp [early])
  · exact absurd blank' blank
  · exact absurd touches' touches
  · rcases judge_cases call call.edge c with open' | ⟨v, decided, _⟩
    · exact .inr ⟨rfl, open'⟩
    · rw [decided] at idle
      cases idle

/-- A candle that does not: the verdicts part. -/
theorem verdict_ne_of_not_finds {c : Candle}
    (misses : ¬ Finds call c (call.judge call.edge c).verdict.isSome) :
    (call.resolveCandle (some call.edge) c).verdict ≠ (call.resolveCandle none c).verdict := by
  rw [resolveCandle_none, resolveCandle_some]
  split_ifs with blank touches past
  · exact absurd (.inl blank) misses
  · exact absurd (.inr (.inl touches)) misses
  · rcases judge_cases call call.edge c with open' | ⟨v, decided, fill⟩
    · rw [open']
      exact fun same => by cases same
    · rw [decided]
      intro same
      rw [Option.some.inj same] at fill
      cases fill
  · rcases judge_cases call call.edge c with open' | ⟨v, decided, fill⟩
    · have idle := congrArg (fun s => s.verdict.isSome) open'
      exact absurd (.inr (.inr ⟨idle, by simpa using past⟩)) misses
    · rw [decided]
      exact fun same => by cases same

/-- A scan with the fill of the edge keeps it, or decides. -/
theorem edge_cases (call : ProCall) (c : Candle) :
    call.resolveCandle (some call.edge) c = .looking (some call.edge) ∨
      ∃ v, call.resolveCandle (some call.edge) c = .decided v := by
  rw [resolveCandle_some]
  split_ifs
  · exact .inl rfl
  · exact (judge_cases call _ c).imp_right fun ⟨v, decided, _⟩ => ⟨v, decided⟩

theorem Abreast.of_edge {one pass : Scan} {c : Candle} (risk : call.begin none = .looking none)
    (one_eq : one = call.resolveCandle (some call.edge) c) (pass_eq : pass = one) :
    Abreast call ⟨one, pass, c⟩ := by
  rcases edge_cases call c with quiet | ⟨v, decided⟩
  · exact .filled (one_eq.trans quiet) (.inl (pass_eq.trans (one_eq.trans quiet))) quiet risk
  · exact .decided v (one_eq.trans decided) (pass_eq.trans (one_eq.trans decided))

/-- A candle that a scan without a fill reads. -/
theorem Abreast.of_none {c : Candle} (risk : call.begin none = .looking none) :
    Abreast call ⟨call.resolveCandle none c, call.resolveCandle none c, c⟩ := by
  have reads := resolveCandle_none call c
  split_ifs at reads with blank touches past
  · exact .unfilled reads reads reads risk
  · have touched : call.resolveCandle none c = call.resolveCandle (some call.edge) c := by
      rw [reads, resolveCandle_some, if_neg blank]
    exact .of_edge risk touched rfl
  · exact .decided _ reads reads
  · exact .unfilled reads reads reads risk

theorem abreast_start (c : Candle) : Abreast call (start call c) := by
  rw [start]
  by_cases risk : |(call.entryLow + call.entryHigh) / 2 - call.stopLoss| ≤ 0
  · have invalid : call.begin none = .decided ⟨.invalid, none, none⟩ := if_pos risk
    rw [invalid]
    exact .decided _ rfl rfl
  · have open' : call.begin none = .looking none := if_neg risk
    rw [open']
    exact .of_none open'

theorem Abreast.same {s : Scans} (abreast : Abreast call s) : s.one.verdict = s.pass.verdict := by
  cases abreast with
  | decided v one pass => rw [one, pass]
  | unfilled one pass quiet risk => rw [one, pass]
  | filled one pass quiet risk =>
      rcases pass with pass | pass <;> simp only [one, pass, Scan.verdict]

theorem Abreast.step {s : Scans} {d : Delivered} (abreast : Abreast call s)
    (ok : s.Refinds call d) : Abreast call (s.step call d) := by
  cases abreast with
  | decided v one pass =>
      cases d with
      | candle c =>
          rw [Scans.step, one, pass]
          exact .decided v rfl rfl
      | passEnds endTs =>
          rw [Scans.step, pass]
          exact .decided v one pass
  | unfilled one pass quiet risk =>
      cases d with
      | candle c =>
          rw [Scans.step, one, pass]
          exact .of_none risk
      | passEnds endTs =>
          simp only [Scans.step, pass, risk, ProCall.next]
          exact .unfilled one quiet quiet risk
  | filled one pass quiet risk =>
      cases d with
      | candle c =>
          rw [Scans.step, one]
          rcases pass with pass | pass
          · rw [pass]
            exact .of_edge risk rfl rfl
          · rw [pass]
            have finds : Finds call c _ := ok call.edge (by rw [one]; rfl) pass
            rcases finds.catches_up with caught | ⟨idle, kept⟩
            · exact .of_edge risk rfl caught
            · exact .filled kept (.inr idle) kept risk
      | passEnds endTs =>
          have finds := ok (by rw [one]; rfl)
          have again := finds.pass_of_found quiet
          rcases pass with pass | pass
          · simp only [Scans.step, pass, risk, ProCall.next]
            exact .filled one again quiet risk
          · simp only [Scans.step, pass, risk, ProCall.next]
            exact .filled one again quiet risk

theorem Abreast.refinds {s : Scans} {d : Delivered} (abreast : Abreast call s)
    (same : (s.step call d).one.verdict = (s.step call d).pass.verdict) : s.Refinds call d := by
  cases abreast with
  | decided v one pass =>
      cases d with
      | candle c => exact fun fill found _ => by rw [one] at found; cases found
      | passEnds endTs => exact fun found => by rw [one] at found; cases found
  | unfilled one pass quiet risk =>
      cases d with
      | candle c => exact fun fill found _ => by rw [one] at found; cases found
      | passEnds endTs => exact fun found => by rw [one] at found; cases found
  | filled one pass quiet risk =>
      cases d with
      | candle c =>
          intro fill found behind
          rw [one] at found
          obtain rfl : call.edge = fill := Option.some.inj found
          by_contra misses
          rw [Scans.step, one, behind] at same
          exact verdict_ne_of_not_finds misses same
      | passEnds endTs =>
          intro _
          have settled : (call.resolveCandle none s.last).verdict = none := by
            rcases pass with pass | pass
            all_goals
              simp only [Scans.step, pass, risk, ProCall.next, one] at same
              exact same.symm
          rw [resolveCandle_none] at settled
          split_ifs at settled with blank touches past
          · exact .inl blank
          · exact .inr (.inl touches)
          · cases settled
          · exact .inr (.inr ⟨rfl, by simpa using past⟩)

end Steps

theorem foldl_passDecided {s : Scans} {v : Verdict} (decided : s.pass = .decided v)
    (ds : List Delivered) : (ds.foldl (Scans.step call) s).pass = .decided v := by
  induction ds generalizing s with
  | nil => exact decided
  | cons d ds ih =>
      refine ih ?_
      cases d with
      | candle c => rw [Scans.step, decided]; rfl
      | passEnds endTs => rw [Scans.step, decided]; exact decided

/-- The one scan is the scan of the candles delivered. -/
theorem foldl_one (s : Scans) (ds : List Delivered) :
    (ds.foldl (Scans.step call) s).one = (delivered ds).foldl call.next s.one := by
  induction ds generalizing s with
  | nil => rfl
  | cons d ds ih =>
      rw [List.foldl_cons, ih]
      cases d with
      | candle c => rfl
      | passEnds endTs =>
          rw [delivered, Scans.step]
          cases s.pass with
          | looking fill => rfl
          | decided v => rfl

end Scans

section Passes
variable {row : ProRow}

theorem resolvePass_of_outcome {endTs : ℚ} {candles : List Candle}
    (has : row.outcome.isSome = true) : resolvePass row endTs candles = row := by
  rw [resolvePass, if_pos has]

theorem resolvePasses_of_outcome {chunks : List (ℚ × List Candle)}
    (has : row.outcome.isSome = true) : resolvePasses row chunks = row := by
  induction chunks with
  | nil => rfl
  | cons p chunks ih =>
      rw [resolvePasses, List.foldl_cons, resolvePass_of_outcome has, ← resolvePasses, ih]

theorem ProRow.Captured.start_ne_zero (captured : row.Captured) :
    orElseOf (row.resolveCursorTs.getD 0) row.call.signalTs ≠ 0 := by
  rw [orElseOf]
  split_ifs with zero
  · exact captured.dated
  · exact zero

/-- A pass over a call that is still open: what it stores, by its scan. -/
theorem resolvePass_of_captured (captured : row.Captured) (endTs : ℚ) {read : List Candle}
    (some_read : read ≠ []) (ascending : read.Pairwise Candle.notAfter) :
    match read.foldl row.call.next (row.call.begin none) with
    | .looking _ =>
        (resolvePass row endTs read).Captured ∧ (resolvePass row endTs read).call = row.call ∧
          (resolvePass row endTs read).stored = storedOf none
    | .decided v =>
        (resolvePass row endTs read).outcome = some v.outcome ∧
          (resolvePass row endTs read).stored = storedOf (some v) := by
  obtain ⟨last, ends⟩ := Option.isSome_iff_exists.mp
    (List.getLast?_isSome.mpr some_read)
  have pass : resolvePass row endTs read =
      match resolveRow row read with
      | none => row.setCursor (orElseOf last.ts endTs) row.entryFillPrice
      | some v =>
          (row.setCursor (orElseOf last.ts endTs) v.fill).setOutcome v.outcome v.r := by
    have pending : ¬ row.outcome.isSome = true := by
      rw [captured.open'.1]
      exact Bool.false_ne_true
    rw [resolvePass, if_neg pending, if_neg captured.start_ne_zero, ascending.insertionSort_eq]
    dsimp only
    rw [ends]
  rw [pass, resolveRow, captured.unfilled]
  cases read.foldl row.call.next (row.call.begin none) with
  | looking fill =>
      refine ⟨⟨captured.dated, captured.unfilled, captured.open'⟩, rfl, ?_⟩
      simp only [ProRow.stored, ProRow.setCursor, captured.open'.1, captured.open'.2,
        captured.unfilled, Scan.verdict, Option.or_none, storedOf]
  | decided v =>
      refine ⟨rfl, ?_⟩
      simp only [ProRow.stored, ProRow.setOutcome, ProRow.setCursor, captured.unfilled,
        Scan.verdict, Option.or_none, storedOf]

theorem pairwise_last_append {read onward : List Candle} {last : Candle}
    (ends : read.getLast? = some last) (ascending : (read ++ onward).Pairwise Candle.notAfter) :
    ([last] ++ onward).Pairwise Candle.notAfter := by
  have suffix : [last] <:+ read := List.singleton_suffix_iff_getLast?_eq_some.mpr ends
  obtain ⟨before, rfl⟩ := suffix
  rw [List.append_assoc] at ascending
  exact (List.pairwise_append.mp ascending).2.1

/-- What the passes of a delivery store, by the scan of the last one. -/
theorem stored_resolvePasses (endTs : ℚ) {read : List Candle} {last : Candle}
    (ends : read.getLast? = some last) (captured : row.Captured) (one : Scan)
    (ds : List Delivered) (ascending : (read ++ delivered ds).Pairwise Candle.notAfter) :
    (resolvePasses row (chunksFrom endTs read ds)).stored =
      storedOf (ds.foldl (Scans.step row.call)
        ⟨one, read.foldl row.call.next (row.call.begin none), last⟩).pass.verdict := by
  induction ds generalizing row read last one with
  | nil =>
      have nonempty : read ≠ [] := by
        rintro rfl
        cases ends
      rw [delivered, List.append_nil] at ascending
      have pass := resolvePass_of_captured captured endTs nonempty ascending
      rw [chunksFrom, resolvePasses, List.foldl_cons, List.foldl_nil, List.foldl_nil]
      cases scan : read.foldl row.call.next (row.call.begin none) with
      | looking fill =>
          rw [scan] at pass
          exact pass.2.2
      | decided v =>
          rw [scan] at pass
          exact pass.2
  | cons d ds ih =>
      cases d with
      | candle c =>
          rw [delivered, List.append_cons] at ascending
          rw [chunksFrom, List.foldl_cons,
            ih (List.getLast?_concat) captured (row.call.next one c) ascending, List.foldl_append]
          rfl
      | passEnds passEnd =>
          have nonempty : read ≠ [] := by
            rintro rfl
            cases ends
          rw [delivered] at ascending
          have pass := resolvePass_of_captured captured passEnd nonempty
            (List.pairwise_append.mp ascending).1
          rw [chunksFrom, resolvePasses, List.foldl_cons, ← resolvePasses, List.foldl_cons, ends]
          cases scan : read.foldl row.call.next (row.call.begin none) with
          | looking fill =>
              rw [scan] at pass
              obtain ⟨captured', call, _⟩ := pass
              have onward : ([last] ++ delivered ds).Pairwise Candle.notAfter :=
                pairwise_last_append ends ascending
              have rest := @ih (resolvePass row passEnd read) [last] last rfl captured' one onward
              rw [call] at rest
              rw [Option.toList_some, rest]
              rfl
          | decided v =>
              rw [scan] at pass
              have has : (resolvePass row passEnd read).outcome.isSome = true := by rw [pass.1]; rfl
              have kept := @Scans.foldl_passDecided row.call ⟨one, .decided v, last⟩ v rfl ds
              rw [resolvePasses_of_outcome has, pass.2]
              exact congrArg (fun scan => storedOf scan.verdict) kept.symm

end Passes

theorem storedOf_inj {v v' : Option Verdict} : storedOf v = storedOf v' ↔ v = v' := by
  constructor
  · intro same
    cases v with
    | none =>
        cases v' with
        | none => rfl
        | some _ => cases same
    | some v =>
        cases v' with
        | none => cases same
        | some v' =>
            cases v
            cases v'
            simpa [storedOf] using same
  · rintro rfl
    rfl

theorem delivered_of_initial {ds ds' : List Delivered} (short : ds' <+: ds) :
    delivered ds' <+: delivered ds := by
  obtain ⟨rest, rfl⟩ := short
  induction ds' with
  | nil => exact List.nil_prefix
  | cons d ds' ih =>
      cases d with
      | candle c => exact List.cons_prefix_cons.mpr ⟨rfl, ih⟩
      | passEnds endTs => exact ih

theorem stored_eq_one_pass_iff (row : ProRow) (captured : row.Captured) (c : Candle)
    (ds : List Delivered) (ascending : (delivered (.candle c :: ds)).Pairwise Candle.notAfter) :
    (∀ ds', ds' <+: ds → ∀ endTs,
        (resolvePasses row (chunksFrom endTs [] (.candle c :: ds'))).stored =
          storedOf (resolveRow row (delivered (.candle c :: ds')))) ↔
      Meets (Scans.step row.call) (Scans.Refinds row.call) (Scans.start row.call c) ds := by
  rw [← states_iff (P := fun s => s.one.verdict = s.pass.verdict)
    (fun s => Scans.Abreast.same) (fun s d abreast ok => abreast.step ok)
    (fun s d abreast same => abreast.refinds same) ds (Scans.abreast_start c)]
  have meaning : ∀ ds', ds' <+: ds → ∀ endTs,
      (resolvePasses row (chunksFrom endTs [] (.candle c :: ds'))).stored =
          storedOf (resolveRow row (delivered (.candle c :: ds'))) ↔
        (ds'.foldl (Scans.step row.call) (Scans.start row.call c)).one.verdict =
          (ds'.foldl (Scans.step row.call) (Scans.start row.call c)).pass.verdict := by
    intro ds' short endTs
    have sorted : ([c] ++ delivered ds').Pairwise Candle.notAfter :=
      ascending.sublist ((delivered_of_initial short).sublist.cons_cons c)
    have passes := @stored_resolvePasses row endTs [c] c rfl captured
      (row.call.next (row.call.begin none) c) ds' sorted
    have whole := @Scans.foldl_one row.call (Scans.start row.call c) ds'
    rw [chunksFrom, List.nil_append, passes, storedOf_inj, resolveRow, captured.unfilled, delivered,
      List.foldl_cons, whole]
    exact eq_comm
  constructor
  · intro all s mem
    obtain ⟨ds', short, rfl⟩ := mem_states_iff.mp mem
    exact (meaning ds' short 0).mp (all ds' short 0)
  · intro all ds' short endTs
    exact (meaning ds' short endTs).mpr (all _ (mem_states_iff.mpr ⟨ds', short, rfl⟩))

/-- A buy whose stop is below a zone of two dollars. -/
def proCall : ProCall := ⟨.buy, 100000, 4100, 4102, 4090, 4120⟩

def proRow : ProRow := ⟨proCall, none, none, none, none⟩

/-- The zone is touched by the candle that the first pass ends with, which the
second pass reads again before the price goes on to the target. -/
def leavesTheZone : List Delivered :=
  [.passEnds 121600, .candle ⟨100120, 4121, 4110, 4120⟩]

theorem proRow_captured : proRow.Captured := ⟨by decide +kernel, rfl, rfl, rfl⟩

theorem stored_ne_one_pass :
    ¬ ∀ (row : ProRow) (c : Candle) (ds : List Delivered) (endTs : ℚ), row.Captured →
      (delivered (.candle c :: ds)).Pairwise Candle.notAfter →
      (resolvePasses row (chunksFrom endTs [] (.candle c :: ds))).stored =
        storedOf (resolveRow row (delivered (.candle c :: ds))) := by
  intro all
  have same := all proRow ⟨100060, 4104, 4101, 4103⟩
    [.candle ⟨100120, 4108, 4104, 4107⟩, .passEnds 121600, .candle ⟨100180, 4121, 4110, 4120⟩]
    121780 proRow_captured (by decide +kernel)
  exact absurd same (by decide +kernel)

theorem stored_eq_one_pass_refound :
    (∀ ds', ds' <+: leavesTheZone → ∀ endTs,
        (resolvePasses proRow
          (chunksFrom endTs [] (.candle ⟨100060, 4104, 4101, 4103⟩ :: ds'))).stored =
          storedOf (resolveRow proRow
            (delivered (.candle ⟨100060, 4104, 4101, 4103⟩ :: ds')))) ↔
      Meets (Scans.step proRow.call) (Scans.Refinds proRow.call)
        (Scans.start proRow.call ⟨100060, 4104, 4101, 4103⟩) leavesTheZone :=
  stored_eq_one_pass_iff proRow proRow_captured _ leavesTheZone (by decide +kernel)

end Reversal
end Forex
