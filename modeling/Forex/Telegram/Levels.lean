import Forex.Broker.Terminal
import Forex.Support.Decimal
import Mathlib.Data.List.ReduceOption
import Mathlib.Tactic.Linarith
import Mathlib.Tactic.Ring

/-!
The levels of a parsed signal: `validate_signal`, the Mirror Copy reversal, and
the overrides that replace the stated targets and the stated stop. In exact
arithmetic the reversal is an involution that keeps validity; the code rounds
its results to five decimals, which changes nothing for levels on that grid.
-/

namespace Forex
open Support

def Direction.opposite : Direction → Direction
  | .buy => .sell
  | .sell => .buy

@[simp] theorem Direction.opposite_opposite (d : Direction) : d.opposite.opposite = d := by
  cases d <;> rfl

theorem Direction.opposite_ne (d : Direction) : d.opposite ≠ d := by
  cases d <;> simp [Direction.opposite]

def Direction.text : Direction → String
  | .buy => "BUY"
  | .sell => "SELL"

/-- What a parser returns; `tpOpen` is there on the limit-order layout only. -/
structure Parsed where
  direction : Direction
  entryLow : ℚ
  entryHigh : ℚ
  stopLoss : Option ℚ
  /-- `tp1` to `tp8`, in order. -/
  tps : List (Option ℚ)
  tpOpen : Option Bool
deriving DecidableEq, Repr

/-- The level lies beyond the entry range on the losing side. -/
def Direction.behind (d : Direction) (low high level : ℚ) : Prop :=
  match d with
  | .buy => level < low
  | .sell => high < level

/-- The level lies beyond the entry range on the winning side. -/
def Direction.beyond (d : Direction) (low high level : ℚ) : Prop :=
  match d with
  | .buy => high < level
  | .sell => level < low

/-- The second level is further along than the first. -/
def Direction.precedes (d : Direction) (first second : ℚ) : Prop :=
  match d with
  | .buy => first < second
  | .sell => second < first

instance decidableBehind (low high level : ℚ) : ∀ d : Direction, Decidable (d.behind low high level)
  | .buy => inferInstanceAs (Decidable (level < low))
  | .sell => inferInstanceAs (Decidable (high < level))

instance decidableBeyond (low high level : ℚ) : ∀ d : Direction, Decidable (d.beyond low high level)
  | .buy => inferInstanceAs (Decidable (high < level))
  | .sell => inferInstanceAs (Decidable (level < low))

instance decidablePrecedes (first second : ℚ) : ∀ d : Direction, Decidable (d.precedes first second)
  | .buy => inferInstanceAs (Decidable (first < second))
  | .sell => inferInstanceAs (Decidable (second < first))

def stopText : Direction → String
  | .buy => "Stop Loss must be below entry range for BUY"
  | .sell => "Stop Loss must be above entry range for SELL"

def targetText (d : Direction) (i : ℕ) : String :=
  match d with
  | .buy => "TP" ++ toString i ++ " must be above entry range for BUY"
  | .sell => "TP" ++ toString i ++ " must be below entry range for SELL"

def orderText (d : Direction) (i : ℕ) : String :=
  match d with
  | .buy => "TP" ++ toString i ++ " must be less than TP" ++ toString (i + 1) ++ " for BUY"
  | .sell => "TP" ++ toString i ++ " must be greater than TP" ++ toString (i + 1) ++ " for SELL"

namespace Parsed
variable (p : Parsed)

def stopErrors : List String :=
  match p.stopLoss with
  | none => ["Stop Loss is required"]
  | some stop =>
      if p.direction.behind p.entryLow p.entryHigh stop then [] else [stopText p.direction]

def targetErrors : List String :=
  (p.tps.take 8).zipIdx.filterMap fun (target, i) =>
    match target with
    | none => none
    | some tp =>
        if p.direction.beyond p.entryLow p.entryHigh tp then none
        else some (targetText p.direction (i + 1))

/-- The targets that are given, each with the next one given. -/
def consecutiveTargets : List (ℚ × ℚ) :=
  (p.tps.take 8).reduceOption.zip (p.tps.take 8).reduceOption.tail

def orderErrors : List String :=
  p.consecutiveTargets.zipIdx.filterMap fun (pair, i) =>
    if p.direction.precedes pair.1 pair.2 then none else some (orderText p.direction (i + 1))

/-- What an empty list of errors says. -/
structure Valid : Prop where
  range : p.entryLow ≤ p.entryHigh
  stop : ∃ stop, p.stopLoss = some stop ∧ p.direction.behind p.entryLow p.entryHigh stop
  targets : ∀ tp, some tp ∈ p.tps.take 8 → p.direction.beyond p.entryLow p.entryHigh tp
  ordered : ∀ pair ∈ p.consecutiveTargets, p.direction.precedes pair.1 pair.2

end Parsed

/-- `validate_signal`: the errors in order; none means valid. -/
def validateSignal (p : Parsed) : List String :=
  (if p.entryHigh < p.entryLow then ["entry_low must be <= entry_high"] else []) ++
    p.stopErrors ++ p.targetErrors ++ p.orderErrors

theorem filterMap_zipIdx_eq_nil {α : Type} {l : List α} {f : α × ℕ → Option String}
    {ok : α → Prop} (silent : ∀ a i, f (a, i) = none ↔ ok a) :
    l.zipIdx.filterMap f = [] ↔ ∀ a ∈ l, ok a := by
  rw [List.filterMap_eq_nil_iff]
  constructor
  · intro h a mem
    obtain ⟨i, found⟩ := List.mem_iff_getElem?.mp mem
    exact (silent a i).mp (h (a, i) (List.mk_mem_zipIdx_iff_getElem?.mpr found))
  · rintro h ⟨a, i⟩ mem
    exact (silent a i).mpr (h a (List.fst_mem_of_mem_zipIdx mem))

namespace Parsed
variable {p : Parsed}

theorem stopErrors_eq_nil_iff :
    p.stopErrors = [] ↔
      ∃ stop, p.stopLoss = some stop ∧ p.direction.behind p.entryLow p.entryHigh stop := by
  rw [stopErrors]
  cases p.stopLoss with
  | none => simp
  | some stop => simp

theorem targetErrors_eq_nil_iff :
    p.targetErrors = [] ↔
      ∀ tp, some tp ∈ p.tps.take 8 → p.direction.beyond p.entryLow p.entryHigh tp := by
  have silent : ∀ (target : Option ℚ) (i : ℕ),
      (match target with
        | none => none
        | some tp =>
            if p.direction.beyond p.entryLow p.entryHigh tp then none
            else some (targetText p.direction (i + 1))) = none ↔
        ∀ tp, target = some tp → p.direction.beyond p.entryLow p.entryHigh tp := by
    rintro (_ | tp) i
    · simp
    · simp
  rw [targetErrors, filterMap_zipIdx_eq_nil silent]
  constructor
  · exact fun h tp mem => h (some tp) mem tp rfl
  · rintro h target mem tp rfl
    exact h tp mem

theorem orderErrors_eq_nil_iff :
    p.orderErrors = [] ↔
      ∀ pair ∈ p.consecutiveTargets, p.direction.precedes pair.1 pair.2 := by
  rw [orderErrors]
  exact filterMap_zipIdx_eq_nil fun pair i => by simp

theorem validateSignal_eq_nil_iff : validateSignal p = [] ↔ p.Valid := by
  have range : (if p.entryHigh < p.entryLow then ["entry_low must be <= entry_high"] else []) =
      [] ↔ p.entryLow ≤ p.entryHigh := by simp
  rw [validateSignal, List.append_eq_nil_iff, List.append_eq_nil_iff, List.append_eq_nil_iff,
    range, stopErrors_eq_nil_iff, targetErrors_eq_nil_iff, orderErrors_eq_nil_iff]
  constructor
  · rintro ⟨⟨⟨range, stop⟩, targets⟩, ordered⟩
    exact ⟨range, stop, targets, ordered⟩
  · rintro ⟨range, stop, targets, ordered⟩
    exact ⟨⟨⟨range, stop⟩, targets⟩, ordered⟩

end Parsed

section Mirror

/-- The reversal of `apply_mirror_copy`, with the rounding of its results. -/
def mirrorWith (round : ℚ → ℚ) (p : Parsed) : Parsed :=
  let pivot := (p.entryLow + p.entryHigh) / 2
  let reflect (level : ℚ) : ℚ := round (2 * pivot - level)
  { p with
    direction := p.direction.opposite
    stopLoss := p.stopLoss.map reflect
    tps := p.tps.map (Option.map reflect) }

def applyMirrorCopy (p : Parsed) : Parsed := mirrorWith (roundTo 5) p

variable {p : Parsed}

@[simp] theorem applyMirrorCopy_direction : (applyMirrorCopy p).direction = p.direction.opposite :=
  rfl

/-- In exact arithmetic the reversal is its own inverse. -/
theorem mirror_mirror (p : Parsed) : mirrorWith id (mirrorWith id p) = p := by
  obtain ⟨direction, low, high, stop, tps, tpOpen⟩ := p
  have back : (fun level : ℚ => 2 * ((low + high) / 2) - level) ∘
      (fun level => 2 * ((low + high) / 2) - level) = id := by
    funext level
    simp only [Function.comp_apply, id_eq]
    ring
  have opposite : direction.opposite.opposite = direction := by
    cases direction <;> rfl
  simp only [mirrorWith, id_eq, opposite, Option.map_map, List.map_map, back, Option.map_id]
  congr 1
  rw [Option.map_comp_map, back, Option.map_id_fun, List.map_id]

theorem behind_mirror (d : Direction) (low high level : ℚ) :
    d.opposite.behind low high (2 * ((low + high) / 2) - level) ↔ d.behind low high level := by
  cases d with
  | buy =>
      simp only [Direction.opposite, Direction.behind]
      constructor <;> intro h <;> linarith
  | sell =>
      simp only [Direction.opposite, Direction.behind]
      constructor <;> intro h <;> linarith

theorem beyond_mirror (d : Direction) (low high level : ℚ) :
    d.opposite.beyond low high (2 * ((low + high) / 2) - level) ↔ d.beyond low high level := by
  cases d with
  | buy =>
      simp only [Direction.opposite, Direction.beyond]
      constructor <;> intro h <;> linarith
  | sell =>
      simp only [Direction.opposite, Direction.beyond]
      constructor <;> intro h <;> linarith

theorem precedes_mirror (d : Direction) (total first second : ℚ) :
    d.opposite.precedes (total - first) (total - second) ↔ d.precedes first second := by
  cases d with
  | buy =>
      simp only [Direction.opposite, Direction.precedes]
      constructor <;> intro h <;> linarith
  | sell =>
      simp only [Direction.opposite, Direction.precedes]
      constructor <;> intro h <;> linarith

theorem consecutiveTargets_mirror (p : Parsed) :
    (mirrorWith id p).consecutiveTargets =
      p.consecutiveTargets.map (Prod.map (2 * ((p.entryLow + p.entryHigh) / 2) - ·)
        (2 * ((p.entryLow + p.entryHigh) / 2) - ·)) := by
  have reduced : ((mirrorWith id p).tps.take 8).reduceOption =
      (p.tps.take 8).reduceOption.map (2 * ((p.entryLow + p.entryHigh) / 2) - ·) := by
    simp only [mirrorWith, ← List.map_take]
    exact List.reduceOption_map
  rw [Parsed.consecutiveTargets, Parsed.consecutiveTargets, reduced, ← List.map_tail,
    List.zip_map]

/-- The reversal maps the valid signals onto the valid ones. -/
theorem valid_mirror_iff (p : Parsed) : (mirrorWith id p).Valid ↔ p.Valid := by
  have targets : (∀ tp, some tp ∈ (mirrorWith id p).tps.take 8 →
      p.direction.opposite.beyond p.entryLow p.entryHigh tp) ↔
      ∀ tp, some tp ∈ p.tps.take 8 → p.direction.beyond p.entryLow p.entryHigh tp := by
    simp only [mirrorWith, ← List.map_take, List.mem_map]
    constructor
    · intro h tp mem
      exact (beyond_mirror p.direction p.entryLow p.entryHigh tp).mp (h _ ⟨some tp, mem, rfl⟩)
    · rintro h tp ⟨target, mem, reflected⟩
      obtain ⟨stated, rfl, rfl⟩ := Option.map_eq_some_iff.mp reflected
      exact (beyond_mirror p.direction p.entryLow p.entryHigh stated).mpr (h stated mem)
  have stop : (∃ stop, (mirrorWith id p).stopLoss = some stop ∧
      p.direction.opposite.behind p.entryLow p.entryHigh stop) ↔
      ∃ stop, p.stopLoss = some stop ∧ p.direction.behind p.entryLow p.entryHigh stop := by
    constructor
    · rintro ⟨stop, reflected, behind⟩
      obtain ⟨stated, same, rfl⟩ := Option.map_eq_some_iff.mp reflected
      exact ⟨stated, same, (behind_mirror p.direction p.entryLow p.entryHigh stated).mp behind⟩
    · rintro ⟨stated, same, behind⟩
      refine ⟨_, by simp only [mirrorWith, same, Option.map_some]; rfl, ?_⟩
      exact (behind_mirror p.direction p.entryLow p.entryHigh stated).mpr behind
  have ordered : (∀ pair ∈ (mirrorWith id p).consecutiveTargets,
      p.direction.opposite.precedes pair.1 pair.2) ↔
      ∀ pair ∈ p.consecutiveTargets, p.direction.precedes pair.1 pair.2 := by
    rw [consecutiveTargets_mirror, List.forall_mem_map]
    exact forall₂_congr fun pair _ => precedes_mirror p.direction _ pair.1 pair.2
  constructor
  · intro valid
    exact ⟨valid.range, stop.mp valid.stop, targets.mp valid.targets, ordered.mp valid.ordered⟩
  · intro valid
    exact ⟨valid.range, stop.mpr valid.stop, targets.mpr valid.targets, ordered.mpr valid.ordered⟩

/-- Every level has at most five decimals. -/
structure Parsed.Priced (p : Parsed) : Prop where
  low : OnGrid 5 p.entryLow
  high : OnGrid 5 p.entryHigh
  stop : ∀ level ∈ p.stopLoss, OnGrid 5 level
  tps : ∀ target ∈ p.tps, ∀ level ∈ target, OnGrid 5 level

theorem Parsed.Priced.reflect (priced : p.Priced) {level : ℚ} (grid : OnGrid 5 level) :
    OnGrid 5 (2 * ((p.entryLow + p.entryHigh) / 2) - level) := by
  have total : 2 * ((p.entryLow + p.entryHigh) / 2) = p.entryLow + p.entryHigh := by ring
  rw [total]
  exact (priced.low.add priced.high).sub grid

theorem Parsed.Priced.mirror (priced : p.Priced) : (mirrorWith id p).Priced := by
  refine ⟨priced.low, priced.high, fun level mem => ?_, fun target mem level inside => ?_⟩
  · obtain ⟨stated, given, rfl⟩ := Option.map_eq_some_iff.mp mem
    exact priced.reflect (priced.stop stated given)
  · obtain ⟨old, given, rfl⟩ := List.mem_map.mp mem
    obtain ⟨stated, here, rfl⟩ := Option.map_eq_some_iff.mp inside
    exact priced.reflect (priced.tps old given stated here)

/-- On such levels the rounding does nothing. -/
theorem applyMirrorCopy_of_priced (priced : p.Priced) : applyMirrorCopy p = mirrorWith id p := by
  have exact : ∀ level, OnGrid 5 level →
      roundTo 5 (2 * ((p.entryLow + p.entryHigh) / 2) - level) =
        2 * ((p.entryLow + p.entryHigh) / 2) - level :=
    fun level grid => roundTo_of_onGrid (priced.reflect grid)
  have targets : p.tps.map (Option.map fun level =>
        roundTo 5 (2 * ((p.entryLow + p.entryHigh) / 2) - level)) =
      p.tps.map (Option.map fun level => 2 * ((p.entryLow + p.entryHigh) / 2) - level) := by
    refine List.map_congr_left fun target mem => ?_
    exact Option.map_congr fun level inside => exact level (priced.tps target mem level inside)
  have stopped : p.stopLoss.map (fun level =>
        roundTo 5 (2 * ((p.entryLow + p.entryHigh) / 2) - level)) =
      p.stopLoss.map fun level => 2 * ((p.entryLow + p.entryHigh) / 2) - level :=
    Option.map_congr fun level inside => exact level (priced.stop level inside)
  simp only [applyMirrorCopy, mirrorWith, targets, stopped, id]

theorem applyMirrorCopy_applyMirrorCopy (priced : p.Priced) :
    applyMirrorCopy (applyMirrorCopy p) = p := by
  rw [applyMirrorCopy_of_priced priced, applyMirrorCopy_of_priced priced.mirror, mirror_mirror]

theorem validateSignal_mirror_iff (p : Parsed) :
    validateSignal (mirrorWith id p) = [] ↔ validateSignal p = [] := by
  rw [Parsed.validateSignal_eq_nil_iff, Parsed.validateSignal_eq_nil_iff, valid_mirror_iff]

end Mirror

section Overrides

/-- The fields of the EA Template that governs a channel. -/
structure TemplateLevels where
  slPips : ℚ
  tpPips : List ℚ
  tpFromTelegram : Bool
deriving DecidableEq, Repr

def pipsToPrice : ℚ := 1 / 10

def fallbackSlPips : ℚ := 50

/-- The toggles of the Parsing page that rewrite a parsed signal. -/
structure LevelSettings where
  enableTpParsing : Bool
  enableSlParsing : Bool
  enableMirrorCopy : Bool
  fallbackSl : ℚ
deriving DecidableEq, Repr

def templateTargets (p : Parsed) (t : TemplateLevels) : List (Option ℚ) :=
  let anchor := match p.direction with
    | .buy => p.entryHigh
    | .sell => p.entryLow
  t.tpPips.map fun pips =>
    if 0 < pips then some (roundTo 2 (anchor + p.direction.sign * (pips * pipsToPrice))) else none

def applyTpParsingOverride (settings : LevelSettings) (template : Option TemplateLevels)
    (p : Parsed) : Parsed :=
  if settings.enableTpParsing then p
  else
    match template with
    | some t => if t.tpFromTelegram then p else { p with tps := templateTargets p t }
    | none => { p with tps := List.replicate 8 none }

def stopDistance (settings : LevelSettings) (template : Option TemplateLevels) : ℚ :=
  let pips := match template with
    | some t => t.slPips
    | none => 0
  let pips := if 0 < pips then pips else settings.fallbackSl
  (if 0 < pips then pips else fallbackSlPips) * pipsToPrice

def applySlParsingOverride (settings : LevelSettings) (template : Option TemplateLevels)
    (p : Parsed) : Parsed :=
  if settings.enableSlParsing then p
  else
    let edge := match p.direction with
      | .buy => p.entryLow
      | .sell => p.entryHigh
    { p with
      stopLoss := some (roundTo 2 (edge - p.direction.sign * stopDistance settings template)) }

/-- What the scan does to a parsed signal before it records it. -/
def applyOverrides (settings : LevelSettings) (template : Option TemplateLevels) (p : Parsed) :
    Parsed :=
  let p := applySlParsingOverride settings template (applyTpParsingOverride settings template p)
  if settings.enableMirrorCopy then applyMirrorCopy p else p

variable (settings : LevelSettings) (template : Option TemplateLevels) (p : Parsed)

@[simp] theorem applyTpParsingOverride_direction :
    (applyTpParsingOverride settings template p).direction = p.direction := by
  cases template with
  | none =>
      simp only [applyTpParsingOverride]
      split_ifs <;> rfl
  | some t =>
      simp only [applyTpParsingOverride]
      split_ifs <;> rfl

@[simp] theorem applySlParsingOverride_direction :
    (applySlParsingOverride settings template p).direction = p.direction := by
  rw [applySlParsingOverride]
  split_ifs <;> rfl

theorem applyOverrides_direction :
    (applyOverrides settings template p).direction =
      if settings.enableMirrorCopy then p.direction.opposite else p.direction := by
  rw [applyOverrides]
  split_ifs <;> simp

end Overrides

end Forex
