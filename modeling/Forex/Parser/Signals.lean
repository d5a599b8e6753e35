import Forex.Parser.Patterns
import Forex.Telegram.TpAutocorrect

/-!
The signal parsers: which words of a message they take for direction, entry, stop and
targets, and what they make of them. Each conversion can raise; nothing else in them can.
-/

namespace Forex
open Support Pattern

/-- A target may be stated several times; the latest assignment is first. -/
abbrev Targets := List (ℕ × ℚ)

namespace Targets

def setDefault (tps : Targets) (n : ℕ) (price : ℚ) : Targets :=
  if (tps.lookup n).isSome then tps else (n, price) :: tps

def assign (tps : Targets) (n : ℕ) (price : ℚ) : Targets := (n, price) :: tps

/-- `tp1` to `tp8`. -/
def slots (tps : Targets) : List (Option ℚ) := (List.range' 1 8).map fun n => tps.lookup n

end Targets

/-- An entry without levels yet. -/
structure PartialSignal where
  direction : Direction
  entryLow : ℚ
  entryHigh : ℚ

/-- What a message states about an earlier one. -/
structure StatedLevels where
  stopLoss : Option ℚ
  tps : List (Option ℚ)
  tpOpen : Option Bool

inductive Gd2Layout where
  /-- "XAU USD BUY NOW". -/
  | labelled
  /-- "Buy Zone Now". -/
  | zone
  /-- "BUY LIMITS GOLD @". -/
  | limits
deriving DecidableEq

abbrev Reads (α : Type) := Except ParseError α

/-- The word, whatever the case of its letters. -/
def sameWord (s : String) (word : Text) : Bool :=
  decide (word.length = s.length) && (s.toList.zip word).all fun p => sameLetter p.1 p.2

/-- `m.group(n).upper()` of a side. -/
def sideOf (h : Hit Char) (n : ℕ) : Direction :=
  if sameWord "buy" (h.group n) then .buy else .sell

/-- `pattern.search(text)`. -/
def find (pattern : Regex Char) (text : Text) : Option (Hit Char) := pattern.search [] text

/-- `pattern.search(text, m.end())`. -/
def findAfter (pattern : Regex Char) (m : Hit Char) : Option (Hit Char) :=
  pattern.search m.passed m.rest

variable (U : CharTables) (text : Text)

def hasMatch (pattern : Regex Char) : Bool := (find pattern text).isSome

def entryRange (a b : Text) : Reads (ℚ × ℚ) := do
  let priceA ← toFloat U a
  let priceB ← toFloat U b
  return (min priceA priceB, max priceA priceB)

/-- The targets with their numbers, as far as the number is one of those kept. -/
def readTargets (keep : ℕ → Bool) (add : Targets → ℕ → ℚ → Targets) :
    List (Hit Char) → Targets → Reads Targets
  | [], tps => .ok tps
  | h :: hits, tps => do
      let n ← toInt U (h.group 1)
      if keep n then
        let price ← toFloat U (h.group 2)
        readTargets keep add hits (add tps n price)
      else readTargets keep add hits tps

/-- The prices one after the other, numbered from one. -/
def numberedTargets (words : List Text) : Reads Targets := do
  let prices ← words.mapM (toFloat U)
  return (prices.zipIdx 1).map Prod.swap

/-- `parse_instant_entry`. -/
def parseInstantEntry : Reads (Option (Direction × Option ℚ)) :=
  match find (instant U) text with
  | none => .ok none
  | some m =>
      if hasMatch text (statedSl U) || hasMatch text (statedTp U) then .ok none
      else if m.group 2 = [] then .ok (some (sideOf m 1, none))
      else do
        let price ← toFloat U (m.group 2)
        return some (sideOf m 1, some price)

/-- `parse_gd2_instant_entry`. -/
def parseGd2InstantEntry : Reads (Option (Direction × Option ℚ)) :=
  match find (gd2Direction U) text with
  | some m =>
      if hasMatch text (statedSl U) || hasMatch text (statedTp U) then .ok none
      else if (findAfter (gd2EntryRange U) m).isSome then .ok none
      else .ok (some (sideOf m 1, none))
  | none =>
      match find (gd2ZoneDirection U) text with
      | none => .ok none
      | some m =>
          if hasMatch text (gd2SlZone U) || (findAfter (gd2TargetsHeader U) m).isSome then .ok none
          else if (findAfter (gd2EntryRange U) m).isSome then .ok none
          else .ok (some (sideOf m 1, none))

section FormatAB

/-- A currency is stated, and it is another. -/
def otherCurrency : Bool :=
  (find (currency U) text).any fun m =>
    !sameWord "xauusd" ((m.group 1).filter fun c => c != '/' && c != '-')

def stripBold : Text := bold.sub (fun h => h.group 1) text

/-- The side and the two words of the entry. -/
def abEntry (clean : Text) : Option (Direction × Text × Text) :=
  match find (direction U) clean with
  | some m => some (sideOf m 1, m.group 2, m.group 3)
  | none =>
      match find directionB clean, find (entryB U) clean with
      | some m, some e => some (sideOf m 1, e.group 1, e.group 2)
      | _, _ => none

def abStop (clean : Text) : Option (Hit Char) := (find (sl U) clean).or (find (slB U) clean)

/-- `re.split(r'[/\s]+', …)` without the empty pieces. -/
def openWords (values : Text) : List Text :=
  (values.splitOnP fun c => c == '/' || isBlank c).filter (· ≠ [])

def addOpen (first : ℕ) (tps : Targets) (prices : List ℚ) : Targets :=
  ((prices.take 2).zipIdx first).foldl
    (fun tps p => if p.2 ≤ 5 then tps.setDefault p.2 p.1 else tps) tps

def openTargets (clean : Text) (tps : Targets) : Reads Targets :=
  match find (tpOpenValues U) clean with
  | none => .ok tps
  | some m => do
      let prices ← (openWords (m.group 2)).mapM (toFloat U)
      -- the number is a single digit, which `int` reads
      return addOpen (U.natValue (m.group 1)) tps prices

def goldTargets (clean : Text) : Reads Targets := do
  let tps ← readTargets U (· ≤ 9) Targets.setDefault ((tp U).findIter clean) []
  let tps ← readTargets U (· ≤ 9) Targets.assign ((tpB U).findIter clean) tps
  openTargets U clean tps

/-- The dictionary that `parse_gold_signal` repairs. -/
def goldRaw : Reads (Option Parsed) :=
  if otherCurrency U text then .ok none
  else
    let clean := stripBold text
    match abEntry U clean with
    | none => .ok none
    | some (d, a, b) => do
        let entry ← entryRange U a b
        match abStop U clean with
        | none => return none
        | some m =>
            let stop ← toFloat U (m.group 1)
            let tps ← goldTargets U clean
            return some ⟨d, entry.1, entry.2, some stop, tps.slots, none⟩

/-- `parse_gold_signal`. -/
def parseGoldSignal : Reads (Option Parsed) := do
  let raw ← goldRaw U text
  return raw.map Parsed.autocorrectTps

/-- `parse_format_ab_partial`. -/
def parseFormatAbPartial : Reads (Option PartialSignal) :=
  if otherCurrency U text then .ok none
  else
    let clean := stripBold text
    match abEntry U clean with
    | none => .ok none
    | some (d, a, b) => do
        let entry ← entryRange U a b
        if (abStop U clean).isSome then return none
        else if hasMatch clean (tp U) || hasMatch clean (tpB U) then return none
        else return some ⟨d, entry.1, entry.2⟩

end FormatAB

section Gd2

def gd2Layout : Option (Gd2Layout × Hit Char) :=
  match find (gd2Direction U) text with
  | some m => some (.labelled, m)
  | none =>
      match find (gd2ZoneDirection U) text with
      | some m => some (.zone, m)
      | none => (find (gd2LimitsDirection U) text).map (.limits, ·)

/-- The two words of the entry; a single price is both. -/
def gd2Entry : Gd2Layout → Hit Char → Option (Text × Text)
  | .limits, _ => (find (gd2AtRange U) text).map fun m => (m.group 1, m.group 2)
  | _, dm =>
      match findAfter (gd2EntryRange U) dm with
      | some m => some (m.group 1, m.group 2)
      | none => (findAfter (gd2EntrySingle U) dm).map fun m => (m.group 1, m.group 1)

/-- `_parse_gd2_zone_targets`: the lines that are a number, down to the stop. -/
def zoneWords (dm : Hit Char) : List Text :=
  match findAfter (gd2TargetsHeader U) dm with
  | none => []
  | some header =>
      ((((splitLines header.rest).map strippedText).takeWhile fun line =>
        !hasMatch line (slWord U)).filterMap fun line =>
          ((gd2TargetLine U).matchAt [] line).map fun m => m.group 1).take 8

/-- `_parse_gd2_plain_tps`. -/
def plainWords : List Text := (((gd2TpPlain U).findIter text).map fun m => m.group 1).take 8

def gd2Targets : Gd2Layout → Hit Char → Reads Targets
  | .labelled, _ =>
      readTargets U (fun n => decide (1 ≤ n ∧ n ≤ 8)) Targets.assign ((gd2Tp U).findIter text) []
  | .zone, dm => numberedTargets U (zoneWords U dm)
  | .limits, _ => numberedTargets U (plainWords U text)

def gd2Stop : Gd2Layout → Option (Hit Char)
  | .zone => find (gd2SlZone U) text
  | _ => find (gd2Sl U) text

/-- The dictionary that `parse_gd2_signal` repairs. -/
def gd2Raw : Reads (Option Parsed) :=
  match gd2Layout U text with
  | none => .ok none
  | some (layout, dm) =>
      match gd2Entry U text layout dm with
      | none => .ok none
      | some (a, b) => do
          let entry ← entryRange U a b
          let tps ← gd2Targets U text layout dm
          if (tps.lookup 1).isNone then return none
          else
            match gd2Stop U text layout with
            | none => return none
            | some m =>
                let stop ← toFloat U (m.group 1)
                return some ⟨sideOf dm 1, entry.1, entry.2, some stop, tps.slots, none⟩

/-- `parse_gd2_signal`. -/
def parseGd2Signal : Reads (Option Parsed) := do
  let raw ← gd2Raw U text
  return raw.map Parsed.autocorrectTps

/-- Both a stop and a target. -/
def gd2Full (layout : Gd2Layout) (dm : Hit Char) : Reads Bool :=
  if (gd2Stop U text layout).isNone then .ok false
  else
    match layout with
    | .labelled => .ok (hasMatch text (gd2Tp U))
    | layout => do
        let tps ← gd2Targets U text layout dm
        return decide (tps ≠ [])

/-- `parse_gd2_partial`. -/
def parseGd2Partial : Reads (Option PartialSignal) :=
  match gd2Layout U text with
  | none => .ok none
  | some (layout, dm) =>
      match gd2Entry U text layout dm with
      | none => .ok none
      | some (a, b) => do
          let entry ← entryRange U a b
          let full ← gd2Full U text layout dm
          return if full then none else some ⟨sideOf dm 1, entry.1, entry.2⟩

def isLimitOrderSignal : Bool := hasMatch text (gd2LimitsDirection U)

/-- `parse_limit_order_signal`. -/
def parseLimitOrderSignal : Reads (Option Parsed) :=
  if isLimitOrderSignal U text then do
    let parsed ← parseGd2Signal U text
    return parsed.map fun p => { p with tpOpen := some (hasMatch text gd2TpOpen) }
  else .ok none

end Gd2

section Levels

def anyStop (clean : Text) : Option (Hit Char) := (abStop U clean).or (find (gd2Sl U) clean)

/-- `_extract_levels`. -/
def extractLevels : Reads StatedLevels := do
  let clean := stripBold text
  let tps ← readTargets U (· ≤ 8) Targets.setDefault ((tp U).findIter clean) []
  let tps ← readTargets U (· ≤ 8) Targets.setDefault ((tpB U).findIter clean) tps
  let tps ← readTargets U (· ≤ 8) Targets.setDefault ((gd2Tp U).findIter clean) tps
  match anyStop U clean with
  | none => return ⟨none, tps.slots, none⟩
  | some m =>
      let stop ← toFloat U (m.group 1)
      return ⟨some stop, tps.slots, none⟩

/-- `… or parse_format_ab_partial(text)`. -/
def orFormatAbPartial : Option PartialSignal → Reads (Option PartialSignal)
  | some p => .ok (some p)
  | none => parseFormatAbPartial U text

/-- `parse_partial_any_format`. -/
def parsePartialAnyFormat : Reads (Option Parsed) := do
  let gd2 ← parseGd2Partial U text
  let found ← orFormatAbPartial U text gd2
  match found with
  | none => return none
  | some p =>
      let levels ← extractLevels U text
      let tpOpen := if isLimitOrderSignal U text then some (hasMatch text gd2TpOpen) else none
      return some ⟨p.direction, p.entryLow, p.entryHigh, levels.stopLoss, levels.tps, tpOpen⟩

def statesDirection : Bool :=
  hasMatch text (direction U) || hasMatch text directionB || hasMatch text (gd2Direction U) ||
    hasMatch text (gd2ZoneDirection U) || hasMatch text (gd2LimitsDirection U)

/-- `parse_tp_sl_only`. -/
def parseTpSlOnly : Reads (Option StatedLevels) :=
  if statesDirection U text then .ok none
  else do
    let levels ← extractLevels U text
    if levels.stopLoss.isNone && levels.tps.all Option.isNone then return none
    else if hasMatch text gd2TpOpen then return some { levels with tpOpen := some true }
    else return some levels

end Levels

end Forex
