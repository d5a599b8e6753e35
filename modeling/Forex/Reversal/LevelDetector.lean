import Forex.Reversal.IctPatterns

/-!
The level detector: the Asia range, swing points, congestion zones and round numbers,
merged with levels of the caller. The merge counts up a strength in the dictionary it
keeps, which is the caller's own where it came from there.
-/

namespace Forex
open Support

inductive LevelType where
  | asiaLow
  | asiaHigh
  | swingHigh
  | swingLow
  | round10
  | round5
  | congestion
  | other (name : String)
deriving DecidableEq, Repr

structure Level where
  price : ℚ
  type : LevelType
  strength : ℤ
deriving DecidableEq, Repr

/-- A level as a dictionary object: one of the caller's, with its position in the list
that was handed in, or a new one. -/
structure LevelDict extends Level where
  owner : Option ℕ
deriving DecidableEq, Repr

namespace OhlcCandle

/-- `_utc_hour`, of a time in seconds. -/
def utcHour (c : OhlcCandle) : ℤ := ⌊c.ts / 3600⌋ % 24

def inAsia (c : OhlcCandle) : Bool := decide (c.utcHour < 8)

end OhlcCandle

/-- `get_asia_range`. -/
def getAsiaRange (h1Candles : List OhlcCandle) : ℚ × ℚ :=
  let asia := h1Candles.filter OhlcCandle.inAsia
  let lows := (asia.map fun c => c.low).filter fun x => decide (0 < x)
  let highs := (asia.map fun c => c.high).filter fun x => decide (0 < x)
  match lows.min?, highs.max? with
  | some low, some high => (roundTo 2 low, roundTo 2 high)
  | _, _ => (0, 0)

def minLevelSeparationPts : ℚ := 3

def LevelDict.nearTo (lvl cur : LevelDict) : Prop := |lvl.price - cur.price| < minLevelSeparationPts

instance (lvl cur : LevelDict) : Decidable (lvl.nearTo cur) :=
  inferInstanceAs (Decidable (_ < _))

/-- What the two are merged to: the later one if it is stronger, counted up. -/
def LevelDict.absorb (cur lvl : LevelDict) : LevelDict :=
  let kept := if cur.strength < lvl.strength then lvl else cur
  { kept with strength := kept.strength + 1 }

/-- The loop of `_deduplicate_levels` from the level on that is kept at the end of
`merged`: what it returns, and the owners of the dictionaries it counts up. -/
def mergeFrom (cur : LevelDict) : List LevelDict → List LevelDict × List (Option ℕ)
  | [] => ([cur], [])
  | lvl :: rest =>
      if lvl.nearTo cur then
        let r := mergeFrom (cur.absorb lvl) rest
        (r.1, (cur.absorb lvl).owner :: r.2)
      else
        let r := mergeFrom lvl rest
        (cur :: r.1, r.2)

def byPrice (levels : List LevelDict) : List LevelDict :=
  levels.insertionSort fun a b => a.price ≤ b.price

/-- `_deduplicate_levels`. -/
def deduplicateLevels (levels : List LevelDict) : List LevelDict × List (Option ℕ) :=
  match byPrice levels with
  | [] => ([], [])
  | cur :: rest => mergeFrom cur rest

/-- A dictionary that the detector makes itself. -/
def Level.own (l : Level) : LevelDict := ⟨l, none⟩

/-- Levels that are merged before anyone else has them. -/
def mergedLevels (levels : List Level) : List Level :=
  (deduplicateLevels (levels.map Level.own)).1.map LevelDict.toLevel

def swingLookback : ℕ := 30
def swingWindow : ℕ := 3

/-- The swing high and the swing low at a candle, in its window. -/
def swingsAt (window : List OhlcCandle) (c : OhlcCandle) : List Level :=
  if c.high ≤ 0 ∨ c.low ≤ 0 then []
  else
    (if window.all fun d => decide (d.high ≤ c.high) then
      [⟨roundTo 2 c.high, .swingHigh, window.countP fun d => decide (d.high < c.high)⟩] else []) ++
    (if window.all fun d => decide (c.low ≤ d.low) then
      [⟨roundTo 2 c.low, .swingLow, window.countP fun d => decide (c.low < d.low)⟩] else [])

/-- `get_swing_levels`. -/
def getSwingLevels (h1Candles : List OhlcCandle) : List Level :=
  if h1Candles.length < swingWindow * 2 + 1 then []
  else
    let candles := Ict.recent swingLookback h1Candles
    mergedLevels ((List.range' swingWindow (candles.length - 2 * swingWindow)).flatMap fun i =>
      (candles[i]?.map fun c =>
        swingsAt ((candles.drop (i - swingWindow)).take (2 * swingWindow + 1)) c).getD [])

def congestionWindow : ℕ := 5

/-- The zone of one window, if it is tight against the ranges of its candles. -/
def zoneOf (window : List OhlcCandle) : Option Level :=
  if window.any fun c => decide (c.high ≤ 0 ∨ c.low ≤ 0) then none
  else
    let high := (window.map fun c => c.high).max?.getD 0
    let low := (window.map fun c => c.low).min?.getD 0
    let single := (window.map fun c => c.high - c.low).sum / congestionWindow
    if single ≤ 0 then none
    else if high - low ≤ single * (5 / 2) then
      some ⟨roundTo 2 ((high + low) / 2), .congestion, congestionWindow⟩
    else none

/-- The scan of `get_congestion_zones`, with the candles that are still passed by. -/
def zonesFrom : ℕ → List OhlcCandle → List Level
  | _, [] => []
  | skip + 1, _ :: candles => zonesFrom skip candles
  | 0, c :: candles =>
      if (c :: candles).length < congestionWindow then []
      else
        match zoneOf ((c :: candles).take congestionWindow) with
        | some zone => zone :: zonesFrom (congestionWindow - 1) candles
        | none => zonesFrom 0 candles

/-- `get_congestion_zones`. -/
def getCongestionZones (h1Candles : List OhlcCandle) : List Level :=
  if h1Candles.length < congestionWindow then []
  else mergedLevels (zonesFrom 0 (Ict.recent swingLookback h1Candles))

/-- `get_round_levels`, with six levels to either side. -/
def getRoundLevels (price : ℚ) : List Level :=
  if price ≤ 0 then []
  else
    let base10 := roundHalfEven (price / 10) * 10
    (List.range 13).flatMap fun k =>
      let r10 : ℤ := base10 + ((k : ℤ) - 6) * 10
      (if 0 < r10 then [(⟨r10, .round10, 3⟩ : Level)] else []) ++
        (if 0 < r10 + 5 then [⟨r10 + 5, .round5, 2⟩] else [])

/-- The levels that `get_all_levels` finds itself. -/
def foundLevels (h1Candles : List OhlcCandle) (currentPrice : ℚ) : List Level :=
  let asia := getAsiaRange h1Candles
  let close (l : Level) : Bool := decide (|l.price - currentPrice| ≤ 50)
  (if 0 < asia.1 then [⟨asia.1, .asiaLow, 5⟩] else []) ++
    (if 0 < asia.2 then [⟨asia.2, .asiaHigh, 5⟩] else []) ++
    getSwingLevels h1Candles ++
    (getCongestionZones h1Candles).filter close ++
    (getRoundLevels currentPrice).filter close

/-- The dictionaries of the caller. -/
def ownedLevels (extraLevels : List Level) : List LevelDict :=
  extraLevels.mapIdx fun i l => ⟨l, some i⟩

/-- The dictionaries of the caller after each has been counted up as often as it
occurs. -/
def countedUp (extraLevels : List Level) (counted : List (Option ℕ)) : List Level :=
  extraLevels.mapIdx fun i l => { l with strength := l.strength + counted.count (some i) }

/-- `get_all_levels`: the levels, and the caller's own dictionaries afterwards. -/
def getAllLevels (h1Candles : List OhlcCandle) (currentPrice : ℚ) (extraLevels : List Level) :
    List Level × List Level :=
  if h1Candles = [] ∨ currentPrice ≤ 0 then ([], extraLevels)
  else
    let r := deduplicateLevels
      (ownedLevels extraLevels ++ (foundLevels h1Candles currentPrice).map Level.own)
    (r.1.map LevelDict.toLevel, countedUp extraLevels r.2)

end Forex
