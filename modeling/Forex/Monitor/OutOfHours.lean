import Forex.Broker.Comments
import Forex.Ledger.Schema

/-!
The out-of-hours override: `get_effective_strategy` over the stored settings and
the wall clock of the configured time zone. Dates are compared by their ordinal.
A clock or a date that does not parse switches the override off.
-/

namespace Forex

structure RiskSettings where
  tradeStrategy : Strategy
  dpmEnabled : Bool
  profitCloseUsd : ℚ
  oohEnabled : Bool
  oohStartTime : String
  oohEndTime : String
  oohStrategy : Strategy
  oohDateActive : Bool
  oohDateFrom : String
  oohDateTo : String
deriving DecidableEq, Repr

/-- `now` in the time zone of the settings. -/
structure WallClock where
  year : ℕ
  month : ℕ
  day : ℕ
  hour : ℕ
  minute : ℕ
deriving DecidableEq, Repr

def digitsValue (digits : List Char) : ℕ :=
  digits.foldl (fun n c => 10 * n + (c.toNat - '0'.toNat)) 0

/-- Digits in groups that single underscores part. -/
def readNat (text : List Char) : Option ℕ :=
  let groups := text.splitOn '_'
  if groups.all fun g => !g.isEmpty && g.all Char.isDigit then some (digitsValue groups.flatten)
  else none

def readInt (text : List Char) : Option ℤ :=
  match strip text with
  | '-' :: digits => (readNat digits).map fun n => -(n : ℤ)
  | '+' :: digits => (readNat digits).map fun n => (n : ℤ)
  | digits => (readNat digits).map fun n => (n : ℤ)

/-- `h, m = (int(x) for x in text.split(":"))`, as minutes of the day. -/
def readClock (text : String) : Option ℤ :=
  match text.toList.splitOn ':' with
  | [h, m] => (readInt h).bind fun h => (readInt m).map fun m => h * 60 + m
  | _ => none

def isLeap (year : ℕ) : Bool :=
  decide (year % 4 = 0 ∧ (year % 100 ≠ 0 ∨ year % 400 = 0))

def daysInMonth (year month : ℕ) : ℕ :=
  match month with
  | 2 => if isLeap year then 29 else 28
  | 4 | 6 | 9 | 11 => 30
  | _ => 31

def ordinal (year month day : ℕ) : ℕ :=
  let before := year - 1
  before * 365 + before / 4 - before / 100 + before / 400 +
    ((List.range (month - 1)).map fun m => daysInMonth year (m + 1)).sum + day

def calendarDate (year month day : ℕ) : Option ℕ :=
  if 1 ≤ year ∧ 1 ≤ month ∧ month ≤ 12 ∧ 1 ≤ day ∧ day ≤ daysInMonth year month then
    some (ordinal year month day)
  else none

/-- The Monday on which the first ISO week of a year begins. -/
def firstMonday (year : ℕ) : ℕ :=
  let fourth := ordinal year 1 4
  fourth - (fourth + 6) % 7

def weekDate (year week day : ℕ) : Option ℕ :=
  let weeks := (firstMonday (year + 1) - firstMonday year) / 7
  if 1 ≤ year ∧ 1 ≤ week ∧ week ≤ weeks ∧ 1 ≤ day ∧ day ≤ 7 then
    some (firstMonday year + 7 * (week - 1) + (day - 1))
  else none

def readField (width : ℕ) (text : List Char) : Option ℕ :=
  if text.length = width && text.all Char.isDigit then some (digitsValue text) else none

/-- `date.fromisoformat`: a calendar date or a week date, with or without
hyphens. -/
def fromIsoFormat (text : String) : Option ℕ :=
  (readField 4 (text.toList.take 4)).bind fun year =>
    match text.toList.drop 4 with
    | ['-', 'W', a, b] | ['W', a, b] => (readField 2 [a, b]).bind fun week => weekDate year week 1
    | ['-', 'W', a, b, '-', d] | ['W', a, b, d] =>
        (readField 2 [a, b]).bind fun week => (readField 1 [d]).bind fun day =>
          weekDate year week day
    | ['-', a, b, '-', c, d] | [a, b, c, d] =>
        (readField 2 [a, b]).bind fun month => (readField 2 [c, d]).bind fun day =>
          calendarDate year month day
    | _ => none

def orDefault (text default : String) : String :=
  if text = "" then default else text

def Strategy.orDefault (s default : Strategy) : Strategy :=
  if s = .other "" then default else s

namespace RiskSettings
variable (rs : RiskSettings) (now : WallClock)

def dateAllows : Bool :=
  if rs.oohDateActive && rs.oohDateFrom ≠ "" && rs.oohDateTo ≠ "" then
    match fromIsoFormat rs.oohDateFrom, fromIsoFormat rs.oohDateTo with
    | some first, some last =>
        let today := ordinal now.year now.month now.day
        decide (first ≤ today ∧ today ≤ last)
    | _, _ => false
  else true

def inWindow : Bool :=
  match readClock (orDefault rs.oohStartTime "22:00"),
      readClock (orDefault rs.oohEndTime "07:00") with
  | some s, some e =>
      let cur : ℤ := now.hour * 60 + now.minute
      if e ≤ s then decide (s ≤ cur ∨ cur < e) else decide (s ≤ cur ∧ cur < e)
  | _, _ => false

def oohActive : Bool := rs.oohEnabled && rs.dateAllows now && rs.inWindow now

def override : Strategy := rs.oohStrategy.orDefault .conservative

def getEffectiveStrategy : Strategy × Bool :=
  if rs.oohActive now then (rs.override, true)
  else (rs.tradeStrategy.orDefault .scaleOut, false)

/-- The strategy by which the monitor loop dispatches a trade. -/
def dispatchStrategy (stored : Strategy) : Strategy :=
  let (effective, active) := rs.getEffectiveStrategy now
  if active then effective else stored

theorem dispatchStrategy_active (stored : Strategy) (h : rs.oohActive now = true) :
    rs.dispatchStrategy now stored = rs.override := by
  simp [dispatchStrategy, getEffectiveStrategy, h]

theorem dispatchStrategy_inactive (stored : Strategy) (h : rs.oohActive now = false) :
    rs.dispatchStrategy now stored = stored := by
  simp [dispatchStrategy, getEffectiveStrategy, h]

end RiskSettings

def RiskSettings.overnight (override : Strategy) (dpm : Bool) : RiskSettings where
  tradeStrategy := .scaleOut
  dpmEnabled := dpm
  profitCloseUsd := 0
  oohEnabled := true
  oohStartTime := "22:00"
  oohEndTime := "07:00"
  oohStrategy := override
  oohDateActive := false
  oohDateFrom := ""
  oohDateTo := ""

def WallClock.lateEvening : WallClock := ⟨2026, 9, 1, 23, 30⟩

end Forex
