import Forex.Support.Regex
import Mathlib.Algebra.Order.Field.Rat
import Mathlib.Tactic.Ring

/-!
The expressions that the signal parsers read a message with, and how the words they take
become numbers. A text is its list of characters; which characters are digits and which
belong to words is what the character tables say.
-/

namespace Forex
open Support

abbrev Text := List Char

/-- What `\d` and `\w` take, and the digits that `int` and `float` read. -/
structure CharTables where
  digit : Char → Option ℕ
  word : Char → Bool

/-- `\s`, and what `strip` takes away. -/
def isBlank (c : Char) : Bool :=
  let n := c.toNat
  decide (9 ≤ n ∧ n ≤ 13) || decide (28 ≤ n ∧ n ≤ 32) || decide (8192 ≤ n ∧ n ≤ 8202) ||
    decide (n ∈ [133, 160, 5760, 8232, 8233, 8239, 8287, 12288])

/-- What `splitlines` splits at. -/
def isLineEnd (c : Char) : Bool :=
  let n := c.toNat
  decide (10 ≤ n ∧ n ≤ 13) || decide (28 ≤ n ∧ n ≤ 30) || decide (n ∈ [133, 8232, 8233])

/-- `IGNORECASE`, of a small letter; some letters have a third form, or a fourth. -/
def sameLetter (letter c : Char) : Bool :=
  decide (c.toLower = letter) ||
    (decide (letter = 'i') && decide (c.toNat ∈ [304, 305])) ||
    (decide (letter = 'k') && decide (c.toNat = 8490)) ||
    (decide (letter = 's') && decide (c.toNat = 383))

def strippedText (text : Text) : Text :=
  ((text.dropWhile isBlank).reverse.dropWhile isBlank).reverse

def splitLines (text : Text) : List Text := text.splitOnP isLineEnd

namespace CharTables
variable (U : CharTables)

def isDigit (c : Char) : Bool := (U.digit c).isSome

/-- `[\d.,]`. -/
def isPrice (c : Char) : Bool := U.isDigit c || c == '.' || c == ','

def natValue (digits : Text) : ℕ := digits.foldl (fun n c => 10 * n + (U.digit c).getD 0) 0

/-- The value of digits with a dot among them. -/
def decimalValue (text : Text) : ℚ :=
  let fraction := (text.dropWhile (· != '.')).drop 1
  U.natValue (text.takeWhile (· != '.') ++ fraction) / 10 ^ fraction.length

/-- Digits with at most one dot among them. -/
def isDecimal (text : Text) : Bool :=
  text.all (fun c => U.isDigit c || c == '.') && text.any U.isDigit &&
    decide (text.count '.' ≤ 1)

end CharTables

inductive ParseError where
  | notANumber (word : Text)
  | tooManyDigits (word : Text)
deriving DecidableEq

/-- `sys.int_info.default_max_str_digits`. -/
def maxStrDigits : ℕ := 4300

section Numbers
variable (U : CharTables) (word : Text)

/-- The word without its commas. -/
def plainNumber : Text := word.filter (· != ',')

def IsNumber : Prop := U.isDecimal (plainNumber word) = true

instance : Decidable (IsNumber U word) := inferInstanceAs (Decidable (_ = true))

def priceValue : ℚ := U.decimalValue (plainNumber word)

/-- `_f`. -/
def toFloat : Except ParseError ℚ :=
  if IsNumber U word then .ok (priceValue U word) else .error (.notANumber word)

def toInt : Except ParseError ℕ :=
  if word.length ≤ maxStrDigits then .ok (U.natValue word) else .error (.tooManyDigits word)

end Numbers

namespace Pattern
open Regex

def letters (s : String) : Regex Char := .all (s.toList.map fun c => .one (sameLetter c))

def char (c : Char) : Regex Char := .one (· == c)

def spaces : Regex Char := .many isBlank

def spaces1 : Regex Char := .plus isBlank

/-- `[\s\xa0]`. -/
def isGap (c : Char) : Bool := isBlank c || decide (c.toNat = 160)

def gaps : Regex Char := .many isGap

def gaps1 : Regex Char := .plus isGap

/-- `[-–—]`. -/
def isDash (c : Char) : Bool := decide (c.toNat ∈ [45, 8211, 8212])

def side : Regex Char := .alt (letters "buy") (letters "sell")

def lineStart : Regex Char := .look fun before _ => before.head?.all (· == '\n')

def lineEnd : Regex Char := .look fun _ rest => rest.head?.all (· == '\n')

/-- `$` without `MULTILINE`. -/
def textEnd : Regex Char := .look fun _ rest => rest == [] || rest == ['\n']

def rangeSep : Regex Char :=
  .all [gaps, .alt (.one fun c => isDash c || c == '/') (letters "to"), gaps]

variable (U : CharTables)

def boundary : Regex Char :=
  .look fun before rest => before.head?.any U.word != rest.head?.any U.word

def price : Regex Char := .plus U.isPrice

def digits : Regex Char := .plus U.isDigit

/-- `_CURRENCY_RE`. -/
def currency : Regex Char :=
  .all [letters "currency", gaps, char ':', gaps,
    .group 1 (.plus fun c => U.word c || c == '/' || c == '-')]

/-- `_DIRECTION_RE`. -/
def direction : Regex Char :=
  .all [boundary U, .group 1 side, spaces1, letters "gold", spaces1, .group 2 (price U), spaces,
    .one isDash, spaces, .group 3 (price U)]

/-- `_DIRECTION_B_RE`. -/
def directionB : Regex Char :=
  .all [letters "direction", gaps, .opt (char ':'), gaps1, .group 1 side]

/-- `_ENTRY_B_RE`. -/
def entryB : Regex Char :=
  .all [letters "entry", gaps, .opt (char ':'), gaps, .group 1 (price U), rangeSep,
    .group 2 (price U)]

/-- `_SL_RE`. -/
def sl : Regex Char :=
  .all [letters "stop", gaps, letters "loss", gaps, .opt (char ':'), gaps1, .group 1 (price U)]

/-- `_SL_B_RE`. -/
def slB : Regex Char :=
  .all [boundary U, letters "sl", gaps, .opt (char ':'), gaps, .group 1 (price U)]

/-- `_TP_RE`. -/
def tp : Regex Char := .all [letters "tp", .group 1 (digits U), gaps1, .group 2 (price U)]

/-- `_TP_B_RE`. -/
def tpB : Regex Char :=
  .all [letters "tp", .group 1 (digits U), gaps, .one fun c => c == ':' || c == '-', gaps,
    .group 2 (price U)]

/-- `_TPOPEN_RE`. -/
def tpOpenValues : Regex Char :=
  .all [letters "tp", .group 1 (.one U.isDigit), spaces1, letters "open", spaces, char '(',
    .group 2 (.plus fun c => U.isPrice c || c == '/' || isBlank c), char ')']

/-- `_GD2_DIRECTION_RE`. -/
def gd2Direction : Regex Char :=
  .all [letters "xau", spaces, letters "usd", spaces1, .group 1 side,
    .opt (.all [spaces1, letters "now"]), boundary U]

/-- `_GD2_ENTRY_RANGE_RE`. -/
def gd2EntryRange : Regex Char :=
  .all [.group 1 (price U), spaces, .one isDash, spaces, .group 2 (price U)]

/-- `_GD2_ENTRY_SINGLE_RE`. -/
def gd2EntrySingle : Regex Char :=
  .all [boundary U, .group 1 (.all [.one U.isDigit, .many U.isPrice]), boundary U]

/-- `_GD2_TP_RE`. -/
def gd2Tp : Regex Char :=
  .all [letters "tp", .group 1 (digits U), gaps, .opt (char ':'), gaps1, .group 2 (price U)]

/-- `_GD2_SL_RE`. -/
def gd2Sl : Regex Char :=
  .all [.opt (.all [char '🚫', spaces]), letters "sl", gaps, .opt (char ':'), gaps1,
    .group 1 (price U)]

/-- `_GD2_ZONE_DIRECTION_RE`. -/
def gd2ZoneDirection : Regex Char :=
  .all [boundary U, .group 1 side, spaces1,
    .alt (.all [letters "zone", .opt (.all [spaces1, letters "now"])])
      (.all [letters "gold", spaces1, letters "now"]),
    boundary U]

/-- `_GD2_TARGETS_HEADER_RE`. -/
def gd2TargetsHeader : Regex Char :=
  .all [letters "target", .opt (letters "s"), boundary U]

/-- `_GD2_TARGET_LINE_RE`. -/
def gd2TargetLine : Regex Char := .all [.group 1 (price U), textEnd]

/-- `_GD2_SL_ZONE_RE`. -/
def gd2SlZone : Regex Char :=
  .all [letters "sl", gaps, .opt (.all [char '/', gaps, letters "invalid"]), gaps,
    .opt (char ':'), gaps1, .group 1 (price U)]

/-- `_GD2_LIMITS_DIRECTION_RE`. -/
def gd2LimitsDirection : Regex Char :=
  .all [boundary U, .group 1 side, spaces1,
    .opt (.all [letters "limit", .opt (letters "s"), spaces1]), letters "gold", spaces1, char '@']

/-- `_GD2_AT_RANGE_RE`. -/
def gd2AtRange : Regex Char :=
  .all [char '@', spaces, .group 1 (price U), spaces, char '/', spaces, .group 2 (price U)]

/-- `_GD2_TP_PLAIN_RE`. -/
def gd2TpPlain : Regex Char :=
  .all [lineStart, letters "tp", spaces1, .group 1 (price U), spaces, lineEnd]

/-- `_GD2_TP_OPEN_RE`. -/
def gd2TpOpen : Regex Char :=
  .all [lineStart, letters "tp", spaces1, letters "open", spaces, lineEnd]

/-- `\bSL\b`. -/
def slWord : Regex Char := .all [boundary U, letters "sl", boundary U]

/-- `_INSTANT_RE`. -/
def instant : Regex Char :=
  .all [boundary U,
    .alt (letters "xauusd") (.alt (.all [letters "xau", spaces, letters "usd"]) (letters "xau")),
    spaces1, .group 1 side, spaces1, letters "now", boundary U,
    .opt (.all [.many fun c => isBlank c || c == '@' || c == ',', .group 2 (price U)])]

/-- `\bSL[\s:]+[\d.,]+`. -/
def statedSl : Regex Char :=
  .all [boundary U, letters "sl", .plus fun c => isBlank c || c == ':', price U]

/-- `\bTP\s*\d`. -/
def statedTp : Regex Char := .all [boundary U, letters "tp", spaces, .one U.isDigit]

/-- `\*+([^*\n]+)\*+`. -/
def bold : Regex Char :=
  .all [.plus (· == '*'), .group 1 (.plus fun c => c != '*' && c != '\n'), .plus (· == '*')]

end Pattern

end Forex
