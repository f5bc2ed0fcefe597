import SchemaAtlas.Text.Blank
import SchemaAtlas.Text.Digit
import SchemaAtlas.Text.Quoted
/-!
Whole numbers as people write them: digits of any script, an optional sign, single underscores
between digits and blanks around the whole. A numeral may not be longer than a fixed count of digits.
-/
namespace SchemaAtlas

inductive NumeralError where
  | malformed (text : Text)
  | tooLong (digits : Nat)
deriving DecidableEq, Repr

namespace Numeral
open Text

def mostDigits : Nat := 4300

/-- How much of a malformed text its message shows. -/
def shownWidth : Nat := 200

/-- Blanks that may surround a numeral; the information separators may not. -/
def isMargin (c : Char) : Bool := isBlank c && !(28 ≤ c.toNat && c.toNat ≤ 31)

def isPlace (c : Char) : Bool := c == '_' || isDecimalDigit c

/-- Each underscore stands between two digits, and a digit comes last. -/
def isGrouped (afterDigit : Bool) : Text → Bool
  | [] => afterDigit
  | c :: rest => if c == '_' then afterDigit && isGrouped false rest else isGrouped true rest

/-- The values of the digits, most significant first. -/
def places (run : Text) : List Nat := run.filterMap digitValue?

def magnitude (run : Text) : Nat := (places run).foldl (fun sum place => 10 * sum + place) 0

def splitSign : Text → Bool × Text
  | '-' :: rest => (true, rest)
  | '+' :: rest => (false, rest)
  | text => (false, text)

/-- A length past the limit is reported before anything that follows the digits. -/
def read (text : Text) : Except NumeralError Int :=
  let (negative, unsigned) := splitSign (text.dropWhile isMargin)
  let run := unsigned.takeWhile isPlace
  if !isGrouped false run then .error (.malformed text)
  else if mostDigits < (places run).length then .error (.tooLong (places run).length)
  else if !(unsigned.dropWhile isPlace).all isMargin then .error (.malformed text)
  else .ok (if negative then -(magnitude run : Int) else magnitude run)

end Numeral

def NumeralError.message : NumeralError → String
  | .malformed text =>
    "invalid literal for int() with base 10: " ++
      String.ofList ((Text.quoted text).take Numeral.shownWidth)
  | .tooLong digits =>
    s!"Exceeds the limit ({Numeral.mostDigits} digits) for integer string conversion: value has {digits} digits; use sys.set_int_max_str_digits() to increase the limit"

end SchemaAtlas
