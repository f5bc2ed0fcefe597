import SchemaAtlas.Pattern.Basic
import SchemaAtlas.Text.Numeral
/-!
Limits on how often each endpoint may be asked in a stretch of time, such as "200 per hour" or
"5/10 minutes". Several may stand in one text, and all of them hold.
-/
namespace SchemaAtlas

inductive Period where
  | second
  | minute
  | hour
  | day
  | month
  | year
deriving DecidableEq, Repr

namespace Period

def all : List Period := [.second, .minute, .hour, .day, .month, .year]

def label : Period → String
  | .second => "second"
  | .minute => "minute"
  | .hour => "hour"
  | .day => "day"
  | .month => "month"
  | .year => "year"

/-- A month has thirty days, and a year has twelve months. -/
def seconds : Period → Nat
  | .second => 1
  | .minute => 60
  | .hour => 60 * 60
  | .day => 24 * 60 * 60
  | .month => 30 * 24 * 60 * 60
  | .year => 12 * 30 * 24 * 60 * 60

/-- A period is named in the singular or the plural, in any letter case. -/
def ofName? (name : Text) : Option Period :=
  let name := String.ofList (name.map Char.toLower)
  all.find? fun period => name == period.label || name == period.label ++ "s"

end Period

/-- So many requests in so many periods. -/
structure RateLimit where
  count : Nat
  factor : Nat
  period : Period
deriving DecidableEq, Repr

namespace RateLimit
open Pattern

inductive Fault where
  | malformed (text : Text)
  | unknownPeriod (name : Text)
  | numeral (cause : NumeralError)
  | tooLong
deriving DecidableEq, Repr

def Fault.message : Fault → String
  | .malformed text => "couldn't parse rate limit string '" ++ String.ofList text ++ "'"
  | .unknownPeriod name => "no granularity matched for " ++ String.ofList name
  | .numeral cause => cause.message
  | .tooLong => "int too large to convert to float"

def phrase : Pattern :=
  perhapsBlanks ++ named .count (several Char.isDigit) ++
    (perhapsBlanks ++ exactly '/' <|> perhapsBlanks ++ word "PER" ++ perhapsBlanks) ++
    perhapsBlanks ++ named .factor (many Char.isDigit) ++
    perhapsBlanks ++ named .period (several isLatinLetter) ++ perhapsBlanks

def isSeparator (c : Char) : Bool := c == ',' || c == ';' || c == '|'

def fields (text : Text) : List Text :=
  Text.fields ',' (text.map fun c => if isSeparator c then ',' else c)

def fills (pattern : Pattern) (field : Text) : Bool :=
  (pattern.match? field).any (·.span.stop == field.length)

/-- Every field is a limit. A colon may stand before a separator. -/
def isWellFormed (fields : List Text) : Bool :=
  fields.dropLast.all (fills (phrase ++ optional (exactly ':'))) && fields.getLast?.any (fills phrase)

/-- A factor of zero counts as none. -/
def readFactor (digits : Text) : Except NumeralError Nat := do
  let factor ← if digits == [] then .ok 0 else Numeral.read digits
  return max factor.toNat 1

def readField (field : Text) : Except Fault RateLimit := do
  let part := fun part => ((phrase.match? field).bind (·.text? part field)).getD []
  match Period.ofName? (part .period) with
  | none => throw (.unknownPeriod (part .period))
  | some period =>
    let count ← (Numeral.read (part .count)).mapError .numeral
    let factor ← (readFactor (part .factor)).mapError .numeral
    return ⟨count.toNat, factor, period⟩

/-- The limits of a text; an empty text sets none. -/
def read (text : Text) : Except Fault (List RateLimit) :=
  if text == [] then .ok []
  else if isWellFormed (fields text) then (fields text).mapM readField
  else .error (.malformed text)

def seconds (limit : RateLimit) : Nat := limit.factor * limit.period.seconds

/-- A time of so many seconds rounds to a power of two that no double reaches. -/
def endlessTime : Nat := Nat.pow 2 1024 - Nat.pow 2 970

-- A limit counts a request unless one before it was exceeded, so all that are asked count alike.
/-- Whether as many requests are too many. The limits are asked in order. -/
def exceeded (requests : Nat) : List RateLimit → Except Fault Bool
  | [] => .ok false
  | limit :: rest =>
    if endlessTime ≤ limit.seconds then .error .tooLong
    else if limit.count < requests then .ok true
    else exceeded requests rest

/-- Limits in small periods are asked first, whatever their factors. -/
def inOrder (limits : List RateLimit) : List RateLimit :=
  limits.mergeSort fun a b => a.period.seconds ≤ b.period.seconds

end RateLimit
end SchemaAtlas
