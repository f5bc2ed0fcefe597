import SchemaAtlas.Json.Basic
import SchemaAtlas.Text.Encoding
import SchemaAtlas.Text.Numeral
/-!
Reading JSON from code points. Besides the standard's values there are three words for numbers that
no digits write, a whole number may not be longer than a numeral, and lists and objects may not stand
too deep in one another.
-/
namespace SchemaAtlas

namespace JsonReal

def countDigits (value : Nat) : Nat := (Nat.toDigits 10 value).length

/-- A number so small that the nearest binary number of double precision is zero. -/
def isZero : JsonReal → Bool
  | .infinite | .undefined => false
  | .finite mantissa exponent =>
    let size := mantissa.natAbs
    if size == 0 then true
    else if 0 ≤ exponent then false
    else if countDigits size + 400 < exponent.natAbs then true
    else size * Nat.pow 2 1075 ≤ Nat.pow 10 exponent.natAbs

end JsonReal

namespace Json

/-- What can hold other values. -/
inductive Container where
  | array
  | object
deriving DecidableEq, Repr

/-- Why a text gives no value. It is read from its beginning, so the first fault counts. -/
inductive Fault where
  | malformed
  | tooDeep (container : Container)
deriving DecidableEq, Repr

namespace Reader

abbrev Points := List Nat

def isBlank (point : Nat) : Bool :=
  point == 0x20 || point == 0x09 || point == 0x0A || point == 0x0D

def skip (points : Points) : Points := points.dropWhile isBlank

/-- What follows a word. -/
def after? (word : String) (points : Points) : Option Points :=
  let expected := word.toList.map Char.toNat
  if expected.isPrefixOf points then some (points.drop expected.length) else none

/-- A character of a string, or sixteen bits of one that an escape gives. -/
inductive Unit16 where
  | plain (point : Nat)
  | escaped (unit : Nat)
deriving DecidableEq, Repr

def hexValue? (point : Nat) : Option Nat := Text.hexValue? (Char.ofNat point)

def simpleEscape? (point : Nat) : Option Nat :=
  [('"', '"'), ('\\', '\\'), ('/', '/'), ('b', '\x08'), ('f', '\x0c'), ('n', '\n'), ('r', '\r'),
    ('t', '\t')].findSome? fun (letter, value) =>
      if letter.toNat == point then some value.toNat else none

def hexUnit? (a b c d : Nat) : Option Nat := do
  return (((← hexValue? a) * 16 + (← hexValue? b)) * 16 + (← hexValue? c)) * 16 + (← hexValue? d)

/-- The rest of a string, and what follows its closing mark. Control characters must be escaped. -/
def units? : Points → Option (List Unit16 × Points)
  | [] => none
  | 0x22 :: rest => some ([], rest)
  | 0x5C :: 0x75 :: a :: b :: c :: d :: rest => do
    let unit ← hexUnit? a b c d
    let (units, rest) ← units? rest
    return (.escaped unit :: units, rest)
  | 0x5C :: letter :: rest => do
    let point ← simpleEscape? letter
    let (units, rest) ← units? rest
    return (.plain point :: units, rest)
  | point :: rest => do
    if point < 0x20 || point == 0x5C then none
    let (units, rest) ← units? rest
    return (.plain point :: units, rest)

/-- Two escapes in a row may be the halves of a pair. -/
def join : List Unit16 → Points
  | [] => []
  | .plain point :: rest => point :: join rest
  | [.escaped unit] => [unit]
  | .escaped unit :: .plain point :: rest => unit :: point :: join rest
  | .escaped high :: .escaped low :: rest =>
    if Encoding.isHighSurrogate high && Encoding.isLowSurrogate low then
      Encoding.pairPoint high low :: join rest
    else high :: join (.escaped low :: rest)

def stringPoints? (points : Points) : Option (Points × Points) := do
  let (units, rest) ← units? points
  return (join units, rest)

def textOfPoints (points : Points) : Json :=
  match Encoding.text? points with
  | some text => .string (String.ofList text)
  | none => .unpaired points

/-- The name of a member, where half a pair is shown by the replacement character. -/
def memberName (points : Points) : String :=
  String.ofList (points.map fun point =>
    if Encoding.isSurrogate point then '\ufffd' else Char.ofNat point)

def isDigit (point : Nat) : Bool := 0x30 ≤ point && point ≤ 0x39

def digitsValue (digits : Points) : Nat :=
  digits.foldl (fun sum digit => 10 * sum + (digit - 0x30)) 0

/-- The digits after a decimal point, if there are any. -/
def fraction (points : Points) : Points × Points :=
  match points with
  | 0x2E :: rest =>
    match rest.takeWhile isDigit with
    | [] => ([], points)
    | digits => (digits, rest.dropWhile isDigit)
  | _ => ([], points)

def exponent? (points : Points) : Option (Int × Points) :=
  match points with
  | mark :: rest =>
    if mark == 0x65 || mark == 0x45 then
      let (negative, rest) := match rest with
        | 0x2D :: rest => (true, rest)
        | 0x2B :: rest => (false, rest)
        | rest => (false, rest)
      match rest.takeWhile isDigit with
      | [] => none
      | digits =>
        let value := (digitsValue digits : Int)
        some (if negative then -value else value, rest.dropWhile isDigit)
    else none
  | [] => none

/-- The digits before the decimal point; after a leading zero there are no more. -/
def wholeDigits (points : Points) : Points × Points :=
  match points with
  | 0x30 :: rest => ([0x30], rest)
  | _ => (points.takeWhile isDigit, points.dropWhile isDigit)

def number? (negative : Bool) (points : Points) : Option (Json × Points) :=
  let signed := fun value : Nat => if negative then -(value : Int) else value
  match wholeDigits points with
  | ([], _) => none
  | (whole, rest) =>
    let (decimals, rest) := fraction rest
    match exponent? rest with
    | some (exponent, rest) =>
      some (.real (.finite (signed (digitsValue (whole ++ decimals)))
        (exponent - decimals.length)), rest)
    | none =>
      if decimals != [] then
        some (.real (.finite (signed (digitsValue (whole ++ decimals))) (-decimals.length)), rest)
      else if Numeral.mostDigits < whole.length then none
      else some (.integer (signed (digitsValue whole)), rest)

def constants : List (String × Json) :=
  [("null", .null), ("true", .bool true), ("false", .bool false), ("NaN", .real .undefined),
   ("Infinity", .real .infinite), ("-Infinity", .real .infinite)]

def scalar? (points : Points) : Option (Json × Points) :=
  let constant := constants.findSome? fun (word, value) =>
    (after? word points).map fun rest => (value, rest)
  match constant, points with
  | some found, _ => some found
  | none, 0x22 :: rest => do
    let (content, rest) ← stringPoints? rest
    return (textOfPoints content, rest)
  | none, 0x2D :: rest => number? true rest
  | none, _ => number? false points

def orMalformed {α : Type} (found : Option α) : Except Fault α :=
  found.elim (.error .malformed) .ok

mutual

/-- The value at the beginning of the text, with room for so many lists and objects in one another.
Every step takes one of `fuel`. -/
def value : (fuel room : Nat) → Points → Except Fault (Json × Points)
  | 0, _, _ => .error .malformed
  | _ + 1, 0, 0x5B :: _ => .error (.tooDeep .array)
  | _ + 1, 0, 0x7B :: _ => .error (.tooDeep .object)
  | fuel + 1, room + 1, 0x5B :: rest => do
    let (items, rest) ← items fuel room (skip rest)
    return (.array items, rest)
  | fuel + 1, room + 1, 0x7B :: rest => do
    let (members, rest) ← members fuel room (skip rest)
    return (.object members, rest)
  | _ + 1, _, points => orMalformed (scalar? points)

def items : (fuel room : Nat) → Points → Except Fault (List Json × Points)
  | 0, _, _ => .error .malformed
  | _ + 1, _, 0x5D :: rest => .ok ([], rest)
  | fuel + 1, room, points => do
    let (item, rest) ← value fuel room points
    let (items, rest) ← moreItems fuel room (skip rest)
    return (item :: items, rest)

def moreItems : (fuel room : Nat) → Points → Except Fault (List Json × Points)
  | 0, _, _ => .error .malformed
  | _ + 1, _, 0x5D :: rest => .ok ([], rest)
  | fuel + 1, room, 0x2C :: rest => do
    let (item, rest) ← value fuel room (skip rest)
    let (items, rest) ← moreItems fuel room (skip rest)
    return (item :: items, rest)
  | _ + 1, _, _ => .error .malformed

def members : (fuel room : Nat) → Points → Except Fault (List (String × Json) × Points)
  | 0, _, _ => .error .malformed
  | _ + 1, _, 0x7D :: rest => .ok ([], rest)
  | fuel + 1, room, points => do
    let (first, rest) ← member fuel room points
    let (members, rest) ← moreMembers fuel room (skip rest)
    return (first :: members, rest)

def moreMembers : (fuel room : Nat) → Points → Except Fault (List (String × Json) × Points)
  | 0, _, _ => .error .malformed
  | _ + 1, _, 0x7D :: rest => .ok ([], rest)
  | fuel + 1, room, 0x2C :: rest => do
    let (first, rest) ← member fuel room (skip rest)
    let (members, rest) ← moreMembers fuel room (skip rest)
    return (first :: members, rest)
  | _ + 1, _, _ => .error .malformed

def member : (fuel room : Nat) → Points → Except Fault ((String × Json) × Points)
  | 0, _, _ => .error .malformed
  | fuel + 1, room, 0x22 :: rest => do
    let (name, rest) ← orMalformed (stringPoints? rest)
    match skip rest with
    | 0x3A :: rest =>
      let (content, rest) ← value fuel room (skip rest)
      return ((memberName name, content), rest)
    | _ => .error .malformed
  | _ + 1, _, _ => .error .malformed

end

/-- Each step but those from list to item reads a character. -/
def fuelFor (points : Points) : Nat := 3 * points.length + 3

/-- How many lists and objects may stand in one another. -/
def deepest : Nat := 970

end Reader

/-- The value that a text consists of, apart from blanks around it. -/
def ofPoints (points : List Nat) : Except Fault Json := do
  let (value, rest) ← Reader.value (Reader.fuelFor points) Reader.deepest (Reader.skip points)
  if Reader.skip rest == [] then return value else throw .malformed

/-- The value that bytes write in one of the encodings of Unicode. -/
def ofBytes (bytes : List Nat) : Except Fault Json :=
  (Encoding.detected bytes).elim (.error .malformed) ofPoints

/-- Of several members of one name the last counts. -/
def member? (members : List (String × Json)) (name : String) : Option Json :=
  members.reverse.lookup name

/-- Values that count as nothing. -/
def isVoid : Json → Bool
  | null => true
  | bool value => !value
  | integer value => value == 0
  | real value => value.isZero
  | string value => value == ""
  | unpaired points => points == []
  | array items => items.isEmpty
  | object members => members.isEmpty

end Json
end SchemaAtlas
