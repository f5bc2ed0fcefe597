import SchemaAtlas.Text.Alphanumeric
import SchemaAtlas.Text.Blank
/-!
Patterns over text and their matches. A pattern is tried from a place in the text, its alternatives
in order and its repetitions longest first, and the first way that lets the rest of the pattern match
is taken. A match gives the span of the whole and of each named part.
-/
namespace SchemaAtlas

/-- The parts of a phrase that a match can name. -/
inductive Part where
  | name
  | table
  | column
  | columns
  | targetColumns
  | type
  | arguments
  | body
  | action
  | seed
  | increment
  | unique
  | count
  | factor
  | period
deriving DecidableEq, Repr

/-- A stretch of the text, from the offset `start` up to the offset `stop`. -/
structure Span where
  start : Nat
  stop : Nat
deriving DecidableEq, Repr

def Span.of (span : Span) (text : Text) : Text := (text.drop span.start).take (span.stop - span.start)

/-- A place in a text: how many characters precede it, the nearest of them, and what follows. -/
structure Cursor where
  offset : Nat
  last : Option Char
  rest : Text
deriving DecidableEq, Repr

namespace Cursor

def start (text : Text) : Cursor := ⟨0, none, text⟩

/-- A word begins or ends here. -/
def atEdge (place : Cursor) : Bool :=
  place.last.any Text.isWordCharacter != place.rest.head?.any Text.isWordCharacter

/-- The end of the text, where one final line break is not counted. -/
def atEnd (place : Cursor) : Bool := place.rest == [] || place.rest == ['\n']

def finish (place : Cursor) : Cursor :=
  ⟨place.offset + place.rest.length, place.rest.getLast?.or place.last, []⟩

/-- The places that a run of characters with the property can reach, the farthest first. -/
def reach (test : Char → Bool) (offset : Nat) (last : Option Char) (reached : List Cursor) :
    Text → List Cursor
  | [] => ⟨offset, last, []⟩ :: reached
  | c :: rest =>
    let here := ⟨offset, last, c :: rest⟩ :: reached
    if test c then reach test (offset + 1) (some c) here rest else here

end Cursor

inductive Pattern where
  | nothing
  | one (test : Char → Bool)
  | many (test : Char → Bool)
  | edge
  | ending
  | remainder
  | followed (first second : Pattern)
  | either (first second : Pattern)
  | optional (inner : Pattern)
  | named (part : Part) (inner : Pattern)

structure Match where
  span : Span
  parts : List (Part × Span)
deriving DecidableEq, Repr

def Match.part? (found : Match) (part : Part) : Option Span := found.parts.lookup part

/-- The text of a part, or nothing if the match went without it. -/
def Match.text? (found : Match) (part : Part) (text : Text) : Option Text :=
  (found.part? part).map (·.of text)

namespace Pattern

instance : Append Pattern := ⟨followed⟩

instance : OrElse Pattern := ⟨fun first second => either first (second ())⟩

def several (test : Char → Bool) : Pattern := one test ++ many test

def exactly (c : Char) : Pattern := one (· == c)

def blanks : Pattern := several Text.isBlank

def perhapsBlanks : Pattern := many Text.isBlank

-- The long s, the sign for kelvin and the two i that Turkish adds fold to ASCII letters.
/-- A letter in either case; three letters of other alphabets count as one of these. -/
def isLetter (letter c : Char) : Bool :=
  c == letter || c == letter.toLower ||
    (letter == 'S' && c == 'ſ') || (letter == 'K' && c == '\u212a') ||
    (letter == 'I' && (c == 'İ' || c == 'ı'))

def letters : Text → Pattern
  | [] => nothing
  | [letter] => one (isLetter letter)
  | letter :: rest => one (isLetter letter) ++ letters rest

def isLatinLetter (c : Char) : Bool := "ABCDEFGHIJKLMNOPQRSTUVWXYZ".toList.any (isLetter · c)

/-- A keyword, given in capitals, in any letter case. -/
def word (keyword : String) : Pattern := letters keyword.toList

-- Continuations make the order of trials plain: whatever `next` refuses makes the pattern try its
-- next alternative, so a part that is given up takes its named spans with it.
/-- Tries a pattern at a place; `next` is asked to go on from where it ends. -/
def run {α : Type} : Pattern → Cursor → List (Part × Span) →
    (Cursor → List (Part × Span) → Option α) → Option α
  | nothing, place, parts, next => next place parts
  | one test, place, parts, next =>
    match place.rest with
    | [] => none
    | c :: rest => if test c then next ⟨place.offset + 1, c, rest⟩ parts else none
  | many test, place, parts, next =>
    (Cursor.reach test place.offset place.last [] place.rest).findSome? (next · parts)
  | edge, place, parts, next => if place.atEdge then next place parts else none
  | ending, place, parts, next => if place.atEnd then next place parts else none
  | remainder, place, parts, next => next place.finish parts
  | followed first second, place, parts, next =>
    run first place parts fun middle parts => run second middle parts next
  | either first second, place, parts, next =>
    (run first place parts next).or (run second place parts next)
  | optional inner, place, parts, next =>
    (run inner place parts next).or (next place parts)
  | named part inner, place, parts, next =>
    run inner place parts fun stop parts => next stop ((part, ⟨place.offset, stop.offset⟩) :: parts)

def matchAt (pattern : Pattern) (place : Cursor) : Option Match :=
  run pattern place [] fun stop parts => some ⟨⟨place.offset, stop.offset⟩, parts⟩

/-- The match that begins where the text begins. -/
def match? (pattern : Pattern) (text : Text) : Option Match := pattern.matchAt (.start text)

def findFrom (pattern : Pattern) (offset : Nat) (last : Option Char) : Text → Option Match
  | [] => pattern.matchAt ⟨offset, last, []⟩
  | c :: rest =>
    match pattern.matchAt ⟨offset, last, c :: rest⟩ with
    | some found => found
    | none => findFrom pattern (offset + 1) c rest

/-- The first match in the text. -/
def find? (pattern : Pattern) (text : Text) : Option Match := pattern.findFrom 0 none text

def occurs (pattern : Pattern) (text : Text) : Bool := (pattern.find? text).isSome

/-- The matches of a pattern that takes at least one character, none of which begins before
`resume`. -/
def findAllFrom (pattern : Pattern) (resume offset : Nat) (last : Option Char) : Text → List Match
  | [] => []
  | c :: rest =>
    if offset < resume then findAllFrom pattern resume (offset + 1) c rest
    else match pattern.matchAt ⟨offset, last, c :: rest⟩ with
      | some found => found :: findAllFrom pattern found.span.stop (offset + 1) c rest
      | none => findAllFrom pattern resume (offset + 1) c rest

/-- The matches in the text from left to right, each after the one before. -/
def findAll (pattern : Pattern) (text : Text) : List Match := pattern.findAllFrom 0 0 none text

end Pattern
end SchemaAtlas
