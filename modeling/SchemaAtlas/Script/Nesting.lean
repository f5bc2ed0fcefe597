import SchemaAtlas.Script.Comment
import SchemaAtlas.Text.Offset
/-!
Parentheses and quotation marks of a script. Where a scan stands is told by the open quotation mark,
the depth of parentheses outside quotation marks and the character before.
-/
namespace SchemaAtlas.Script

structure Nesting where
  quote : Option Char
  depth : Nat
  last : Option Char
deriving DecidableEq, Repr

namespace Nesting

def outside : Nesting := ⟨none, 0, none⟩

-- The reader of comments lets a mark after a backslash open, and a value after DEFAULT knows no
-- backslashes at all. Each of the three rules is kept where it is used.
/-- A mark after a backslash neither opens nor closes. -/
def nextQuote (state : Nesting) (c : Char) : Option Char :=
  if isQuotationMark c && state.last != some '\\' then
    match state.quote with
    | none => some c
    | some mark => if c == mark then none else some mark
  else state.quote

/-- A closing parenthesis too many is passed over. -/
def step (state : Nesting) (c : Char) : Nesting :=
  let quote := state.nextQuote c
  let depth :=
    if quote.isSome then state.depth
    else if c == '(' then state.depth + 1
    else if c == ')' then state.depth - 1
    else state.depth
  ⟨quote, depth, some c⟩

def isTop (state : Nesting) : Bool := state.quote.isNone && state.depth == 0

end Nesting

/-- The pieces between the separators that stand outside quotation marks and parentheses. -/
def pieces (separator : Char) (state : Nesting) : Text → List Text
  | [] => [[]]
  | c :: rest =>
    let after := state.step c
    if c == separator && after.isTop then [] :: pieces separator after rest
    else Text.extendFirst c (pieces separator after rest)

def splitTop (separator : Char) (text : Text) : List Text :=
  (pieces separator .outside text).map Text.trim

/-- The statements of a script, between semicolons; empty ones do not count. -/
def statements (script : Text) : List Text := (splitTop ';' script).filter (· != [])

/-- The clauses of a table body, between commas. An empty clause between commas counts, but a blank
body has none. -/
def clauses (body : Text) : List Text := if Text.isAllBlank body then [] else splitTop ',' body

/-- How many characters precede the one that brings the depth back to zero. -/
def closing? (state : Nesting) : Text → Option Nat
  | [] => none
  | c :: rest =>
    let after := state.step c
    if after.depth == 0 then some 0 else (closing? after rest).map (· + 1)

/-- Just after an opening parenthesis. -/
def Nesting.opened : Nesting := ⟨none, 1, some '('⟩

/-- The text in the parentheses that open at an offset, and the offset where they close. -/
def group? (text : Text) (start : Nat) : Option (Text × Nat) :=
  match text.drop start with
  | '(' :: rest => (closing? .opened rest).map fun length => (rest.take length, start + 1 + length)
  | _ => none

-- Offsets below zero go on to zero and then run through the whole text again.
/-- A group that opens at a place counted from the end. Its text is sought to the end and then once
more from the beginning, where offsets are counted from zero again. -/
def groupFromEnd? (text : Text) (back : Nat) : Option (Text × Int) :=
  match text.drop (text.length - back) with
  | '(' :: rest =>
    match closing? .opened rest with
    | some length => some (rest.take length, 1 + length - (back : Int))
    | none =>
      let turned := { rest.foldl Nesting.step .opened with last := none }
      (closing? turned text).map fun stop =>
        ((text.take stop).drop (if back == 1 then 0 else text.length - back + 1), (stop : Int))
  | _ => none

/-- A group at an offset that may be negative. -/
def groupAt (text : Text) (index : Int) : Except OffsetFault (Option (Text × Int)) :=
  match index with
  | .ofNat start => .ok ((group? text start).map fun (inner, stop) => (inner, (stop : Int)))
  | .negSucc before => (Text.distance text before).map (groupFromEnd? text)

/-- Blanks out what stands between single quotation marks and keeps every offset. -/
def maskFrom (quoted : Bool) : Text → Text
  | [] => []
  | c :: rest =>
    if c == '\'' then c :: maskFrom (!quoted) rest
    else (if quoted then ' ' else c) :: maskFrom quoted rest

def mask (text : Text) : Text := maskFrom false text

theorem length_maskFrom (quoted : Bool) (text : Text) :
    (maskFrom quoted text).length = text.length := by
  induction text generalizing quoted with
  | nil => rfl
  | cons c rest ih => unfold maskFrom; split <;> simp [ih]

theorem length_mask (text : Text) : (mask text).length = text.length := length_maskFrom false text

end SchemaAtlas.Script
