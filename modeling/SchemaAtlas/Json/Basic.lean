import SchemaAtlas.Text.Hexadecimal
/-!
JSON values and how they are written: on one line without blanks, or over lines that are indented by
two. Text may be kept to ASCII, where any other character is written as an escape.
-/
namespace SchemaAtlas

/-- A number that is not written as a whole number. -/
inductive JsonReal where
  | finite (mantissa exponent : Int)
  | infinite
  | undefined
deriving DecidableEq, Repr

/-- A string that holds half of a surrogate pair is no text; its code points are kept. -/
inductive Json where
  | null
  | bool (value : Bool)
  | integer (value : Int)
  | real (value : JsonReal)
  | string (value : String)
  | unpaired (points : List Nat)
  | array (items : List Json)
  | object (members : List (String × Json))
deriving Repr, Inhabited

namespace Json

def ofOption {α : Type} (encode : α → Json) : Option α → Json
  | none => null
  | some value => encode value

def ofList {α : Type} (encode : α → Json) (values : List α) : Json := array (values.map encode)

/-- An escape for each unit of sixteen bits. -/
def unitEscape (unit : Nat) : Text := '\\' :: 'u' :: Text.hexadecimal 4 unit

def pointEscape (point : Nat) : Text :=
  if point < 0x10000 then unitEscape point
  else
    let offset := point - 0x10000
    unitEscape (0xD800 + offset / 0x400) ++ unitEscape (0xDC00 + offset % 0x400)

def escapedCharacter (ascii : Bool) (c : Char) : Text :=
  if c == '"' || c == '\\' then ['\\', c]
  else if c == '\n' then ['\\', 'n']
  else if c == '\r' then ['\\', 'r']
  else if c == '\t' then ['\\', 't']
  else if c == '\x08' then ['\\', 'b']
  else if c == '\x0c' then ['\\', 'f']
  else if c.toNat < 0x20 || (ascii && 0x7F ≤ c.toNat) then pointEscape c.toNat
  else [c]

def stringText (ascii : Bool) (text : Text) : Text :=
  '"' :: text.flatMap (escapedCharacter ascii) ++ ['"']

def unpairedText (points : List Nat) : Text := '"' :: points.flatMap pointEscape ++ ['"']

def realText : JsonReal → Text
  | .finite mantissa exponent => s!"{mantissa}e{exponent}".toList
  | .infinite => "Infinity".toList
  | .undefined => "NaN".toList

/-- How a value is laid out: what comes after a comma and a colon, and whether lines are broken. -/
structure Layout where
  ascii : Bool
  comma : Text
  colon : Text
  indents : Bool

def Layout.compact : Layout := ⟨true, [','], [':'], false⟩

def Layout.spaced : Layout := ⟨true, [',', ' '], [':', ' '], false⟩

def Layout.indented (ascii : Bool) : Layout := ⟨ascii, [','], [':', ' '], true⟩

/-- The break before an item or a closing bracket at a depth. -/
def Layout.lineBreak (layout : Layout) (depth : Nat) : Text :=
  if layout.indents then '\n' :: List.replicate (2 * depth) ' ' else []

mutual

def write (layout : Layout) (depth : Nat) : Json → Text
  | null => "null".toList
  | bool value => (if value then "true" else "false").toList
  | integer value => (toString value).toList
  | real value => realText value
  | string value => stringText layout.ascii value.toList
  | unpaired points => unpairedText points
  | array [] => ['[', ']']
  | array (item :: items) =>
    '[' :: layout.lineBreak (depth + 1) ++ write layout (depth + 1) item ++
      writeItems layout (depth + 1) items ++ layout.lineBreak depth ++ [']']
  | object [] => ['\x7b', '\x7d']
  | object (member :: members) =>
    '\x7b' :: layout.lineBreak (depth + 1) ++ writeMember layout (depth + 1) member ++
      writeMembers layout (depth + 1) members ++ layout.lineBreak depth ++ ['\x7d']

def writeItems (layout : Layout) (depth : Nat) : List Json → Text
  | [] => []
  | item :: items =>
    layout.comma ++ layout.lineBreak depth ++ write layout depth item ++
      writeItems layout depth items

def writeMember (layout : Layout) (depth : Nat) : String × Json → Text
  | (name, value) =>
    stringText layout.ascii name.toList ++ layout.colon ++ write layout depth value

def writeMembers (layout : Layout) (depth : Nat) : List (String × Json) → Text
  | [] => []
  | member :: members =>
    layout.comma ++ layout.lineBreak depth ++ writeMember layout depth member ++
      writeMembers layout depth members

end

def render (layout : Layout) (value : Json) : Text := write layout 0 value

end Json
end SchemaAtlas
