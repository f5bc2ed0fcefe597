import SchemaAtlas.Text.Digit
/-!
Names for the eye. A name is cut into words where the kind of character changes, anything but ASCII
letters and digits is dropped, and each word gets a capital letter.
-/
namespace SchemaAtlas.DisplayName

inductive CharacterKind where
  | capital
  | small
  | digit
  | other
deriving DecidableEq, Repr

def kind (c : Char) : CharacterKind :=
  if c.isUpper then .capital
  else if c.isLower then .small
  else if Text.isDecimalDigit c then .digit
  else .other

def beginsSmall (text : Text) : Bool := text.head?.any (kind · == .small)

-- Of "HTTPLogs" the L is a capital before a small letter, so the words are "HTTP" and "Logs".
/-- A character belongs to the word of the next one. A capital before a small letter begins a word,
so it leaves the capitals before it. -/
def joins (c : Char) : Text → Bool
  | [] => false
  | next :: rest =>
    match kind c, kind next with
    | .digit, .digit => true
    | .small, .small => true
    | .capital, .small => true
    | .capital, .capital => !beginsSmall rest
    | _, _ => false

def words : Text → List Text
  | [] => []
  | c :: rest =>
    if kind c == .other then words rest
    else if joins c rest then Text.extendFirst c (words rest)
    else [c] :: words rest

def capitalized : Text → Text
  | [] => []
  | c :: rest => c.toUpper :: rest.map Char.toLower

def ofName (name : Text) : Text := [' '].intercalate ((words name).map capitalized)

end SchemaAtlas.DisplayName
