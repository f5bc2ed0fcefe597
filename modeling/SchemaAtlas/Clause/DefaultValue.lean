import SchemaAtlas.Script.Comment
import SchemaAtlas.Text.Offset
import SchemaAtlas.Text.Uppercase
/-!
The value after DEFAULT. It is read token by token up to the next keyword of a column definition;
the first token belongs to the value whatever it is. A token ends at a blank outside quotation
marks and parentheses, and a backslash has no meaning here.
-/
namespace SchemaAtlas.DefaultValue

/-- The open quotation mark, and how many more parentheses have opened than closed. -/
structure TokenState where
  quote : Option Char
  depth : Int
deriving DecidableEq, Repr

namespace TokenState

def fresh : TokenState := ⟨none, 0⟩

def step (state : TokenState) (c : Char) : TokenState :=
  match state.quote with
  | some mark => if c == mark then { state with quote := none } else state
  | none =>
    if Script.isQuotationMark c then { state with quote := some c }
    else if c == '(' then { state with depth := state.depth + 1 }
    else if c == ')' then { state with depth := state.depth - 1 }
    else state

def endsAt (state : TokenState) (c : Char) : Bool :=
  state.quote.isNone && state.depth ≤ 0 && Text.isBlank c

end TokenState

/-- How many characters of the text still belong to the token. -/
def tokenLength (state : TokenState) : Text → Nat
  | [] => 0
  | c :: rest => if state.endsAt c then 0 else tokenLength (state.step c) rest + 1

/-- Where the token that begins at an offset ends. -/
def tokenEnd (text : Text) (start : Nat) : Nat := start + tokenLength .fresh (text.drop start)

/-- The tokens of a text; without a state, the next token has not begun. -/
def tokens : Option TokenState → Text → List Text
  | none, [] => []
  | some _, [] => [[]]
  | none, c :: rest =>
    if Text.isBlank c then tokens none rest
    else Text.extendFirst c (tokens (some (TokenState.fresh.step c)) rest)
  | some state, c :: rest =>
    if state.endsAt c then [] :: tokens none rest
    else Text.extendFirst c (tokens (some (state.step c)) rest)

/-- The keywords that end a value. -/
def stopWords : List String :=
  ["NOT", "NULL", "PRIMARY", "UNIQUE", "REFERENCES", "IDENTITY", "CHECK", "CONSTRAINT", "FOREIGN",
   "COLLATE", "ON", "AUTO_INCREMENT", "AUTOINCREMENT", "COMMENT"]

/-- Letter case and commas at the end do not matter. -/
def isStopWord (token : Text) : Bool :=
  stopWords.contains
    (String.ofList ((Text.uppercase token).reverse.dropWhile (· == ',')).reverse)

/-- The value that tokens make, with single spaces between them. -/
def ofTokens : List Text → Option Text
  | [] => none
  | first :: others => some ([' '].intercalate (first :: others.takeWhile (!isStopWord ·)))

/-- The value at an offset; nothing if only blanks follow. -/
def read (text : Text) (start : Nat) : Option Text := ofTokens (tokens none (text.drop start))

/-- Where the token that begins at an offset ends, which may be negative like the offset. -/
def tokenEndAt (text : Text) (start : Int) : Except OffsetFault Int :=
  match start with
  | .ofNat start => .ok (tokenEnd text start)
  | .negSucc before =>
    (Text.distance text before).map fun (distance : Nat) =>
      (tokenLength .fresh (Text.turned text distance) : Int) - distance

/-- The offsets at which the tokens of a text begin and end. -/
def spans : Option (Int × TokenState) → (offset : Int) → Text → List (Int × Int)
  | none, _, [] => []
  | some (start, _), offset, [] => [(start, offset)]
  | none, offset, c :: rest =>
    if Text.isBlank c then spans none (offset + 1) rest
    else spans (some (offset, TokenState.fresh.step c)) (offset + 1) rest
  | some (start, state), offset, c :: rest =>
    if state.endsAt c then (start, offset) :: spans none (offset + 1) rest
    else spans (some (start, state.step c)) (offset + 1) rest

-- A token that goes on from the end to the beginning is what lies between its two offsets.
/-- The value at an offset that may be negative. -/
def readAt (text : Text) : (start : Int) → Except OffsetFault (Option Text)
  | .ofNat start => .ok (read text start)
  | .negSucc before =>
    (Text.distance text before).map fun (distance : Nat) =>
      let spans := spans none (-distance) (Text.turned text distance)
      ofTokens (spans.map fun (start, stop) => Text.slice text start stop)

end SchemaAtlas.DefaultValue
