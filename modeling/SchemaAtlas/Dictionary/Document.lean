import SchemaAtlas.Dictionary.Row
import SchemaAtlas.Text.Basic
/-!
The data dictionary as the outline of a text document: paragraphs of runs and tables with three
rules. A document holds no control characters but tabs and line breaks.
-/
namespace SchemaAtlas.Document

inductive Error where
  | incompatibleText
deriving DecidableEq, Repr

def Error.message : Error → String
  | .incompatibleText =>
    "All strings must be XML compatible: Unicode or ASCII, no NULL bytes or control characters"

inductive Alignment where
  | left
  | center
deriving DecidableEq, Repr

inductive Style where
  | title
  | normal
deriving DecidableEq, Repr

/-- A stretch of text in one font; what is not set is left to the style. -/
structure Run where
  text : String
  bold : Bool
  italic : Bool
  halfPoints : Option Nat
deriving DecidableEq, Repr

/-- The indent is in document units, 360000 to the centimetre. -/
structure Paragraph where
  style : Style
  alignment : Option Alignment
  indent : Option Nat
  breaksPage : Bool
  runs : List Run
deriving DecidableEq, Repr

structure Cell where
  text : String
  alignment : Alignment
deriving DecidableEq, Repr

/-- The first row is the header. -/
structure Grid where
  rows : List (List Cell)
deriving DecidableEq, Repr

inductive Block where
  | paragraph (paragraph : Paragraph)
  | grid (grid : Grid)
deriving DecidableEq, Repr

def isCompatibleCharacter (c : Char) : Bool :=
  if c.toNat < 0x20 then c == '\t' || c == '\n' || c == '\r'
  else c.toNat != 0xFFFE && c.toNat != 0xFFFF

def isCompatible (text : String) : Bool := text.toList.all isCompatibleCharacter

/-- A carriage return is kept as a line break. -/
def storedText (text : String) : String :=
  String.ofList (text.toList.map fun c => if c == '\r' then '\n' else c)

def Run.make (text : String) (bold italic : Bool) (halfPoints : Option Nat) : Run :=
  ⟨storedText text, bold, italic, halfPoints⟩

def title : Block :=
  .paragraph ⟨.title, some .center, none, false, [.make "Database Schema" false false none]⟩

def summary (generated : String) (schema : Schema) : Block :=
  .paragraph ⟨.normal, some .center, none, false,
    [.make ("Generated: " ++ generated ++ "\n") false false (some 20),
     .make s!"Tables: {schema.tables.size}\n" false false (some 20),
     .make s!"Columns: {schema.columnCount}" false false (some 20)]⟩

def heading (position : Nat) (table : Table) : Block :=
  .paragraph ⟨.normal, some .center, none, false,
    [.make (Dictionary.heading position table) true false (some 24)]⟩

def headerRow : List Cell := Dictionary.headers.map (⟨·, .center⟩)

/-- The name, the type and the notes stand at the left. -/
def rowAlignments : List Alignment :=
  [.left, .left, .center, .center, .center, .center, .left]

def row (row : Dictionary.Row) : List Cell :=
  row.cells.zipWith (fun text alignment => ⟨storedText text, alignment⟩) rowAlignments

def grid (table : Table) : Grid := ⟨headerRow :: (Dictionary.rows table).map row⟩

/-- The rules at a cell of the first and of the last row, by edge and by eighths of a point. -/
def headRules : List (String × String) := [("top", "12"), ("bottom", "6")]

def lastRules : List (String × String) := [("bottom", "12")]

/-- A table without columns has one row, which is the first and the last. -/
def Grid.headBorders (grid : Grid) : List (List (String × String)) :=
  (grid.rows.headD []).map fun _ =>
    if grid.rows.length == 1 then headRules ++ lastRules else headRules

def Grid.lastBorders (grid : Grid) : List (List (String × String)) :=
  (grid.rows.getLastD []).map fun _ =>
    if grid.rows.length == 1 then headRules ++ lastRules else lastRules

def columnWidths : List Nat := [1080135, 899795, 539750, 539750, 539750, 899795, 1979930]

def noteIndent : Nat := 179705

def note (table : Table) : List Block :=
  match Dictionary.foreignKeyNote table with
  | "" => []
  | note => [.paragraph ⟨.normal, none, some noteIndent, false,
      [.make ("Note: foreign keys " ++ note) false true (some 18)]⟩]

def emptyLine : Block := .paragraph ⟨.normal, none, none, false, []⟩

def pageBreak : Block := .paragraph ⟨.normal, none, none, true, [.make "" false false none]⟩

/-- A page holds three tables. -/
def breaksAfter (count position : Nat) : Bool :=
  (position + 1) % 3 == 0 && position + 1 < count

def tableSection (count position : Nat) (table : Table) : List Block :=
  heading position table :: .grid (grid table) :: note table ++ emptyLine ::
    (if breaksAfter count position then [pageBreak] else [])

def outline (generated : String) (schema : Schema) : List Block :=
  title :: summary generated schema ::
    (schema.tables.entries.mapIdx (tableSection schema.tables.size)).flatten

/-- The texts that the schema brings into its document. -/
def texts (schema : Schema) : List String :=
  schema.tables.entries.flatMap fun table =>
    table.name :: (Dictionary.rows table).flatMap Dictionary.Row.cells ++
      [Dictionary.foreignKeyNote table]

-- Nothing is written of a document that holds one unsuitable text.
def write (generated : String) (schema : Schema) : Except Error (List Block) :=
  if (texts schema).all isCompatible then .ok (outline generated schema)
  else .error .incompatibleText

end SchemaAtlas.Document
