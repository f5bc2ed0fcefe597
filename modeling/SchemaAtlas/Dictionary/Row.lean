import SchemaAtlas.Schema.Basic
/-!
The data dictionary of a schema: for each table a row for each column, and a note on its foreign
keys.
-/
namespace SchemaAtlas.Dictionary

structure Row where
  column : String
  type : String
  length : String
  nullable : String
  key : String
  default : String
  notes : String
deriving DecidableEq, Repr

def headers : List String := ["Column", "Type", "Length", "Nullable", "Key", "Default", "Notes"]

def Row.cells (row : Row) : List String :=
  [row.column, row.type, row.length, row.nullable, row.key, row.default, row.notes]

/-- The texts with a separator between them, or a dash if there are none. -/
def orDash (separator : String) : List String → String
  | [] => "-"
  | texts => separator.intercalate texts

/-- The arguments of a type: its numbers, or else what its full text adds in parentheses. -/
def lengthText (type : DataType) : String :=
  match type.size, type.scale with
  | some size, some scale => s!"{size},{scale}"
  | some size, none => toString size
  | none, _ =>
    if type.full == type.base then "-"
    else String.ofList (type.full.toList.drop (type.base.length + 1)).dropLast

def keyText (column : Column) : String :=
  orDash "," <|
    (if column.isPrimaryKey then ["PK"] else []) ++ (if column.isForeignKey then ["FK"] else []) ++
      (if column.isUnique && !column.isPrimaryKey then ["UQ"] else [])

def defaultText (column : Column) : String :=
  match column.defaultValue with
  | some value => value
  | none => if column.isNullable then "NULL" else "-"

def targetText (target : Reference) : String := "→ " ++ target.table ++ "." ++ target.column

/-- An identity number that was never given. -/
def numberText (number : Option Int) : String :=
  match number with
  | some number => toString number
  | none => "None"

def identityText (column : Column) : String :=
  "IDENTITY(" ++ numberText column.identitySeed ++ "," ++ numberText column.identityIncrement ++ ")"

def notesText (column : Column) : String :=
  orDash "; " <|
    (if column.isIdentity then [identityText column] else []) ++
      (column.references.map targetText).toList

def Row.ofColumn (column : Column) : Row :=
  ⟨column.name, column.type.base, lengthText column.type,
    if column.isNullable then "Yes" else "No", keyText column, defaultText column,
    notesText column⟩

def rows (table : Table) : List Row := table.columns.entries.map Row.ofColumn

/-- The foreign keys of a table in one line, which is empty if it has none. -/
def foreignKeyNote (table : Table) : String :=
  "; ".intercalate <| table.columns.entries.filterMap fun column =>
    column.references.map fun target => column.name ++ " " ++ targetText target

/-- The heading of the table at a position, counted from one. -/
def heading (position : Nat) (table : Table) : String := s!"Table {position + 1}: {table.name}"

end SchemaAtlas.Dictionary
