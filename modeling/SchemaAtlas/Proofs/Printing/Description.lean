import SchemaAtlas.Clause.Constraint
import SchemaAtlas.Proofs.Printing.Lexeme
import SchemaAtlas.Proofs.Text.Decimal
/-!
Descriptions of tables, how they are printed, and the tables that they describe. A description has
columns with attributes and then keys and links over its own columns. Its names are bare and none of
the keywords, so they need no quotation marks.
-/
namespace SchemaAtlas.Printing
open Text Pattern

/-- The keywords that the reader looks for. -/
def keywords : List String :=
  ["CONSTRAINT", "FOREIGN", "PRIMARY", "UNIQUE", "CHECK", "KEY", "IDENTITY", "AUTO_INCREMENT",
   "AUTOINCREMENT", "DEFAULT", "REFERENCES", "NOT", "NULL", "CREATE", "TABLE", "INDEX", "ALTER", "ON",
   "ADD"]

structure Identifier where
  text : Text
  bare : IsBare text
  free : ∀ keyword ∈ keywords, ¬Spells keyword text

def Identifier.name (identifier : Identifier) : String := String.ofList identifier.text

theorem Identifier.filled (identifier : Identifier) : identifier.name ≠ "" :=
  fun empty => identifier.bare.1 (String.ofList_injective empty)

/-- A number of at most as many digits as can be read. -/
structure Size where
  number : Nat
  short : Numeral.IsShort number

structure Counter where
  number : Int
  short : Numeral.IsShort number.natAbs

structure ColumnDescription where
  name : Identifier
  type : Identifier
  arguments : Option (Size × Option Size)
  notNull : Bool
  primaryKey : Bool
  unique : Bool
  identity : Option (Counter × Counter)
  references : Option (Identifier × Identifier)

inductive Action where
  | cascade
  | setNull
  | setDefault
  | noAction
  | restrict
deriving DecidableEq

inductive ClauseBody where
  | primaryKey (columns : List Identifier)
  | unique (columns : List Identifier)
  | foreignKey (links : List (Identifier × Identifier)) (table : Identifier)
    (onDelete onUpdate : Option Action)

def ClauseBody.columns : ClauseBody → List Identifier
  | primaryKey columns => columns
  | unique columns => columns
  | foreignKey links _ _ _ => links.map Prod.fst

def ClauseBody.family : ClauseBody → ConstraintFamily
  | primaryKey _ => .primaryKey
  | unique _ => .unique
  | foreignKey .. => .foreignKey

structure ClauseDescription where
  declared : Option Identifier
  body : ClauseBody
  filled : body.columns ≠ []

structure TableDescription where
  name : Identifier
  columns : List ColumnDescription
  clauses : List ClauseDescription
  distinct : (columns.map (·.name.name)).Nodup
  own : ∀ clause ∈ clauses, ∀ column ∈ clause.body.columns, column.name ∈ columns.map (·.name.name)

section Print

def listing (names : List Identifier) : Text := [',', ' '].intercalate (names.map Identifier.text)

def when (present : Bool) (lexemes : List Lexeme) : List Lexeme := if present then lexemes else []

/-- The size, and the scale behind a comma. -/
def argumentText : Size × Option Size → Text
  | (size, none) => Numeral.digits size.number
  | (size, some scale) => Numeral.digits size.number ++ ',' :: Numeral.digits scale.number

namespace ColumnDescription
variable (column : ColumnDescription)

def argumentLexemes : List Lexeme :=
  match column.arguments with
  | none => []
  | some numbers => [.group false (argumentText numbers)]

def identityLexemes : List Lexeme :=
  match column.identity with
  | none => []
  | some (seed, increment) =>
    [.keyword "IDENTITY",
     .group false (Numeral.written seed.number ++ ',' :: Numeral.written increment.number)]

def referenceLexemes : List Lexeme :=
  match column.references with
  | none => []
  | some (table, target) => [.keyword "REFERENCES", .name table.text, .group false target.text]

def flagLexemes : List Lexeme :=
  when column.notNull [.keyword "NOT", .keyword "NULL"] ++
    (when column.primaryKey [.keyword "PRIMARY", .keyword "KEY"] ++ when column.unique [.keyword "UNIQUE"])

def attributeLexemes : List Lexeme :=
  column.flagLexemes ++ (column.identityLexemes ++ column.referenceLexemes)

def lexemes : List Lexeme :=
  .name column.name.text :: .name column.type.text :: (column.argumentLexemes ++ column.attributeLexemes)

end ColumnDescription

def Action.lexemes : Action → List Lexeme
  | cascade => [.keyword "CASCADE"]
  | setNull => [.keyword "SET", .keyword "NULL"]
  | setDefault => [.keyword "SET", .keyword "DEFAULT"]
  | noAction => [.keyword "NO", .keyword "ACTION"]
  | restrict => [.keyword "RESTRICT"]

def eventLexemes (event : String) : Option Action → List Lexeme
  | none => []
  | some action => .keyword "ON" :: .keyword event :: action.lexemes

def ClauseBody.lexemes : ClauseBody → List Lexeme
  | primaryKey columns => [.keyword "PRIMARY", .keyword "KEY", .group true (listing columns)]
  | unique columns => [.keyword "UNIQUE", .group true (listing columns)]
  | foreignKey links table onDelete onUpdate =>
    .keyword "FOREIGN" :: .keyword "KEY" :: .group true (listing (links.map Prod.fst)) ::
      .keyword "REFERENCES" :: .name table.text :: .group true (listing (links.map Prod.snd)) ::
        (eventLexemes "DELETE" onDelete ++ eventLexemes "UPDATE" onUpdate)

def ClauseDescription.declarationLexemes (clause : ClauseDescription) : List Lexeme :=
  match clause.declared with
  | none => []
  | some name => [.keyword "CONSTRAINT", .name name.text]

def ClauseDescription.lexemes (clause : ClauseDescription) : List Lexeme :=
  clause.declarationLexemes ++ clause.body.lexemes

/-- The lexemes one after the other, without the space before the first of them. -/
def Prints (lexemes : List Lexeme) (text : Text) : Prop := Spelled lexemes (' ' :: text)

/-- The columns and the clauses stand in parentheses, with commas between them. -/
def TableDescription.Prints (table : TableDescription) (text : Text) : Prop :=
  ∃ columns clauses, List.Forall₂ (fun column => Printing.Prints column.lexemes) table.columns columns ∧
    List.Forall₂ (fun clause => Printing.Prints clause.lexemes) table.clauses clauses ∧
      Printing.Prints [.keyword "CREATE", .keyword "TABLE", .name table.name.text,
        .group true ([',', ' '].intercalate (columns ++ clauses))] text

/-- Tables are printed with semicolons between them. -/
def PrintsAll (tables : List TableDescription) (text : Text) : Prop :=
  ∃ texts, List.Forall₂ TableDescription.Prints tables texts ∧ text = [';'].intercalate texts

end Print

section Describe

/-- The type in capitals, as it is written. -/
def ColumnDescription.dataType (column : ColumnDescription) : DataType :=
  let base := String.ofList (capitals column.type.text)
  match column.arguments with
  | none => ⟨base, none, none, base⟩
  | some (size, none) => ⟨base, some size.number, none, s!"{base}({size.number})"⟩
  | some (size, some scale) =>
    ⟨base, some size.number, some scale.number, s!"{base}({size.number},{scale.number})"⟩

def Action.label : Action → String
  | cascade => "CASCADE"
  | setNull => "SET_NULL"
  | setDefault => "SET_DEFAULT"
  | noAction => "NO_ACTION"
  | restrict => "RESTRICT"

namespace ClauseBody

def isPrimaryKeyOf (body : ClauseBody) (column : String) : Bool :=
  match body with
  | primaryKey columns => (columns.map Identifier.name).contains column
  | _ => false

def isUniqueOf (body : ClauseBody) (column : String) : Bool :=
  match body with
  | unique columns => (columns.map Identifier.name).contains column
  | _ => false

/-- The targets of a column, in order. -/
def targets (body : ClauseBody) (column : String) : List Reference :=
  match body with
  | foreignKey links table _ _ =>
    (links.filter (·.1.name == column)).map fun link => ⟨table.name, link.2.name⟩
  | _ => []

end ClauseBody

/-- A clause without a name of its own takes one from its table and its columns. -/
def ClauseDescription.constraints (clause : ClauseDescription) (table : String) : List Constraint :=
  let declared := clause.declared.map Identifier.name
  match clause.body with
  | .primaryKey columns =>
    [.primaryKey (declared.getD ("PK_" ++ table)) (columns.map Identifier.name)]
  | .unique columns =>
    [.unique (declared.getD ("UQ_" ++ table ++ "_" ++ "_".intercalate (columns.map Identifier.name)))
      (columns.map Identifier.name)]
  | .foreignKey links target onDelete onUpdate =>
    links.map fun link => .foreignKey
      ⟨declared.getD ("FK_" ++ table ++ "_" ++ link.1.name), link.1.name, ⟨target.name, link.2.name⟩,
        (onDelete.map Action.label).getD "NO_ACTION", (onUpdate.map Action.label).getD "NO_ACTION"⟩

/-- The column with the attributes that it is printed with. -/
def ColumnDescription.plainColumn (column : ColumnDescription) : Column where
  name := column.name.name
  type := column.dataType
  isNullable := !(column.notNull || column.primaryKey)
  isPrimaryKey := column.primaryKey
  isForeignKey := column.references.isSome
  isUnique := column.unique
  isIdentity := column.identity.isSome
  identitySeed := column.identity.map (·.1.number)
  identityIncrement := column.identity.map (·.2.number)
  defaultValue := none
  references := column.references.map fun target => ⟨target.1.name, target.2.name⟩

/-- The column with what the clauses of its table add to it. Of several targets the last one counts. -/
def ColumnDescription.column (column : ColumnDescription) (clauses : List ClauseDescription) : Column :=
  let primary := clauses.any (·.body.isPrimaryKeyOf column.name.name)
  let unique := clauses.any (·.body.isUniqueOf column.name.name)
  let target := (clauses.flatMap (·.body.targets column.name.name)).getLast?
  { column.plainColumn with
    isNullable := !(column.notNull || column.primaryKey || primary)
    isPrimaryKey := column.primaryKey || primary
    isForeignKey := column.references.isSome || target.isSome
    isUnique := column.unique || unique
    references := target.or column.plainColumn.references }

theorem ColumnDescription.names_column (columns : List ColumnDescription)
    (clauses : List ClauseDescription) :
    (columns.map (·.column clauses)).map Named.name = columns.map (·.name.name) := by
  rw [List.map_map]
  rfl

/-- The table with some of its clauses. -/
def TableDescription.tableWith (table : TableDescription) (clauses : List ClauseDescription) : Table where
  name := table.name.name
  columns := ⟨table.columns.map (·.column clauses), by
    rw [ColumnDescription.names_column]
    exact table.distinct⟩
  constraints := clauses.flatMap (·.constraints table.name.name)
  indexes := []

def TableDescription.table (table : TableDescription) : Table := table.tableWith table.clauses

end Describe
end SchemaAtlas.Printing
