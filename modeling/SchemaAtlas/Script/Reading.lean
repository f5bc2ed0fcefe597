import SchemaAtlas.Clause.Constraint
import SchemaAtlas.Schema.Validation
/-!
Reading a script into a schema. Tables are read first, then the constraints that alterations add to
them, then the indexes; relationships and checks come last, so that a table may refer to a later one.
-/
namespace SchemaAtlas

/-- What a statement says about a new table. -/
inductive TableStatement where
  | unrelated
  | malformed
  | definition (name : String) (body : Text)
deriving DecidableEq, Repr

/-- A definition has a head and a body whose parentheses close. -/
def TableStatement.read (statement : Text) : TableStatement :=
  if !Phrase.createTableKeyword.occurs statement then .unrelated
  else
    let parts := do
      let head ← Phrase.createTableHead.find? statement
      let name ← head.text? .table statement
      let (body, _) ← Script.group? statement (head.span.stop - 1)
      return (name, body)
    match parts with
    | some (name, body) => .definition (String.ofList (Name.cleanQualified name)) body
    | none => .malformed

/-- The clauses that an alteration adds to a table. -/
structure Alteration where
  table : String
  clauses : List Text
deriving DecidableEq, Repr

namespace Alteration

/-- The keyword may stand before each of the clauses. -/
def withoutAdd (clause : Text) : Text :=
  match Phrase.addKeyword.match? clause with
  | some keyword => clause.drop keyword.span.stop
  | none => clause

def read? (statement : Text) : Option Alteration := do
  let found ← Phrase.alterTableAdd.match? statement
  let table ← found.text? .table statement
  let body ← found.text? .body statement
  return ⟨String.ofList (Name.cleanQualified table), (Script.clauses body).map withoutAdd⟩

end Alteration

/-- The indexes that a script defines, wherever their definitions stand. -/
def Index.readAll (script : Text) : List Index :=
  (Phrase.createIndex.findAll script).map fun found =>
    let part := fun part => (found.text? part script).getD []
    ⟨String.ofList (Name.clean (part .name)), String.ofList (Name.cleanQualified (part .table)),
      ForeignKeyClause.names (part .columns), (found.part? .unique).isSome⟩

namespace Schema

def addIssues (schema : Schema) (draft : Draft) : Schema :=
  (schema.addErrors draft.errors).addWarnings draft.warnings

-- A table that was left out does not take its name, so a later definition may still give it.
/-- The first definition of a name counts. A table with an unreadable number is left out, but the
issues found in it before stay. -/
def readTable (schema : Schema) (statement : Text) : Schema :=
  match TableStatement.read statement with
  | .unrelated | .malformed => schema
  | .definition name body =>
    if schema.tables.has name then schema.addErrors [.duplicateTable name]
    else match (Draft.ofTable (.empty name)).readBody body with
      | (draft, some error) =>
        (schema.addIssues draft).addErrors [.unreadableTable name error.message]
      | (draft, none) => (schema.addIssues draft).putTable draft.table

def readTables (schema : Schema) (statements : List Text) : Schema :=
  statements.foldl readTable schema

/-- Constraints are the only clauses that an alteration can add. -/
def applyAlteration (schema : Schema) (alteration : Alteration) : Schema :=
  match schema.table? alteration.table with
  | none => schema.addErrors [.missingAlteredTable alteration.table]
  | some table =>
    let draft := (alteration.clauses.filter Draft.isConstraintClause).foldl Draft.readConstraint
      (.ofTable table)
    (schema.addIssues draft).putTable draft.table

def readAlteration (schema : Schema) (statement : Text) : Schema :=
  match Alteration.read? statement with
  | none => schema
  | some alteration => schema.applyAlteration alteration

def readAlterations (schema : Schema) (statements : List Text) : Schema :=
  statements.foldl readAlteration schema

/-- Takes an index off the table that it is listed with. -/
def unlistIndex (schema : Schema) (index : Index) : Schema :=
  schema.modifyTable index.table (·.removeIndex index) fun _ => rfl

/-- A later index replaces the earlier one of its name. -/
def putIndex (schema : Schema) (index : Index) : Schema :=
  let schema := match schema.indexes.find? index.name with
    | none => schema
    | some earlier =>
      (schema.addWarnings [.duplicateIndex index.name index.table]).unlistIndex earlier
  { schema with indexes := schema.indexes.put index }.modifyTable index.table (·.addIndex index)
    fun _ => rfl

def readIndexes (schema : Schema) (script : Text) : Schema :=
  (Index.readAll script).foldl putIndex schema

end Schema

namespace Script

/-- The schema of a script whose comments and layout are gone. -/
def readNormalized (script : Text) : Schema :=
  let statements := statements script
  ((((Schema.empty.readTables statements).readAlterations statements).readIndexes
    script).drawRelationships).validated.counted

def read (script : String) : Schema := readNormalized (normalized script.toList)

/-- What is answered to an input that is no text. -/
def notText : Schema := Schema.empty.addErrors [.notText]

/-- The schema with the time that was spent on it. A time that no number holds spoils the whole. -/
def timed (schema : Schema) : Option Int → Schema
  | some elapsed => schema.timed elapsed
  | none => Schema.empty.addErrors [.endlessTime]

end Script
end SchemaAtlas
