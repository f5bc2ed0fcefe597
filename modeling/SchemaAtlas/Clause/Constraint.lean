import SchemaAtlas.Clause.Column
/-!
Constraint clauses of a table: foreign keys, primary keys, unique keys and checks. A clause is of the
first of these kinds whose keyword it holds outside literals. A table is read as a draft, which keeps
the issues found in its clauses.
-/
namespace SchemaAtlas

/-- A table that is being read, with the issues that its clauses raised. -/
structure Draft where
  table : Table
  errors : List Issue
  warnings : List Issue
deriving DecidableEq

namespace Draft

def ofTable (table : Table) : Draft := ⟨table, [], []⟩

def addError (draft : Draft) (issue : Issue) : Draft :=
  { draft with errors := draft.errors ++ [issue] }

def addWarning (draft : Draft) (issue : Issue) : Draft :=
  { draft with warnings := draft.warnings ++ [issue] }

end Draft

inductive ConstraintFamily where
  | foreignKey
  | primaryKey
  | unique
  | check
deriving DecidableEq, Repr

namespace ConstraintFamily

-- A clause may hold the keywords of several families, for instance in the name of its constraint.
/-- The family of a clause whose literals are masked. -/
def ofMasked? (masked : Text) : Option ConstraintFamily :=
  if Phrase.foreignKeyKeyword.occurs masked then some .foreignKey
  else if Phrase.primaryKeyKeyword.occurs masked then some .primaryKey
  else if Phrase.uniqueKeyword.occurs masked then some .unique
  else if Phrase.checkKeyword.occurs masked then some .check
  else none

def keyword : ConstraintFamily → String
  | .foreignKey => "FOREIGN KEY"
  | .primaryKey => "PRIMARY KEY"
  | .unique => "UNIQUE"
  | .check => "CHECK"

/-- How the issues of a family speak of its columns. -/
def role : ConstraintFamily → String
  | .foreignKey => "Foreign key"
  | .primaryKey => "Primary key"
  | .unique => "Unique constraint"
  | .check => "Check"

end ConstraintFamily

/-- The name that a clause gives its constraint; an empty one does not count. -/
def Constraint.declaredName? (clause : Text) : Option String :=
  match (Phrase.constraintName.match? (Script.mask clause)).bind (·.text? .name clause) with
  | none => none
  | some name => match Name.clean name with
    | [] => none
    | cleaned => some (String.ofList cleaned)

/-- The parts of a foreign key clause. -/
structure ForeignKeyClause where
  columns : List String
  table : String
  targetColumns : List String
  onDelete : String
  onUpdate : String
deriving DecidableEq, Repr

namespace ForeignKeyClause

def names (text : Text) : List String := (Name.list text).map String.ofList

/-- The action in capitals with underscores for its blanks. -/
def action (pattern : Pattern) (tail : Text) : String :=
  match (pattern.find? tail).bind (·.text? .action tail) with
  | none => "NO_ACTION"
  | some action => String.ofList (Text.collapse '_' (Text.uppercase action))

def read? (clause : Text) : Option ForeignKeyClause := do
  let found ← Phrase.foreignKeyConstraint.find? clause
  let columns ← found.text? .columns clause
  let table ← found.text? .table clause
  let targetColumns ← found.text? .targetColumns clause
  let tail := clause.drop found.span.stop
  return ⟨names columns, String.ofList (Name.cleanQualified table), names targetColumns,
    action Phrase.onDelete tail, action Phrase.onUpdate tail⟩

/-- There is at least one column, and each has its target. -/
def isPaired (clause : ForeignKeyClause) : Bool :=
  clause.columns != [] && clause.columns.length == clause.targetColumns.length

def pairs (clause : ForeignKeyClause) : List (String × Reference) :=
  (clause.columns.zip clause.targetColumns).map fun (column, target) =>
    (column, ⟨clause.table, target⟩)

end ForeignKeyClause

namespace Draft

/-- Links one column, if the table has it. -/
def link (clause : ForeignKeyClause) (declared : Option String) (draft : Draft)
    (pair : String × Reference) : Draft :=
  let (column, target) := pair
  match draft.table.column? column with
  | none =>
    draft.addError (.missingColumn draft.table.name ConstraintFamily.foreignKey.role column)
  | some _ =>
    let name := declared.getD s!"FK_{draft.table.name}_{column}"
    { draft with
      table := (draft.table.markForeignKey column target).addConstraint
        (.foreignKey ⟨name, column, target, clause.onDelete, clause.onUpdate⟩) }

def readForeignKey (draft : Draft) (text : Text) (declared : Option String) : Draft :=
  match ForeignKeyClause.read? text with
  | none =>
    draft.addError (.invalidConstraint draft.table.name ConstraintFamily.foreignKey.keyword
      (String.ofList text))
  | some clause =>
    if clause.isPaired then clause.pairs.foldl (link clause declared) draft
    else draft.addError (.unpairedColumns draft.table.name (String.ofList text))

/-- Marks one column of a key, if the table has it. -/
def markKeyColumn (role : String) (mark : Table → String → Table) (draft : Draft)
    (column : String) : Draft :=
  match draft.table.column? column with
  | none => draft.addError (.missingColumn draft.table.name role column)
  | some _ => { draft with table := mark draft.table column }

def addConstraint (draft : Draft) (constraint : Constraint) : Draft :=
  { draft with table := draft.table.addConstraint constraint }

/-- A key is recorded even if some of its columns are missing, but not without columns. -/
def readKey (family : ConstraintFamily) (pattern : Pattern) (mark : Table → String → Table)
    (record : List String → Constraint) (draft : Draft) (text : Text) : Draft :=
  match (((pattern.find? text).bind (·.text? .columns text)).map ForeignKeyClause.names).getD [] with
  | [] =>
    draft.addError (.invalidConstraint draft.table.name family.keyword (String.ofList text))
  | columns =>
    (columns.foldl (markKeyColumn family.role mark) draft).addConstraint (record columns)

def readPrimaryKey (draft : Draft) (text : Text) (declared : Option String) : Draft :=
  readKey .primaryKey Phrase.primaryKeyConstraint Table.markPrimaryKey
    (fun columns => .primaryKey (declared.getD s!"PK_{draft.table.name}") columns) draft text

def readUnique (draft : Draft) (text : Text) (declared : Option String) : Draft :=
  readKey .unique Phrase.uniqueConstraint Table.markUnique
    (fun columns =>
      .unique (declared.getD ("UQ_" ++ draft.table.name ++ "_" ++ "_".intercalate columns)) columns)
    draft text

/-- The condition of a check is kept as it is written. -/
def readCheck (draft : Draft) (text : Text) (declared : Option String) : Draft :=
  let group := do
    let opening ← Phrase.checkOpening.find? (Script.mask text)
    Script.group? text (opening.span.stop - 1)
  match Text.trim ((group.map (·.1)).getD []) with
  | [] =>
    draft.addError (.invalidConstraint draft.table.name ConstraintFamily.check.keyword
      (String.ofList text))
  | condition =>
    draft.addConstraint (.check (declared.getD draft.table.nextCheckName) (String.ofList condition))

def readConstraint (draft : Draft) (text : Text) : Draft :=
  let declared := Constraint.declaredName? text
  match ConstraintFamily.ofMasked? (Script.mask text) with
  | some .foreignKey => draft.readForeignKey text declared
  | some .primaryKey => draft.readPrimaryKey text declared
  | some .unique => draft.readUnique text declared
  | some .check => draft.readCheck text declared
  | none => draft.addWarning (.unknownConstraint draft.table.name (String.ofList text))

/-- Takes in what a column clause gave, its issue included. -/
def withOutcome (draft : Draft) (clause : Text) (outcome : ColumnOutcome) : Draft :=
  let draft := { draft with table := draft.table.withOutcome outcome }
  match outcome.issue? draft.table.name clause with
  | none => draft
  | some issue => draft.addError issue

/-- Reads column clauses up to the first that holds an unreadable number. -/
def readColumns (draft : Draft) : List Text → Draft × Option NumeralError
  | [] => (draft, none)
  | clause :: rest =>
    match Column.read draft.table.columns clause with
    | .unreadable error => (draft, some error)
    | outcome => (draft.withOutcome clause outcome).readColumns rest

def isConstraintClause (clause : Text) : Bool := (Phrase.constraintClause.match? clause).isSome

/-- Reads a table body: its columns, and then its constraints, which may speak of any of them. -/
def readBody (draft : Draft) (body : Text) : Draft × Option NumeralError :=
  let clauses := Script.clauses body
  match draft.readColumns (clauses.filter (!isConstraintClause ·)) with
  | (draft, some error) => (draft, some error)
  | (draft, none) => ((clauses.filter isConstraintClause).foldl readConstraint draft, none)

end Draft
end SchemaAtlas
