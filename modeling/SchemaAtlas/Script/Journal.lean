import SchemaAtlas.Script.Reading
/-!
The journal of a reading: what the reader did with each statement and clause, in the order in which
it did it. Only a table that had to be left out is an error.
-/
namespace SchemaAtlas.Journal

inductive Level where
  | debug
  | error
deriving DecidableEq, Repr

/-- The part of the reader that makes an entry. -/
inductive Topic where
  | script
  | column
  | constraint
  | relationship
deriving DecidableEq, Repr

structure Entry where
  level : Level
  topic : Topic
  message : String
deriving DecidableEq, Repr

def Level.label : Level → String
  | .debug => "DEBUG"
  | .error => "ERROR"

def Topic.label : Topic → String
  | .script => "ddl_to_er.core.sql_parser"
  | .column => "ddl_to_er.core.column_parser"
  | .constraint => "ddl_to_er.core.constraint_parser"
  | .relationship => "ddl_to_er.core.relationships"

def Entry.line (entry : Entry) : String :=
  entry.level.label ++ " " ++ entry.topic.label ++ ": " ++ entry.message ++ "\n"

def debug (topic : Topic) (message : String) : Entry := ⟨.debug, topic, message⟩

def ofOutcome (table : String) (clause : Text) : ColumnOutcome → List Entry
  | .foreignKeyClause =>
    [debug .column ("Skipping FOREIGN KEY clause in column parser: " ++ String.ofList clause)]
  | .unrecognized =>
    [debug .column ("Failed to match column definition: " ++ String.ofList clause)]
  | .accepted column _ =>
    [debug .column s!"Parsed column {table}.{column.name}: {column.type.full}"]
  | _ => []

def ofColumns (draft : Draft) : List Text → List Entry
  | [] => []
  | clause :: rest =>
    match Column.read draft.table.columns clause with
    | .unreadable _ => []
    | outcome =>
      ofOutcome draft.table.name clause outcome ++
        ofColumns (draft.withOutcome clause outcome) rest

/-- The columns that a foreign key clause links. -/
def ofConstraint (table : Table) (clause : Text) : List Entry :=
  match ConstraintFamily.ofMasked? (Script.mask clause), ForeignKeyClause.read? clause with
  | some .foreignKey, some key =>
    if key.isPaired then
      key.pairs.filterMap fun (column, target) =>
        (table.column? column).map fun _ =>
          debug .constraint
            s!"Marked column as FK: {table.name}.{column} -> {target.table}.{target.column}"
    else []
  | _, _ => []

def ofBody (name : String) (body : Text) : List Entry :=
  let clauses := Script.clauses body
  let empty := Draft.ofTable (.empty name)
  let (draft, failure) := empty.readBody body
  ofColumns empty (clauses.filter (!Draft.isConstraintClause ·)) ++
    match failure with
    | some _ => [⟨.error, .script, "Error processing table " ++ name⟩]
    | none =>
      (clauses.filter Draft.isConstraintClause).flatMap (ofConstraint draft.table) ++
        [debug .script s!"Processed table {name} with {draft.table.columns.size} column(s)"]

def ofTableStatement (schema : Schema) (statement : Text) : List Entry :=
  match TableStatement.read statement with
  | .unrelated => []
  | .malformed =>
    [debug .script ("Failed to match CREATE TABLE in statement: " ++ String.ofList statement)]
  | .definition name body => if schema.tables.has name then [] else ofBody name body

def ofTables (schema : Schema) : List Text → List Entry
  | [] => []
  | statement :: rest =>
    ofTableStatement schema statement ++ ofTables (schema.readTable statement) rest

def ofAlteredClause (table : Table) (clause : Text) : List Entry :=
  if Draft.isConstraintClause clause then ofConstraint table clause
  else
    [debug .script
      s!"Skipping unsupported ALTER TABLE clause on {table.name}: {String.ofList clause}"]

/-- Alterations neither add tables nor columns. -/
def ofAlteration (schema : Schema) (statement : Text) : List Entry :=
  match Alteration.read? statement with
  | none => []
  | some alteration => match schema.table? alteration.table with
    | none => []
    | some table => alteration.clauses.flatMap (ofAlteredClause table)

def ofIndex (schema : Schema) (index : Index) : List Entry :=
  if schema.tables.has index.table then []
  else [debug .script s!"Index {index.name} refers to unknown table {index.table}"]

def ofLink (schema : Schema) (link : Schema.Link) : List Entry :=
  if (schema.relationship? link).isSome then []
  else
    [debug .relationship
      s!"Unresolved reference {link.table}.{link.column.name} -> {link.target.table}.{link.target.column}"]

/-- The journal of a script whose comments and layout are gone. -/
def ofNormalized (script : Text) : List Entry :=
  let statements := Script.statements script
  let tables := Schema.empty.readTables statements
  let schema := tables.readAlterations statements
  debug .script s!"Split SQL into {statements.length} statement(s)" ::
    ofTables .empty statements ++ statements.flatMap (ofAlteration tables) ++
      (Index.readAll script).flatMap (ofIndex schema) ++ schema.links.flatMap (ofLink schema)

def ofScript (script : String) : List Entry := ofNormalized (Script.normalized script.toList)

/-- Without details only errors are shown. -/
def text (detailed : Bool) (entries : List Entry) : String :=
  String.join ((entries.filter fun entry => detailed || entry.level == .error).map Entry.line)

end SchemaAtlas.Journal
