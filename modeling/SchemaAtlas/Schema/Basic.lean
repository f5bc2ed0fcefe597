import SchemaAtlas.Schema.Issue
import SchemaAtlas.Schema.Table
/-!
The schema that a script describes: its tables, its indexes, the relationships that its foreign keys
draw, and the issues found on the way.
-/
namespace SchemaAtlas

inductive Cardinality where
  | oneToOne
  | manyToOne
  | manyToMany
  | unknown
deriving DecidableEq, Repr

def Cardinality.label : Cardinality → String
  | .oneToOne => "ONE_TO_ONE"
  | .manyToOne => "MANY_TO_ONE"
  | .manyToMany => "MANY_TO_MANY"
  | .unknown => "UNKNOWN"

structure Relationship where
  table : String
  column : String
  target : Reference
  cardinality : Cardinality
deriving DecidableEq, Repr

/-- `elapsed` is the reading time in milliseconds. -/
structure Stats where
  tables : Nat
  columns : Nat
  relationships : Nat
  indexes : Nat
  elapsed : Int
deriving DecidableEq, Repr

structure Schema where
  tables : Roster Table
  indexes : Roster Index
  relationships : List Relationship
  errors : List Issue
  warnings : List Issue
  stats : Stats
deriving DecidableEq

namespace Schema

def empty : Schema := ⟨.empty, .empty, [], [], [], ⟨0, 0, 0, 0, 0⟩⟩

instance : Inhabited Schema := ⟨empty⟩

/-- A script without errors. -/
def success (schema : Schema) : Bool := schema.errors.isEmpty

def addErrors (schema : Schema) (issues : List Issue) : Schema :=
  { schema with errors := schema.errors ++ issues }

def addWarnings (schema : Schema) (issues : List Issue) : Schema :=
  { schema with warnings := schema.warnings ++ issues }

def table? (schema : Schema) (name : String) : Option Table := schema.tables.find? name

def putTable (schema : Schema) (table : Table) : Schema :=
  { schema with tables := schema.tables.put table }

def modifyTable (schema : Schema) (name : String) (change : Table → Table)
    (keeps : ∀ table, (change table).name = table.name) : Schema :=
  { schema with tables := schema.tables.modify name change keeps }

/-- The column that a reference points to, if both the table and the column exist. -/
def target? (schema : Schema) (reference : Reference) : Option Column :=
  (schema.table? reference.table).bind (·.column? reference.column)

def columnCount (schema : Schema) : Nat :=
  schema.tables.entries.foldl (fun count table => count + table.columns.size) 0

/-- Counts the parts of the schema; the reading time stays as it is. -/
def counted (schema : Schema) : Schema :=
  { schema with
    stats := ⟨schema.tables.size, schema.columnCount, schema.relationships.length,
      schema.indexes.size, schema.stats.elapsed⟩ }

def timed (schema : Schema) (elapsed : Int) : Schema :=
  { schema with stats := { schema.stats with elapsed := elapsed } }

end Schema
end SchemaAtlas
