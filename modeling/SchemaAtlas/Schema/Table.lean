import SchemaAtlas.Schema.DataType
import SchemaAtlas.Schema.Roster
/-!
Tables with their columns, constraints and indexes.
-/
namespace SchemaAtlas

/-- The column that a foreign key points to. -/
structure Reference where
  table : String
  column : String
deriving DecidableEq, Repr

structure Column where
  name : String
  type : DataType
  isNullable : Bool
  isPrimaryKey : Bool
  isForeignKey : Bool
  isUnique : Bool
  isIdentity : Bool
  identitySeed : Option Int
  identityIncrement : Option Int
  defaultValue : Option String
  references : Option Reference
deriving DecidableEq, Repr

namespace Column

instance : Named Column := ⟨Column.name⟩

/-- A column without attributes. -/
def plain (name : String) (type : DataType) : Column :=
  ⟨name, type, true, false, false, false, false, none, none, none, none⟩

/-- A primary key cannot be null. -/
def markPrimaryKey (column : Column) : Column :=
  { column with isPrimaryKey := true, isNullable := false }

def markForeignKey (column : Column) (target : Reference) : Column :=
  { column with isForeignKey := true, references := some target }

def markUnique (column : Column) : Column := { column with isUnique := true }

def markIdentity (column : Column) (seed increment : Option Int) : Column :=
  { column with isIdentity := true, identitySeed := seed, identityIncrement := increment }

end Column

/-- One column's link to another table, with what happens when the target row goes or changes. -/
structure ForeignKey where
  name : String
  column : String
  target : Reference
  onDelete : String
  onUpdate : String
deriving DecidableEq, Repr

inductive Constraint where
  | primaryKey (name : String) (columns : List String)
  | unique (name : String) (columns : List String)
  | check (name : String) (condition : String)
  | foreignKey (key : ForeignKey)
deriving DecidableEq, Repr

def Constraint.isCheck : Constraint → Bool
  | .check .. => true
  | _ => false

structure Index where
  name : String
  table : String
  columns : List String
  isUnique : Bool
deriving DecidableEq, Repr

instance : Named Index := ⟨Index.name⟩

structure Table where
  name : String
  columns : Roster Column
  constraints : List Constraint
  indexes : List Index
deriving DecidableEq

namespace Table

instance : Named Table := ⟨Table.name⟩

def empty (name : String) : Table := ⟨name, .empty, [], []⟩

def column? (table : Table) (name : String) : Option Column := table.columns.find? name

def putColumn (table : Table) (column : Column) : Table :=
  { table with columns := table.columns.put column }

def addConstraint (table : Table) (constraint : Constraint) : Table :=
  { table with constraints := table.constraints ++ [constraint] }

def checkCount (table : Table) : Nat := table.constraints.countP Constraint.isCheck

/-- The name of the next check that does not bring its own. -/
def nextCheckName (table : Table) : String := s!"CK_{table.name}_{table.checkCount + 1}"

def markPrimaryKey (table : Table) (column : String) : Table :=
  { table with columns := table.columns.modify column Column.markPrimaryKey fun _ => rfl }

def markUnique (table : Table) (column : String) : Table :=
  { table with columns := table.columns.modify column Column.markUnique fun _ => rfl }

def markForeignKey (table : Table) (column : String) (target : Reference) : Table :=
  { table with columns := table.columns.modify column (·.markForeignKey target) fun _ => rfl }

def addIndex (table : Table) (index : Index) : Table :=
  { table with indexes := table.indexes ++ [index] }

def removeIndex (table : Table) (index : Index) : Table :=
  { table with indexes := table.indexes.erase index }

end Table
end SchemaAtlas
