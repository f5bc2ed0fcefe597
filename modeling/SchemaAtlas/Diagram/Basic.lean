import SchemaAtlas.Diagram.DisplayName
import SchemaAtlas.Schema.Relationship
/-!
Entity relationship diagrams of a schema: an entity for each table, with the key columns first, and a
link for each relationship.
-/
namespace SchemaAtlas

structure Attribute where
  name : String
  type : String
  key : String
  isNullable : Bool
deriving DecidableEq, Repr

structure Entity where
  name : String
  displayName : String
  attributes : List Attribute
deriving DecidableEq, Repr

structure EntityLink where
  source : String
  target : String
  kind : String
  label : String
deriving DecidableEq, Repr

structure Diagram where
  entities : List Entity
  links : List EntityLink
deriving DecidableEq, Repr

/-- An entity without a display name shows its name. -/
def Entity.make (name displayName : String) (attributes : List Attribute) : Entity :=
  ⟨name, if displayName == "" then name else displayName, attributes⟩

namespace Column

/-- Where a column stands in its entity; equal ranks keep the order of declaration. -/
def rank (column : Column) : Nat :=
  if column.isPrimaryKey then 1
  else if column.isForeignKey then 2
  else if column.isUnique then 3
  else if column.isIdentity then 4
  else if !column.isNullable then 5
  else 6

def keyLabel (column : Column) : String :=
  if column.isPrimaryKey then "PK"
  else if column.isForeignKey then "FK"
  else if column.isUnique then "UQ"
  else ""

def toAttribute (column : Column) : Attribute :=
  ⟨column.name, column.type.display, column.keyLabel, column.isNullable⟩

end Column

def Table.rankedColumns (table : Table) : List Column :=
  table.columns.entries.mergeSort fun left right => left.rank ≤ right.rank

def Table.toEntity (table : Table) : Entity :=
  .make table.name (String.ofList (DisplayName.ofName table.name.toList))
    (table.rankedColumns.map Column.toAttribute)

def Relationship.toLink (relationship : Relationship) : EntityLink :=
  ⟨relationship.table, relationship.target.table, relationship.cardinality.label,
    relationship.column ++ " → " ++ relationship.target.column⟩

def Diagram.ofSchema (schema : Schema) : Diagram :=
  ⟨schema.tables.entries.map Table.toEntity, schema.relationships.map Relationship.toLink⟩

end SchemaAtlas
