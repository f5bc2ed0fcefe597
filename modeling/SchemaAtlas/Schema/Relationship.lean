import SchemaAtlas.Schema.Basic
/-!
Relationships that foreign key columns draw, and the foreign keys and names that are not in order.
-/
namespace SchemaAtlas

/-- How many rows a link can join at each end, by which columns identify a row. -/
def Cardinality.between (source target : Option Column) : Cardinality :=
  match source, target with
  | some source, some target =>
    if target.isPrimaryKey then
      if source.isUnique || source.isPrimaryKey then .oneToOne else .manyToOne
    else if source.isUnique && target.isUnique then .oneToOne
    else .manyToMany
  | _, _ => .unknown

namespace Schema

/-- A foreign key column with its table. -/
structure Link where
  table : String
  column : Column
  target : Reference
deriving DecidableEq, Repr

def tableLinks (table : Table) : List Link :=
  table.columns.entries.filterMap fun column =>
    if column.isForeignKey then column.references.map (⟨table.name, column, ·⟩) else none

/-- The foreign key columns of all tables, in order of declaration. -/
def links (schema : Schema) : List Link := schema.tables.entries.flatMap tableLinks

/-- The relationship of a link whose target exists. -/
def relationship? (schema : Schema) (link : Link) : Option Relationship :=
  match Cardinality.between (some link.column) (schema.target? link.target) with
  | .unknown => none
  | cardinality => some ⟨link.table, link.column.name, link.target, cardinality⟩

def drawRelationships (schema : Schema) : Schema :=
  { schema with
    relationships := schema.relationships ++ schema.links.filterMap schema.relationship? }

-- A link without a relationship has an issue here, and one with a relationship has none.
/-- What is missing at the target of a link. -/
def missingTarget? (schema : Schema) (link : Link) : Option Issue :=
  match schema.table? link.target.table with
  | none => some (.missingTarget link.table link.target.table)
  | some table => match table.column? link.target.column with
    | none => some (.missingTargetColumn link.table link.target.table link.target.column)
    | some _ => none

end Schema
end SchemaAtlas
