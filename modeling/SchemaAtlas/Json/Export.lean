import SchemaAtlas.Diagram.Basic
import SchemaAtlas.Json.Basic
/-!
Schemas and diagrams as JSON values. Tables, columns and indexes are members named after them, in
the order of declaration.
-/
namespace SchemaAtlas

def Roster.toJson {α : Type} [Named α] (encode : α → Json) (roster : Roster α) : Json :=
  .object (roster.entries.map fun entry => (Named.name entry, encode entry))

def TypeTraits.toJson (traits : TypeTraits) : Json :=
  .object [("type", .string traits.kind.label), ("size", .ofOption (.integer ·) traits.bytes),
    ("category", .string traits.family.label)]

def DataType.toJson (type : DataType) : Json :=
  .object [("baseType", .string type.base), ("size", .ofOption .integer type.size),
    ("scale", .ofOption .integer type.scale), ("fullType", .string type.full),
    ("mapping", .ofOption TypeTraits.toJson type.traits?)]

def Reference.toJson (target : Reference) : Json :=
  .object [("table", .string target.table), ("column", .string target.column)]

def Column.toJson (column : Column) : Json :=
  .object [("name", .string column.name), ("dataType", column.type.toJson),
    ("isNullable", .bool column.isNullable), ("isPrimaryKey", .bool column.isPrimaryKey),
    ("isForeignKey", .bool column.isForeignKey), ("isUnique", .bool column.isUnique),
    ("isIdentity", .bool column.isIdentity),
    ("identitySeed", .ofOption .integer column.identitySeed),
    ("identityIncrement", .ofOption .integer column.identityIncrement),
    ("defaultValue", .ofOption .string column.defaultValue),
    ("references", .ofOption Reference.toJson column.references)]

def Constraint.toJson : Constraint → Json
  | .primaryKey name columns =>
    .object [("type", .string "PRIMARY_KEY"), ("name", .string name),
      ("columns", .ofList .string columns)]
  | .unique name columns =>
    .object [("type", .string "UNIQUE"), ("name", .string name),
      ("columns", .ofList .string columns)]
  | .check name condition =>
    .object [("type", .string "CHECK"), ("name", .string name), ("condition", .string condition)]
  | .foreignKey key =>
    .object [("type", .string "FOREIGN_KEY"), ("name", .string key.name),
      ("columnName", .string key.column), ("referencedTable", .string key.target.table),
      ("referencedColumn", .string key.target.column), ("onDelete", .string key.onDelete),
      ("onUpdate", .string key.onUpdate)]

def Index.toJson (index : Index) : Json :=
  .object [("name", .string index.name), ("tableName", .string index.table),
    ("columns", .ofList .string index.columns), ("isUnique", .bool index.isUnique)]

def Table.toJson (table : Table) : Json :=
  .object [("name", .string table.name), ("columns", table.columns.toJson Column.toJson),
    ("constraints", .ofList Constraint.toJson table.constraints),
    ("indexes", .ofList Index.toJson table.indexes)]

def Relationship.toJson (link : Relationship) : Json :=
  .object [("fromTable", .string link.table), ("fromColumn", .string link.column),
    ("toTable", .string link.target.table), ("toColumn", .string link.target.column),
    ("type", .string "FOREIGN_KEY"), ("cardinality", .string link.cardinality.label)]

def Issue.toJson (issue : Issue) : Json :=
  .object ([("type", .string issue.kind.label), ("message", .string issue.message)] ++
    (issue.table.map fun name => ("tableName", Json.string name)).toList)

def Stats.toJson (stats : Stats) : Json :=
  .object [("totalTables", .integer stats.tables), ("totalColumns", .integer stats.columns),
    ("totalRelationships", .integer stats.relationships),
    ("totalIndexes", .integer stats.indexes), ("parseTime", .integer stats.elapsed)]

def Schema.toJson (schema : Schema) : Json :=
  .object [("success", .bool schema.success), ("tables", schema.tables.toJson Table.toJson),
    ("relationships", .ofList Relationship.toJson schema.relationships),
    ("indexes", schema.indexes.toJson Index.toJson),
    ("errors", .ofList Issue.toJson schema.errors),
    ("warnings", .ofList Issue.toJson schema.warnings), ("stats", schema.stats.toJson)]

def Attribute.toJson (property : Attribute) : Json :=
  .object [("name", .string property.name), ("type", .string property.type),
    ("key", .string property.key), ("nullable", .bool property.isNullable)]

def Entity.toJson (entity : Entity) : Json :=
  .object [("name", .string entity.name), ("displayName", .string entity.displayName),
    ("columns", .ofList Attribute.toJson entity.attributes)]

def EntityLink.toJson (link : EntityLink) : Json :=
  .object [("from", .string link.source), ("to", .string link.target),
    ("type", .string link.kind), ("label", .string link.label)]

def Diagram.toJson (diagram : Diagram) : Json :=
  .object [("entities", .ofList Entity.toJson diagram.entities),
    ("relationships", .ofList EntityLink.toJson diagram.links),
    ("metadata", .object [("totalEntities", .integer diagram.entities.length),
      ("totalRelationships", .integer diagram.links.length)])]

end SchemaAtlas
