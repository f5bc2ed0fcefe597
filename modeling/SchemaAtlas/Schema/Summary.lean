import SchemaAtlas.Diagram.Basic
/-!
One-line summaries of the parts of a schema and of its diagram.
-/
namespace SchemaAtlas

def DataType.summary (type : DataType) : String := s!"DataType({type.full})"

def Reference.summary (target : Reference) : String := s!"{target.table}.{target.column}"

def Column.summary (column : Column) : String :=
  let mark := if column.isPrimaryKey then " [PK]" else ""
  let target := match column.references with
    | none => ""
    | some target => " -> " ++ target.summary
  s!"Column(name={column.name}{mark}, type={column.type.full}{target})"

def Index.summary (index : Index) : String :=
  let unique := if index.isUnique then "UNIQUE " else ""
  let columns := ", ".intercalate index.columns
  s!"Index({unique}{index.name} ON {index.table}({columns}))"

def Table.summary (table : Table) : String :=
  s!"Table(name={table.name}, columns={table.columns.size})"

def Relationship.summary (link : Relationship) : String :=
  s!"Relationship({link.table}.{link.column} -> {link.target.table}.{link.target.column}, cardinality={link.cardinality.label})"

def Issue.summary (issue : Issue) : String := s!"ParseIssue({issue.kind.label}: {issue.message})"

def Schema.headline (schema : Schema) : String :=
  s!"Schema(tables={schema.tables.size}, relationships={schema.relationships.length}, errors={schema.errors.length})"

def Attribute.summary (property : Attribute) : String :=
  let key := if property.key == "" then "" else " [" ++ property.key ++ "]"
  s!"Attribute(name={property.name}{key}, type={property.type})"

def Entity.summary (entity : Entity) : String :=
  s!"Entity(name={entity.name}, attributes={entity.attributes.length})"

def EntityLink.summary (link : EntityLink) : String :=
  s!"Relationship({link.source} -> {link.target}, type={link.kind})"

/-- Entities, each before its attributes, and then the links. -/
def Diagram.summaries (diagram : Diagram) : List String :=
  diagram.entities.flatMap (fun entity =>
    entity.summary :: entity.attributes.map Attribute.summary) ++
    diagram.links.map EntityLink.summary

def Column.summaries (column : Column) : List String :=
  column.summary :: column.type.summary :: (column.references.map Reference.summary).toList

def Table.summaries (table : Table) : List String :=
  table.summary :: table.columns.entries.flatMap Column.summaries

/-- The schema with its parts, each table before its columns, and then its diagram. -/
def Schema.summaries (schema : Schema) : List String :=
  schema.headline :: schema.tables.entries.flatMap Table.summaries ++
    schema.indexes.entries.map Index.summary ++
    schema.relationships.map Relationship.summary ++ schema.errors.map Issue.summary ++
    schema.warnings.map Issue.summary ++ (Diagram.ofSchema schema).summaries

end SchemaAtlas
