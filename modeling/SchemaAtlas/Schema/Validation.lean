import SchemaAtlas.Schema.Relationship
import SchemaAtlas.Script.Phrase
/-!
Checks on a schema whose tables are all read: every foreign key has its target, and every table name
is plain and not too long.
-/
namespace SchemaAtlas.Schema

def longestTableName : Nat := 128

def isValidTableName (name : String) : Bool :=
  (Phrase.plainTableName.match? name.toList).isSome && name.length ≤ longestTableName

/-- The issues of the foreign keys, and then those of the table names. -/
def violations (schema : Schema) : List Issue :=
  schema.links.filterMap schema.missingTarget? ++
    (schema.tables.names.filter (!isValidTableName ·)).map .invalidTableName

def validated (schema : Schema) : Schema := schema.addErrors schema.violations

end SchemaAtlas.Schema
