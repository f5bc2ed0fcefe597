/-!
Column types: a base name with at most a size and a scale, and what is known of the base names in
common use.
-/
namespace SchemaAtlas

/-- What a value of a known type is. -/
inductive ValueKind where
  | number
  | boolean
  | string
  | date
  | time
  | binary
  | guid
  | xml
  | json
  | spatial
deriving DecidableEq, Repr

/-- Known types that behave alike. -/
inductive TypeFamily where
  | integer
  | decimal
  | float
  | money
  | boolean
  | varchar
  | char
  | text
  | datetime
  | date
  | time
  | timestamp
  | binary
  | guid
  | xml
  | json
  | spatial
deriving DecidableEq, Repr

inductive TypeCategory where
  | numeric
  | text
  | temporal
  | boolean
  | binary
  | identifier
  | other
  | unknown
deriving DecidableEq, Repr

def ValueKind.label : ValueKind → String
  | .number => "number"
  | .boolean => "boolean"
  | .string => "string"
  | .date => "date"
  | .time => "time"
  | .binary => "binary"
  | .guid => "guid"
  | .xml => "xml"
  | .json => "json"
  | .spatial => "spatial"

def TypeFamily.label : TypeFamily → String
  | .integer => "integer"
  | .decimal => "decimal"
  | .float => "float"
  | .money => "money"
  | .boolean => "boolean"
  | .varchar => "varchar"
  | .char => "char"
  | .text => "text"
  | .datetime => "datetime"
  | .date => "date"
  | .time => "time"
  | .timestamp => "timestamp"
  | .binary => "binary"
  | .guid => "guid"
  | .xml => "xml"
  | .json => "json"
  | .spatial => "spatial"

def TypeCategory.label : TypeCategory → String
  | .numeric => "NUMERIC"
  | .text => "TEXT"
  | .temporal => "TEMPORAL"
  | .boolean => "BOOLEAN"
  | .binary => "BINARY"
  | .identifier => "IDENTIFIER"
  | .other => "OTHER"
  | .unknown => "UNKNOWN"

def TypeFamily.category : TypeFamily → TypeCategory
  | .integer | .decimal | .float | .money => .numeric
  | .varchar | .char | .text => .text
  | .datetime | .date | .time => .temporal
  | .boolean => .boolean
  | .binary => .binary
  | .guid => .identifier
  | .timestamp | .xml | .json | .spatial => .other

/-- What is known of a base type; `bytes` is the size of its values where that is fixed. -/
structure TypeTraits where
  kind : ValueKind
  bytes : Option Nat
  family : TypeFamily
deriving DecidableEq, Repr

def knownTypes : List (String × TypeTraits) :=
  [("INT", ⟨.number, some 4, .integer⟩),
   ("INTEGER", ⟨.number, some 4, .integer⟩),
   ("BIGINT", ⟨.number, some 8, .integer⟩),
   ("SMALLINT", ⟨.number, some 2, .integer⟩),
   ("TINYINT", ⟨.number, some 1, .integer⟩),
   ("MEDIUMINT", ⟨.number, some 3, .integer⟩),
   ("SERIAL", ⟨.number, some 4, .integer⟩),
   ("BIGSERIAL", ⟨.number, some 8, .integer⟩),
   ("BIT", ⟨.boolean, some 1, .boolean⟩),
   ("BOOLEAN", ⟨.boolean, some 1, .boolean⟩),
   ("BOOL", ⟨.boolean, some 1, .boolean⟩),
   ("DECIMAL", ⟨.number, none, .decimal⟩),
   ("NUMERIC", ⟨.number, none, .decimal⟩),
   ("FLOAT", ⟨.number, some 8, .float⟩),
   ("REAL", ⟨.number, some 4, .float⟩),
   ("DOUBLE", ⟨.number, some 8, .float⟩),
   ("MONEY", ⟨.number, some 8, .money⟩),
   ("SMALLMONEY", ⟨.number, some 4, .money⟩),
   ("VARCHAR", ⟨.string, none, .varchar⟩),
   ("NVARCHAR", ⟨.string, none, .varchar⟩),
   ("CHAR", ⟨.string, none, .char⟩),
   ("NCHAR", ⟨.string, none, .char⟩),
   ("TEXT", ⟨.string, none, .text⟩),
   ("NTEXT", ⟨.string, none, .text⟩),
   ("TINYTEXT", ⟨.string, none, .text⟩),
   ("MEDIUMTEXT", ⟨.string, none, .text⟩),
   ("LONGTEXT", ⟨.string, none, .text⟩),
   ("DATETIME", ⟨.date, some 8, .datetime⟩),
   ("DATETIME2", ⟨.date, none, .datetime⟩),
   ("SMALLDATETIME", ⟨.date, some 4, .datetime⟩),
   ("DATETIMEOFFSET", ⟨.date, some 10, .datetime⟩),
   ("DATE", ⟨.date, some 3, .date⟩),
   ("TIME", ⟨.time, none, .time⟩),
   ("TIMESTAMP", ⟨.binary, some 8, .timestamp⟩),
   ("BINARY", ⟨.binary, none, .binary⟩),
   ("VARBINARY", ⟨.binary, none, .binary⟩),
   ("IMAGE", ⟨.binary, none, .binary⟩),
   ("BLOB", ⟨.binary, none, .binary⟩),
   ("BYTEA", ⟨.binary, none, .binary⟩),
   ("UNIQUEIDENTIFIER", ⟨.guid, some 16, .guid⟩),
   ("UUID", ⟨.guid, some 16, .guid⟩),
   ("XML", ⟨.xml, none, .xml⟩),
   ("JSON", ⟨.json, none, .json⟩),
   ("GEOGRAPHY", ⟨.spatial, none, .spatial⟩),
   ("GEOMETRY", ⟨.spatial, none, .spatial⟩)]

/-- `full` is the type with its arguments as they were written. -/
structure DataType where
  base : String
  size : Option Int
  scale : Option Int
  full : String
deriving DecidableEq, Repr, Inhabited

namespace DataType

/-- A type with no full text is written as its base. -/
def make (base : String) (size scale : Option Int) (full : String) : DataType :=
  ⟨base, size, scale, if full == "" then base else full⟩

def plain (base : String) : DataType := ⟨base, none, none, base⟩

def traits? (type : DataType) : Option TypeTraits := knownTypes.lookup type.base

def category (type : DataType) : TypeCategory :=
  match type.traits? with
  | none => .unknown
  | some traits => traits.family.category

/-- The type with the numbers that were read, or else its full text. -/
def display (type : DataType) : String :=
  match type.size, type.scale with
  | some size, some scale => s!"{type.base}({size},{scale})"
  | some size, none => s!"{type.base}({size})"
  | none, _ => type.full

end DataType
end SchemaAtlas
