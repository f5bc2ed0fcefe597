/-!
What a reader finds wrong with a script: errors, which leave something out, and warnings.
-/
namespace SchemaAtlas

inductive IssueKind where
  | syntaxError
  | duplicateTable
  | duplicateColumn
  | invalidColumnDefinition
  | invalidTableName
  | missingReference
  | invalidConstraint
  | missingColumn
  | unknownConstraint
  | duplicateIndex
  | custom (label : String)
deriving DecidableEq, Repr

def IssueKind.label : IssueKind → String
  | .syntaxError => "SYNTAX_ERROR"
  | .duplicateTable => "DUPLICATE_TABLE"
  | .duplicateColumn => "DUPLICATE_COLUMN"
  | .invalidColumnDefinition => "INVALID_COLUMN_DEFINITION"
  | .invalidTableName => "INVALID_TABLE_NAME"
  | .missingReference => "MISSING_REFERENCE"
  | .invalidConstraint => "INVALID_CONSTRAINT"
  | .missingColumn => "MISSING_COLUMN"
  | .unknownConstraint => "UNKNOWN_CONSTRAINT"
  | .duplicateIndex => "DUPLICATE_INDEX"
  | .custom label => label

structure Issue where
  kind : IssueKind
  message : String
  table : Option String
deriving DecidableEq, Repr

namespace Issue

/-- The input is no text at all. -/
def notText : Issue := ⟨.syntaxError, "Invalid SQL content provided", none⟩

def endlessTime : Issue := ⟨.syntaxError, "cannot convert float infinity to integer", none⟩

def unreadableTable (table reason : String) : Issue :=
  ⟨.syntaxError, "Error processing table: " ++ reason, some table⟩

def duplicateTable (table : String) : Issue :=
  ⟨.duplicateTable, "Duplicate table definition: " ++ table, some table⟩

def emptyColumn (table : String) : Issue :=
  ⟨.invalidColumnDefinition, s!"Empty column definition in table '{table}'", some table⟩

def invalidColumn (table clause : String) : Issue :=
  ⟨.invalidColumnDefinition, "Invalid column definition: " ++ clause, some table⟩

def namelessColumn (table clause : String) : Issue :=
  ⟨.invalidColumnDefinition, "Empty column name in: " ++ clause, some table⟩

def duplicateColumn (table column : String) : Issue :=
  ⟨.duplicateColumn, "Duplicate column: " ++ column, some table⟩

def unknownConstraint (table clause : String) : Issue :=
  ⟨.unknownConstraint, "Unknown constraint type: " ++ clause, some table⟩

/-- `family` is the keyword of the constraint. -/
def invalidConstraint (table family clause : String) : Issue :=
  ⟨.invalidConstraint, s!"Invalid {family} syntax: {clause}", some table⟩

def unpairedColumns (table clause : String) : Issue :=
  ⟨.invalidConstraint, "FOREIGN KEY column count does not match referenced columns: " ++ clause,
    some table⟩

/-- `role` is what the column was to be. -/
def missingColumn (table role column : String) : Issue :=
  ⟨.missingColumn, s!"{role} column '{column}' not found in table '{table}'", some table⟩

def missingAlteredTable (table : String) : Issue :=
  ⟨.missingReference, s!"ALTER TABLE target '{table}' not found", some table⟩

def duplicateIndex (index table : String) : Issue :=
  ⟨.duplicateIndex, s!"Duplicate index definition: {index} (later definition replaces the earlier one)",
    some table⟩

def missingTarget (table target : String) : Issue :=
  ⟨.missingReference, s!"Referenced table '{target}' not found", some table⟩

def missingTargetColumn (table target column : String) : Issue :=
  ⟨.missingReference, s!"Referenced column '{column}' not found in table '{target}'", some table⟩

def invalidTableName (table : String) : Issue :=
  ⟨.invalidTableName, "Invalid table name: " ++ table, some table⟩

end Issue
end SchemaAtlas
