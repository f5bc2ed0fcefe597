import SchemaAtlas.Clause.Attributes
import SchemaAtlas.Schema.Issue
/-!
Column clauses: a name, a type and attributes. A clause gives a column or the reason why it does not.
-/
namespace SchemaAtlas

inductive ColumnOutcome where
  | foreignKeyClause
  | blank
  | unrecognized
  | nameless
  | duplicate (name : String)
  | unreadable (error : NumeralError)
  | accepted (column : Column) (check : Option String)
deriving DecidableEq

namespace ColumnOutcome

/-- A foreign key clause is no column and no mistake either. An unreadable number is a mistake of the
whole table. -/
def issue? (table : String) (clause : Text) : ColumnOutcome → Option Issue
  | .blank => some (.emptyColumn table)
  | .unrecognized => some (.invalidColumn table (String.ofList clause))
  | .nameless => some (.namelessColumn table (String.ofList clause))
  | .duplicate name => some (.duplicateColumn table name)
  | _ => none

def ofReading (reading : Except NumeralError (Column × Option Text)) : ColumnOutcome :=
  match reading with
  | .error error => .unreadable error
  | .ok (column, check) => .accepted column (check.map String.ofList)

end ColumnOutcome

namespace Column

/-- Reads a clause for a table that has the columns of `taken` already. -/
def read (taken : Roster Column) (clause : Text) : ColumnOutcome :=
  if (Phrase.foreignKeyClause.match? (Text.trim clause)).isSome then .foreignKeyClause
  else if Text.isAllBlank clause then .blank
  else match Phrase.columnDefinition.match? clause with
    | none => .unrecognized
    | some found =>
      let part := fun part => (found.text? part clause).getD []
      let name := String.ofList (Name.clean (part .column))
      if name == "" then .nameless
      else if taken.has name then .duplicate name
      else .ofReading do
        let type ← DataType.read (part .type) (found.text? .arguments clause)
        Attributes.apply (.plain name type) (part .body)

end Column

/-- The table with what a column clause gave it. -/
def Table.withOutcome (table : Table) : ColumnOutcome → Table
  | .accepted column check =>
    let table := match check with
      | none => table
      | some condition => table.addConstraint (.check table.nextCheckName condition)
    table.putColumn column
  | _ => table

end SchemaAtlas
