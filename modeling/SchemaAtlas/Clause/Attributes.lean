import SchemaAtlas.Clause.DefaultValue
import SchemaAtlas.Clause.TypeName
import SchemaAtlas.Schema.Table
import SchemaAtlas.Script.Nesting
/-!
The attributes of one column: what follows its type. Keywords are sought outside literals and
outside the condition of the first check, so their order does not matter.
-/
namespace SchemaAtlas.Attributes

/-- An attribute text, what of it may hold keywords, and the condition of its check. Both texts have
the same length. -/
structure Scope where
  text : Text
  masked : Text
  condition : Option Text

-- Only the first check is masked. Keywords in the condition of a second one count.
def scope (text : Text) : Scope :=
  let masked := Script.mask text
  match Phrase.checkOpening.find? masked with
  | none => ⟨text, masked, none⟩
  | some opening =>
    match Script.group? text (opening.span.stop - 1) with
    | none => ⟨text, masked, none⟩
    | some (condition, closing) =>
      let blank := List.replicate (closing - opening.span.stop) ' '
      ⟨text, masked.take opening.span.stop ++ blank ++ masked.drop closing, some condition⟩

namespace Scope

def applyFlags (scope : Scope) (column : Column) : Column :=
  let column :=
    if Phrase.notNull.occurs scope.masked then { column with isNullable := false } else column
  let column :=
    if Phrase.primaryKeyKeyword.occurs scope.masked then column.markPrimaryKey else column
  if Phrase.uniqueKeyword.occurs scope.masked then column.markUnique else column

/-- A number of an identity attribute; one that is left out is one. -/
def identityNumber (scope : Scope) (found : Match) (part : Part) : Except NumeralError Int :=
  match found.text? part scope.masked with
  | none => .ok 1
  | some text => Numeral.read text

def applyIdentity (scope : Scope) (column : Column) : Except NumeralError Column := do
  match Phrase.identity.find? scope.masked with
  | some found =>
    let seed ← scope.identityNumber found .seed
    let increment ← scope.identityNumber found .increment
    return column.markIdentity (some seed) (some increment)
  | none =>
    return if Phrase.autoIncrement.occurs scope.masked then column.markIdentity (some 1) (some 1)
      else column

def applyDefault (scope : Scope) (column : Column) : Column :=
  match Phrase.default.find? scope.masked with
  | none => column
  | some found =>
    { column with
      defaultValue := (DefaultValue.read scope.text found.span.stop).map String.ofList }

/-- The names are those of the text itself, because a quoted name is masked. -/
def reference? (scope : Scope) : Option Reference := do
  let found ← Phrase.references.find? scope.masked
  let table ← found.text? .table scope.text
  let column ← found.text? .column scope.text
  return ⟨String.ofList (Name.cleanQualified table), String.ofList (Name.clean column)⟩

def applyReference (scope : Scope) (column : Column) : Column :=
  match scope.reference? with
  | none => column
  | some target => column.markForeignKey target

end Scope

/-- The column with its attributes, and the condition of its check. -/
def apply (column : Column) (text : Text) : Except NumeralError (Column × Option Text) := do
  if Text.isAllBlank text then return (column, none)
  let scope := scope text
  let column ← scope.applyIdentity (scope.applyFlags column)
  return (scope.applyReference (scope.applyDefault column), scope.condition.map Text.trim)

end SchemaAtlas.Attributes
