import SchemaAtlas.Proofs.Pattern.Ends
import SchemaAtlas.Proofs.Script.Keywords
import SchemaAtlas.Proofs.Script.Origin
/-!
Statements that define a table. What makes a statement a definition is the head, up to the parenthesis in
front of the body, and that this parenthesis closes; the keyword alone, which is sought first, is always
there where a head is.
-/
namespace SchemaAtlas
open Text Pattern Cursor

namespace Phrase
variable {before rest : Text} {head : Match}

theorem createTableHead_led : LedBy (Keyed "CREATE") createTableHead := by
  unfold createTableHead createTable
  iterate 8 apply ledBy_followed
  exact ledBy_edge_blanks (wordy_word (by decide))

/-- The head is read up to a parenthesis behind the name of the table. -/
theorem createTableHead_some (found : createTableHead.matchAt (after before rest) = some head) :
    ∃ opening name gap tail, rest = opening ++ (name ++ (gap ++ '(' :: tail)) ∧
      head.span = Span.behind before (opening ++ (name ++ (gap ++ ['(']))) ∧
        head.part? .table = some (Span.behind (before ++ opening) name) := by
  unfold matchAt createTableHead at found
  iterate 3 rw [run_followed] at found
  obtain ⟨opening, tail, parts, rfl, _, found⟩ := run_some found
  rw [run_named] at found
  obtain ⟨name, tail, others, rfl, _, found⟩ := run_some found
  obtain ⟨gap, tail, rfl, _, found⟩ := run_many_some found
  obtain ⟨tail, rfl, same⟩ := run_exactly_some found
  obtain rfl := Option.some.inj same
  exact ⟨opening, name, gap, tail, rfl, by simp [Span.behind, after], by simp [Match.part?, Span.behind, after]⟩

/-- The keyword stands wherever a head is found. -/
theorem isSome_createTableKeyword (found : (createTableHead.matchAt (after before rest)).isSome = true) :
    (createTableKeyword.matchAt (after before rest)).isSome = true := by
  unfold matchAt createTableHead at found
  unfold matchAt createTableKeyword
  iterate 5 rw [run_followed] at found
  rw [run_followed]
  unfold createTable at found ⊢
  rw [run_followed] at found ⊢
  -- Behind the last word of the keyword the head goes on with a blank, which is an edge.
  refine isSome_run_mono found fun passed tail parts _ here => ?_
  obtain ⟨_, here⟩ := Option.isSome_iff_exists.mp here
  obtain ⟨letters, behind, rfl, folds, goes⟩ := run_word_some here
  obtain ⟨gap, others, rfl, filled, blank, _⟩ := run_several_some goes
  have stop : endsWord (before ++ passed ++ letters) ≠ beginsWord (gap ++ others) := by
    rw [endsWord_of_fits (ne_nil_of_folds (by decide) folds) (wordCharacters_of_folds (by decide) folds),
      beginsWord_of_isBlank filled blank]
    decide
  unfold word
  rw [run_letters folds, run_edge stop]
  rfl

theorem occurs_createTableKeyword {statement : Text} (found : createTableHead.find? statement = some head) :
    createTableKeyword.occurs statement = true := by
  rw [find?_eq_findAfter] at found
  obtain ⟨passed, tail, rfl, here⟩ := findAfter_some found
  apply occurs_of_matchAt
  exact isSome_createTableKeyword (Option.isSome_iff_exists.mpr ⟨head, here⟩)

theorem text?_createTableHead {statement : Text} (found : createTableHead.find? statement = some head) :
    ∃ name, head.text? .table statement = some name := by
  rw [find?_eq_findAfter] at found
  obtain ⟨passed, tail, rfl, here⟩ := findAfter_some found
  obtain ⟨_, _, _, _, _, _, named⟩ := createTableHead_some here
  exact ⟨_, congrArg (Option.map _) named⟩

end Phrase

namespace Draft
variable {name : String} {body : Text} {draft : Draft}

theorem table_of_readBody (built : (ofTable (.empty name)).readBody body = (draft, none)) :
    draft.table = Schema.tableOfBody name body := by
  have origin := readBody_table name body (by rw [built])
  rwa [built] at origin

theorem name_of_readBody (built : (ofTable (.empty name)).readBody body = (draft, none)) :
    draft.table.name = name := by
  rw [table_of_readBody built, Schema.tableOfBody_name]

end Draft

namespace TableStatement
variable {statement body : Text} {name : String}

/-- The name of the table that is defined. -/
def name? : TableStatement → Option String
  | .definition name _ => some name
  | .unrelated | .malformed => none

/-- The statement has a head and a body whose parentheses close. -/
def isDefinition (statement : Text) : Bool :=
  ((Phrase.createTableHead.find? statement).bind fun head =>
    Script.group? statement (head.span.stop - 1)).isSome

theorem read_of_head {head : Match} {written : Text} {stop : Nat}
    (found : Phrase.createTableHead.find? statement = some head) (named : head.text? .table statement = some written)
    (closed : Script.group? statement (head.span.stop - 1) = some (body, stop)) :
    read statement = .definition (String.ofList (Name.cleanQualified written)) body := by
  simp [read, Phrase.occurs_createTableKeyword found, found, named, closed]

theorem isDefinition_iff : isDefinition statement = true ↔ ∃ name body, read statement = .definition name body := by
  unfold isDefinition
  constructor
  · intro defined
    obtain ⟨⟨body, stop⟩, both⟩ := Option.isSome_iff_exists.mp defined
    obtain ⟨head, found, closed⟩ := Option.bind_eq_some_iff.mp both
    obtain ⟨written, named⟩ := Phrase.text?_createTableHead found
    exact ⟨_, body, read_of_head found named closed⟩
  · rintro ⟨name, body, read⟩
    unfold TableStatement.read at read
    split at read
    · cases read
    · dsimp only at read
      split at read
      · next both =>
        simp only [Option.bind_eq_bind, Option.bind_eq_some_iff] at both
        obtain ⟨head, found, _, _, ⟨_, stop⟩, closed, _⟩ := both
        simp [found, closed]
      · cases read

theorem isSome_name? : (read statement).name?.isSome = isDefinition statement := by
  rw [Bool.eq_iff_iff, isDefinition_iff]
  cases read statement <;> simp [name?]

theorem read_of_other (other : isDefinition statement = false) :
    read statement = .unrelated ∨ read statement = .malformed := by
  cases defined : read statement with
  | unrelated => exact Or.inl rfl
  | malformed => exact Or.inr rfl
  | definition name body =>
    rw [isDefinition_iff.mpr ⟨name, body, defined⟩] at other
    cases other

end TableStatement

/-- The statement adds something to a table. -/
def Alteration.alters (statement : Text) : Bool := (read? statement).isSome

namespace Schema

/-- Only definitions count for the tables. -/
theorem readTables_filter (statements : List Text) (schema : Schema) :
    schema.readTables (statements.filter TableStatement.isDefinition) = schema.readTables statements := by
  unfold readTables
  rw [List.foldl_filter]
  congr 1
  funext schema statement
  cases defines : TableStatement.isDefinition statement with
  | true => rfl
  | false =>
    unfold readTable
    rcases TableStatement.read_of_other defines with read | read <;> rw [read] <;> rfl

/-- Only alterations count for what is added to them. -/
theorem readAlterations_filter (statements : List Text) (schema : Schema) :
    schema.readAlterations (statements.filter Alteration.alters) = schema.readAlterations statements := by
  unfold readAlterations
  rw [List.foldl_filter]
  congr 1
  funext schema statement
  unfold readAlteration Alteration.alters
  cases Alteration.read? statement <;> rfl

end Schema
end SchemaAtlas
