import SchemaAtlas.Proofs.Clause.Numbers
import SchemaAtlas.Proofs.Schema.ForeignKeys
import SchemaAtlas.Proofs.Schema.IndexListing
/-!
Definitions that cannot be read to their end. The reading of a table ends at the first unreadable
number; the table is then left out and one syntax error with its name is added to the issues that its
clauses had raised before. Nothing else of the definition stays, and no syntax error has another origin.
-/
namespace SchemaAtlas

/-- A definition that ends at an unreadable number, with what had been read of its table. -/
structure Failure where
  table : String
  draft : Draft
  error : NumeralError
deriving DecidableEq

def Failure.issue (failure : Failure) : Issue := .unreadableTable failure.table failure.error.message

namespace Draft

theorem hasCause_of_readColumns {clauses : List Text} {draft : Draft} {error : NumeralError}
    (failed : (draft.readColumns clauses).2 = some error) : error.HasCause := by
  induction clauses generalizing draft with
  | nil => cases failed
  | cons clause rest ih =>
    unfold readColumns at failed
    split at failed
    · next read =>
      cases failed
      exact Column.hasCause_of_read read
    · exact ih failed

theorem readBody_error {body : Text} {draft result : Draft} {error : NumeralError}
    (failed : draft.readBody body = (result, some error)) :
    draft.readColumns (columnClauses body) = (result, some error) := by
  unfold readBody at failed
  unfold columnClauses
  dsimp only at failed
  split at failed
  · next read => rw [read, ← failed]
  · cases failed

theorem name_readColumns (clauses : List Text) (draft : Draft) :
    (draft.readColumns clauses).1.table.name = draft.table.name :=
  readColumns_keeps (fun table => table.name = draft.table.name)
    (fun _ table same => (Table.withOutcome_name table _).trans same) clauses draft rfl

end Draft

namespace Schema

/-- What stands in the way of the table that a statement defines under a name that is free. -/
def failure? (schema : Schema) (statement : Text) : Option Failure :=
  match TableStatement.read statement with
  | .unrelated | .malformed => none
  | .definition name body =>
    if schema.tables.has name then none
    else match (Draft.ofTable (.empty name)).readBody body with
      | (draft, some error) => some ⟨name, draft, error⟩
      | (_, none) => none

/-- The definitions that fail, one after another. -/
def failures : Schema → List Text → List Failure
  | _, [] => []
  | schema, statement :: rest =>
    (schema.failure? statement).toList ++ failures (schema.readTable statement) rest

def syntaxErrors (schema : Schema) : List Issue := schema.errors.filter (·.kind == .syntaxError)

section Failure
variable {schema : Schema} {statement : Text} {failure : Failure}

theorem failure?_eq_some (failed : schema.failure? statement = some failure) :
    ∃ body, TableStatement.read statement = .definition failure.table body ∧
      schema.tables.has failure.table = false ∧
      (Draft.ofTable (.empty failure.table)).readBody body = (failure.draft, some failure.error) := by
  unfold failure? at failed
  split at failed
  · cases failed
  · cases failed
  · next name body read =>
    split at failed
    · cases failed
    · next fresh =>
      split at failed
      · next built =>
        cases failed
        exact ⟨body, read, by simpa using fresh, built⟩
      · cases failed

theorem readTable_of_failure (failed : schema.failure? statement = some failure) :
    schema.readTable statement = (schema.addIssues failure.draft).addErrors [failure.issue] := by
  obtain ⟨body, read, fresh, built⟩ := failure?_eq_some failed
  unfold readTable
  simp only [read, fresh, built, Bool.false_eq_true, ↓reduceIte]
  rfl

theorem Failure.reported (failed : schema.failure? statement = some failure) :
    failure.draft.Reported ∧ failure.draft.table.name = failure.table ∧ failure.error.HasCause := by
  obtain ⟨body, _, _, built⟩ := failure?_eq_some failed
  have reported := (Draft.reported_ofTable (.empty failure.table)).readBody body
  have columns := Draft.readBody_error built
  have named := Draft.name_readColumns (Draft.columnClauses body) (Draft.ofTable (.empty failure.table))
  rw [built] at reported
  rw [columns] at named
  exact ⟨reported, named, Draft.hasCause_of_readColumns (by rw [columns])⟩

end Failure

section SyntaxErrors
variable (schema : Schema)

theorem syntaxErrors_addErrors (issues : List Issue) :
    (schema.addErrors issues).syntaxErrors =
      schema.syntaxErrors ++ issues.filter (·.kind == .syntaxError) := List.filter_append ..

theorem syntaxErrors_addIssues {draft : Draft} (reported : draft.Reported) :
    (schema.addIssues draft).syntaxErrors = schema.syntaxErrors := by
  have none_there : draft.errors.filter (·.kind == .syntaxError) = [] := by
    apply List.filter_eq_nil_iff.mpr
    intro issue member
    have kinds := (reported.errors issue member).kind
    intro same
    rw [beq_iff_eq.mp same] at kinds
    simp at kinds
  have added : (schema.addIssues draft).syntaxErrors =
      schema.syntaxErrors ++ draft.errors.filter (·.kind == .syntaxError) :=
    syntaxErrors_addErrors schema draft.errors
  rw [added, none_there, List.append_nil]

theorem syntaxErrors_readTable (statement : Text) :
    (schema.readTable statement).syntaxErrors =
      schema.syntaxErrors ++ ((schema.failure? statement).map Failure.issue).toList := by
  unfold readTable failure?
  cases TableStatement.read statement with
  | unrelated => simp
  | malformed => simp
  | definition name body =>
    have reported := (Draft.reported_ofTable (.empty name)).readBody body
    by_cases taken : schema.tables.has name = true
    · simp only [taken, ↓reduceIte, syntaxErrors_addErrors]
      rfl
    · simp only [taken]
      cases built : (Draft.ofTable (.empty name)).readBody body with
      | mk draft failure =>
        rw [built] at reported
        have kept := syntaxErrors_addIssues schema reported
        cases failure with
        | some error =>
          have added := syntaxErrors_addErrors (schema.addIssues draft) [.unreadableTable name error.message]
          rw [kept] at added
          exact added
        | none => exact kept.trans (List.append_nil _).symm

theorem syntaxErrors_readTables (statements : List Text) (schema : Schema) :
    (schema.readTables statements).syntaxErrors =
      schema.syntaxErrors ++ (schema.failures statements).map Failure.issue := by
  unfold readTables
  induction statements generalizing schema with
  | nil => simp [failures]
  | cons statement rest ih =>
    rw [List.foldl_cons, ih, syntaxErrors_readTable, failures, List.map_append, List.append_assoc]
    cases schema.failure? statement <;> rfl

theorem syntaxErrors_readAlterations (statements : List Text) (schema : Schema) :
    (schema.readAlterations statements).syntaxErrors = schema.syntaxErrors := by
  unfold readAlterations
  induction statements generalizing schema with
  | nil => rfl
  | cons statement rest ih =>
    rw [List.foldl_cons, ih]
    unfold readAlteration applyAlteration
    split
    · rfl
    · next alteration _ =>
      split
      · rw [syntaxErrors_addErrors]
        exact List.append_nil _
      · next table _ =>
        have reported := (Draft.reported_ofTable table).foldl
          (fun _ clause kept => kept.readConstraint clause)
          (alteration.clauses.filter Draft.isConstraintClause)
        exact syntaxErrors_addIssues schema reported

theorem errors_readIndexes (script : Text) (schema : Schema) :
    (schema.readIndexes script).errors = schema.errors := by
  unfold readIndexes
  induction Index.readAll script generalizing schema with
  | nil => rfl
  | cons index rest ih =>
    rw [List.foldl_cons, ih]
    simp only [putIndex, modifyTable]
    split <;> rfl

theorem syntaxErrors_validated : schema.validated.syntaxErrors = schema.syntaxErrors := by
  have none_there : schema.violations.filter (·.kind == .syntaxError) = [] := by
    apply List.filter_eq_nil_iff.mpr
    intro issue member
    rcases List.mem_append.mp member with missing | invalid
    · obtain ⟨link, _, found⟩ := List.mem_filterMap.mp missing
      simp [kind_of_missingTarget? found]
    · obtain ⟨name, _, rfl⟩ := List.mem_map.mp invalid
      simp [Issue.invalidTableName]
  unfold validated
  rw [syntaxErrors_addErrors, none_there, List.append_nil]

end SyntaxErrors

/-- The same tables and indexes, whatever issues there are. -/
structure SameContent (left right : Schema) : Prop where
  tables : left.tables = right.tables
  indexes : left.indexes = right.indexes

section Content
variable {left right : Schema}

theorem SameContent.readTable (same : left.SameContent right) (statement : Text) :
    (left.readTable statement).SameContent (right.readTable statement) := by
  unfold Schema.readTable
  cases TableStatement.read statement with
  | unrelated => exact same
  | malformed => exact same
  | definition name body =>
    simp only [same.tables]
    split
    · exact ⟨same.tables, same.indexes⟩
    · split
      · exact ⟨same.tables, same.indexes⟩
      · exact ⟨congrArg (Roster.put · _) same.tables, same.indexes⟩

theorem SameContent.readAlteration (same : left.SameContent right) (statement : Text) :
    (left.readAlteration statement).SameContent (right.readAlteration statement) := by
  unfold Schema.readAlteration Schema.applyAlteration Schema.table?
  cases Alteration.read? statement with
  | none => exact same
  | some alteration =>
    simp only [same.tables]
    split
    · exact ⟨same.tables, same.indexes⟩
    · exact ⟨congrArg (Roster.put · _) same.tables, same.indexes⟩

theorem SameContent.putIndex (same : left.SameContent right) (index : Index) :
    (left.putIndex index).SameContent (right.putIndex index) where
  tables := Roster.ext (by rw [putIndex_tables, putIndex_tables, same.tables, same.indexes])
  indexes := by rw [putIndex_indexes, putIndex_indexes, same.indexes]

theorem SameContent.foldl {α : Type} {step : Schema → α → Schema}
    (keeps : ∀ left right item, left.SameContent right → (step left item).SameContent (step right item))
    (items : List α) (same : left.SameContent right) :
    (items.foldl step left).SameContent (items.foldl step right) := by
  induction items generalizing left right with
  | nil => exact same
  | cons item rest ih => exact ih (keeps left right item same)

end Content

/-- A definition that fails leaves the tables as they are, so the later ones read as if it were missing. -/
theorem sameContent_readTables {schema : Schema} {before after : List Text} {statement : Text}
    {failure : Failure} (failed : (schema.readTables before).failure? statement = some failure) :
    (schema.readTables (before ++ statement :: after)).SameContent (schema.readTables (before ++ after)) := by
  have here : ((schema.readTables before).readTable statement).SameContent (schema.readTables before) := by
    rw [readTable_of_failure failed]
    exact ⟨rfl, rfl⟩
  have later := here.foldl (fun _ _ item same => same.readTable item) after
  unfold readTables at later ⊢
  rwa [List.foldl_append, List.foldl_cons, List.foldl_append]

end Schema

namespace Script

/-- The tables and indexes that a choice of definitions and of alterations gives with the indexes of a
text. -/
def readSelected (definitions alterations : List Text) (script : Text) : Schema :=
  ((Schema.empty.readTables definitions).readAlterations alterations).readIndexes script

/-- How little a definition that fails leaves behind. -/
structure Isolated (script : String) (before : List Text) (statement : Text) (after : List Text)
    (failure : Failure) : Prop where
  cause : failure.error.HasCause
  recorded : (Schema.empty.readTables before).readTable statement =
    ((Schema.empty.readTables before).addIssues failure.draft).addErrors [failure.issue]
  clausal : failure.draft.Reported
  named : failure.draft.table.name = failure.table
  absent : (read script).table? failure.table = none ↔
    ∀ later ∈ after, readableBody? failure.table later = none
  others : (read script).tables =
    (readSelected (before ++ after) (statementsOf script) (normalized script.toList)).tables
  missing : Alteration.read? statement = none → (read script).tables =
    (readSelected (before ++ after) (before ++ after) (normalized script.toList)).tables

/-- Relationships, checks and counts change no table. -/
theorem tables_read (script : String) : (read script).tables =
    (readSelected (statementsOf script) (statementsOf script) (normalized script.toList)).tables := by
  have checked (parts : Schema) : parts.drawRelationships.validated.counted.tables = parts.tables := rfl
  rw [read_eq, checked]
  rfl

theorem table?_read_eq_none_iff (script name : String) :
    (read script).table? name = none ↔
      ∀ statement ∈ statementsOf script, readableBody? name statement = none := by
  have origin := bare_read_table? script name
  rw [← List.findSome?_eq_none_iff]
  constructor
  · intro absent
    rw [absent] at origin
    exact Option.map_eq_none_iff.mp origin.symm
  · intro undefined
    change definingBody? name (statementsOf script) = none at undefined
    rw [undefined] at origin
    exact Option.map_eq_none_iff.mp origin

section Isolation
variable {script : String} {before after : List Text} {statement : Text} {failure : Failure}
  (split : statementsOf script = before ++ statement :: after)
  (failed : (Schema.empty.readTables before).failure? statement = some failure)
include split failed

/-- The name was free before, and the definition that fails does not take it. -/
theorem table?_eq_none_iff_of_failure : (read script).table? failure.table = none ↔
    ∀ later ∈ after, readableBody? failure.table later = none := by
  obtain ⟨body, read, fresh, built⟩ := Schema.failure?_eq_some failed
  have earlier : ∀ statement ∈ before, readableBody? failure.table statement = none := by
    have unknown : (Schema.empty.readTables before).table? failure.table = none :=
      Roster.find?_eq_none_iff.mpr fun member => by
        rw [Roster.has_iff.mpr member] at fresh
        cases fresh
    rw [Schema.table?_readTables] at unknown
    have undefined := Option.map_eq_none_iff.mp (Option.or_eq_none_iff.mp unknown).2
    exact List.findSome?_eq_none_iff.mp undefined
  have here : readableBody? failure.table statement = none := by
    unfold readableBody?
    simp [read, built]
  rw [table?_read_eq_none_iff, split]
  constructor
  · exact fun undefined later member => undefined later (by simp [member])
  · intro undefined other member
    rcases List.mem_append.mp member with first | last
    · exact earlier other first
    · rcases List.mem_cons.mp last with rfl | last
      · exact here
      · exact undefined other last

/-- Whatever alters the tables, they are those of the script without the definition that fails. -/
theorem tables_readSelected_of_failure (alterations : List Text) :
    (readSelected (statementsOf script) alterations (normalized script.toList)).tables =
      (readSelected (before ++ after) alterations (normalized script.toList)).tables := by
  have content : ((Schema.empty.readTables (statementsOf script)).SameContent
      (Schema.empty.readTables (before ++ after))) := by
    rw [split]
    exact Schema.sameContent_readTables failed
  exact ((content.foldl (fun _ _ item same => same.readAlteration item) alterations).foldl
    (fun _ _ item same => same.putIndex item) (Index.readAll (normalized script.toList))).tables

/-- A definition that is no alteration can be left out of the script. -/
theorem tables_read_of_failure (plain : Alteration.read? statement = none) : (read script).tables =
    (readSelected (before ++ after) (before ++ after) (normalized script.toList)).tables := by
  have skipped (schema : Schema) : schema.readAlteration statement = schema := by
    unfold Schema.readAlteration
    rw [plain]
  have alterations : (Schema.empty.readTables (statementsOf script)).readAlterations (statementsOf script) =
      (Schema.empty.readTables (statementsOf script)).readAlterations (before ++ after) := by
    unfold Schema.readAlterations
    rw [split, List.foldl_append, List.foldl_cons, skipped, List.foldl_append]
  have reading := tables_readSelected_of_failure split failed (before ++ after)
  rw [tables_read]
  unfold readSelected at reading ⊢
  rw [alterations]
  exact reading

theorem Isolated.of_failure : Isolated script before statement after failure := by
  obtain ⟨clausal, named, cause⟩ := Schema.Failure.reported failed
  exact {
    cause
    recorded := Schema.readTable_of_failure failed
    clausal
    named
    absent := table?_eq_none_iff_of_failure split failed
    others := (tables_read script).trans (tables_readSelected_of_failure split failed (statementsOf script))
    missing := tables_read_of_failure split failed }

end Isolation

/-- Every syntax error of a script is that of a definition that fails, and none of them goes further
than the table that was being defined. -/
theorem failures_isolated (script : String) :
    (read script).syntaxErrors = (Schema.empty.failures (statementsOf script)).map Failure.issue ∧
      (∀ issue ∈ (read script).errors, issue.kind = .syntaxError → issue.table.isSome = true) ∧
      ∀ before statement after failure, statementsOf script = before ++ statement :: after →
        (Schema.empty.readTables before).failure? statement = some failure →
          Isolated script before statement after failure := by
  have errors : (read script).syntaxErrors =
      (Schema.empty.failures (statementsOf script)).map Failure.issue := by
    have checked (parts : Schema) :
        parts.drawRelationships.validated.counted.syntaxErrors = parts.syntaxErrors :=
      parts.drawRelationships.syntaxErrors_validated
    rw [read_eq, checked]
    have parts : (readParts (normalized script.toList)).syntaxErrors =
        ((Schema.empty.readTables (statementsOf script)).readAlterations
          (statementsOf script)).syntaxErrors :=
      congrArg (List.filter _) (Schema.errors_readIndexes _ _)
    have none_before : Schema.empty.syntaxErrors = [] := rfl
    rw [Schema.syntaxErrors_readAlterations, Schema.syntaxErrors_readTables, none_before,
      List.nil_append] at parts
    exact parts
  refine ⟨errors, ?_, fun _ _ _ _ split failed => .of_failure split failed⟩
  intro issue member kind
  have listed : issue ∈ (read script).syntaxErrors := List.mem_filter.mpr ⟨member, by simp [kind]⟩
  rw [errors] at listed
  obtain ⟨failure, _, rfl⟩ := List.mem_map.mp listed
  rfl

/-- A table whose first definition fails is built from the second. -/
theorem failures_isolated_retried :
    let script := "CREATE TABLE t (a VARCHAR(²)); CREATE TABLE t (b int)"
    let first := "CREATE TABLE t (a VARCHAR(²))".toList
    let second := "CREATE TABLE t (b int)".toList
    let failure : Failure := ⟨"t", .ofTable (.empty "t"), .malformed ['²']⟩
    (failure.issue ∈ (read script).errors ∧ failure.issue.kind = .syntaxError ∧
        failure.issue.table.isSome = true) ∧
      (statementsOf script = [] ++ first :: [second] ∧
        (Schema.empty.readTables []).failure? first = some failure ∧
        Isolated script [] first [second] failure) ∧
      ((read script).table? "t").map (·.columns.names) = some ["b"] := by
  intro script first second failure
  have member : failure.issue ∈ (read script).errors := by decide +kernel
  have split : statementsOf script = [] ++ first :: [second] := by decide +kernel
  have failed : (Schema.empty.readTables []).failure? first = some failure := by decide +kernel
  obtain ⟨_, named, isolated⟩ := failures_isolated script
  exact ⟨⟨member, rfl, named _ member rfl⟩, ⟨split, failed, isolated _ _ _ _ split failed⟩,
    by decide +kernel⟩

/-- A statement may fail as a definition and still add a key as an alteration, so a failing statement is
not always as good as missing. -/
theorem failing_definition_alters :
    let script := "CREATE TABLE t (a int); ALTER TABLE t ADD UNIQUE (a), CREATE TABLE u (b int(²))"
    let kept := "CREATE TABLE t (a int)"
    let failing := "ALTER TABLE t ADD UNIQUE (a), CREATE TABLE u (b int(²))".toList
    statementsOf script = statementsOf kept ++ [failing] ∧
      ((Schema.empty.readTables (statementsOf kept)).failure? failing).isSome = true ∧
      (read script).tables ≠ (read kept).tables := by
  decide +kernel

end Script
end SchemaAtlas
