import SchemaAtlas.Proofs.Clause.Accounting
import SchemaAtlas.Proofs.Clause.Issues
import SchemaAtlas.Proofs.Script.Definition
/-!
What becomes of the statements of a script. A definition gives a table or one error that takes its place, and
the table of a name is built by the first definition of that name that can be read to its end. Together
with the account of the clauses this says that nothing that is recognised is lost.
-/
namespace SchemaAtlas
open TableStatement

/-- The error takes the place of a table. -/
def Issue.isTableIssue (issue : Issue) : Bool := issue.kind == .duplicateTable || issue.kind == .syntaxError

theorem Draft.Reported.not_isTableIssue {draft : Draft} (reported : draft.Reported) :
    draft.errors.countP Issue.isTableIssue = 0 := by
  rw [List.countP_eq_zero]
  intro issue member
  have kinds := (reported.errors issue member).kind
  intro other
  unfold Issue.isTableIssue at other
  rcases Bool.or_eq_true_iff.mp other with same | same <;> rw [beq_iff_eq.mp same] at kinds <;> simp at kinds

namespace Schema

/-- The tables of a schema, with the errors in place of tables. -/
def tableCount (schema : Schema) : Nat := schema.tables.size + schema.errors.countP Issue.isTableIssue

theorem tableCount_readTable (schema : Schema) (statement : Text) :
    (schema.readTable statement).tableCount = schema.tableCount + if isDefinition statement then 1 else 0 := by
  cases defined : TableStatement.read statement with
  | unrelated | malformed =>
    have other : ¬isDefinition statement = true := by
      rw [isDefinition_iff]
      simp [defined]
    unfold readTable
    rw [defined, if_neg other, Nat.add_zero]
  | definition name body =>
    have known : isDefinition statement = true := isDefinition_iff.mpr ⟨name, body, defined⟩
    have clausal := (Draft.reported_ofTable (.empty name)).readBody body
    unfold readTable
    simp only [defined, known, ↓reduceIte]
    by_cases taken : schema.tables.has name = true
    · simp [taken, tableCount, addErrors, Issue.duplicateTable, Issue.isTableIssue]
      omega
    · simp only [taken, Bool.false_eq_true, ↓reduceIte]
      cases built : (Draft.ofTable (.empty name)).readBody body with
      | mk draft failure =>
        rw [built] at clausal
        have silent := clausal.not_isTableIssue
        cases failure with
        | some error =>
          simp [tableCount, addErrors, addIssues, addWarnings, List.countP_append, silent, Issue.unreadableTable,
            Issue.isTableIssue]
          omega
        | none =>
          have fresh : Named.name draft.table ∉ schema.tables.names := by
            change draft.table.name ∉ schema.tables.names
            rw [Draft.name_of_readBody built, ← Roster.has_iff]
            exact taken
          have size : (schema.tables.put draft.table).size = schema.tables.size + 1 := by
            unfold Roster.size
            rw [Roster.entries_put_of_fresh fresh, List.length_append, List.length_singleton]
          simp only [tableCount, putTable, addIssues, addErrors, addWarnings, List.countP_append, silent, size]
          omega

/-- Definitions are counted by the tables and by the errors in place of tables. -/
theorem tableCount_readTables (statements : List Text) (schema : Schema) :
    (schema.readTables statements).tableCount = schema.tableCount + statements.countP isDefinition := by
  unfold readTables
  induction statements generalizing schema with
  | nil => rfl
  | cons statement rest ih =>
    rw [List.foldl_cons, ih, tableCount_readTable, List.countP_cons]
    omega

/-- The table that a statement builds under a name, if the numbers in its body can be read. -/
def builtTable? (name : String) (statement : Text) : Option Table :=
  match TableStatement.read statement with
  | .unrelated | .malformed => none
  | .definition other body =>
    match (Draft.ofTable (.empty other)).readBody body with
    | (_, some _) => none
    | (draft, none) => if other = name then some draft.table else none

theorem builtTable?_eq (name : String) (statement : Text) :
    builtTable? name statement = (Script.readableBody? name statement).map (tableOfBody name) := by
  unfold builtTable? Script.readableBody?
  cases TableStatement.read statement with
  | unrelated | malformed => rfl
  | definition other body =>
    cases built : (Draft.ofTable (.empty other)).readBody body with
    | mk draft failure =>
      by_cases same : other = name
      · subst same
        cases failure with
        | some error => simp [built]
        | none => simp [built, Draft.table_of_readBody built]
      · cases failure <;> simp [built, same]

theorem table?_readTables_empty (statements : List Text) (name : String) :
    (empty.readTables statements).table? name = statements.findSome? (builtTable? name) := by
  have built : builtTable? name = fun statement => (Script.readableBody? name statement).map (tableOfBody name) :=
    funext (builtTable?_eq name)
  have nothing : empty.table? name = none := rfl
  rw [table?_readTables, nothing, Option.none_or, built, Script.definingBody?, List.map_findSome?]
  rfl

/-- The draft of a body when its column clauses are read. -/
def afterColumns (name : String) (body : Text) : Draft :=
  ((Draft.ofTable (.empty name)).readColumns (Draft.columnClauses body)).1

theorem readBody_eq_foldl {name : String} {body : Text} {result : Draft}
    (readable : (Draft.ofTable (.empty name)).readBody body = (result, none)) :
    result = (Draft.constraintClauses body).foldl Draft.readConstraint (afterColumns name body) := by
  unfold Draft.readBody at readable
  unfold afterColumns Draft.columnClauses Draft.constraintClauses
  dsimp only at readable
  split at readable
  · cases readable
  · next draft columns =>
    rw [columns]
    cases readable
    rfl

/-- Nothing that is recognised is lost. Every definition of a list of statements gives a table or an error in
place of one, and the first one of a name that can be read to its end builds the table. In a body that
can be read to its end every column clause gives a column or an error in place of one. Every constraint
clause leaves a constraint, an error or a warning behind, and a foreign key with its pairs of columns
one constraint or missing column for each of them. -/
theorem nothing_lost :
    (∀ statements : List Text,
      statements.countP isDefinition =
          (empty.readTables statements).tables.size +
            (empty.readTables statements).errors.countP Issue.isTableIssue ∧
        ∀ name, (empty.readTables statements).table? name = statements.findSome? (builtTable? name)) ∧
    (∀ {name : String} {body : Text} {result : Draft},
      (Draft.ofTable (.empty name)).readBody body = (result, none) →
        (Draft.columnClauses body).length =
            result.table.columns.size + result.errors.countP Issue.isColumnIssue ∧
          result = (Draft.constraintClauses body).foldl Draft.readConstraint (afterColumns name body)) ∧
    ∀ (draft : Draft) (clause : Text),
      draft.Leaves (draft.readConstraint clause) ∧
        ∀ key, ConstraintFamily.ofMasked? (Script.mask clause) = some .foreignKey →
          ForeignKeyClause.read? clause = some key → key.isPaired = true →
          ∃ constraints errors, draft.Adds (draft.readConstraint clause) constraints errors [] ∧
            constraints.length + errors.length = key.columns.length ∧
              ∀ issue ∈ errors, issue.isMissingColumn = true := by
  refine ⟨fun statements => ⟨?_, table?_readTables_empty statements⟩, ?_, ?_⟩
  · have counted := tableCount_readTables statements empty
    have start : empty.tableCount = 0 := rfl
    rw [start, Nat.zero_add] at counted
    exact counted.symm
  · exact fun readable => ⟨Draft.columnClauses_readBody readable, readBody_eq_foldl readable⟩
  · intro draft clause
    refine ⟨Draft.leaves_readConstraint draft clause, fun key family read paired => ?_⟩
    obtain ⟨constraints, errors, linked, many, missing⟩ :=
      Draft.adds_links key (Constraint.declaredName? clause) key.pairs draft
    refine ⟨constraints, errors, ?_, many.trans (ForeignKeyClause.length_pairs paired).1, missing⟩
    unfold Draft.readConstraint
    simp only [family, Draft.readForeignKey, read, paired, ↓reduceIte]
    exact linked

/-- Duplicates, a table that fails midway, blank and unknown clauses, and a key of which a column is missing. -/
theorem nothing_lost_midway :
    let statements := ["CREATE TABLE t (a int, b int(²))".toList, "CREATE TABLE t (a int)".toList,
      "CREATE TABLE t (b int)".toList, "CREATE TABLE".toList]
    let body := "a int, , a text, 1, FOREIGN KEY (a, c) REFERENCES u (x, y), CONSTRAINT z".toList
    let clause := "FOREIGN KEY (a, c) REFERENCES u (x, y)".toList
    let key : ForeignKeyClause := ⟨["a", "c"], "u", ["x", "y"], "NO_ACTION", "NO_ACTION"⟩
    let result := ((Draft.ofTable (.empty "t")).readBody body).1
    (statements.countP isDefinition =
          (empty.readTables statements).tables.size +
            (empty.readTables statements).errors.countP Issue.isTableIssue ∧
        statements.countP isDefinition = 3 ∧
        (empty.readTables statements).table? "t" = statements.findSome? (builtTable? "t")) ∧
      ((Draft.ofTable (.empty "t")).readBody body = (result, none) ∧
        (Draft.columnClauses body).length =
          result.table.columns.size + result.errors.countP Issue.isColumnIssue) ∧
      (ConstraintFamily.ofMasked? (Script.mask clause) = some .foreignKey ∧
        ForeignKeyClause.read? clause = some key ∧ key.isPaired = true ∧
        ∃ constraints errors,
          (afterColumns "t" body).Adds ((afterColumns "t" body).readConstraint clause) constraints errors [] ∧
            constraints.length + errors.length = 2 ∧ ∀ issue ∈ errors, issue.isMissingColumn = true) := by
  intro statements body clause key result
  obtain ⟨tables, bodies, clauses⟩ := nothing_lost
  have family : ConstraintFamily.ofMasked? (Script.mask clause) = some .foreignKey := by decide +kernel
  have read : ForeignKeyClause.read? clause = some key := by decide +kernel
  have readable : (Draft.ofTable (.empty "t")).readBody body = (result, none) :=
    Prod.ext rfl (by decide +kernel)
  exact ⟨⟨(tables statements).1, by decide +kernel, (tables statements).2 "t"⟩, ⟨readable, (bodies readable).1⟩,
    family, read, rfl, (clauses _ clause).2 key family read rfl⟩

end Schema
end SchemaAtlas
