import SchemaAtlas.Script.Reading
import SchemaAtlas.Proofs.Clause.Amendment
/-!
Where the tables of a script come from. The table of a name is read from the first body of that name
whose numbers can be read: its columns first, then its constraint clauses, and then the clauses that
the alterations of the script add to it. Reading indexes changes nothing else about a table.
-/
namespace SchemaAtlas

namespace Draft

def columnClauses (body : Text) : List Text := (Script.clauses body).filter (!isConstraintClause ·)

def constraintClauses (body : Text) : List Text := (Script.clauses body).filter isConstraintClause

theorem withOutcome_table (draft : Draft) (clause : Text) (outcome : ColumnOutcome) :
    (draft.withOutcome clause outcome).table = draft.table.withOutcome outcome := by
  simp only [withOutcome]
  split <;> rfl

/-- What every column clause keeps holds of the table after the column clauses. -/
theorem readColumns_keeps (keeps : Table → Prop)
    (step : ∀ clause table, keeps table →
      keeps (table.withOutcome (Column.read table.columns clause)))
    (clauses : List Text) (draft : Draft) (start : keeps draft.table) :
    keeps (draft.readColumns clauses).1.table := by
  induction clauses generalizing draft with
  | nil => exact start
  | cons clause rest ih =>
    unfold readColumns
    split
    · exact start
    · apply ih
      rw [withOutcome_table]
      exact step clause draft.table start

end Draft

namespace Table

/-- The table of a body before its constraint clauses are read. -/
def ofColumns (name : String) (body : Text) : Table :=
  ((Draft.ofTable (.empty name)).readColumns (Draft.columnClauses body)).1.table

def bare (table : Table) : Table := { table with indexes := [] }

theorem name_addIndex (index : Index) (table : Table) : (table.addIndex index).name = table.name := rfl

theorem name_removeIndex (index : Index) (table : Table) :
    (table.removeIndex index).name = table.name := rfl

theorem withOutcome_name (table : Table) (outcome : ColumnOutcome) :
    (table.withOutcome outcome).name = table.name := by
  cases outcome with
  | accepted column check => cases check <;> rfl
  | _ => rfl

theorem Amendment.name_eq {clause : Text} {before after : Table}
    (change : Amendment clause before after) : after.name = before.name := by
  cases change <;> rfl

theorem Amended.name_eq {clauses : List Text} {before after : Table}
    (run : Amended clauses before after) : after.name = before.name := by
  refine run.keeps (fun table => table.name = before.name) rfl ?_
  intro clause _ earlier later change same
  exact change.name_eq.trans same

theorem ofColumns_name (name : String) (body : Text) : (ofColumns name body).name = name :=
  Draft.readColumns_keeps (fun table => table.name = name)
    (fun _ table same => (withOutcome_name table _).trans same) _ _ rfl

end Table

namespace Draft

/-- A body whose numbers can be read gives its columns, amended by its constraint clauses. -/
theorem readBody_table (name : String) (body : Text)
    (readable : ((ofTable (.empty name)).readBody body).2 = none) :
    ((ofTable (.empty name)).readBody body).1.table =
      (constraintClauses body).foldl Table.amend (Table.ofColumns name body) := by
  unfold readBody at readable ⊢
  unfold Table.ofColumns columnClauses constraintClauses
  cases reading : (ofTable (.empty name)).readColumns
      ((Script.clauses body).filter (!isConstraintClause ·)) with
  | mk draft failure =>
    cases failure with
    | some error => simp [reading] at readable
    | none =>
      simp only [reading]
      exact foldl_readConstraint_table _ draft

end Draft

namespace Script

/-- The body that a statement gives to the table of a name, if the numbers in it can be read. -/
def readableBody? (name : String) (statement : Text) : Option Text :=
  match TableStatement.read statement with
  | .definition other body =>
    if other = name ∧ ((Draft.ofTable (.empty name)).readBody body).2 = none then some body else none
  | _ => none

/-- The body that defines the table of a name. -/
def definingBody? (name : String) (statements : List Text) : Option Text :=
  statements.findSome? (readableBody? name)

/-- The constraint clauses that one statement adds to the table of a name. -/
def addedClauses (name : String) (statement : Text) : List Text :=
  match Alteration.read? statement with
  | none => []
  | some alteration =>
    if alteration.table = name then alteration.clauses.filter Draft.isConstraintClause else []

/-- The constraint clauses that a script has for the table of a name, in the order in which they take
effect: those of its body, and then those of its alterations. -/
def constraintClauses (name : String) (statements : List Text) : List Text :=
  ((definingBody? name statements).map Draft.constraintClauses).getD [] ++
    statements.flatMap (addedClauses name)

/-- The statements of a script that is given as it was written. -/
def statementsOf (script : String) : List Text := statements (normalized script.toList)

end Script

namespace Schema

def tableOfBody (name : String) (body : Text) : Table :=
  (Draft.constraintClauses body).foldl Table.amend (Table.ofColumns name body)

theorem tableOfBody_name (name : String) (body : Text) : (tableOfBody name body).name = name :=
  (Table.foldl_amend_amended _ _).name_eq.trans (Table.ofColumns_name name body)

theorem table?_readTable (schema : Schema) (statement : Text) (name : String) :
    (schema.readTable statement).table? name =
      (schema.table? name).or ((Script.readableBody? name statement).map (tableOfBody name)) := by
  unfold readTable Script.readableBody?
  cases TableStatement.read statement with
  | unrelated => simp
  | malformed => simp
  | definition other body =>
    by_cases taken : schema.tables.has other = true
    · -- The name is taken, so a body of the same name comes too late.
      simp only [taken, ↓reduceIte]
      split
      · next same =>
        obtain ⟨table, found⟩ := Roster.mem_names_iff.mp (Roster.has_iff.mp taken)
        obtain ⟨rfl, _⟩ := same
        simp [table?, addErrors, found]
      · simp [table?, addErrors]
    · simp only [taken]
      cases reading : (Draft.ofTable (.empty other)).readBody body with
      | mk draft failure =>
        cases failure with
        | some error =>
          have unreadable : ¬(other = name ∧
              ((Draft.ofTable (.empty name)).readBody body).2 = none) := by
            rintro ⟨rfl, readable⟩
            simp [reading] at readable
          simp [unreadable, table?, addErrors, addIssues, addWarnings]
        | none =>
          have made : draft.table = tableOfBody other body := by
            have table := Draft.readBody_table other body (by rw [reading])
            rw [reading] at table
            exact table
          have named : Named.name draft.table = other := by
            rw [made]; exact tableOfBody_name other body
          have put : ((schema.addIssues draft).putTable draft.table).table? name =
              if name = other then some draft.table else schema.table? name := by
            rw [← named]
            exact Roster.find?_put _ _ _
          simp only [Bool.false_eq_true, ↓reduceIte, put]
          by_cases same : other = name
          · subst same
            have absent : schema.table? other = none := by
              apply Roster.find?_eq_none_iff.mpr
              exact fun member => taken (Roster.has_iff.mpr member)
            simp [reading, absent, made]
          · simp [same, Ne.symm same]

theorem table?_readTables (statements : List Text) (schema : Schema) (name : String) :
    (schema.readTables statements).table? name =
      (schema.table? name).or ((Script.definingBody? name statements).map (tableOfBody name)) := by
  unfold readTables Script.definingBody?
  induction statements generalizing schema with
  | nil => simp
  | cons statement rest ih =>
    rw [List.foldl_cons, ih, table?_readTable, List.findSome?_cons]
    cases schema.table? name <;> cases Script.readableBody? name statement <;> simp

theorem table?_readAlteration (schema : Schema) (statement : Text) (name : String) :
    (schema.readAlteration statement).table? name =
      (schema.table? name).map ((Script.addedClauses name statement).foldl Table.amend) := by
  -- A table that is missing is nobody's, and amendments keep the name under which the table is put back.
  unfold readAlteration Script.addedClauses
  cases Alteration.read? statement with
  | none => simp
  | some alteration =>
    simp only [applyAlteration]
    cases found : schema.table? alteration.table with
    | none =>
      change schema.table? name = _
      by_cases same : alteration.table = name
      · subst same; simp [found]
      · simp [same]
    | some table =>
      have amended : ((alteration.clauses.filter Draft.isConstraintClause).foldl
          Draft.readConstraint (.ofTable table)).table =
            (alteration.clauses.filter Draft.isConstraintClause).foldl Table.amend table :=
        Draft.foldl_readConstraint_table _ _
      have named : Named.name ((alteration.clauses.filter Draft.isConstraintClause).foldl
          Table.amend table) = alteration.table :=
        (Table.foldl_amend_amended _ table).name_eq.trans (Roster.name_of_find? found)
      simp only [amended]
      refine (Roster.find?_put _ _ name).trans ?_
      rw [named]
      split
      · next same => simp [same, found]
      · next different =>
        change schema.table? name = _
        simp [Ne.symm different]

theorem table?_readAlterations (statements : List Text) (schema : Schema) (name : String) :
    (schema.readAlterations statements).table? name =
      (schema.table? name).map
        ((statements.flatMap (Script.addedClauses name)).foldl Table.amend) := by
  unfold readAlterations
  induction statements generalizing schema with
  | nil => simp
  | cons statement rest ih =>
    rw [List.foldl_cons, ih, table?_readAlteration, List.flatMap_cons]
    simp [Function.comp_def, List.foldl_append]

theorem table?_modifyTable (schema : Schema) {target : String} {change : Table → Table}
    (keeps : ∀ table, (change table).name = table.name) (name : String) :
    (schema.modifyTable target change keeps).table? name =
      if name = target then (schema.table? name).map change else schema.table? name :=
  Roster.find?_modify keeps schema.tables target name

theorem bare_modifyTable (schema : Schema) {target : String} {change : Table → Table}
    (keeps : ∀ table, (change table).name = table.name) (name : String)
    (indexesOnly : ∀ table, (change table).bare = table.bare) :
    ((schema.modifyTable target change keeps).table? name).map Table.bare =
      (schema.table? name).map Table.bare := by
  rw [table?_modifyTable]
  split
  · simp [Function.comp_def, indexesOnly]
  · rfl

theorem bare_unlistIndex (schema : Schema) (index : Index) (name : String) :
    ((schema.unlistIndex index).table? name).map Table.bare =
      (schema.table? name).map Table.bare :=
  bare_modifyTable schema (Table.name_removeIndex index) name fun _ => rfl

theorem bare_putIndex (schema : Schema) (index : Index) (name : String) :
    ((schema.putIndex index).table? name).map Table.bare = (schema.table? name).map Table.bare := by
  refine (bare_modifyTable _ (Table.name_addIndex index) name fun _ => rfl).trans ?_
  cases schema.indexes.find? index.name with
  | none => rfl
  | some earlier => exact bare_unlistIndex _ earlier name

theorem bare_readIndexes (schema : Schema) (script : Text) (name : String) :
    ((schema.readIndexes script).table? name).map Table.bare =
      (schema.table? name).map Table.bare := by
  unfold readIndexes
  induction Index.readAll script generalizing schema with
  | nil => rfl
  | cons index rest ih => rw [List.foldl_cons, ih, bare_putIndex]

theorem table?_checked (schema : Schema) (name : String) :
    schema.drawRelationships.validated.counted.table? name = schema.table? name := rfl

end Schema

namespace Script

/-- The schema of a script before relationships are drawn and checks are made. -/
def readParts (script : Text) : Schema :=
  ((Schema.empty.readTables (statements script)).readAlterations (statements script)).readIndexes
    script

theorem read_eq (script : String) :
    read script = (readParts (normalized script.toList)).drawRelationships.validated.counted := rfl

/-- The table of a name, but for its indexes, is what its first readable body and all the constraint
clauses of the script for it make, in the order of the script. -/
theorem bare_read_table? (script : String) (name : String) :
    ((read script).table? name).map Table.bare =
      (definingBody? name (statementsOf script)).map fun body =>
        ((constraintClauses name (statementsOf script)).foldl Table.amend
          (Table.ofColumns name body)).bare := by
  rw [read_eq, Schema.table?_checked, readParts, Schema.bare_readIndexes, Schema.table?_readAlterations,
    Schema.table?_readTables]
  change (Option.map _ (Option.or none _)).map Table.bare = _
  rw [Option.none_or]
  unfold constraintClauses statementsOf
  cases definingBody? name (statements (normalized script.toList)) with
  | none => simp
  | some body => simp [Schema.tableOfBody, List.foldl_append]

/-- A table of a script comes from its columns by a run of amendments. -/
theorem amended_of_read {script : String} {name : String} {table : Table}
    (found : (read script).table? name = some table) :
    ∃ body result, definingBody? name (statementsOf script) = some body ∧
      Table.Amended (constraintClauses name (statementsOf script)) (Table.ofColumns name body) result ∧
      table.bare = result.bare := by
  have origin := bare_read_table? script name
  rw [found] at origin
  cases defined : definingBody? name (statementsOf script) with
  | none => rw [defined] at origin; cases origin
  | some body =>
    rw [defined] at origin
    exact ⟨body, _, rfl, Table.foldl_amend_amended _ _, Option.some.inj origin⟩

end Script
end SchemaAtlas
