import SchemaAtlas.Proofs.Clause.Accounting
import SchemaAtlas.Proofs.Schema.Retention
/-!
How far a single clause reaches. A clause that gives no column, or no constraint that could be read, leaves the table as
it was and one issue behind at most. One that is taken in adds a column behind the others, or marks and constraints to
the columns that are there. In the schema around the table only issues are new.
-/
namespace SchemaAtlas

/-- Only issues are added, behind those that are recorded already. -/
structure Schema.OnlyNotes (before after : Schema) : Prop where
  tables : after.tables = before.tables
  indexes : after.indexes = before.indexes
  relationships : after.relationships = before.relationships
  stats : after.stats = before.stats
  errors : before.errors <+: after.errors
  warnings : before.warnings <+: after.warnings

/-- The column that a clause gave. -/
def ColumnOutcome.column? : ColumnOutcome → Option Column
  | .accepted column _ => some column
  | _ => none

/-- The column is new and stands behind the others, and one check is new at most. -/
structure Table.Takes (column : Column) (before after : Table) : Prop where
  fresh : column.name ∉ before.columns.names
  name : after.name = before.name
  columns : after.columns.entries = before.columns.entries ++ [column]
  constraints : ∃ checks, after.constraints = before.constraints ++ checks ∧ checks.length ≤ 1 ∧
    ∀ check ∈ checks, check.isCheck = true
  indexes : after.indexes = before.indexes

namespace Draft
variable {draft after : Draft} {errors warnings : List Issue}

/-- The issues that were found on the way from one draft to another. -/
structure Notes (draft after : Draft) (errors warnings : List Issue) : Prop where
  errors : after.errors = draft.errors ++ errors
  warnings : after.warnings = draft.warnings ++ warnings

/-- Among the issues is an error about the clause itself, or a warning that it is of no known kind. -/
def Refused (errors warnings : List Issue) : Prop :=
  (∃ issue ∈ errors, issue.kind = .invalidConstraint) ∨ ∃ issue ∈ warnings, issue.kind = .unknownConstraint

theorem Notes.none (same_errors : after.errors = draft.errors) (same_warnings : after.warnings = draft.warnings) :
    draft.Notes after [] [] :=
  ⟨same_errors.trans (List.append_nil _).symm, same_warnings.trans (List.append_nil _).symm⟩

theorem Adds.notes {constraints : List Constraint} (adds : draft.Adds after constraints errors warnings) :
    draft.Notes after errors warnings := ⟨adds.errors, adds.warnings⟩

/-- The schema around the table sees no more of a clause than its issues. -/
theorem Notes.addIssues (notes : draft.Notes after errors warnings) (schema : Schema) :
    (schema.addIssues draft).OnlyNotes (schema.addIssues after) where
  tables := rfl
  indexes := rfl
  relationships := rfl
  stats := rfl
  errors := by
    have behind : (schema.addIssues after).errors = schema.errors ++ (draft.errors ++ errors) := by
      rw [← notes.errors]
      rfl
    rw [behind, ← List.append_assoc]
    exact List.prefix_append ..
  warnings := by
    have behind : (schema.addIssues after).warnings = schema.warnings ++ (draft.warnings ++ warnings) := by
      rw [← notes.warnings]
      rfl
    rw [behind, ← List.append_assoc]
    exact List.prefix_append ..

section Column
variable {clause : Text} {column : Column}

theorem takes_withOutcome {check : Option String}
    (outcome : Column.read draft.table.columns clause = .accepted column check) :
    draft.table.Takes column (draft.table.withOutcome (.accepted column check)) where
  fresh := (Column.read_accepted outcome).2
  name := by cases check <;> rfl
  columns := by
    have put : (draft.table.withOutcome (.accepted column check)).columns = draft.table.columns.put column := by
      cases check <;> rfl
    rw [put]
    exact Roster.entries_put_of_fresh (Column.read_accepted outcome).2
  constraints := by
    cases check with
    | none => exact ⟨[], (List.append_nil _).symm, Nat.zero_le _, by simp⟩
    | some condition =>
      exact ⟨[.check draft.table.nextCheckName condition], rfl, Nat.le_refl _, List.forall_mem_singleton.mpr rfl⟩
  indexes := by cases check <;> rfl

/-- A clause that gives a column raises no issue. -/
theorem readColumns_accepted (given : (Column.read draft.table.columns clause).column? = some column) :
    ∃ after, draft.readColumns [clause] = (after, none) ∧ draft.table.Takes column after.table ∧
      draft.Notes after [] [] := by
  cases outcome : Column.read draft.table.columns clause with
  | accepted found check =>
    rw [outcome] at given
    obtain rfl : found = column := Option.some.inj given
    refine ⟨draft.withOutcome clause (.accepted found check), ?_, takes_withOutcome outcome, .none rfl rfl⟩
    rw [readColumns, outcome]
    rfl
  | _ => rw [outcome] at given; cases given

/-- A clause that gives none leaves the table alone, and raises one error at most. -/
theorem readColumns_failed (failed : (Column.read draft.table.columns clause).column? = none) :
    (draft.readColumns [clause]).1.table = draft.table ∧
      ∃ errors, errors.length ≤ 1 ∧ draft.Notes (draft.readColumns [clause]).1 errors [] := by
  rw [readColumns]
  cases outcome : Column.read draft.table.columns clause with
  | accepted found check => rw [outcome] at failed; cases failed
  | foreignKeyClause | unreadable => exact ⟨rfl, [], Nat.zero_le _, .none rfl rfl⟩
  | blank | unrecognized | nameless | duplicate =>
    exact ⟨rfl, [_], Nat.le_refl _, rfl, (List.append_nil _).symm⟩

end Column

theorem keeps_readConstraint (draft : Draft) (clause : Text) :
    draft.table.Keeps (draft.readConstraint clause).table ∧
      (draft.readConstraint clause).table.indexes = draft.table.indexes := by
  rw [readConstraint_table]
  have amended := Table.amend_amended draft.table clause
  generalize draft.table.amend clause = after at amended
  induction amended with
  | refl => exact ⟨.refl draft.table, rfl⟩
  | tail _ amendment ih =>
    obtain ⟨kept, same⟩ := ih
    refine ⟨kept.trans amendment.keeps, ?_⟩
    rw [← same]
    cases amendment <;> rfl

/-- An error about the clause itself, or a warning about its kind, is the only issue of the clause. -/
theorem readConstraint_refused (draft : Draft) (clause : Text) :
    ∃ errors warnings, draft.Notes (draft.readConstraint clause) errors warnings ∧ (Refused errors warnings →
      errors.length + warnings.length = 1 ∧ (draft.readConstraint clause).table = draft.table) := by
  rcases readConstraint_cases draft clause with ⟨issue, _, same⟩ | ⟨_, errors, adds, _, missing⟩ | same
  · rw [same]
    exact ⟨[issue], [], (draft.adds_error issue).notes, fun _ => ⟨rfl, rfl⟩⟩
  · refine ⟨errors, [], adds.notes, fun refused => ?_⟩
    rcases refused with ⟨issue, member, invalid⟩ | ⟨_, member, _⟩
    · have other := beq_iff_eq.mp (missing issue member)
      rw [invalid] at other
      cases other
    · cases member
  · rw [same]
    exact ⟨[], [_], (draft.adds_warning _).notes, fun _ => ⟨rfl, rfl⟩⟩

/-- A clause that fails leaves the table as it was, and no clause reaches further than its own table. -/
theorem clause_contained (schema : Schema) (draft : Draft) (clause : Text) :
    (∀ column, (Column.read draft.table.columns clause).column? = some column →
      ∃ after, draft.readColumns [clause] = (after, none) ∧ draft.table.Takes column after.table ∧
        draft.Notes after [] []) ∧
    ((Column.read draft.table.columns clause).column? = none →
      (draft.readColumns [clause]).1.table = draft.table ∧
        ∃ errors, errors.length ≤ 1 ∧ draft.Notes (draft.readColumns [clause]).1 errors []) ∧
    (∃ errors warnings, draft.Notes (draft.readConstraint clause) errors warnings ∧ (Refused errors warnings →
      errors.length + warnings.length = 1 ∧ (draft.readConstraint clause).table = draft.table)) ∧
    draft.table.Keeps (draft.readConstraint clause).table ∧
    (draft.readConstraint clause).table.indexes = draft.table.indexes ∧
    (schema.addIssues draft).OnlyNotes (schema.addIssues (draft.readColumns [clause]).1) ∧
    (schema.addIssues draft).OnlyNotes (schema.addIssues (draft.readConstraint clause)) := by
  obtain ⟨kept, indexes⟩ := keeps_readConstraint draft clause
  obtain ⟨errors, warnings, notes, refused⟩ := readConstraint_refused draft clause
  refine ⟨fun _ => readColumns_accepted, readColumns_failed, ⟨errors, warnings, notes, refused⟩, kept, indexes, ?_,
    notes.addIssues schema⟩
  cases given : (Column.read draft.table.columns clause).column? with
  | none =>
    obtain ⟨_, _, _, found⟩ := readColumns_failed given
    exact found.addIssues schema
  | some column =>
    obtain ⟨after, same, _, found⟩ := readColumns_accepted given
    rw [same]
    exact found.addIssues schema

/-- A column with a check, a column that is there already, and a key without columns. -/
theorem clause_contained_amid :
    let draft := ofTable ((Table.empty "T").putColumn (.plain "a" (.plain "INT")))
    let column := Column.plain "b" (.plain "INT")
    let invalid := Issue.invalidConstraint "T" "UNIQUE" "UNIQUE ( )"
    (Column.read draft.table.columns "b int CHECK (b > 0)".toList).column? = some column ∧
      draft.table.Takes column (draft.readColumns ["b int CHECK (b > 0)".toList]).1.table ∧
      (Column.read draft.table.columns "a int".toList).column? = none ∧
      (draft.readColumns ["a int".toList]).1.table = draft.table ∧
      Refused [invalid] [] ∧ draft.Notes (draft.readConstraint "UNIQUE ( )".toList) [invalid] [] ∧
      (draft.readConstraint "UNIQUE ( )".toList).table = draft.table := by
  intro draft column invalid
  have given : (Column.read draft.table.columns "b int CHECK (b > 0)".toList).column? = some column := by
    decide +kernel
  have failed : (Column.read draft.table.columns "a int".toList).column? = none := by decide +kernel
  have refused : Refused [invalid] [] := .inl ⟨invalid, List.mem_singleton_self _, rfl⟩
  have raised : (draft.readConstraint "UNIQUE ( )".toList).errors = [invalid] ∧
      (draft.readConstraint "UNIQUE ( )".toList).warnings = [] := by decide +kernel
  obtain ⟨after, same, takes, _⟩ := (clause_contained .empty draft _).1 column given
  obtain ⟨errors, warnings, notes, alone⟩ := (clause_contained .empty draft "UNIQUE ( )".toList).2.2.1
  obtain rfl : [invalid] = errors := raised.1.symm.trans notes.errors
  obtain rfl : [] = warnings := raised.2.symm.trans notes.warnings
  exact ⟨given, by rw [same]; exact takes, failed, ((clause_contained .empty draft _).2.1 failed).1, refused, notes,
    (alone refused).2⟩

end Draft
end SchemaAtlas
