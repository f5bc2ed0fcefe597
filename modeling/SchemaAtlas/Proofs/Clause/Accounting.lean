import SchemaAtlas.Proofs.Clause.ColumnHead
import SchemaAtlas.Proofs.Clause.Columns
import SchemaAtlas.Proofs.Script.Enclosure
/-!
What becomes of the clauses of a body. A column clause gives a column or one error, and a constraint clause
leaves a constraint, an error or a warning behind; a foreign key leaves one constraint or error for each
pair of its columns.
-/
namespace SchemaAtlas

namespace Issue

/-- The error takes the place of a column. -/
def isColumnIssue (issue : Issue) : Bool := issue.kind == .invalidColumnDefinition || issue.kind == .duplicateColumn

/-- The error takes the place of a column that a constraint names. -/
def isMissingColumn (issue : Issue) : Bool := issue.kind == .missingColumn

end Issue

/-- A clause about a column is never taken for a foreign key. -/
theorem Column.read_ne_foreignKeyClause (taken : Roster Column) {clause : Text} (trimmed : Text.trim clause = clause)
    (column : Draft.isConstraintClause clause = false) : Column.read taken clause ≠ .foreignKeyClause := by
  have unlinked : ¬(Phrase.foreignKeyClause.match? (Text.trim clause)).isSome = true := by
    intro foreign
    rw [trimmed] at foreign
    rw [Phrase.isConstraintClause_of_foreignKeyClause foreign] at column
    cases column
  unfold Column.read
  rw [if_neg unlinked]
  split
  · simp
  · split
    · simp
    · dsimp only
      split
      · simp
      · split
        · simp
        · unfold ColumnOutcome.ofReading
          split <;> simp

namespace Table

theorem size_markPrimaryKey (table : Table) (column : String) :
    (table.markPrimaryKey column).columns.size = table.columns.size := List.length_map ..

theorem size_markUnique (table : Table) (column : String) :
    (table.markUnique column).columns.size = table.columns.size := List.length_map ..

theorem size_markForeignKey (table : Table) (column : String) (target : Reference) :
    (table.markForeignKey column target).columns.size = table.columns.size := List.length_map ..

end Table

namespace ForeignKeyClause
variable {clause : ForeignKeyClause}

theorem length_pairs (paired : clause.isPaired = true) :
    clause.pairs.length = clause.columns.length ∧ 0 < clause.columns.length := by
  obtain ⟨filled, same⟩ := Bool.and_eq_true_iff.mp paired
  have lengths := beq_iff_eq.mp same
  unfold pairs
  rw [List.length_map, List.length_zip, ← lengths, Nat.min_self]
  exact ⟨rfl, List.length_pos_iff.mpr (bne_iff_ne.mp filled)⟩

end ForeignKeyClause

namespace Draft
variable {draft : Draft}

section Columns

/-- The columns of a draft, with the errors in place of columns. -/
def columnCount (draft : Draft) : Nat := draft.table.columns.size + draft.errors.countP Issue.isColumnIssue

/-- A column clause with readable numbers gives a column or an error. -/
theorem columnCount_withOutcome {clause : Text} (trimmed : Text.trim clause = clause)
    (column : isConstraintClause clause = false)
    (readable : ∀ error, Column.read draft.table.columns clause ≠ .unreadable error) :
    (draft.withOutcome clause (Column.read draft.table.columns clause)).columnCount = draft.columnCount + 1 := by
  have given := Column.read_ne_foreignKeyClause draft.table.columns trimmed column
  unfold columnCount
  rw [columns_withOutcome]
  cases outcome : Column.read draft.table.columns clause with
  | foreignKeyClause => exact absurd outcome given
  | unreadable error => exact absurd outcome (readable error)
  | accepted column check =>
    have fresh : Named.name column ∉ draft.table.columns.names := (Column.read_accepted outcome).2
    have size : (draft.table.columns.put column).size = draft.table.columns.size + 1 := by
      unfold Roster.size
      rw [Roster.entries_put_of_fresh fresh, List.length_append, List.length_singleton]
    have errors : (draft.withOutcome clause (.accepted column check)).errors = draft.errors := rfl
    rw [errors]
    simp only [size]
    omega
  | blank | unrecognized | nameless | duplicate name =>
    simp [withOutcome, ColumnOutcome.issue?, addError, List.countP_append, Issue.isColumnIssue, Issue.emptyColumn,
      Issue.invalidColumn, Issue.namelessColumn, Issue.duplicateColumn]
    try omega

theorem columnCount_readColumns {clauses : List Text} {result : Draft}
    (about : ∀ clause ∈ clauses, Text.trim clause = clause ∧ isConstraintClause clause = false)
    (readable : draft.readColumns clauses = (result, none)) :
    result.columnCount = draft.columnCount + clauses.length := by
  induction clauses generalizing draft with
  | nil =>
    cases readable
    rfl
  | cons clause rest ih =>
    obtain ⟨trimmed, column⟩ := about clause List.mem_cons_self
    rw [readColumns] at readable
    split at readable
    · cases readable
    · next plain =>
      have here := columnCount_withOutcome trimmed column plain
      have later := ih (fun other member => about other (List.mem_cons_of_mem clause member)) readable
      rw [later, here, List.length_cons]
      omega

end Columns

section Constraints

/-- A draft that has become another one by constraints and issues that were added behind those it had. -/
structure Adds (draft after : Draft) (constraints : List Constraint) (errors warnings : List Issue) : Prop where
  size : after.table.columns.size = draft.table.columns.size
  constraints : after.table.constraints = draft.table.constraints ++ constraints
  errors : after.errors = draft.errors ++ errors
  warnings : after.warnings = draft.warnings ++ warnings

theorem Adds.none (draft : Draft) : draft.Adds draft [] [] [] :=
  ⟨rfl, (List.append_nil _).symm, (List.append_nil _).symm, (List.append_nil _).symm⟩

theorem Adds.trans {middle after : Draft} {constraints more : List Constraint}
    {errors warnings others further : List Issue}
    (first : draft.Adds middle constraints errors warnings) (second : middle.Adds after more others further) :
    draft.Adds after (constraints ++ more) (errors ++ others) (warnings ++ further) where
  size := second.size.trans first.size
  constraints := by rw [second.constraints, first.constraints, List.append_assoc]
  errors := by rw [second.errors, first.errors, List.append_assoc]
  warnings := by rw [second.warnings, first.warnings, List.append_assoc]

theorem adds_error (draft : Draft) (issue : Issue) : draft.Adds (draft.addError issue) [] [issue] [] :=
  ⟨rfl, (List.append_nil _).symm, rfl, (List.append_nil _).symm⟩

theorem adds_warning (draft : Draft) (issue : Issue) : draft.Adds (draft.addWarning issue) [] [] [issue] :=
  ⟨rfl, (List.append_nil _).symm, (List.append_nil _).symm, rfl⟩

theorem adds_constraint (draft : Draft) (constraint : Constraint) :
    draft.Adds (draft.addConstraint constraint) [constraint] [] [] :=
  ⟨rfl, rfl, (List.append_nil _).symm, (List.append_nil _).symm⟩

/-- A pair of columns becomes a constraint or an error. -/
theorem adds_link (draft : Draft) (clause : ForeignKeyClause) (declared : Option String) (pair : String × Reference) :
    ∃ constraints errors, draft.Adds (draft.link clause declared pair) constraints errors [] ∧
      constraints.length + errors.length = 1 ∧ ∀ issue ∈ errors, issue.isMissingColumn = true := by
  obtain ⟨column, target⟩ := pair
  simp only [link]
  split
  · refine ⟨[], [_], draft.adds_error _, rfl, fun issue member => ?_⟩
    rw [List.mem_singleton.mp member]
    rfl
  · refine ⟨[_], [], ⟨draft.table.size_markForeignKey column target, rfl, ?_, ?_⟩, rfl, by simp⟩
    · exact (List.append_nil _).symm
    · exact (List.append_nil _).symm

theorem adds_links (clause : ForeignKeyClause) (declared : Option String) (pairs : List (String × Reference))
    (draft : Draft) :
    ∃ constraints errors, draft.Adds (pairs.foldl (link clause declared) draft) constraints errors [] ∧
      constraints.length + errors.length = pairs.length ∧ ∀ issue ∈ errors, issue.isMissingColumn = true := by
  induction pairs generalizing draft with
  | nil => exact ⟨[], [], .none draft, rfl, by simp⟩
  | cons pair rest ih =>
    obtain ⟨constraints, errors, here, one, missing⟩ := adds_link draft clause declared pair
    obtain ⟨more, others, later, many, also_missing⟩ := ih (draft.link clause declared pair)
    refine ⟨_, _, here.trans later, ?_, ?_⟩
    · simp only [List.length_append, List.length_cons]
      omega
    · intro issue member
      exact (List.mem_append.mp member).elim (missing issue) (also_missing issue)

theorem adds_keyColumns {mark : Table → String → Table} (role : String)
    (keeps : ∀ table column, (mark table column).columns.size = table.columns.size ∧
      (mark table column).constraints = table.constraints) (columns : List String) (draft : Draft) :
    ∃ errors, draft.Adds (columns.foldl (markKeyColumn role mark) draft) [] errors [] ∧
      ∀ issue ∈ errors, issue.isMissingColumn = true := by
  induction columns generalizing draft with
  | nil => exact ⟨[], .none draft, by simp⟩
  | cons column rest ih =>
    have here : ∃ errors, draft.Adds (markKeyColumn role mark draft column) [] errors [] ∧
        ∀ issue ∈ errors, issue.isMissingColumn = true := by
      unfold markKeyColumn
      split
      · refine ⟨[_], draft.adds_error _, fun issue member => ?_⟩
        rw [List.mem_singleton.mp member]
        rfl
      · obtain ⟨size, constraints⟩ := keeps draft.table column
        exact ⟨[], ⟨size, constraints.trans (List.append_nil _).symm, (List.append_nil _).symm,
          (List.append_nil _).symm⟩, by simp⟩
    obtain ⟨errors, first, missing⟩ := here
    obtain ⟨others, later, also_missing⟩ := ih (markKeyColumn role mark draft column)
    refine ⟨_, first.trans later, ?_⟩
    intro issue member
    exact (List.mem_append.mp member).elim (missing issue) (also_missing issue)

/-- The clause is invalid: an error says so, and nothing else is new. -/
def Declines (draft after : Draft) : Prop :=
  ∃ issue : Issue, issue.kind = .invalidConstraint ∧ after = draft.addError issue

/-- The clause is taken in: it left constraints behind, or errors about columns that it misses. -/
def Settles (draft after : Draft) : Prop :=
  ∃ constraints errors, draft.Adds after constraints errors [] ∧ 0 < constraints.length + errors.length ∧
    ∀ issue ∈ errors, issue.isMissingColumn = true

theorem settles_constraint (constraint : Constraint) : draft.Settles (draft.addConstraint constraint) :=
  ⟨[constraint], [], draft.adds_constraint constraint, by simp, by simp⟩

/-- A key without columns is invalid. -/
theorem readKey_cases {mark : Table → String → Table} (keeps : ∀ table column,
      (mark table column).columns.size = table.columns.size ∧ (mark table column).constraints = table.constraints)
    (family : ConstraintFamily) (pattern : Pattern) (record : List String → Constraint) (draft : Draft) (text : Text) :
    draft.Declines (readKey family pattern mark record draft text) ∨
      draft.Settles (readKey family pattern mark record draft text) := by
  unfold readKey
  generalize (((pattern.find? text).bind (·.text? .columns text)).map ForeignKeyClause.names).getD [] = columns
  cases columns with
  | nil => exact .inl ⟨_, rfl, rfl⟩
  | cons column others =>
    obtain ⟨errors, marked, missing⟩ := adds_keyColumns family.role keeps (column :: others) draft
    have recorded := marked.trans (adds_constraint _ (record (column :: others)))
    rw [List.nil_append, List.append_nil, List.append_nil] at recorded
    refine .inr ⟨_, errors, recorded, ?_, missing⟩
    rw [List.length_singleton]
    omega

theorem readForeignKey_cases (draft : Draft) (text : Text) (declared : Option String) :
    draft.Declines (draft.readForeignKey text declared) ∨ draft.Settles (draft.readForeignKey text declared) := by
  unfold readForeignKey
  split
  · exact .inl ⟨_, rfl, rfl⟩
  · next clause _ =>
    split
    · next paired =>
      obtain ⟨constraints, errors, linked, many, missing⟩ := adds_links clause declared clause.pairs draft
      have filled := ForeignKeyClause.length_pairs paired
      exact .inr ⟨constraints, errors, linked, by omega, missing⟩
    · exact .inl ⟨_, rfl, rfl⟩

theorem readCheck_cases (draft : Draft) (text : Text) (declared : Option String) :
    draft.Declines (draft.readCheck text declared) ∨ draft.Settles (draft.readCheck text declared) := by
  unfold readCheck
  dsimp only
  split
  · exact .inl ⟨_, rfl, rfl⟩
  · exact .inr (settles_constraint _)

/-- A constraint clause is invalid, or taken in, or a warning says that it is of no known kind. -/
theorem readConstraint_cases (draft : Draft) (clause : Text) :
    draft.Declines (draft.readConstraint clause) ∨ draft.Settles (draft.readConstraint clause) ∨
      draft.readConstraint clause =
        draft.addWarning (.unknownConstraint draft.table.name (String.ofList clause)) := by
  unfold readConstraint
  dsimp only
  rw [← or_assoc]
  split
  · exact .inl (readForeignKey_cases draft clause _)
  · exact .inl (readKey_cases (fun table column => ⟨table.size_markPrimaryKey column, rfl⟩) _ _ _ draft clause)
  · exact .inl (readKey_cases (fun table column => ⟨table.size_markUnique column, rfl⟩) _ _ _ draft clause)
  · exact .inl (readCheck_cases draft clause _)
  · exact .inr rfl

/-- The clause that was read added at least one constraint, error or warning, and no error that takes the
place of a column. -/
def Leaves (draft after : Draft) : Prop :=
  ∃ constraints errors warnings, draft.Adds after constraints errors warnings ∧
    0 < constraints.length + errors.length + warnings.length ∧ ∀ issue ∈ errors, issue.isColumnIssue = false

/-- No constraint clause is passed over. -/
theorem leaves_readConstraint (draft : Draft) (clause : Text) : draft.Leaves (draft.readConstraint clause) := by
  rcases readConstraint_cases draft clause with ⟨issue, invalid, same⟩ | ⟨_, errors, adds, filled, missing⟩ | same
  · rw [same]
    refine ⟨[], [issue], [], draft.adds_error issue, by simp, List.forall_mem_singleton.mpr ?_⟩
    rw [Issue.isColumnIssue, invalid]
    rfl
  · refine ⟨_, errors, [], adds, filled, fun issue member => ?_⟩
    rw [Issue.isColumnIssue, beq_iff_eq.mp (missing issue member)]
    rfl
  · rw [same]
    exact ⟨[], [], [_], draft.adds_warning _, by simp, by simp⟩

theorem columnCount_readConstraint (draft : Draft) (clause : Text) :
    (draft.readConstraint clause).columnCount = draft.columnCount := by
  obtain ⟨constraints, errors, warnings, adds, _, others⟩ := leaves_readConstraint draft clause
  have none_there : errors.countP Issue.isColumnIssue = 0 := List.countP_eq_zero.mpr fun issue member => by
    rw [others issue member]
    decide
  unfold columnCount
  rw [adds.size, adds.errors, List.countP_append, none_there, Nat.add_zero]

theorem columnCount_foldl_readConstraint (clauses : List Text) (draft : Draft) :
    (clauses.foldl readConstraint draft).columnCount = draft.columnCount := by
  induction clauses generalizing draft with
  | nil => rfl
  | cons clause rest ih => rw [List.foldl_cons, ih, columnCount_readConstraint]

end Constraints

/-- Every column clause of a body whose numbers can be read has become a column or an error. -/
theorem columnClauses_readBody {name : String} {body : Text} {result : Draft}
    (readable : (ofTable (.empty name)).readBody body = (result, none)) :
    (columnClauses body).length = result.table.columns.size + result.errors.countP Issue.isColumnIssue := by
  unfold readBody at readable
  dsimp only at readable
  cases reading : (ofTable (.empty name)).readColumns ((Script.clauses body).filter (!isConstraintClause ·)) with
  | mk draft failure =>
    rw [reading] at readable
    cases failure with
    | some error => cases readable
    | none =>
      cases readable
      have about : ∀ clause ∈ (Script.clauses body).filter (!isConstraintClause ·),
          Text.trim clause = clause ∧ isConstraintClause clause = false := by
        intro clause member
        obtain ⟨inside, column⟩ := List.mem_filter.mp member
        exact ⟨Script.trim_of_mem_clauses inside, by simpa using column⟩
      have counted := columnCount_readColumns about reading
      have start : (ofTable (.empty name)).columnCount = 0 := rfl
      rw [start, Nat.zero_add] at counted
      exact counted.symm.trans (columnCount_foldl_readConstraint _ draft).symm

end Draft
end SchemaAtlas
