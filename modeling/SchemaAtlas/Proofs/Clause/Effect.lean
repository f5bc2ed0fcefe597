import SchemaAtlas.Proofs.Clause.Amendment
/-!
What a constraint clause reads of a draft and what it does to it. It changes every column by itself, in
a way that depends on the clause and the column alone, and the issues that it adds depend on the name
of the table and on its columns only.
-/
namespace SchemaAtlas

namespace Table

/-- The column with the last of the targets that links give it. -/
def linked (pairs : List (String × Reference)) (column : Column) : Column :=
  match ((pairs.filter (·.1 == column.name)).map Prod.snd).getLast? with
  | none => column
  | some target => column.markForeignKey target

theorem linked_cons (pair : String × Reference) (pairs : List (String × Reference)) (column : Column) :
    linked pairs (if column.name = pair.1 then column.markForeignKey pair.2 else column) =
      linked (pair :: pairs) column := by
  by_cases same : column.name = pair.1
  · have here : (pair.1 == column.name) = true := beq_iff_eq.mpr same.symm
    rw [if_pos same]
    unfold linked
    simp only [List.filter_cons, here, ↓reduceIte, List.map_cons, List.getLast?_cons, Column.name_markForeignKey]
    cases ((pairs.filter (·.1 == column.name)).map Prod.snd).getLast? <;> rfl
  · have other : (pair.1 == column.name) = false := beq_eq_false_iff_ne.mpr fun equal => same equal.symm
    rw [if_neg same]
    unfold linked
    simp only [List.filter_cons, other, Bool.false_eq_true, ↓reduceIte]

theorem name_linked (pairs : List (String × Reference)) (column : Column) :
    (linked pairs column).name = column.name := by
  unfold linked
  split <;> rfl

/-- Links to columns that the table lacks leave the others as they are. -/
theorem columns_foldl_link (clause : ForeignKeyClause) (declared : Option String)
    (pairs : List (String × Reference)) (draft : Draft) :
    (pairs.foldl (Draft.link clause declared) draft).table.columns.entries =
      draft.table.columns.entries.map (linked pairs) := by
  induction pairs generalizing draft with
  | nil =>
    have unchanged : linked [] = id := rfl
    rw [unchanged, List.map_id, List.foldl_nil]
  | cons pair pairs ih =>
    obtain ⟨column, target⟩ := pair
    have step : (Draft.link clause declared draft (column, target)).table.columns.entries =
        draft.table.columns.entries.map fun entry =>
          if entry.name = column then entry.markForeignKey target else entry := by
      cases found : draft.table.column? column with
      | none =>
        have absent : column ∉ draft.table.columns.names := Roster.find?_eq_none_iff.mp found
        simp only [Draft.link, found, Draft.addError]
        symm
        apply (List.map_congr_left ?_).trans (List.map_id _)
        intro entry member
        have different : entry.name ≠ column := fun same => absent (same ▸ List.mem_map_of_mem member)
        simp [different]
      | some present =>
        simp only [Draft.link, found]
        rfl
    rw [List.foldl_cons, ih, step, List.map_map]
    exact List.map_congr_left fun entry _ => linked_cons (column, target) pairs entry

end Table

namespace Column

/-- What a constraint clause of its table makes of a column. -/
def touched (column : Column) (clause : Text) : Column :=
  match ConstraintFamily.ofMasked? (Script.mask clause) with
  | some .foreignKey =>
    match ForeignKeyClause.read? clause with
    | some key => if key.isPaired then Table.linked key.pairs column else column
    | none => column
  | some .primaryKey =>
    if column.name ∈ Draft.keyColumns Phrase.primaryKeyConstraint clause then column.markPrimaryKey else column
  | some .unique =>
    if column.name ∈ Draft.keyColumns Phrase.uniqueConstraint clause then column.markUnique else column
  | some .check | none => column

theorem name_touched (column : Column) (clause : Text) : (column.touched clause).name = column.name := by
  unfold touched
  split
  · split
    · split
      · exact Table.name_linked _ column
      · rfl
    · rfl
  · split <;> rfl
  · split <;> rfl
  · rfl
  · rfl

theorem name_foldl_touched (clauses : List Text) (column : Column) :
    (clauses.foldl touched column).name = column.name := by
  induction clauses generalizing column with
  | nil => rfl
  | cons clause rest ih => rw [List.foldl_cons, ih, name_touched]

end Column

namespace Table

theorem columns_amend (table : Table) (clause : Text) :
    (table.amend clause).columns.entries = table.columns.entries.map (·.touched clause) := by
  unfold amend Draft.readConstraint Column.touched
  cases ConstraintFamily.ofMasked? (Script.mask clause) with
  | none => exact (List.map_id _).symm
  | some family =>
    cases family with
    | foreignKey =>
      simp only [Draft.readForeignKey]
      cases ForeignKeyClause.read? clause with
      | none => exact (List.map_id _).symm
      | some key =>
        by_cases paired : key.isPaired = true
        · simp only [paired, ↓reduceIte]
          exact columns_foldl_link key _ _ _
        · simp only [paired]
          exact (List.map_id _).symm
    | primaryKey =>
      simp only [Draft.readPrimaryKey, Draft.readKey_table (fun _ _ => markPrimaryKey_of_absent)]
      split
      · next none_listed =>
        rw [none_listed]
        simp [Draft.ofTable]
      · rw [foldl_markPrimaryKey]
        rfl
    | unique =>
      simp only [Draft.readUnique, Draft.readKey_table (fun _ _ => markUnique_of_absent)]
      split
      · next none_listed =>
        rw [none_listed]
        simp [Draft.ofTable]
      · rw [foldl_markUnique]
        rfl
    | check =>
      have kept : ((Draft.ofTable table).readCheck clause (Constraint.declaredName? clause)).table.columns =
          table.columns := by
        rcases Draft.readCheck_table (.ofTable table) clause (Constraint.declaredName? clause) with
          same | ⟨condition, written⟩
        · rw [same]; rfl
        · rw [written]; rfl
      simp only [kept]
      exact (List.map_id _).symm

theorem columns_foldl_amend (clauses : List Text) (table : Table) :
    (clauses.foldl amend table).columns.entries =
      table.columns.entries.map fun column => clauses.foldl Column.touched column := by
  induction clauses generalizing table with
  | nil => exact (List.map_id _).symm
  | cons clause rest ih =>
    rw [List.foldl_cons, ih, columns_amend, List.map_map]
    rfl

end Table

namespace Draft

/-- Two drafts of a table with the same name and columns, of which the first has some more issues in
front of those of the second. -/
structure Alike (errors warnings : List Issue) (left right : Draft) : Prop where
  name : left.table.name = right.table.name
  columns : left.table.columns = right.table.columns
  errors : left.errors = errors ++ right.errors
  warnings : left.warnings = warnings ++ right.warnings

section Alike
variable {errors warnings : List Issue} {left right : Draft}

theorem Alike.addError (alike : Alike errors warnings left right) {issue other : Issue} (same : issue = other) :
    Alike errors warnings (left.addError issue) (right.addError other) where
  name := alike.name
  columns := alike.columns
  errors := by simp only [Draft.addError, alike.errors, same, List.append_assoc]
  warnings := alike.warnings

theorem Alike.addWarning (alike : Alike errors warnings left right) {issue other : Issue} (same : issue = other) :
    Alike errors warnings (left.addWarning issue) (right.addWarning other) where
  name := alike.name
  columns := alike.columns
  errors := alike.errors
  warnings := by simp only [Draft.addWarning, alike.warnings, same, List.append_assoc]

theorem Alike.addConstraint (alike : Alike errors warnings left right) (constraint other : Constraint) :
    Alike errors warnings (left.addConstraint constraint) (right.addConstraint other) :=
  ⟨alike.name, alike.columns, alike.errors, alike.warnings⟩

theorem Alike.foldl {α : Type} {step other : Draft → α → Draft}
    (keeps : ∀ left right item, Alike errors warnings left right →
      Alike errors warnings (step left item) (other right item))
    (items : List α) (alike : Alike errors warnings left right) :
    Alike errors warnings (items.foldl step left) (items.foldl other right) := by
  induction items generalizing left right with
  | nil => exact alike
  | cons item rest ih => exact ih (keeps left right item alike)

theorem Alike.column? (alike : Alike errors warnings left right) (column : String) :
    left.table.column? column = right.table.column? column := by
  rw [Table.column?, Table.column?, alike.columns]

theorem Alike.link (alike : Alike errors warnings left right) (clause : ForeignKeyClause)
    (declared : Option String) (pair : String × Reference) :
    Alike errors warnings (left.link clause declared pair) (right.link clause declared pair) := by
  obtain ⟨column, target⟩ := pair
  simp only [Draft.link, alike.column?]
  cases right.table.column? column with
  | none => exact alike.addError (by rw [alike.name])
  | some _ =>
    refine ⟨alike.name, ?_, alike.errors, alike.warnings⟩
    exact congrArg (Roster.modify · column (·.markForeignKey target)
      (Column.name_markForeignKey target)) alike.columns

theorem Alike.readForeignKey (alike : Alike errors warnings left right) (text : Text)
    (declared : Option String) :
    Alike errors warnings (left.readForeignKey text declared) (right.readForeignKey text declared) := by
  simp only [Draft.readForeignKey]
  cases ForeignKeyClause.read? text with
  | none => exact alike.addError (by rw [alike.name])
  | some clause =>
    by_cases paired : clause.isPaired = true
    · simp only [paired, ↓reduceIte]
      exact alike.foldl (fun _ _ pair kept => kept.link clause declared pair) clause.pairs
    · simp only [paired]
      exact alike.addError (by rw [alike.name])

/-- A key with names and constraints of its own on either side. -/
theorem Alike.readKey (alike : Alike errors warnings left right) {mark : Table → String → Table}
    (names : ∀ table column, (mark table column).name = table.name)
    (columns : ∀ table other column, table.columns = other.columns →
      (mark table column).columns = (mark other column).columns)
    (family : ConstraintFamily) (pattern : Pattern) (record other : List String → Constraint) (text : Text) :
    Alike errors warnings (readKey family pattern mark record left text)
      (readKey family pattern mark other right text) := by
  simp only [Draft.readKey]
  split
  · exact alike.addError (by rw [alike.name])
  · refine Alike.addConstraint (alike.foldl ?_ _) _ _
    intro left right column kept
    simp only [markKeyColumn, kept.column?]
    cases right.table.column? column with
    | none => exact kept.addError (by rw [kept.name])
    | some _ =>
      exact ⟨(names _ column).trans (kept.name.trans (names _ column).symm), columns _ _ column kept.columns,
        kept.errors, kept.warnings⟩

theorem Alike.readCheck (alike : Alike errors warnings left right) (text : Text) (declared : Option String) :
    Alike errors warnings (left.readCheck text declared) (right.readCheck text declared) := by
  simp only [Draft.readCheck]
  split
  · exact alike.addError (by rw [alike.name])
  · exact alike.addConstraint _ _

theorem Alike.readConstraint (alike : Alike errors warnings left right) (clause : Text) :
    Alike errors warnings (left.readConstraint clause) (right.readConstraint clause) := by
  simp only [Draft.readConstraint]
  split
  · exact alike.readForeignKey clause _
  · refine alike.readKey Table.name_markPrimaryKey (fun table other column same => ?_) _ _ _ _ clause
    exact congrArg (Roster.modify · column Column.markPrimaryKey Column.name_markPrimaryKey) same
  · refine alike.readKey Table.name_markUnique (fun table other column same => ?_) _ _ _ _ clause
    exact congrArg (Roster.modify · column Column.markUnique Column.name_markUnique) same
  · exact alike.readCheck clause _
  · exact alike.addWarning (by rw [alike.name])

end Alike

/-- Constraint clauses read for a table alone give the same table and the issues that they add. -/
theorem foldl_readConstraint_eq (clauses : List Text) (draft : Draft) :
    let added := clauses.foldl readConstraint (.ofTable draft.table)
    clauses.foldl readConstraint draft =
      ⟨added.table, draft.errors ++ added.errors, draft.warnings ++ added.warnings⟩ := by
  intro added
  have alike : Alike draft.errors draft.warnings (clauses.foldl readConstraint draft) added :=
    Alike.foldl (fun _ _ clause alike => alike.readConstraint clause) clauses
      ⟨rfl, rfl, (List.append_nil _).symm, (List.append_nil _).symm⟩
  have table : (clauses.foldl readConstraint draft).table = added.table := by
    rw [foldl_readConstraint_table, foldl_readConstraint_table]
    rfl
  rw [← table, ← alike.errors, ← alike.warnings]

end Draft
end SchemaAtlas
