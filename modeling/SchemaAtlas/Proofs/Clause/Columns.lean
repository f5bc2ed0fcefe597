import SchemaAtlas.Proofs.Clause.ColumnFlags
import SchemaAtlas.Proofs.Script.Origin
/-!
Column clauses one after another. A clause asks of the columns before it no more than their names, so a
column that is marked early makes no difference to the clauses behind it.
-/
namespace SchemaAtlas.Draft

section Run
variable {draft : Draft}

theorem readColumns_append {front : List Text} {middle : Draft} (readable : draft.readColumns front = (middle, none))
    (back : List Text) : draft.readColumns (front ++ back) = middle.readColumns back := by
  induction front generalizing draft with
  | nil => cases readable; rfl
  | cons clause front ih =>
    rw [List.cons_append, readColumns]
    rw [readColumns] at readable
    split at readable
    · cases readable
    · exact ih readable

theorem readColumns_append_error {front : List Text} {middle : Draft} {error : NumeralError}
    (failed : draft.readColumns front = (middle, some error)) (back : List Text) :
    draft.readColumns (front ++ back) = (middle, some error) := by
  induction front generalizing draft with
  | nil => cases failed
  | cons clause front ih =>
    rw [List.cons_append, readColumns]
    rw [readColumns] at failed
    split at failed
    · exact failed
    · exact ih failed

theorem columns_withOutcome (clause : Text) (outcome : ColumnOutcome) :
    (draft.withOutcome clause outcome).table.columns =
      match outcome with
      | .accepted column _ => draft.table.columns.put column
      | _ => draft.table.columns := by
  rw [withOutcome_table]
  cases outcome with
  | accepted column check => cases check <;> rfl
  | _ => rfl

/-- All names come from clauses. -/
theorem names_readColumns {clauses : List Text} {name : String}
    (member : name ∈ (draft.readColumns clauses).1.table.columns.names) :
    name ∈ draft.table.columns.names ∨ ∃ clause ∈ clauses, Column.givenName? clause = some name := by
  induction clauses generalizing draft with
  | nil => exact Or.inl member
  | cons clause rest ih =>
    unfold readColumns at member
    split at member
    · exact Or.inl member
    · rcases ih member with here | ⟨other, inside, given⟩
      · rw [columns_withOutcome] at here
        cases outcome : Column.read draft.table.columns clause with
        | accepted column check =>
          simp only [outcome] at here
          have more : (draft.table.columns.put column).names = draft.table.columns.names ++ [column.name] :=
            Roster.names_put_of_fresh (Column.read_accepted outcome).2
          rw [more] at here
          rcases List.mem_append.mp here with old | new
          · exact Or.inl old
          · obtain rfl := List.mem_singleton.mp new
            exact Or.inr ⟨clause, List.mem_cons_self, Column.givenName?_of_accepted outcome⟩
        | _ =>
          simp only [outcome] at here
          exact Or.inl here
      · exact Or.inr ⟨other, List.mem_cons_of_mem clause inside, given⟩

end Run

/-- Drafts that have the same issues and the same columns, but for a mark on one of these. -/
structure Marked (name : String) (mark : Column → Column) (keeps : ∀ column, (mark column).name = column.name)
    (left right : Draft) : Prop where
  title : left.table.name = right.table.name
  columns : left.table.columns = right.table.columns.modify name mark keeps
  present : name ∈ right.table.columns.names
  errors : left.errors = right.errors
  warnings : left.warnings = right.warnings

section Marked
variable {name : String} {mark : Column → Column} {keeps : ∀ column, (mark column).name = column.name}
  {left right : Draft}

theorem Marked.names (marked : Marked name mark keeps left right) :
    left.table.columns.names = right.table.columns.names := by
  rw [marked.columns]
  exact Roster.names_modify keeps _ _

variable (keeps) in
/-- A column is marked before it is put or after. -/
theorem marked_accepted {draft : Draft} {column : Column} (fresh : column.name ∉ draft.table.columns.names)
    (check : Option String) (clause other : Text) :
    Marked column.name mark keeps (draft.withOutcome clause (.accepted (mark column) check))
      (draft.withOutcome other (.accepted column check)) where
  title := by rw [withOutcome_table, withOutcome_table, Table.withOutcome_name, Table.withOutcome_name]
  columns := by
    rw [columns_withOutcome, columns_withOutcome]
    dsimp only
    refine Eq.symm ((Roster.modify_put_of_fresh keeps fresh column.name).trans ?_)
    rw [Roster.modify_of_absent keeps fresh]
    exact congrArg _ (if_pos rfl)
  present := by
    rw [columns_withOutcome]
    change column.name ∈ (draft.table.columns.put column).names
    rw [Roster.names_put_of_fresh fresh]
    exact List.mem_append_right _ List.mem_cons_self
  errors := rfl
  warnings := rfl

theorem Marked.withOutcome (marked : Marked name mark keeps left right) (clause : Text) {outcome : ColumnOutcome}
    (fresh : ∀ column check, outcome = .accepted column check → column.name ∉ right.table.columns.names) :
    Marked name mark keeps (left.withOutcome clause outcome) (right.withOutcome clause outcome) := by
  have same : (left.table.withOutcome outcome).name = (right.table.withOutcome outcome).name := by
    rw [Table.withOutcome_name, Table.withOutcome_name, marked.title]
  refine ⟨?title, ?columns, ?present, ?errors, ?warnings⟩
  case title => rw [withOutcome_table, withOutcome_table, same]
  case columns =>
    rw [columns_withOutcome, columns_withOutcome, marked.columns]
    cases outcome with
    | accepted column check =>
      have new := fresh column check rfl
      have other : Named.name column ≠ name := by
        rintro rfl
        exact new marked.present
      exact ((Roster.modify_put_of_fresh keeps new name).trans (by rw [if_neg other])).symm
    | _ => rfl
  case present =>
    rw [columns_withOutcome]
    cases outcome with
    | accepted column check =>
      change name ∈ (right.table.columns.put column).names
      rw [Roster.names_put_of_fresh (fresh column check rfl)]
      exact List.mem_append_left _ marked.present
    | _ => exact marked.present
  case errors =>
    simp only [Draft.withOutcome, same]
    split
    · exact marked.errors
    · exact congrArg (· ++ [_]) marked.errors
  case warnings =>
    simp only [Draft.withOutcome, same]
    split <;> exact marked.warnings

theorem Marked.readColumns (marked : Marked name mark keeps left right) (clauses : List Text) :
    (left.readColumns clauses).2 = (right.readColumns clauses).2 ∧
      Marked name mark keeps (left.readColumns clauses).1 (right.readColumns clauses).1 := by
  induction clauses generalizing left right with
  | nil => exact ⟨rfl, marked⟩
  | cons clause rest ih =>
    have same : Column.read left.table.columns clause = Column.read right.table.columns clause :=
      Column.read_congr fun given _ => by rw [Roster.has, marked.names, Roster.has]
    unfold Draft.readColumns
    rw [same]
    cases outcome : Column.read right.table.columns clause with
    | unreadable error => exact ⟨rfl, marked⟩
    | accepted column check =>
      apply ih
      apply marked.withOutcome clause
      intro _ _ given
      cases given
      exact (Column.read_accepted outcome).2
    | _ =>
      apply ih
      apply marked.withOutcome clause
      intro column check impossible
      cases impossible

end Marked
end SchemaAtlas.Draft
