import SchemaAtlas.Proofs.Clause.Amendment
/-!
Issues that the clauses of a table raise. Each of them names the table that is being read and is of a
kind of its own: a clause never raises a syntax error and never speaks of indexes. What a clause adds
does not depend on the issues that were there before.
-/
namespace SchemaAtlas

namespace Issue

structure IsClauseError (table : String) (issue : Issue) : Prop where
  kind : issue.kind ∈ [IssueKind.duplicateColumn, .invalidColumnDefinition, .invalidConstraint,
    .missingColumn]
  table : issue.table = some table

structure IsClauseWarning (table : String) (issue : Issue) : Prop where
  kind : issue.kind = .unknownConstraint
  table : issue.table = some table

end Issue

namespace Draft

/-- All issues of a draft come from clauses of its table. -/
structure Reported (draft : Draft) : Prop where
  errors : ∀ issue ∈ draft.errors, issue.IsClauseError draft.table.name
  warnings : ∀ issue ∈ draft.warnings, issue.IsClauseWarning draft.table.name

theorem reported_ofTable (table : Table) : (ofTable table).Reported where
  errors := by simp [ofTable]
  warnings := by simp [ofTable]

section Reported
variable {draft : Draft}

theorem Reported.addError (reported : draft.Reported) {issue : Issue}
    (clausal : issue.IsClauseError draft.table.name) : (draft.addError issue).Reported where
  errors := by
    intro other member
    rcases List.mem_append.mp member with old | new
    · exact reported.errors other old
    · rw [List.mem_singleton.mp new]
      exact clausal
  warnings := reported.warnings

theorem Reported.addWarning (reported : draft.Reported) {issue : Issue}
    (clausal : issue.IsClauseWarning draft.table.name) : (draft.addWarning issue).Reported where
  errors := reported.errors
  warnings := by
    intro other member
    rcases List.mem_append.mp member with old | new
    · exact reported.warnings other old
    · rw [List.mem_singleton.mp new]
      exact clausal

/-- Issues carry the name of the table, so a change to the table that keeps its name keeps them in order. -/
theorem Reported.withTable (reported : draft.Reported) {table : Table}
    (same : table.name = draft.table.name) : Reported { draft with table := table } where
  errors := fun issue member => same ▸ reported.errors issue member
  warnings := fun issue member => same ▸ reported.warnings issue member

theorem Reported.addConstraint (reported : draft.Reported) (constraint : Constraint) :
    (draft.addConstraint constraint).Reported := reported.withTable rfl

theorem Reported.foldl {α : Type} {step : Draft → α → Draft}
    (keeps : ∀ draft item, draft.Reported → (step draft item).Reported) (items : List α)
    (reported : draft.Reported) : (items.foldl step draft).Reported := by
  induction items generalizing draft with
  | nil => exact reported
  | cons item rest ih => exact ih (keeps draft item reported)

theorem Reported.link (reported : draft.Reported) (clause : ForeignKeyClause) (declared : Option String)
    (pair : String × Reference) : (draft.link clause declared pair).Reported := by
  obtain ⟨column, target⟩ := pair
  simp only [Draft.link]
  split
  · exact reported.addError ⟨by simp [Issue.missingColumn], rfl⟩
  · exact reported.withTable rfl

theorem Reported.readForeignKey (reported : draft.Reported) (text : Text) (declared : Option String) :
    (draft.readForeignKey text declared).Reported := by
  simp only [Draft.readForeignKey]
  split
  · exact reported.addError ⟨by simp [Issue.invalidConstraint], rfl⟩
  · next clause _ =>
    split
    · exact reported.foldl (fun _ pair kept => kept.link clause declared pair) clause.pairs
    · exact reported.addError ⟨by simp [Issue.unpairedColumns], rfl⟩

theorem Reported.readKey (reported : draft.Reported) {mark : Table → String → Table}
    (keeps : ∀ table column, (mark table column).name = table.name) (family : ConstraintFamily)
    (pattern : Pattern) (record : List String → Constraint) (text : Text) :
    (readKey family pattern mark record draft text).Reported := by
  simp only [Draft.readKey]
  split
  · exact reported.addError ⟨by simp [Issue.invalidConstraint], rfl⟩
  · next columns _ =>
    refine Reported.addConstraint (reported.foldl ?_ _) _
    intro draft column kept
    simp only [markKeyColumn]
    split
    · exact kept.addError ⟨by simp [Issue.missingColumn], rfl⟩
    · exact kept.withTable (keeps draft.table column)

theorem Reported.readCheck (reported : draft.Reported) (text : Text) (declared : Option String) :
    (draft.readCheck text declared).Reported := by
  simp only [Draft.readCheck]
  split
  · exact reported.addError ⟨by simp [Issue.invalidConstraint], rfl⟩
  · exact reported.addConstraint _

theorem Reported.readConstraint (reported : draft.Reported) (clause : Text) :
    (draft.readConstraint clause).Reported := by
  simp only [Draft.readConstraint]
  split
  · exact reported.readForeignKey clause _
  · exact reported.readKey Table.name_markPrimaryKey _ _ _ clause
  · exact reported.readKey Table.name_markUnique _ _ _ clause
  · exact reported.readCheck clause _
  · exact reported.addWarning ⟨rfl, rfl⟩

theorem Reported.withOutcome (reported : draft.Reported) (clause : Text) (outcome : ColumnOutcome) :
    (draft.withOutcome clause outcome).Reported := by
  have named : (draft.table.withOutcome outcome).name = draft.table.name := by
    cases outcome with
    | accepted column check => cases check <;> rfl
    | _ => rfl
  have kept := reported.withTable named
  simp only [Draft.withOutcome]
  split
  · exact kept
  · next issue raised =>
    refine kept.addError ?_
    simp only [named]
    cases outcome with
    | blank => cases raised; exact ⟨by simp [Issue.emptyColumn], rfl⟩
    | unrecognized => cases raised; exact ⟨by simp [Issue.invalidColumn], rfl⟩
    | nameless => cases raised; exact ⟨by simp [Issue.namelessColumn], rfl⟩
    | duplicate name => cases raised; exact ⟨by simp [Issue.duplicateColumn], rfl⟩
    | foreignKeyClause => cases raised
    | unreadable error => cases raised
    | accepted column check => cases raised

theorem Reported.readColumns (reported : draft.Reported) (clauses : List Text) :
    (draft.readColumns clauses).1.Reported := by
  induction clauses generalizing draft with
  | nil => exact reported
  | cons clause rest ih =>
    unfold Draft.readColumns
    split
    · exact reported
    · exact ih (reported.withOutcome clause _)

/-- What a body leaves behind is in order, also where an unreadable number ends the reading. -/
theorem Reported.readBody (reported : draft.Reported) (body : Text) :
    (draft.readBody body).1.Reported := by
  have columns := reported.readColumns ((Script.clauses body).filter (!isConstraintClause ·))
  simp only [Draft.readBody]
  split
  · next read => rwa [read] at columns
  · next read =>
    rw [read] at columns
    exact columns.foldl (fun _ clause kept => kept.readConstraint clause) _

end Reported

end Draft
end SchemaAtlas
