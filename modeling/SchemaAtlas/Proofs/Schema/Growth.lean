import SchemaAtlas.Proofs.Script.Definition
import SchemaAtlas.Proofs.Schema.IndexListing
/-!
What a schema holds stays in it while a script is read. No table or index name is given up and none changes
its place, and relationships and issues are only added behind the earlier ones. So what one definition leaves
behind, its table or an error that names it, is there at the end.
-/
namespace SchemaAtlas

namespace Roster
variable {α : Type} [Named α]

theorem names_put (roster : Roster α) (entry : α) : roster.names <+: (roster.put entry).names := by
  by_cases taken : Named.name entry ∈ roster.names
  · exact ⟨[], (List.append_nil _).trans (names_put_of_taken taken).symm⟩
  · exact ⟨[Named.name entry], (names_put_of_fresh taken).symm⟩

end Roster

namespace Schema

/-- Nothing is lost and nothing comes in between. -/
structure Grows (before after : Schema) : Prop where
  tables : before.tables.names <+: after.tables.names
  indexes : before.indexes.names <+: after.indexes.names
  relationships : before.relationships <+: after.relationships
  errors : before.errors <+: after.errors
  warnings : before.warnings <+: after.warnings

section Steps
variable {before middle after : Schema}

theorem Grows.refl (schema : Schema) : schema.Grows schema :=
  ⟨List.prefix_rfl, List.prefix_rfl, List.prefix_rfl, List.prefix_rfl, List.prefix_rfl⟩

theorem Grows.trans (first : before.Grows middle) (second : middle.Grows after) : before.Grows after where
  tables := first.tables.trans second.tables
  indexes := first.indexes.trans second.indexes
  relationships := first.relationships.trans second.relationships
  errors := first.errors.trans second.errors
  warnings := first.warnings.trans second.warnings

theorem Grows.foldl {α : Type} {step : Schema → α → Schema} (each : ∀ schema item, Grows schema (step schema item))
    (items : List α) (schema : Schema) : schema.Grows (items.foldl step schema) := by
  induction items generalizing schema with
  | nil => exact .refl schema
  | cons item items ih => exact (each schema item).trans (ih _)

end Steps

section Stages
variable (schema : Schema)

theorem grows_addErrors (issues : List Issue) : schema.Grows (schema.addErrors issues) :=
  { Grows.refl schema with errors := List.prefix_append .. }

theorem grows_addWarnings (issues : List Issue) : schema.Grows (schema.addWarnings issues) :=
  { Grows.refl schema with warnings := List.prefix_append .. }

theorem grows_addIssues (draft : Draft) : schema.Grows (schema.addIssues draft) :=
  (grows_addErrors schema draft.errors).trans (grows_addWarnings _ draft.warnings)

theorem grows_putTable (table : Table) : schema.Grows (schema.putTable table) :=
  { Grows.refl schema with tables := Roster.names_put .. }

theorem grows_modifyTable (name : String) {change : Table → Table}
    (keeps : ∀ table, (change table).name = table.name) :
    schema.Grows (schema.modifyTable name change keeps) := by
  have same : (schema.modifyTable name change keeps).tables.names = schema.tables.names :=
    Roster.names_modify keeps schema.tables name
  exact { Grows.refl schema with tables := ⟨[], (List.append_nil _).trans same.symm⟩ }

theorem grows_readTable (statement : Text) : schema.Grows (schema.readTable statement) := by
  unfold readTable
  cases TableStatement.read statement with
  | unrelated | malformed => exact .refl schema
  | definition name body =>
    dsimp only
    split
    · exact grows_addErrors schema _
    · split
      · next draft _ _ => exact (grows_addIssues schema draft).trans (grows_addErrors _ _)
      · next draft _ => exact (grows_addIssues schema draft).trans (grows_putTable _ _)

theorem grows_readTables (statements : List Text) : schema.Grows (schema.readTables statements) :=
  Grows.foldl grows_readTable statements schema

theorem grows_readAlteration (statement : Text) : schema.Grows (schema.readAlteration statement) := by
  unfold readAlteration
  cases Alteration.read? statement with
  | none => exact .refl schema
  | some alteration =>
    dsimp only
    unfold applyAlteration
    split
    · exact grows_addErrors schema _
    · exact (grows_addIssues schema _).trans (grows_putTable _ _)

theorem grows_readAlterations (statements : List Text) : schema.Grows (schema.readAlterations statements) :=
  Grows.foldl grows_readAlteration statements schema

theorem grows_putIndex (index : Index) : schema.Grows (schema.putIndex index) := by
  have listed (other : Schema) (known : schema.Grows other) (same : other.indexes = schema.indexes) :
      schema.Grows { other with indexes := schema.indexes.put index } :=
    { known with indexes := Roster.names_put .. }
  unfold putIndex
  cases found : schema.indexes.find? index.name with
  | none => exact (listed schema (.refl schema) rfl).trans (grows_modifyTable _ _ _)
  | some earlier =>
    have warned : schema.Grows ((schema.addWarnings [.duplicateIndex index.name index.table]).unlistIndex earlier) :=
      (grows_addWarnings schema _).trans (grows_modifyTable _ _ _)
    exact (listed _ warned rfl).trans (grows_modifyTable _ _ _)

theorem grows_readIndexes (script : Text) : schema.Grows (schema.readIndexes script) :=
  Grows.foldl grows_putIndex (Index.readAll script) schema

theorem grows_drawRelationships : schema.Grows schema.drawRelationships :=
  { Grows.refl schema with relationships := List.prefix_append .. }

theorem grows_validated : schema.Grows schema.validated := grows_addErrors schema _

theorem grows_counted : schema.Grows schema.counted := { Grows.refl schema with }

end Stages

section Known
variable {name : String}

/-- The name is that of a table, or an error speaks of it. -/
def Knows (schema : Schema) (name : String) : Prop :=
  name ∈ schema.tables.names ∨ ∃ issue ∈ schema.errors, issue.table = some name

instance (schema : Schema) (name : String) : Decidable (schema.Knows name) := inferInstanceAs (Decidable (_ ∨ _))

theorem Grows.knows {before after : Schema} (grows : before.Grows after) (known : before.Knows name) :
    after.Knows name := by
  rcases known with member | ⟨issue, member, named⟩
  · exact Or.inl (grows.tables.subset member)
  · exact Or.inr ⟨issue, grows.errors.subset member, named⟩

theorem knows_readTable {statement body : Text} (schema : Schema)
    (defines : TableStatement.read statement = .definition name body) : (schema.readTable statement).Knows name := by
  unfold readTable
  rw [defines]
  dsimp only
  split
  · next taken => exact Or.inl (Roster.has_iff.mp taken)
  · split
    · next draft error _ =>
      refine Or.inr ⟨.unreadableTable name error.message, ?_, rfl⟩
      exact List.mem_append_right _ (List.mem_singleton_self _)
    · next draft built =>
      have member : draft.table.name ∈ ((schema.addIssues draft).putTable draft.table).tables.names := by
        apply Roster.mem_names_iff.mpr
        exact ⟨draft.table, (Roster.find?_put _ _ _).trans (if_pos rfl)⟩
      rw [Draft.name_of_readBody built] at member
      exact Or.inl member

theorem knows_readTables {statements : List Text} {statement body : Text} (schema : Schema)
    (member : statement ∈ statements) (defines : TableStatement.read statement = .definition name body) :
    (schema.readTables statements).Knows name := by
  obtain ⟨before, after, rfl⟩ := List.mem_iff_append.mp member
  unfold readTables
  rw [List.foldl_append, List.foldl_cons]
  exact (grows_readTables _ after).knows (knows_readTable _ defines)

/-- What the statements leave behind is left at the end of the script. -/
theorem grows_read (script : String) :
    (Schema.empty.readTables (Script.statementsOf script)).Grows (Script.read script) := by
  rw [Script.read_eq, Script.readParts]
  have parts := (grows_readAlterations (Schema.empty.readTables (Script.statementsOf script))
    (Script.statementsOf script)).trans (grows_readIndexes _ (Script.normalized script.toList))
  exact ((parts.trans (grows_drawRelationships _)).trans (grows_validated _)).trans (grows_counted _)

end Known
end Schema
end SchemaAtlas
