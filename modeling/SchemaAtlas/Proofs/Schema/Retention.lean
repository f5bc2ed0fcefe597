import SchemaAtlas.Proofs.Clause.Effect
import SchemaAtlas.Proofs.Schema.Growth
/-!
What a table has been given it keeps. No pass over a schema takes a column, a mark or a constraint away from a table
that is there already: an alteration adds constraints and marks, and an index changes lists of indexes only. So a
schema is extended by every run of passes, in whichever order and however often they come.
-/
namespace SchemaAtlas

/-- Only marks can be added to the column. -/
structure Column.Keeps (before after : Column) : Prop where
  name : after.name = before.name
  type : after.type = before.type
  defaultValue : after.defaultValue = before.defaultValue
  isIdentity : after.isIdentity = before.isIdentity
  identitySeed : after.identitySeed = before.identitySeed
  identityIncrement : after.identityIncrement = before.identityIncrement
  isPrimaryKey : before.isPrimaryKey = true → after.isPrimaryKey = true
  isUnique : before.isUnique = true → after.isUnique = true
  isForeignKey : before.isForeignKey = true → after.isForeignKey = true
  references : before.references.isSome = true → after.references.isSome = true
  notNull : before.isNullable = false → after.isNullable = false

namespace Column
variable {before middle after : Column}

theorem Keeps.refl (column : Column) : column.Keeps column := ⟨rfl, rfl, rfl, rfl, rfl, rfl, id, id, id, id, id⟩

theorem Keeps.trans (first : before.Keeps middle) (second : middle.Keeps after) : before.Keeps after where
  name := second.name.trans first.name
  type := second.type.trans first.type
  defaultValue := second.defaultValue.trans first.defaultValue
  isIdentity := second.isIdentity.trans first.isIdentity
  identitySeed := second.identitySeed.trans first.identitySeed
  identityIncrement := second.identityIncrement.trans first.identityIncrement
  isPrimaryKey := second.isPrimaryKey ∘ first.isPrimaryKey
  isUnique := second.isUnique ∘ first.isUnique
  isForeignKey := second.isForeignKey ∘ first.isForeignKey
  references := second.references ∘ first.references
  notNull := second.notNull ∘ first.notNull

theorem keeps_markPrimaryKey (column : Column) : column.Keeps column.markPrimaryKey :=
  { Keeps.refl column with isPrimaryKey := fun _ => rfl, notNull := fun _ => rfl }

theorem keeps_markUnique (column : Column) : column.Keeps column.markUnique :=
  { Keeps.refl column with isUnique := fun _ => rfl }

theorem keeps_markForeignKey (target : Reference) (column : Column) : column.Keeps (column.markForeignKey target) :=
  { Keeps.refl column with isForeignKey := fun _ => rfl, references := fun _ => rfl }

end Column

/-- The table has the columns that it had and no others, and constraints are only added behind the earlier ones. -/
structure Table.Keeps (before after : Table) : Prop where
  name : after.name = before.name
  columns : List.Forall₂ Column.Keeps before.columns.entries after.columns.entries
  constraints : before.constraints <+: after.constraints

namespace Table
variable {before middle after : Table}

theorem Keeps.refl (table : Table) : table.Keeps table where
  name := rfl
  columns := List.forall₂_same.mpr fun column _ => .refl column
  constraints := List.prefix_rfl

theorem Keeps.trans (first : before.Keeps middle) (second : middle.Keeps after) : before.Keeps after where
  name := second.name.trans first.name
  columns := by
    have chained : ∀ first second third : Column, first.Keeps second → second.Keeps third → first.Keeps third :=
      fun _ _ _ => Column.Keeps.trans
    exact forall₂_trans chained first.columns second.columns
  constraints := first.constraints.trans second.constraints

theorem keeps_record (table : Table) (columns : List String) {mark : Column → Column}
    (name : ∀ column, (mark column).name = column.name) (constraint : Constraint)
    (marks : ∀ column : Column, column.Keeps (mark column)) :
    table.Keeps (table.record columns mark name constraint) where
  name := rfl
  columns := by
    refine List.forall₂_map_right_iff.mpr (List.forall₂_same.mpr fun column _ => ?_)
    split
    · exact marks column
    · exact .refl column
  constraints := List.prefix_append ..

theorem keeps_addConstraint (table : Table) (constraint : Constraint) : table.Keeps (table.addConstraint constraint) :=
  { Keeps.refl table with constraints := List.prefix_append .. }

/-- A list of indexes is no part of what is kept. -/
theorem keeps_relist (earlier : Option Index) (index : Index) (table : Table) :
    table.Keeps (table.relist earlier index) := by
  have delisted : table.Keeps (table.delist earlier) := by
    unfold delist
    split
    · exact .refl table
    · split
      · exact { Keeps.refl table with }
      · exact .refl table
  unfold relist
  split
  · exact { delisted with }
  · exact delisted

theorem Amendment.keeps {clause : Text} (amendment : Amendment clause before after) : before.Keeps after := by
  cases amendment with
  | foreignKey key => exact keeps_record before _ _ _ (Column.keeps_markForeignKey key.target)
  | primaryKey => exact keeps_record before _ _ _ Column.keeps_markPrimaryKey
  | unique => exact keeps_record before _ _ _ Column.keeps_markUnique
  | check => exact keeps_addConstraint before _

theorem keeps_foldl_amend (clauses : List Text) (table : Table) : table.Keeps (clauses.foldl amend table) :=
  (foldl_amend_amended clauses table).keeps table.Keeps (.refl table) fun _ _ _ _ amendment kept =>
    kept.trans amendment.keeps

end Table

namespace Schema

/-- Nothing is lost, nothing comes in between, and each table keeps what it has. -/
structure Retains (before after : Schema) : Prop extends before.Grows after where
  kept : ∀ name table, before.table? name = some table → ∃ later, after.table? name = some later ∧ table.Keeps later

section Steps
variable {before middle after : Schema}

theorem Retains.of_tables (grows : before.Grows after) (same : after.tables = before.tables) :
    before.Retains after where
  toGrows := grows
  kept name table found := ⟨table, by rw [table?, same]; exact found, .refl table⟩

theorem Retains.refl (schema : Schema) : schema.Retains schema := .of_tables (.refl schema) rfl

theorem Retains.trans (first : before.Retains middle) (second : middle.Retains after) : before.Retains after where
  toGrows := first.toGrows.trans second.toGrows
  kept name table found := by
    obtain ⟨later, now, kept⟩ := first.kept name table found
    obtain ⟨last, still, still_kept⟩ := second.kept name later now
    exact ⟨last, still, kept.trans still_kept⟩

theorem Retains.foldl {α : Type} {step : Schema → α → Schema} (each : ∀ schema item, Retains schema (step schema item))
    (items : List α) (schema : Schema) : schema.Retains (items.foldl step schema) := by
  induction items generalizing schema with
  | nil => exact .refl schema
  | cons item items ih => exact (each schema item).trans (ih _)

end Steps

section Stages
variable (schema : Schema)

theorem retains_addErrors (issues : List Issue) : schema.Retains (schema.addErrors issues) :=
  .of_tables (grows_addErrors schema issues) rfl

theorem retains_addIssues (draft : Draft) : schema.Retains (schema.addIssues draft) :=
  .of_tables (grows_addIssues schema draft) rfl

/-- A table may stand in for one that it keeps. -/
theorem retains_putTable {table : Table} (keeps : ∀ old, schema.table? table.name = some old → old.Keeps table) :
    schema.Retains (schema.putTable table) where
  toGrows := grows_putTable schema table
  kept name old found := by
    have put : (schema.putTable table).table? name = if name = table.name then some table else schema.table? name :=
      Roster.find?_put schema.tables table name
    rw [put]
    split
    · next same => exact ⟨table, rfl, keeps old (same ▸ found)⟩
    · exact ⟨old, found, .refl old⟩

theorem retains_readTable (statement : Text) : schema.Retains (schema.readTable statement) := by
  unfold readTable
  cases TableStatement.read statement with
  | unrelated | malformed => exact .refl schema
  | definition name body =>
    dsimp only
    split
    · exact retains_addErrors schema _
    · next fresh =>
      split
      · next draft _ _ => exact (retains_addIssues schema draft).trans (retains_addErrors _ _)
      · next draft built =>
        refine (retains_addIssues schema draft).trans (retains_putTable _ fun old found => ?_)
        -- The name is new, so no table gives way to this one.
        have absent : name ∉ schema.tables.names := fun taken => fresh (Roster.has_iff.mpr taken)
        rw [Draft.name_of_readBody built] at found
        exact absurd (Roster.mem_names_iff.mpr ⟨old, found⟩) absent

theorem retains_readAlteration (statement : Text) : schema.Retains (schema.readAlteration statement) := by
  unfold readAlteration
  cases Alteration.read? statement with
  | none => exact .refl schema
  | some alteration =>
    dsimp only
    unfold applyAlteration
    split
    · exact retains_addErrors schema _
    · next table found =>
      refine (retains_addIssues schema _).trans (retains_putTable _ fun old old_found => ?_)
      rw [Draft.foldl_readConstraint_table] at old_found ⊢
      have keeps : table.Keeps ((alteration.clauses.filter Draft.isConstraintClause).foldl Table.amend table) :=
        Table.keeps_foldl_amend _ table
      have named : table.name = alteration.table := Roster.name_of_find? found
      have same : schema.table? table.name = some old := keeps.name ▸ old_found
      rw [named, found] at same
      exact Option.some.inj same ▸ keeps

theorem retains_putIndex (index : Index) : schema.Retains (schema.putIndex index) where
  toGrows := grows_putIndex schema index
  kept name table found := by
    obtain ⟨member, named⟩ := Roster.find?_eq_some_iff.mp found
    let earlier := schema.indexes.find? index.name
    have member_later : table.relist earlier index ∈ (schema.putIndex index).tables.entries := by
      rw [putIndex_tables]
      exact List.mem_map_of_mem member
    refine ⟨table.relist earlier index, ?_, Table.keeps_relist earlier index table⟩
    exact Roster.find?_eq_some_iff.mpr ⟨member_later, (table.name_relist earlier index).trans named⟩

end Stages

/-- One pass over a schema, with the statements or the text that it reads. -/
inductive Pass where
  | tables (statements : List Text)
  | alterations (statements : List Text)
  | indexes (script : Text)
  | relationships
  | checks
  | counts

def Pass.run (schema : Schema) : Pass → Schema
  | tables statements => schema.readTables statements
  | alterations statements => schema.readAlterations statements
  | indexes script => schema.readIndexes script
  | relationships => schema.drawRelationships
  | checks => schema.validated
  | counts => schema.counted

theorem retains_pass (schema : Schema) (pass : Pass) : schema.Retains (pass.run schema) := by
  cases pass with
  | tables statements => exact .foldl retains_readTable statements schema
  | alterations statements => exact .foldl retains_readAlteration statements schema
  | indexes script => exact .foldl retains_putIndex (Index.readAll script) schema
  | relationships => exact .of_tables (grows_drawRelationships schema) rfl
  | checks => exact .of_tables (grows_validated schema) rfl
  | counts => exact .of_tables (grows_counted schema) rfl

/-- A schema only grows, whatever is read into it. -/
theorem retains_passes (schema : Schema) (passes : List Pass) : schema.Retains (passes.foldl Pass.run schema) :=
  .foldl retains_pass passes schema

end Schema
end SchemaAtlas
