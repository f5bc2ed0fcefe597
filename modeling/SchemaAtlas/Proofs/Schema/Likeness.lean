import SchemaAtlas.Script.Reading
import SchemaAtlas.Proofs.Clause.Effect
/-!
Schemas that differ in the constraints and indexes of their tables only. The columns of the tables, the
relationships and the issues stay the same whatever is read afterwards, because nothing else of a table
is ever asked for.
-/
namespace SchemaAtlas

/-- A table without its constraints and its indexes. -/
def Table.heading (table : Table) : String × Roster Column := (table.name, table.columns)

/-- Two readings that fail alike with the same issues, or else come to related drafts. -/
structure Draft.Agree (related : Draft → Draft → Prop) (first second : Draft × Option NumeralError) : Prop where
  failure : first.2 = second.2
  errors : first.1.errors = second.1.errors
  warnings : first.1.warnings = second.1.warnings
  drafts : first.2 = none → related first.1 second.1

theorem Draft.Agree.of_error {related : Draft → Draft → Prop} {first second : Draft}
    (errors : first.errors = second.errors) (warnings : first.warnings = second.warnings) (error : NumeralError) :
    Agree related (first, some error) (second, some error) :=
  ⟨rfl, errors, warnings, fun readable => by cases readable⟩

namespace Roster
variable {left right : Roster Table}

/-- The headings of the tables, in order. -/
def headings (tables : Roster Table) : List (String × Roster Column) := tables.entries.map Table.heading

theorem names_eq_headings (tables : Roster Table) : tables.names = tables.headings.map Prod.fst := by
  rw [names, headings, List.map_map]
  rfl

theorem find?_headings (tables : Roster Table) (name : String) :
    (tables.find? name).map Table.heading = tables.headings.find? (·.1 == name) := by
  rw [find?, headings, List.find?_map]
  rfl

theorem headings_put (same : left.headings = right.headings) {first second : Table}
    (alike : first.heading = second.heading) : (left.put first).headings = (right.put second).headings := by
  have name : Named.name first = Named.name second := congrArg Prod.fst alike
  have names : left.names = right.names := by rw [names_eq_headings, names_eq_headings, same]
  by_cases taken : Named.name first ∈ left.names
  · have also_taken : Named.name second ∈ right.names := by rwa [← name, ← names]
    have replaced (tables : Roster Table) (table : Table) :
        (tables.entries.map fun old => if Named.name old = Named.name table then table else old).map Table.heading =
          tables.headings.map fun old => if old.1 = table.heading.1 then table.heading else old := by
      rw [headings, List.map_map, List.map_map]
      apply List.map_congr_left
      intro old _
      exact apply_ite Table.heading _ _ _
    rw [headings, headings, entries_put_of_taken taken, entries_put_of_taken also_taken, replaced, replaced, same,
      alike]
  · have also_fresh : Named.name second ∉ right.names := by rwa [← name, ← names]
    unfold headings at same ⊢
    rw [entries_put_of_fresh taken, entries_put_of_fresh also_fresh, List.map_append, List.map_append, same,
      List.map_singleton, List.map_singleton, alike]

theorem headings_modify (tables : Roster Table) {name : String} {change : Table → Table}
    (keeps : ∀ table, (change table).name = table.name) (plain : ∀ table, (change table).heading = table.heading) :
    (tables.modify name change keeps).headings = tables.headings := by
  rw [headings, entries_modify, List.map_map]
  apply List.map_congr_left
  intro table _
  rw [Function.comp_apply]
  split
  · exact plain table
  · rfl

end Roster

namespace Schema

/-- The schemas differ in the constraints and indexes of their tables only. -/
structure Alike (left right : Schema) : Prop where
  headings : left.tables.headings = right.tables.headings
  indexes : left.indexes = right.indexes
  relationships : left.relationships = right.relationships
  errors : left.errors = right.errors
  warnings : left.warnings = right.warnings

section Alike
variable {left right : Schema}

theorem Alike.refl (schema : Schema) : schema.Alike schema := ⟨rfl, rfl, rfl, rfl, rfl⟩

theorem Alike.table? (alike : left.Alike right) (name : String) :
    (left.table? name).map Table.heading = (right.table? name).map Table.heading := by
  rw [Schema.table?, Schema.table?, Roster.find?_headings, Roster.find?_headings, alike.headings]

theorem Alike.names (alike : left.Alike right) : left.tables.names = right.tables.names := by
  rw [Roster.names_eq_headings, Roster.names_eq_headings, alike.headings]

theorem Alike.has (alike : left.Alike right) (name : String) : left.tables.has name = right.tables.has name := by
  rw [Roster.has, alike.names, Roster.has]

theorem Alike.addErrors (alike : left.Alike right) (issues : List Issue) :
    (left.addErrors issues).Alike (right.addErrors issues) :=
  { alike with errors := congrArg (· ++ issues) alike.errors }

/-- Two drafts that are alike are taken in alike. -/
theorem Alike.addIssues (alike : left.Alike right) {first second : Draft} (errors : first.errors = second.errors)
    (warnings : first.warnings = second.warnings) : (left.addIssues first).Alike (right.addIssues second) :=
  { alike with
    errors := by
      change left.errors ++ first.errors = right.errors ++ second.errors
      rw [alike.errors, errors]
    warnings := by
      change left.warnings ++ first.warnings = right.warnings ++ second.warnings
      rw [alike.warnings, warnings] }

theorem Alike.putTable (alike : left.Alike right) {first second : Table} (same : first.heading = second.heading) :
    (left.putTable first).Alike (right.putTable second) :=
  { alike with headings := Roster.headings_put alike.headings same }

theorem Alike.takeIn (alike : left.Alike right) {first second : Draft} (drafts : Draft.Alike [] [] first second) :
    ((left.addIssues first).putTable first.table).Alike ((right.addIssues second).putTable second.table) :=
  (alike.addIssues drafts.errors drafts.warnings).putTable (Prod.ext drafts.name drafts.columns)

/-- Statements for one table whose bodies come to the same. -/
theorem Alike.readTable_of_agree (alike : left.Alike right) {name : String} {first second body other : Text}
    (read : TableStatement.read first = .definition name body)
    (read_other : TableStatement.read second = .definition name other)
    (agree : Draft.Agree (Draft.Alike [] []) ((Draft.ofTable (.empty name)).readBody body)
      ((Draft.ofTable (.empty name)).readBody other)) : (left.readTable first).Alike (right.readTable second) := by
  unfold Schema.readTable
  rw [read, read_other]
  simp only [alike.has]
  cases right.tables.has name with
  | true => exact alike.addErrors _
  | false =>
    obtain ⟨failure, errors, warnings, drafts⟩ := agree
    generalize (Draft.ofTable (.empty name)).readBody body = one at failure errors warnings drafts
    generalize (Draft.ofTable (.empty name)).readBody other = two at failure errors warnings drafts
    obtain ⟨draft, failed⟩ := one
    obtain ⟨other_draft, other_failed⟩ := two
    obtain rfl : failed = other_failed := failure
    cases failed with
    | some error => exact (alike.addIssues errors warnings).addErrors _
    | none => exact alike.takeIn (drafts rfl)

theorem Alike.readTable (alike : left.Alike right) (statement : Text) :
    (left.readTable statement).Alike (right.readTable statement) := by
  cases read : TableStatement.read statement with
  | definition name body =>
    exact alike.readTable_of_agree read read ⟨rfl, rfl, rfl, fun _ => ⟨rfl, rfl, rfl, rfl⟩⟩
  | _ =>
    unfold Schema.readTable
    rw [read]
    exact alike

theorem Alike.readAlteration (alike : left.Alike right) (statement : Text) :
    (left.readAlteration statement).Alike (right.readAlteration statement) := by
  unfold Schema.readAlteration
  cases Alteration.read? statement with
  | none => exact alike
  | some alteration =>
    simp only [applyAlteration]
    have found := alike.table? alteration.table
    cases first : left.table? alteration.table with
    | none =>
      rw [first] at found
      rw [Option.map_eq_none_iff.mp found.symm]
      exact alike.addErrors _
    | some table =>
      rw [first] at found
      obtain ⟨other, second, same⟩ := Option.map_eq_some_iff.mp found.symm
      obtain ⟨name, columns⟩ := Prod.mk.inj same
      simp only [second]
      apply alike.takeIn
      exact Draft.Alike.foldl (fun _ _ clause drafts => drafts.readConstraint clause) _
        ⟨name.symm, columns.symm, rfl, rfl⟩

theorem Alike.modifyTable (alike : left.Alike right) (name : String) {change : Table → Table}
    (keeps : ∀ table, (change table).name = table.name) (plain : ∀ table, (change table).heading = table.heading) :
    (left.modifyTable name change keeps).Alike (right.modifyTable name change keeps) := by
  refine { alike with headings := ?_ }
  unfold Schema.modifyTable
  rw [Roster.headings_modify _ keeps plain, Roster.headings_modify _ keeps plain, alike.headings]

theorem Alike.addWarnings (alike : left.Alike right) (issues : List Issue) :
    (left.addWarnings issues).Alike (right.addWarnings issues) :=
  { alike with warnings := congrArg (· ++ issues) alike.warnings }

theorem Alike.unlistIndex (alike : left.Alike right) (index : Index) :
    (left.unlistIndex index).Alike (right.unlistIndex index) :=
  alike.modifyTable index.table _ fun _ => rfl

theorem Alike.listIndex (alike : left.Alike right) (index : Index) :
    ({ left with indexes := left.indexes.put index }.modifyTable index.table (·.addIndex index) fun _ => rfl).Alike
      ({ right with indexes := right.indexes.put index }.modifyTable index.table (·.addIndex index) fun _ => rfl) :=
  have listed : Alike { left with indexes := left.indexes.put index }
      { right with indexes := right.indexes.put index } :=
    { alike with indexes := congrArg (·.put index) alike.indexes }
  listed.modifyTable index.table _ fun _ => rfl

theorem Alike.putIndex (alike : left.Alike right) (index : Index) :
    (left.putIndex index).Alike (right.putIndex index) := by
  unfold Schema.putIndex
  rw [alike.indexes]
  cases right.indexes.find? index.name with
  | none => exact alike.listIndex index
  | some earlier => exact ((alike.addWarnings _).unlistIndex earlier).listIndex index

theorem Alike.foldl {α : Type} {step : Schema → α → Schema} (alike : left.Alike right)
    (keeps : ∀ left right item, left.Alike right → (step left item).Alike (step right item)) (items : List α) :
    (items.foldl step left).Alike (items.foldl step right) := by
  induction items generalizing left right with
  | nil => exact alike
  | cons item rest ih => exact ih (keeps left right item alike)

theorem Alike.readTables (alike : left.Alike right) (statements : List Text) :
    (left.readTables statements).Alike (right.readTables statements) :=
  alike.foldl (fun _ _ statement alike => alike.readTable statement) statements

theorem Alike.readAlterations (alike : left.Alike right) (statements : List Text) :
    (left.readAlterations statements).Alike (right.readAlterations statements) :=
  alike.foldl (fun _ _ statement alike => alike.readAlteration statement) statements

theorem Alike.readIndexes (alike : left.Alike right) (script : Text) :
    (left.readIndexes script).Alike (right.readIndexes script) :=
  alike.foldl (fun _ _ index alike => alike.putIndex index) (Index.readAll script)

theorem Alike.target? (alike : left.Alike right) (reference : Reference) :
    left.target? reference = right.target? reference := by
  have split (schema : Schema) : schema.target? reference =
      ((schema.table? reference.table).map Table.heading).bind (·.2.find? reference.column) := by
    rw [Schema.target?, Option.bind_map]
    rfl
  rw [split, split, alike.table?]

theorem Alike.links (alike : left.Alike right) : left.links = right.links := by
  have split (schema : Schema) : schema.links = schema.tables.headings.flatMap fun heading =>
      heading.2.entries.filterMap fun column =>
        if column.isForeignKey then column.references.map (⟨heading.1, column, ·⟩) else none := by
    rw [Schema.links, Roster.headings, List.flatMap_map]
    rfl
  rw [split, split, alike.headings]

theorem Alike.drawRelationships (alike : left.Alike right) :
    left.drawRelationships.Alike right.drawRelationships := by
  have same : left.relationship? = right.relationship? := by
    funext link
    rw [Schema.relationship?, Schema.relationship?, alike.target?]
  refine { alike with relationships := ?_ }
  change left.relationships ++ left.links.filterMap left.relationship? = _
  rw [alike.relationships, alike.links, same]
  rfl

theorem Alike.validated (alike : left.Alike right) : left.validated.Alike right.validated := by
  have same : left.missingTarget? = right.missingTarget? := by
    have split (schema : Schema) (link : Link) : schema.missingTarget? link =
        ((schema.table? link.target.table).map Table.heading).elim
          (some (.missingTarget link.table link.target.table)) fun heading =>
            (heading.2.find? link.target.column).elim
              (some (.missingTargetColumn link.table link.target.table link.target.column)) fun _ => none := by
      unfold Schema.missingTarget?
      cases schema.table? link.target.table with
      | none => rfl
      | some table => cases found : table.column? link.target.column <;> simp_all [Table.column?, Table.heading]
    funext link
    rw [split, split, alike.table?]
  have violations : left.violations = right.violations := by
    rw [Schema.violations, alike.links, same, alike.names, Schema.violations]
  rw [Schema.validated, violations]
  exact alike.addErrors _

end Alike
end Schema
end SchemaAtlas
