import SchemaAtlas.Proofs.Schema.ForeignKeys
import SchemaAtlas.Proofs.Script.Definition
/-!
Statements in another order. A table is built from its own definition alone, and whatever is asked of a
schema afterwards does not depend on the order of its tables. So definitions may change places among
themselves and with the alterations, and the body of a table has no influence on the other tables.
-/
namespace SchemaAtlas

namespace Roster
variable {α : Type} [Named α] {left right : Roster α}

theorem find?_of_perm (perm : left.entries.Perm right.entries) (name : String) :
    left.find? name = right.find? name := by
  apply Option.ext
  intro entry
  rw [find?_eq_some_iff, find?_eq_some_iff, perm.mem_iff]

theorem names_of_perm (perm : left.entries.Perm right.entries) : left.names.Perm right.names := perm.map Named.name

theorem put_of_perm (perm : left.entries.Perm right.entries) (entry : α) :
    (left.put entry).entries.Perm (right.put entry).entries := by
  have same := (names_of_perm perm).mem_iff (a := Named.name entry)
  by_cases taken : Named.name entry ∈ left.names
  · rw [entries_put_of_taken taken, entries_put_of_taken (same.mp taken)]
    exact perm.map _
  · rw [entries_put_of_fresh taken, entries_put_of_fresh fun member => taken (same.mpr member)]
    exact perm.append_right _

end Roster

/-- What a statement adds to a schema where the name of its table is free. -/
structure Gain where
  errors : List Issue
  warnings : List Issue
  table : Option Table

namespace TableStatement
variable {statement : Text}

def gain (statement : Text) : Gain :=
  match read statement with
  | .unrelated | .malformed => ⟨[], [], none⟩
  | .definition name body =>
    match (Draft.ofTable (.empty name)).readBody body with
    | (draft, some error) => ⟨draft.errors ++ [.unreadableTable name error.message], draft.warnings, none⟩
    | (draft, none) => ⟨draft.errors, draft.warnings, some draft.table⟩

theorem name_of_gain (table : Table) (gained : (gain statement).table = some table) :
    (read statement).name? = some table.name := by
  unfold gain at gained
  cases defined : read statement with
  | unrelated | malformed =>
    rw [defined] at gained
    cases gained
  | definition name body =>
    simp only [defined] at gained
    split at gained
    · cases gained
    · next draft built =>
      obtain rfl := Option.some.inj gained
      exact congrArg some (Draft.name_of_readBody built).symm

end TableStatement

namespace Schema
open TableStatement

/-- The names of the tables that statements define, with their repetitions. -/
def definedNames (statements : List Text) : List String :=
  statements.filterMap fun statement => (TableStatement.read statement).name?

/-- A schema that has become another one by tables and issues that were added behind those it had. -/
structure Gained (schema after : Schema) (tables : List Table) (errors warnings : List Issue) : Prop where
  tables : after.tables.entries = schema.tables.entries ++ tables
  errors : after.errors = schema.errors ++ errors
  warnings : after.warnings = schema.warnings ++ warnings

section Gain
variable {schema : Schema} {statement : Text} {statements : List Text}

theorem gained_readTable
    (free : ∀ name, (TableStatement.read statement).name? = some name → name ∉ schema.tables.names) :
    schema.Gained (schema.readTable statement) (gain statement).table.toList (gain statement).errors
      (gain statement).warnings := by
  have named (table : Table) : (gain statement).table = some table →
      (TableStatement.read statement).name? = some table.name := name_of_gain table
  unfold readTable
  unfold gain at named ⊢
  cases defined : TableStatement.read statement with
  | unrelated | malformed => exact ⟨(List.append_nil _).symm, (List.append_nil _).symm, (List.append_nil _).symm⟩
  | definition name body =>
    have unknown : schema.tables.has name = false := by
      rw [← Bool.not_eq_true, Roster.has_iff]
      exact free name (by rw [defined]; rfl)
    simp only [defined, unknown, Bool.false_eq_true, ↓reduceIte] at named ⊢
    cases built : (Draft.ofTable (.empty name)).readBody body with
    | mk draft failure =>
      simp only [built] at named ⊢
      cases failure with
      | some error => exact ⟨(List.append_nil _).symm, List.append_assoc .., rfl⟩
      | none =>
        have fresh : Named.name draft.table ∉ schema.tables.names :=
          free draft.table.name (by rw [defined]; exact named draft.table rfl)
        exact ⟨Roster.entries_put_of_fresh fresh, rfl, rfl⟩

/-- Definitions of different names add up if the names are free. -/
theorem gained_readTables (distinct : (definedNames statements).Nodup)
    (free : ∀ name ∈ definedNames statements, name ∉ schema.tables.names) :
    schema.Gained (schema.readTables statements) (statements.filterMap (gain · |>.table))
      (statements.flatMap (gain · |>.errors)) (statements.flatMap (gain · |>.warnings)) := by
  unfold readTables
  induction statements generalizing schema with
  | nil => exact ⟨(List.append_nil _).symm, (List.append_nil _).symm, (List.append_nil _).symm⟩
  | cons statement rest ih =>
    have split : definedNames (statement :: rest) =
        (TableStatement.read statement).name?.toList ++ definedNames rest := by
      unfold definedNames
      rw [List.filterMap_cons]
      cases (TableStatement.read statement).name? <;> rfl
    rw [split] at distinct free
    obtain ⟨_, later_distinct, apart⟩ := List.nodup_append.mp distinct
    have here : schema.Gained (schema.readTable statement) _ _ _ :=
      gained_readTable fun name named => free name (List.mem_append_left _ (by simp [named]))
    -- The name that is taken here is none of the later ones.
    have still_free : ∀ name ∈ definedNames rest, name ∉ (schema.readTable statement).tables.names := by
      intro name member taken
      unfold Roster.names at taken
      rw [here.tables, List.map_append] at taken
      rcases List.mem_append.mp taken with old | new
      · exact free name (List.mem_append_right _ member) old
      · obtain ⟨table, gained, rfl⟩ := List.mem_map.mp new
        have named := name_of_gain table (Option.mem_toList.mp gained)
        exact apart table.name (by simp [named]) _ member rfl
    have later := ih later_distinct still_free
    rw [List.foldl_cons]
    refine ⟨?_, ?_, ?_⟩
    · rw [later.tables, here.tables, List.append_assoc, List.filterMap_cons]
      cases (gain statement).table <;> rfl
    · rw [later.errors, here.errors, List.append_assoc, List.flatMap_cons]
    · rw [later.warnings, here.warnings, List.append_assoc, List.flatMap_cons]

end Gain

/-- The same tables, relationships and issues, in whatever order. -/
structure Permuted (left right : Schema) : Prop where
  tables : left.tables.entries.Perm right.tables.entries
  relationships : left.relationships.Perm right.relationships
  errors : left.errors.Perm right.errors
  warnings : left.warnings.Perm right.warnings

section Permuted
variable {left right : Schema}

theorem Permuted.table? (same : left.Permuted right) (name : String) : left.table? name = right.table? name :=
  Roster.find?_of_perm same.tables name

theorem Permuted.readAlteration (same : left.Permuted right) (statement : Text) :
    (left.readAlteration statement).Permuted (right.readAlteration statement) := by
  unfold Schema.readAlteration
  cases Alteration.read? statement with
  | none => exact same
  | some alteration =>
    simp only [applyAlteration, same.table?]
    cases right.table? alteration.table with
    | none => exact { same with errors := same.errors.append_right _ }
    | some table =>
      exact ⟨Roster.put_of_perm same.tables _, same.relationships, same.errors.append_right _,
        same.warnings.append_right _⟩

theorem Permuted.readAlterations (same : left.Permuted right) (statements : List Text) :
    (left.readAlterations statements).Permuted (right.readAlterations statements) := by
  unfold Schema.readAlterations
  induction statements generalizing left right with
  | nil => exact same
  | cons statement rest ih => exact ih (same.readAlteration statement)

theorem Permuted.links (same : left.Permuted right) : left.links.Perm right.links := same.tables.flatMap_right _

theorem Permuted.drawRelationships (same : left.Permuted right) :
    left.drawRelationships.Permuted right.drawRelationships := by
  have drawn : left.relationship? = right.relationship? := by
    funext link
    simp only [Schema.relationship?, Schema.target?, same.table?]
  refine { same with relationships := same.relationships.append ?_ }
  rw [drawn]
  exact same.links.filterMap _

theorem Permuted.validated (same : left.Permuted right) : left.validated.Permuted right.validated := by
  have missing : left.missingTarget? = right.missingTarget? := by
    funext link
    simp only [Schema.missingTarget?, same.table?]
  refine { same with errors := same.errors.append (.append ?_ ?_) }
  · rw [missing]
    exact same.links.filterMap _
  · exact ((Roster.names_of_perm same.tables).filter _).map _

end Permuted

/-- What a list of statements defines, alters and refers to. -/
def ofStatements (statements : List Text) : Schema :=
  ((empty.readTables statements).readAlterations statements).drawRelationships.validated

/-- The same definitions in some order and the same alterations in the same order, each name defined once. -/
structure Rearranged (first second : List Text) : Prop where
  definitions : (first.filter isDefinition).Perm (second.filter isDefinition)
  alterations : first.filter Alteration.alters = second.filter Alteration.alters
  distinct : (definedNames first).Nodup

section Rearranged
variable {first second statements : List Text}

theorem definedNames_filter (statements : List Text) :
    definedNames (statements.filter isDefinition) = definedNames statements := by
  unfold definedNames
  rw [List.filterMap_filter]
  congr 1
  funext statement
  rw [← isSome_name?]
  cases (TableStatement.read statement).name? <;> rfl

/-- What the definitions gain together does not depend on their order. -/
theorem permuted_readTables (order : first.Perm second) (distinct : (definedNames first).Nodup) :
    (empty.readTables first).Permuted (empty.readTables second) := by
  have names : (definedNames first).Perm (definedNames second) := order.filterMap _
  have free (name : String) : name ∉ empty.tables.names := List.not_mem_nil
  have left := gained_readTables distinct fun name _ => free name
  have right := gained_readTables (names.nodup_iff.mp distinct) fun name _ => free name
  refine ⟨?_, ?_, ?_, ?_⟩
  · rw [left.tables, right.tables]
    exact (order.filterMap _).append_left _
  · rw [readTables_relationships, readTables_relationships]
  · rw [left.errors, right.errors]
    exact (order.flatMap_right _).append_left _
  · rw [left.warnings, right.warnings]
    exact (order.flatMap_right _).append_left _

theorem Rearranged.readTables (rearranged : Rearranged first second) :
    (empty.readTables first).Permuted (empty.readTables second) := by
  rw [← readTables_filter first, ← readTables_filter second]
  exact permuted_readTables rearranged.definitions ((definedNames_filter first).symm ▸ rearranged.distinct)

theorem Rearranged.ofStatements (rearranged : Rearranged first second) :
    (ofStatements first).Permuted (ofStatements second) := by
  unfold Schema.ofStatements
  rw [← readAlterations_filter first, ← readAlterations_filter second, rearranged.alterations]
  exact (rearranged.readTables.readAlterations _).drawRelationships.validated

end Rearranged

/-- The table of a name is built by the statements about it. -/
theorem table?_ofStatements (statements : List Text) (name : String) :
    (ofStatements statements).table? name =
      ((Script.definingBody? name statements).map (tableOfBody name)).map
        ((statements.flatMap (Script.addedClauses name)).foldl Table.amend) := by
  change ((empty.readTables statements).readAlterations statements).table? name = _
  rw [table?_readAlterations, table?_readTables]
  rfl

/-- Tables do not depend on each other or on the order of their definitions. In another order the same
statements give the same tables, relationships and issues, and another body for one table leaves all
others as they are. -/
theorem tables_independent :
    (∀ {first second : List Text}, Rearranged first second →
      (∀ name, (ofStatements first).table? name = (ofStatements second).table? name) ∧
        (ofStatements first).Permuted (ofStatements second)) ∧
    ∀ {before after : List Text} {statement changed : Text} {name : String} {body other : Text},
      TableStatement.read statement = .definition name body → TableStatement.read changed = .definition name other →
      Alteration.read? changed = Alteration.read? statement →
      ∀ elsewhere, elsewhere ≠ name →
        (ofStatements (before ++ changed :: after)).table? elsewhere =
          (ofStatements (before ++ statement :: after)).table? elsewhere := by
  constructor
  · intro first second rearranged
    exact ⟨rearranged.ofStatements.table?, rearranged.ofStatements⟩
  · intro before after statement changed name body other read read_changed alters elsewhere different
    -- Neither of the two statements is about the other table.
    have undefined {statement body : Text} (read : TableStatement.read statement = .definition name body) :
        Script.readableBody? elsewhere statement = none := by
      unfold Script.readableBody?
      simp [read, Ne.symm different]
    have defining {statement body : Text} (read : TableStatement.read statement = .definition name body) :
        Script.definingBody? elsewhere (before ++ statement :: after) =
          Script.definingBody? elsewhere (before ++ after) := by
      unfold Script.definingBody?
      rw [List.findSome?_append, List.findSome?_cons, undefined read, List.findSome?_append]
    have added : Script.addedClauses elsewhere changed = Script.addedClauses elsewhere statement := by
      unfold Script.addedClauses
      rw [alters]
    rw [table?_ofStatements, table?_ofStatements, defining read, defining read_changed]
    simp only [List.flatMap_append, List.flatMap_cons, added]

/-- A reference to a table that comes later, an alteration between the definitions and one that finds no table. -/
theorem tables_independent_forward :
    let orders := "CREATE TABLE orders (buyer int REFERENCES people(id), item int REFERENCES items(id))".toList
    let people := "CREATE TABLE people (id int, parent int)".toList
    let broken := "CREATE TABLE people (id int(²))".toList
    let key := "ALTER TABLE people ADD PRIMARY KEY (id)".toList
    let missing := "ALTER TABLE items ADD UNIQUE (id)".toList
    let first := [orders, key, people, missing]
    let second := [people, key, missing, orders]
    (Rearranged first second ∧
        (∀ name, (ofStatements first).table? name = (ofStatements second).table? name) ∧
        (ofStatements first).Permuted (ofStatements second)) ∧
      (TableStatement.read people = .definition "people" "id int, parent int".toList ∧
        TableStatement.read broken = .definition "people" "id int(²)".toList ∧
        Alteration.read? broken = Alteration.read? people ∧
        (ofStatements ([orders, key] ++ broken :: [missing])).table? "orders" =
          (ofStatements ([orders, key] ++ people :: [missing])).table? "orders") := by
  intro orders people broken key missing first second
  have rearranged : Rearranged first second :=
    ⟨by decide +kernel, by decide +kernel, by decide +kernel⟩
  have read : TableStatement.read people = .definition "people" "id int, parent int".toList := by decide +kernel
  have read_broken : TableStatement.read broken = .definition "people" "id int(²)".toList := by decide +kernel
  have alters : Alteration.read? broken = Alteration.read? people := by decide +kernel
  exact ⟨⟨rearranged, tables_independent.1 rearranged⟩, read, read_broken, alters,
    tables_independent.2 read read_broken alters "orders" (by decide)⟩

end Schema
end SchemaAtlas
