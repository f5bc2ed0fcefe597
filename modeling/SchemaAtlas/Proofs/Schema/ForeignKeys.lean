import SchemaAtlas.Proofs.Lists
import SchemaAtlas.Proofs.Schema.Coherence
/-!
Foreign keys split into relationships and missing references. Drawing relationships and checking
references are two traversals with tests of their own; both are compared here with one list of the
foreign key columns and one test of whether a column's target exists.
-/
namespace SchemaAtlas

namespace Schema

/-- The foreign key columns, each with its table, in the order of tables and then of columns. -/
def foreignKeys (schema : Schema) : List (Table × Column) :=
  schema.tables.entries.flatMap fun table =>
    (table.columns.entries.filter Column.isForeignKey).map fun column => (table, column)

/-- The table and the column that a foreign key column points to exist. -/
def resolves (schema : Schema) (column : Column) : Bool :=
  column.references.any fun target => (schema.target? target).isSome

/-- The relationship that a foreign key column draws: its ends are that column and the column that it
points to, and they decide its cardinality. -/
structure Draws (schema : Schema) (key : Table × Column) (relationship : Relationship) : Prop where
  source_table : schema.table? relationship.table = some key.1
  source_column : key.1.column? relationship.column = some key.2
  target : key.2.references = some relationship.target
  ends : ∃ column, schema.target? relationship.target = some column ∧
    relationship.cardinality = .between (some key.2) (some column)
  known : relationship.cardinality ≠ .unknown

/-- The issue that a foreign key column without a target raises, which carries its table. -/
structure Reports (schema : Schema) (key : Table × Column) (issue : Issue) : Prop where
  kind : issue.kind = .missingReference
  table : issue.table = some key.1.name
  cause : ∃ target, key.2.references = some target ∧
    (schema.table? target.table = none ∧ issue = .missingTarget key.1.name target.table ∨
      ∃ table, schema.table? target.table = some table ∧ table.column? target.column = none ∧
        issue = .missingTargetColumn key.1.name target.table target.column)

def missingReferences (schema : Schema) : List Issue :=
  schema.violations.filter (·.kind == .missingReference)

theorem links_filterMap {α : Type} (schema : Schema) (give : Link → Option α) :
    schema.links.filterMap give = schema.foreignKeys.filterMap fun key =>
      key.2.references.bind fun target => give ⟨key.1.name, key.2, target⟩ := by
  unfold links foreignKeys
  rw [List.filterMap_flatMap, List.filterMap_flatMap]
  congr 1
  funext table
  unfold tableLinks
  rw [List.filterMap_filterMap, List.filterMap_map]
  -- Within one table, a column counts on both sides exactly if it is flagged as a foreign key.
  induction table.columns.entries with
  | nil => rfl
  | cons column rest ih =>
    by_cases foreign : column.isForeignKey = true
    · simp only [List.filterMap_cons, List.filter_cons, foreign, ↓reduceIte, ih, Function.comp_apply]
      cases column.references with
      | none => rfl
      | some target => rfl
    · simpa [List.filterMap_cons, List.filter_cons, foreign] using ih

theorem between_eq_unknown_iff {source target : Option Column} :
    Cardinality.between source target = .unknown ↔ source = none ∨ target = none := by
  cases source with
  | none => simp [Cardinality.between]
  | some source =>
    cases target with
    | none => simp [Cardinality.between]
    | some target =>
      simp only [Cardinality.between, reduceCtorEq, or_self, iff_false]
      split
      · split <;> simp
      · split <;> simp

theorem relationship?_eq_some_iff {schema : Schema} {link : Link} {relationship : Relationship} :
    schema.relationship? link = some relationship ↔
      ∃ column, schema.target? link.target = some column ∧
        relationship = ⟨link.table, link.column.name, link.target,
          .between (some link.column) (some column)⟩ := by
  unfold relationship?
  cases found : schema.target? link.target with
  | none => simp [Cardinality.between]
  | some column =>
    -- The test for an unknown cardinality fails as soon as both ends are there.
    have known : Cardinality.between (some link.column) (some column) ≠ .unknown := by
      simp [between_eq_unknown_iff]
    split
    · next unknown => exact absurd unknown known
    · simp [eq_comm]

theorem isSome_missingTarget? (schema : Schema) (link : Link) :
    (schema.missingTarget? link).isSome = !(schema.target? link.target).isSome := by
  unfold missingTarget? target?
  cases schema.table? link.target.table with
  | none => rfl
  | some table =>
    simp only [Option.bind_some]
    cases table.column? link.target.column <;> rfl

theorem kind_of_missingTarget? {schema : Schema} {link : Link} {issue : Issue}
    (found : schema.missingTarget? link = some issue) : issue.kind = .missingReference := by
  unfold missingTarget? at found
  split at found
  · cases found; rfl
  · split at found
    · cases found; rfl
    · cases found

section Split
variable {schema : Schema}

theorem mem_foreignKeys {key : Table × Column} :
    key ∈ schema.foreignKeys ↔ key.1 ∈ schema.tables.entries ∧ key.2 ∈ key.1.columns.entries ∧
      key.2.isForeignKey = true := by
  obtain ⟨table, column⟩ := key
  simp only [foreignKeys, List.mem_flatMap, List.mem_map, List.mem_filter, Prod.mk.injEq]
  constructor
  · rintro ⟨_, inside, _, ⟨member, foreign⟩, rfl, rfl⟩
    exact ⟨inside, member, foreign⟩
  · rintro ⟨inside, member, foreign⟩
    exact ⟨table, inside, column, ⟨member, foreign⟩, rfl, rfl⟩

theorem relationships_split (schema : Schema) :
    List.Forall₂ schema.Draws (schema.foreignKeys.filter (schema.resolves ·.2))
      (schema.links.filterMap schema.relationship?) := by
  rw [links_filterMap]
  refine (forall₂_filterMap _ _ _ ?_).imp ?_
  · rintro ⟨table, column⟩ _
    unfold resolves
    cases column.references with
    | none => rfl
    | some target =>
      simp only [Option.any_some, Option.bind_some]
      cases found : schema.target? target with
      | none => simp [relationship?, found, Cardinality.between]
      | some other =>
        rw [relationship?_eq_some_iff.mpr ⟨other, found, rfl⟩]
        rfl
  · rintro ⟨table, column⟩ relationship ⟨member, drawn⟩
    obtain ⟨inside, present, _⟩ := mem_foreignKeys.mp member
    obtain ⟨target, points, found⟩ := Option.bind_eq_some_iff.mp drawn
    obtain ⟨other, exists_target, rfl⟩ := relationship?_eq_some_iff.mp found
    exact ⟨Roster.find?_of_mem inside, Roster.find?_of_mem present, points,
      ⟨other, exists_target, rfl⟩, by simp [between_eq_unknown_iff]⟩

theorem missing_split
    (pointed : ∀ key ∈ schema.foreignKeys, key.2.references.isSome = true) :
    List.Forall₂ schema.Reports (schema.foreignKeys.filter (!schema.resolves ·.2))
      (schema.links.filterMap schema.missingTarget?) := by
  rw [links_filterMap]
  refine (forall₂_filterMap _ _ _ ?_).imp ?_
  · rintro ⟨table, column⟩ member
    obtain ⟨target, points⟩ := Option.isSome_iff_exists.mp (pointed _ member)
    replace points : column.references = some target := points
    simp only [resolves, points, Option.any_some, Option.bind_some]
    exact (isSome_missingTarget? schema ⟨table.name, column, target⟩).symm
  · rintro ⟨table, column⟩ issue ⟨_, found⟩
    obtain ⟨target, points, missing⟩ := Option.bind_eq_some_iff.mp found
    unfold missingTarget? at missing
    cases exists_table : schema.table? target.table with
    | none =>
      simp only [exists_table, Option.some.injEq] at missing
      subst missing
      exact ⟨rfl, rfl, target, points, Or.inl ⟨exists_table, rfl⟩⟩
    | some other =>
      cases exists_column : other.column? target.column with
      | some _ => simp [exists_table, exists_column] at missing
      | none =>
        simp only [exists_table, exists_column, Option.some.injEq] at missing
        subst missing
        exact ⟨rfl, rfl, target, points, Or.inr ⟨other, exists_table, exists_column, rfl⟩⟩

/-- The checks of table names are of another kind. -/
theorem missingReferences_eq (schema : Schema) :
    schema.missingReferences = schema.links.filterMap schema.missingTarget? := by
  unfold missingReferences violations
  rw [List.filter_append]
  have names : ((schema.tables.names.filter (!isValidTableName ·)).map Issue.invalidTableName).filter
      (·.kind == .missingReference) = [] := by
    apply List.filter_eq_nil_iff.mpr
    intro issue member
    obtain ⟨name, _, rfl⟩ := List.mem_map.mp member
    simp [Issue.invalidTableName]
  have missing : ∀ issue ∈ schema.links.filterMap schema.missingTarget?,
      (issue.kind == .missingReference) = true := by
    intro issue member
    obtain ⟨link, _, found⟩ := List.mem_filterMap.mp member
    exact beq_iff_eq.mpr (kind_of_missingTarget? found)
  rw [names, List.append_nil, List.filter_eq_self.mpr missing]

theorem relationships_checked {parts : Schema} (undrawn : parts.relationships = []) :
    let schema := parts.drawRelationships.validated.counted
    schema.relationships = schema.links.filterMap schema.relationship? := by
  intro schema
  change parts.relationships ++ _ = _
  rw [undrawn]
  rfl

/-- A schema whose relationships are drawn and whose references are checked, if it had no relationships
before and all its foreign key columns point somewhere. -/
theorem checked_split {parts schema : Schema} (checked : schema = parts.drawRelationships.validated.counted)
    (undrawn : parts.relationships = [])
    (pointed : ∀ key ∈ schema.foreignKeys, key.2.references.isSome = true) :
    List.Forall₂ schema.Draws (schema.foreignKeys.filter (schema.resolves ·.2)) schema.relationships ∧
      List.Forall₂ schema.Reports (schema.foreignKeys.filter (!schema.resolves ·.2))
        parts.drawRelationships.missingReferences ∧
      schema.relationships.length + parts.drawRelationships.missingReferences.length =
        schema.foreignKeys.length := by
  have draws := schema.relationships_split
  have drawn : schema.relationships = schema.links.filterMap schema.relationship? := by
    rw [checked]
    exact relationships_checked undrawn
  rw [← drawn] at draws
  have reports := missing_split pointed
  have raised : parts.drawRelationships.missingReferences = schema.links.filterMap schema.missingTarget? := by
    rw [checked]
    exact parts.drawRelationships.missingReferences_eq
  rw [← raised] at reports
  refine ⟨draws, reports, ?_⟩
  rw [← draws.length_eq, ← reports.length_eq]
  exact (List.length_eq_length_filter_add fun key : Table × Column => schema.resolves key.2).symm

end Split

section Frame

theorem readTable_relationships (schema : Schema) (statement : Text) :
    (schema.readTable statement).relationships = schema.relationships := by
  unfold readTable
  split
  · rfl
  · rfl
  · split
    · rfl
    · split <;> rfl

theorem readTables_relationships (statements : List Text) (schema : Schema) :
    (schema.readTables statements).relationships = schema.relationships :=
  List.foldlRecOn statements readTable (motive := fun read => read.relationships = schema.relationships) rfl
    fun read same statement _ => (read.readTable_relationships statement).trans same

theorem readAlteration_relationships (schema : Schema) (statement : Text) :
    (schema.readAlteration statement).relationships = schema.relationships := by
  unfold readAlteration applyAlteration
  split
  · rfl
  · split <;> rfl

theorem readAlterations_relationships (statements : List Text) (schema : Schema) :
    (schema.readAlterations statements).relationships = schema.relationships :=
  List.foldlRecOn statements readAlteration (motive := fun read => read.relationships = schema.relationships) rfl
    fun read same statement _ => (read.readAlteration_relationships statement).trans same

theorem putIndex_relationships (schema : Schema) (index : Index) :
    (schema.putIndex index).relationships = schema.relationships := by
  simp only [putIndex, modifyTable]
  split <;> rfl

theorem readIndexes_relationships (script : Text) (schema : Schema) :
    (schema.readIndexes script).relationships = schema.relationships :=
  List.foldlRecOn (Index.readAll script) putIndex (motive := fun read => read.relationships = schema.relationships)
    rfl fun read same index _ => (read.putIndex_relationships index).trans same

end Frame
end Schema

namespace Script

theorem readParts_relationships (script : Text) : (readParts script).relationships = [] := by
  unfold readParts
  rw [Schema.readIndexes_relationships, Schema.readAlterations_relationships,
    Schema.readTables_relationships]
  rfl

theorem draws_of_mem {script : String} {relationship : Relationship}
    (drawn : relationship ∈ (read script).relationships) :
    ∃ key, key.2 ∈ key.1.columns.entries ∧ (read script).Draws key relationship := by
  have same := Schema.relationships_checked (readParts_relationships (normalized script.toList))
  rw [← read_eq] at same
  rw [same] at drawn
  obtain ⟨key, inside, draws⟩ := forall₂_mem_right (read script).relationships_split drawn
  exact ⟨key, (Schema.mem_foreignKeys.mp (List.mem_of_mem_filter inside)).2.1, draws⟩

/-- A relationship leads from a column of the schema to another one. -/
theorem ends_of_mem {script : String} {relationship : Relationship}
    (drawn : relationship ∈ (read script).relationships) :
    ∃ source ∈ (read script).tables.entries, ∃ first ∈ source.columns.entries,
      ∃ target ∈ (read script).tables.entries, ∃ second ∈ target.columns.entries,
        relationship.table = source.name ∧ relationship.column = first.name ∧
          relationship.target.table = target.name ∧ relationship.target.column = second.name := by
  obtain ⟨key, _, draws⟩ := draws_of_mem drawn
  obtain ⟨second, resolved, _⟩ := draws.ends
  obtain ⟨target, found, present⟩ := Option.bind_eq_some_iff.mp resolved
  exact ⟨key.1, Roster.mem_of_find? draws.source_table, key.2, Roster.mem_of_find? draws.source_column,
    target, Roster.mem_of_find? found, second, Roster.mem_of_find? present,
    (Roster.name_of_find? draws.source_table).symm, (Roster.name_of_find? draws.source_column).symm,
    (Roster.name_of_find? found).symm, (Roster.name_of_find? present).symm⟩

theorem references_of_foreignKey {script : String} {key : Table × Column}
    (member : key ∈ (read script).foreignKeys) : key.2.references.isSome = true := by
  obtain ⟨inside, present, foreign⟩ := Schema.mem_foreignKeys.mp member
  have coherent := coherent_of_read (Roster.find?_of_mem inside)
  exact (coherent.columns key.2 present).foreign_iff.mp foreign

/-- The schema of a script before its checks. -/
def readUnchecked (script : String) : Schema := (readParts (normalized script.toList)).drawRelationships

/-- The foreign key columns of a script split into those that draw a relationship and those that raise
a missing reference, each in their order and once. -/
theorem foreign_keys_split (script : String) :
    (read script).errors = (readUnchecked script).errors ++ (readUnchecked script).violations ∧
      List.Forall₂ (read script).Draws ((read script).foreignKeys.filter ((read script).resolves ·.2))
        (read script).relationships ∧
      List.Forall₂ (read script).Reports ((read script).foreignKeys.filter (!(read script).resolves ·.2))
        (readUnchecked script).missingReferences ∧
      (read script).relationships.length + (readUnchecked script).missingReferences.length =
        (read script).foreignKeys.length ∧
      ((read script).success = true →
        (read script).relationships.length = (read script).foreignKeys.length) := by
  have undrawn := readParts_relationships (normalized script.toList)
  obtain ⟨draws, reports, total⟩ := Schema.checked_split (read_eq script) undrawn fun key member =>
    references_of_foreignKey member
  have errors : (read script).errors = (readUnchecked script).errors ++ (readUnchecked script).violations := rfl
  refine ⟨errors, draws, reports, total, ?_⟩
  intro success
  have clean : (read script).errors = [] := List.isEmpty_iff.mp success
  have complete : (readUnchecked script).missingReferences = [] := by
    rw [errors] at clean
    rw [Schema.missingReferences, (List.append_eq_nil_iff.mp clean).2]
    rfl
  have counted : (read script).relationships.length + (readUnchecked script).missingReferences.length =
      (read script).foreignKeys.length := total
  rwa [complete, List.length_nil, Nat.add_zero] at counted

end Script
end SchemaAtlas
