import SchemaAtlas.Proofs.Clause.Issues
import SchemaAtlas.Proofs.Script.Origin
/-!
Indexes stand in the map of the schema and in the lists of their tables. Reading a definition takes
the earlier index of its name off the list where it stood and puts the new one on the list of its own
table, so the lists keep agreeing with the map, however often a name is defined again and whichever
tables its definitions speak of.
-/
namespace SchemaAtlas

namespace Issue

def isDuplicateIndex (issue : Issue) : Bool := issue.kind == .duplicateIndex

end Issue

/-- The list of the table holds every index of the map that is on the table, once, and nothing else. -/
structure Table.Lists (indexes : Roster Index) (table : Table) : Prop where
  once : table.indexes.Nodup
  exact : ∀ index, index ∈ table.indexes ↔ index ∈ indexes.entries ∧ index.table = table.name

namespace Schema

/-- The lists of all tables agree with the map of indexes. -/
def Mirrored (schema : Schema) : Prop := ∀ table ∈ schema.tables.entries, table.Lists schema.indexes

/-- The names that the map does not have yet, each at the place where it comes first. -/
def newIndexNames (schema : Schema) (found : List Index) : List String :=
  ((found.map Index.name).filter (!schema.indexes.names.contains ·)).eraseDups

def duplicateWarnings (schema : Schema) : List Issue := schema.warnings.filter Issue.isDuplicateIndex

/-- What the definitions found in a text leave behind: lists that agree with the map, a map with the
last definition of each name at the place of the first, and a warning for each definition too many. -/
structure TakesIn (before : Schema) (found : List Index) (after : Schema) : Prop where
  mirrored : after.Mirrored
  names : after.indexes.names = before.indexes.names ++ before.newIndexNames found
  latest : ∀ name, after.indexes.find? name =
    (found.filter (·.name == name)).getLast?.or (before.indexes.find? name)
  warned : ∃ added, after.duplicateWarnings = before.duplicateWarnings ++ added ∧
    found.length = (before.newIndexNames found).length + added.length

theorem mirrored_of_unindexed {schema : Schema} (unindexed : schema.indexes = .empty)
    (bare : ∀ table ∈ schema.tables.entries, table.indexes = []) : schema.Mirrored := by
  intro table member
  rw [unindexed]
  exact ⟨by simp [bare table member], by simp [bare table member, Roster.empty]⟩

end Schema

namespace Table

/-- The table without the earlier index of a name, if that was on the table. -/
def delist (earlier : Option Index) (table : Table) : Table :=
  match earlier with
  | none => table
  | some old => if table.name = old.table then table.removeIndex old else table

/-- The table with an index that stands in for an earlier one. -/
def relist (earlier : Option Index) (index : Index) (table : Table) : Table :=
  if table.name = index.table then (table.delist earlier).addIndex index else table.delist earlier

theorem name_delist (earlier : Option Index) (table : Table) :
    (table.delist earlier).name = table.name := by
  unfold delist
  split
  · rfl
  · split <;> rfl

theorem name_relist (earlier : Option Index) (index : Index) (table : Table) :
    (table.relist earlier index).name = table.name := by
  unfold relist
  split <;> exact name_delist earlier table

section Lists
variable {indexes : Roster Index} {table : Table}

theorem Lists.once_delist (lists : table.Lists indexes) (earlier : Option Index) :
    (table.delist earlier).indexes.Nodup := by
  unfold delist
  split
  · exact lists.once
  · next old =>
    split
    · exact lists.once.erase old
    · exact lists.once

/-- An index that is on another table is not listed here, so leaving it alone is as good as erasing it. -/
theorem Lists.mem_delist (lists : table.Lists indexes) {earlier : Option Index} {index : Index} :
    index ∈ (table.delist earlier).indexes ↔ index ∈ table.indexes ∧ earlier ≠ some index := by
  cases earlier with
  | none => simp [delist]
  | some old =>
    simp only [delist, ne_eq, Option.some.injEq]
    split
    · have erased : index ∈ table.indexes.erase old ↔ index ≠ old ∧ index ∈ table.indexes :=
        lists.once.mem_erase_iff
      rw [and_comm, eq_comm]
      exact erased
    · next elsewhere =>
      constructor
      · intro member
        refine ⟨member, ?_⟩
        rintro rfl
        exact elsewhere ((lists.exact old).mp member).2.symm
      · exact And.left

theorem Lists.mem_relist (lists : table.Lists indexes) {earlier : Option Index} {index other : Index} :
    other ∈ (table.relist earlier index).indexes ↔
      (other ∈ table.indexes ∧ earlier ≠ some other) ∨ (other = index ∧ index.table = table.name) := by
  unfold relist
  split
  · next on =>
    have added : other ∈ (table.delist earlier).indexes ++ [index] ↔
        other ∈ (table.delist earlier).indexes ∨ other = index := by simp
    rw [and_iff_left on.symm, ← lists.mem_delist]
    exact added
  · next elsewhere =>
    rw [lists.mem_delist]
    have off : ¬index.table = table.name := fun same => elsewhere same.symm
    simp [off]

/-- The map that holds a new index in place of the earlier one of its name is listed rightly again. -/
theorem Lists.relist (lists : table.Lists indexes) (index : Index) :
    (table.relist (indexes.find? index.name) index).Lists (indexes.put index) where
  once := by
    -- The list without the earlier index has none of the name of the new one.
    have absent : index ∉ (table.delist (indexes.find? index.name)).indexes := by
      intro member
      obtain ⟨listed, other⟩ := lists.mem_delist.mp member
      exact other (Roster.find?_of_mem ((lists.exact index).mp listed).1)
    unfold Table.relist
    split
    · have extended := (lists.once_delist (indexes.find? index.name)).concat absent
      rwa [List.concat_eq_append] at extended
    · exact lists.once_delist _
  exact := by
    intro other
    rw [lists.mem_relist, lists.exact, name_relist]
    cases found : indexes.find? index.name with
    | none =>
      rw [Roster.mem_put_of_absent found]
      grind
    | some old =>
      rw [Roster.mem_put_of_found found]
      grind

end Lists
end Table

namespace Schema

section Step
variable (schema : Schema) (index : Index)

theorem putIndex_indexes : (schema.putIndex index).indexes = schema.indexes.put index := by
  simp only [putIndex, modifyTable]
  cases schema.indexes.find? index.name <;> rfl

theorem putIndex_tables :
    (schema.putIndex index).tables.entries =
      schema.tables.entries.map (Table.relist (schema.indexes.find? index.name) index) := by
  simp only [putIndex, modifyTable]
  cases schema.indexes.find? index.name with
  | none => rfl
  | some old =>
    change (schema.tables.entries.map _).map _ = _
    rw [List.map_map]
    apply List.map_congr_left
    intro table _
    have kept : Named.name (table.delist (some old)) = table.name := table.name_delist (some old)
    simp only [Function.comp_apply]
    change (if Named.name (table.delist (some old)) = index.table then (table.delist (some old)).addIndex index
      else table.delist (some old)) = _
    rw [kept]
    rfl

theorem putIndex_warnings :
    (schema.putIndex index).warnings = schema.warnings ++
      ((schema.indexes.find? index.name).map fun _ => .duplicateIndex index.name index.table).toList := by
  simp only [putIndex, modifyTable]
  cases schema.indexes.find? index.name with
  | none => exact (List.append_nil _).symm
  | some _ => rfl

end Step

theorem Mirrored.putIndex {schema : Schema} (mirrored : schema.Mirrored) (index : Index) :
    (schema.putIndex index).Mirrored := by
  intro table member
  rw [putIndex_tables] at member
  obtain ⟨old, inside, rfl⟩ := List.mem_map.mp member
  rw [putIndex_indexes]
  exact (mirrored old inside).relist index

theorem newIndexNames_of_taken {schema : Schema} {index : Index} (taken : index.name ∈ schema.indexes.names)
    (rest : List Index) :
    schema.newIndexNames (index :: rest) = (schema.putIndex index).newIndexNames rest := by
  have same : (schema.putIndex index).indexes.names = schema.indexes.names := by
    rw [putIndex_indexes]
    exact Roster.names_put_of_taken taken
  unfold newIndexNames
  rw [same, List.map_cons, List.filter_cons_of_neg (by simpa using taken)]

theorem newIndexNames_of_fresh {schema : Schema} {index : Index} (fresh : index.name ∉ schema.indexes.names)
    (rest : List Index) :
    schema.newIndexNames (index :: rest) =
      index.name :: (schema.putIndex index).newIndexNames rest := by
  have more : (schema.putIndex index).indexes.names = schema.indexes.names ++ [index.name] := by
    rw [putIndex_indexes]
    exact Roster.names_put_of_fresh fresh
  unfold newIndexNames
  rw [more, List.map_cons, List.filter_cons_of_pos (by simpa using fresh), List.eraseDups_cons,
    List.filter_filter]
  -- A name that is new after this one is another one, and was new before.
  congr 3
  funext name
  simp [Bool.and_comm, Bool.beq_eq_decide_eq]

theorem takesIn_nil {schema : Schema} (mirrored : schema.Mirrored) : schema.TakesIn [] schema where
  mirrored := mirrored
  names := by simp [newIndexNames]
  latest := by simp
  warned := ⟨[], by simp, by simp [newIndexNames]⟩

theorem latest_cons {schema : Schema} {index : Index} (rest : List Index) (name : String) :
    ((rest.filter (·.name == name)).getLast?).or ((schema.putIndex index).indexes.find? name) =
      (((index :: rest).filter (·.name == name)).getLast?).or (schema.indexes.find? name) := by
  have put : (schema.putIndex index).indexes.find? name =
      if name = index.name then some index else schema.indexes.find? name := by
    rw [putIndex_indexes]
    exact Roster.find?_put _ _ _
  rw [put]
  by_cases same : name = index.name
  · rw [if_pos same, List.filter_cons_of_pos (by simp [same]), List.getLast?_cons]
    cases (rest.filter (·.name == name)).getLast? <;> rfl
  · rw [if_neg same, List.filter_cons_of_neg (by simpa using Ne.symm same)]

/-- A definition adds one new name or one warning. -/
theorem TakesIn.cons {before after : Schema} {index : Index} {rest : List Index}
    (later : (before.putIndex index).TakesIn rest after) : before.TakesIn (index :: rest) after where
  mirrored := later.mirrored
  names := by
    rw [later.names]
    by_cases taken : index.name ∈ before.indexes.names
    · rw [newIndexNames_of_taken taken, putIndex_indexes]
      exact congrArg (· ++ _) (Roster.names_put_of_taken taken)
    · have more : (before.putIndex index).indexes.names = before.indexes.names ++ [index.name] := by
        rw [putIndex_indexes]
        exact Roster.names_put_of_fresh taken
      rw [newIndexNames_of_fresh taken, more, List.append_assoc]
      rfl
  latest := fun name => (later.latest name).trans (latest_cons rest name)
  warned := by
    obtain ⟨added, same, total⟩ := later.warned
    have warnings : (before.putIndex index).duplicateWarnings = before.duplicateWarnings ++ _ :=
      (congrArg (List.filter Issue.isDuplicateIndex) (putIndex_warnings before index)).trans
        (List.filter_append ..)
    cases found : before.indexes.find? index.name with
    | none =>
      rw [found] at warnings
      refine ⟨added, ?_, ?_⟩
      · simpa [warnings] using same
      · rw [newIndexNames_of_fresh (Roster.find?_eq_none_iff.mp found), List.length_cons, total,
          List.length_cons]
        omega
    | some old =>
      rw [found] at warnings
      refine ⟨.duplicateIndex index.name index.table :: added, ?_, ?_⟩
      · rw [same, warnings]
        simp [Issue.isDuplicateIndex, Issue.duplicateIndex]
      · have taken : index.name ∈ before.indexes.names := Roster.mem_names_iff.mpr ⟨old, found⟩
        rw [newIndexNames_of_taken taken, List.length_cons, total, List.length_cons]
        omega

theorem takesIn_foldl {schema : Schema} (mirrored : schema.Mirrored) (found : List Index) :
    schema.TakesIn found (found.foldl putIndex schema) := by
  induction found generalizing schema with
  | nil => exact takesIn_nil mirrored
  | cons index rest ih => exact (ih (mirrored.putIndex index)).cons

/-- Relationships, checks and counts touch neither tables nor indexes nor warnings. -/
theorem TakesIn.checked {before after : Schema} {found : List Index} (taken : before.TakesIn found after) :
    before.TakesIn found after.drawRelationships.validated.counted :=
  ⟨taken.mirrored, taken.names, taken.latest, taken.warned⟩

/-- No index is read before the text is searched for them, and no warning about one is given. -/
structure Unindexed (schema : Schema) : Prop where
  indexes : schema.indexes = .empty
  lists : ∀ table ∈ schema.tables.entries, table.indexes = []
  warnings : schema.duplicateWarnings = []

section Unindexed
variable {schema : Schema}

theorem Unindexed.addErrors (unindexed : schema.Unindexed) (errors : List Issue) :
    (schema.addErrors errors).Unindexed := ⟨unindexed.indexes, unindexed.lists, unindexed.warnings⟩

theorem Unindexed.addIssues (unindexed : schema.Unindexed) {draft : Draft} (reported : draft.Reported) :
    (schema.addIssues draft).Unindexed where
  indexes := unindexed.indexes
  lists := unindexed.lists
  warnings := by
    have quiet : draft.warnings.filter Issue.isDuplicateIndex = [] := by
      apply List.filter_eq_nil_iff.mpr
      intro issue member
      simp [Issue.isDuplicateIndex, (reported.warnings issue member).kind]
    have split : (schema.addIssues draft).duplicateWarnings = schema.duplicateWarnings ++ _ :=
      List.filter_append ..
    rw [split, quiet, unindexed.warnings, List.append_nil]

theorem Unindexed.putTable (unindexed : schema.Unindexed) {table : Table} (bare : table.indexes = []) :
    (schema.putTable table).Unindexed where
  indexes := unindexed.indexes
  lists := by
    intro other member
    rcases Roster.mem_put.mp member with rfl | ⟨old, _⟩
    · exact bare
    · exact unindexed.lists other old
  warnings := unindexed.warnings

theorem indexes_foldl_amend (clauses : List Text) (table : Table) :
    (clauses.foldl Table.amend table).indexes = table.indexes := by
  refine (Table.foldl_amend_amended clauses table).keeps (fun later => later.indexes = table.indexes) rfl ?_
  intro clause _ before after change same
  cases change <;> exact same

theorem indexes_tableOfBody (name : String) (body : Text) : (tableOfBody name body).indexes = [] := by
  refine (indexes_foldl_amend _ _).trans ?_
  refine Draft.readColumns_keeps (fun table => table.indexes = []) ?_ _ _ rfl
  intro clause table bare
  cases Column.read table.columns clause with
  | accepted column check => cases check <;> exact bare
  | _ => exact bare

theorem Unindexed.readTable (unindexed : schema.Unindexed) (statement : Text) :
    (schema.readTable statement).Unindexed := by
  unfold Schema.readTable
  split
  · exact unindexed
  · exact unindexed
  · next name body _ =>
    have reported := (Draft.reported_ofTable (.empty name)).readBody body
    split
    · exact unindexed.addErrors _
    · split
      · next read =>
        rw [read] at reported
        exact (unindexed.addIssues reported).addErrors _
      · next read =>
        have table := Draft.readBody_table name body (by rw [read])
        rw [read] at reported table
        refine (unindexed.addIssues reported).putTable ?_
        rw [table]
        exact indexes_tableOfBody name body

theorem Unindexed.readAlteration (unindexed : schema.Unindexed) (statement : Text) :
    (schema.readAlteration statement).Unindexed := by
  unfold Schema.readAlteration Schema.applyAlteration
  split
  · exact unindexed
  · next alteration _ =>
    split
    · exact unindexed.addErrors _
    · next table found =>
      have reported := (Draft.reported_ofTable table).foldl
        (fun _ clause kept => kept.readConstraint clause)
        (alteration.clauses.filter Draft.isConstraintClause)
      refine (unindexed.addIssues reported).putTable ?_
      rw [Draft.foldl_readConstraint_table, indexes_foldl_amend]
      exact unindexed.lists table (Roster.mem_of_find? found)

theorem Unindexed.readTables (unindexed : schema.Unindexed) (statements : List Text) :
    (schema.readTables statements).Unindexed :=
  List.foldlRecOn statements Schema.readTable unindexed fun _ before statement _ => before.readTable statement

theorem Unindexed.readAlterations (unindexed : schema.Unindexed) (statements : List Text) :
    (schema.readAlterations statements).Unindexed :=
  List.foldlRecOn statements Schema.readAlteration unindexed fun _ before statement _ => before.readAlteration statement

theorem unindexed_empty : empty.Unindexed := ⟨rfl, by simp [empty, Roster.empty], rfl⟩

theorem Unindexed.takesIn (unindexed : schema.Unindexed) (found : List Index) :
    empty.TakesIn found (found.foldl putIndex schema) := by
  have taken := takesIn_foldl (mirrored_of_unindexed unindexed.indexes unindexed.lists) found
  have fresh : schema.newIndexNames found = empty.newIndexNames found := by
    unfold newIndexNames
    rw [unindexed.indexes]
    rfl
  obtain ⟨added, same, total⟩ := taken.warned
  refine ⟨taken.mirrored, ?_, ?_, added, ?_, ?_⟩
  · rw [taken.names, fresh, unindexed.indexes]
    rfl
  · intro name
    rw [taken.latest, unindexed.indexes]
    rfl
  · rw [same, unindexed.warnings]
    rfl
  · rw [total, fresh]

end Unindexed
end Schema

/-- Reading the indexes of a text keeps the lists of the tables in agreement with the map, for every
schema where they agree, and so they agree in the schema of every script. -/
theorem index_lists_mirror :
    (∀ (schema : Schema) (text : Text), schema.Mirrored →
      schema.TakesIn (Index.readAll text) (schema.readIndexes text)) ∧
    ∀ script : String, Schema.empty.TakesIn (Index.readAll (Script.normalized script.toList))
      (Script.read script) := by
  constructor
  · intro schema text mirrored
    exact Schema.takesIn_foldl mirrored (Index.readAll text)
  · intro script
    have unindexed := (Schema.unindexed_empty.readTables (Script.statementsOf script)).readAlterations
      (Script.statementsOf script)
    rw [Script.read_eq]
    exact (unindexed.takesIn (Index.readAll (Script.normalized script.toList))).checked

/-- An index moves to another table when its name is defined again. -/
theorem index_lists_mirror_moved :
    let schema := ((Schema.empty.putTable (.empty "t")).putTable (.empty "u")).putIndex
      ⟨"i", "t", ["a"], false⟩
    let text := "CREATE UNIQUE INDEX i ON u (b)".toList
    schema.Mirrored ∧
      ((schema.readIndexes text).table? "t").map Table.indexes = some [] ∧
      ((schema.readIndexes text).table? "u").map Table.indexes = some [⟨"i", "u", ["b"], true⟩] ∧
      schema.TakesIn (Index.readAll text) (schema.readIndexes text) := by
  intro schema text
  have mirrored : schema.Mirrored := by
    refine Schema.Mirrored.putIndex (Schema.mirrored_of_unindexed rfl ?_) _
    decide +kernel
  exact ⟨mirrored, by decide +kernel, by decide +kernel, index_lists_mirror.1 schema text mirrored⟩

end SchemaAtlas
