import SchemaAtlas.Proofs.Printing.Column
import SchemaAtlas.Proofs.Printing.ForeignKey
import SchemaAtlas.Proofs.Clause.Effect
import SchemaAtlas.Proofs.Script.Origin
/-!
Reading the body of a printed table. Its columns are read one after the other, and each of its clauses
takes the table with the clauses before it to the table with this one as well.
-/
namespace SchemaAtlas

namespace Table

theorem eq_of_parts {left right : Table} (name : left.name = right.name)
    (columns : left.columns.entries = right.columns.entries) (constraints : left.constraints = right.constraints)
    (indexes : left.indexes = right.indexes) : left = right := by
  cases left
  cases right
  obtain rfl := Roster.ext columns
  simp_all

/-- Links are recorded one after the other. -/
theorem foldl_link_table (clause : ForeignKeyClause) (declared : Option String)
    {pairs : List (String × Reference)} {draft : Draft}
    (present : ∀ pair ∈ pairs, pair.1 ∈ draft.table.columns.names) :
    let read := (pairs.foldl (Draft.link clause declared) draft).table
    read.name = draft.table.name ∧ read.indexes = draft.table.indexes ∧
      read.constraints = draft.table.constraints ++ pairs.map fun pair => .foreignKey
        ⟨declared.getD s!"FK_{draft.table.name}_{pair.1}", pair.1, pair.2, clause.onDelete, clause.onUpdate⟩ := by
  induction pairs generalizing draft with
  | nil => exact ⟨rfl, rfl, (List.append_nil _).symm⟩
  | cons pair pairs ih =>
    obtain ⟨column, target⟩ := pair
    obtain ⟨found, here⟩ := Roster.mem_names_iff.mp (present _ List.mem_cons_self)
    let key : ForeignKey := ⟨declared.getD s!"FK_{draft.table.name}_{column}", column, target, clause.onDelete,
      clause.onUpdate⟩
    let next : Draft := { draft with
      table := (draft.table.markForeignKey column target).addConstraint (.foreignKey key) }
    have linked_once : Draft.link clause declared draft (column, target) = next := by
      have present_here : draft.table.column? column = some found := here
      simp only [Draft.link, present_here]
      rfl
    -- Marking keeps the names, so the later links find their columns too.
    have names : next.table.columns.names = draft.table.columns.names := by
      change (draft.table.columns.modify column (·.markForeignKey target)
        (Column.name_markForeignKey target)).names = _
      exact Roster.names_modify _ _ _
    obtain ⟨name, indexes, constraints⟩ := @ih next fun pair member => by
      rw [names]
      exact present pair (List.mem_cons_of_mem _ member)
    rw [List.foldl_cons, linked_once]
    refine ⟨name, indexes, ?_⟩
    rw [constraints]
    change (draft.table.constraints ++ [Constraint.foreignKey key]) ++ _ = _
    rw [List.append_assoc]
    rfl

end Table

namespace Printing
open Text Pattern

namespace ColumnDescription
variable (column : ColumnDescription) (done : List ClauseDescription) {clause : ClauseDescription}

theorem column_nil : column.column [] = column.plainColumn := by
  unfold ColumnDescription.column
  simp [plainColumn]

/-- What one more clause adds to a column. -/
theorem column_append : column.column (done ++ [clause]) = { column.column done with
    isNullable := (column.column done).isNullable && !clause.body.isPrimaryKeyOf column.name.name
    isPrimaryKey := (column.column done).isPrimaryKey || clause.body.isPrimaryKeyOf column.name.name
    isForeignKey := (column.column done).isForeignKey ||
      (clause.body.targets column.name.name).getLast?.isSome
    isUnique := (column.column done).isUnique || clause.body.isUniqueOf column.name.name
    references := (clause.body.targets column.name.name).getLast?.or (column.column done).references } := by
  unfold ColumnDescription.column
  simp only [List.any_append, List.any_cons, List.any_nil, Bool.or_false, List.flatMap_append,
    List.flatMap_singleton, List.getLast?_append, Option.isSome_or, Option.or_assoc, Bool.not_or,
    Bool.or_assoc, Bool.and_assoc]
  rw [Bool.or_comm (Option.isSome _) (Option.isSome _)]

theorem column_primaryKey {columns : List Identifier} (given : clause.body = .primaryKey columns) :
    column.column (done ++ [clause]) = if column.name.name ∈ columns.map Identifier.name then
      (column.column done).markPrimaryKey else column.column done := by
  rw [column_append, given]
  by_cases member : column.name.name ∈ columns.map Identifier.name
  · rw [if_pos member]
    simp [ClauseBody.isPrimaryKeyOf, ClauseBody.isUniqueOf, ClauseBody.targets, Column.markPrimaryKey,
      List.mem_map.mp member]
  · rw [if_neg member]
    simp [ClauseBody.isPrimaryKeyOf, ClauseBody.isUniqueOf, ClauseBody.targets, List.mem_map.not.mp member]

theorem column_unique {columns : List Identifier} (given : clause.body = .unique columns) :
    column.column (done ++ [clause]) = if column.name.name ∈ columns.map Identifier.name then
      (column.column done).markUnique else column.column done := by
  rw [column_append, given]
  by_cases member : column.name.name ∈ columns.map Identifier.name
  · rw [if_pos member]
    simp [ClauseBody.isPrimaryKeyOf, ClauseBody.isUniqueOf, ClauseBody.targets, Column.markUnique,
      List.mem_map.mp member]
  · rw [if_neg member]
    simp [ClauseBody.isPrimaryKeyOf, ClauseBody.isUniqueOf, ClauseBody.targets, List.mem_map.not.mp member]

theorem column_foreignKey {links : List (Identifier × Identifier)} {table : Identifier}
    {onDelete onUpdate : Option Action} (given : clause.body = .foreignKey links table onDelete onUpdate) :
    column.column (done ++ [clause]) =
      Table.linked (links.map fun link => (link.1.name, ⟨table.name, link.2.name⟩)) (column.column done) := by
  have targets : ((links.map fun link => (link.1.name, (⟨table.name, link.2.name⟩ : Reference))).filter
      (·.1 == column.name.name)).map Prod.snd = clause.body.targets column.name.name := by
    rw [given, List.filter_map, List.map_map]
    rfl
  have name : (column.column done).name = column.name.name := rfl
  unfold Table.linked
  rw [name, targets, column_append, given]
  cases (ClauseBody.targets _ column.name.name).getLast? <;>
    simp [ClauseBody.isPrimaryKeyOf, ClauseBody.isUniqueOf, Column.markForeignKey]

end ColumnDescription

namespace TableDescription
variable {table : TableDescription} {done : List ClauseDescription} {clause : ClauseDescription} {text : Text}

theorem record_tableWith {names : List String} {mark : Column → Column}
    (keeps : ∀ column, (mark column).name = column.name) {constraint : Constraint}
    (marked : ∀ column : ColumnDescription, column.column (done ++ [clause]) =
      if column.name.name ∈ names then mark (column.column done) else column.column done)
    (written : clause.constraints table.name.name = [constraint]) :
    (table.tableWith done).record names mark keeps constraint = table.tableWith (done ++ [clause]) := by
  refine Table.eq_of_parts rfl ?_ ?_ rfl
  · change (table.columns.map (·.column done)).map (fun entry =>
      if entry.name ∈ names then mark entry else entry) = table.columns.map (·.column (done ++ [clause]))
    rw [List.map_map]
    exact List.map_congr_left fun column _ => (marked column).symm
  · change done.flatMap (·.constraints table.name.name) ++ [constraint] =
      (done ++ [clause]).flatMap (·.constraints table.name.name)
    rw [List.flatMap_append, List.flatMap_singleton, written]

theorem amend_primaryKey {columns : List Identifier} (given : clause.body = .primaryKey columns)
    (printed : Printing.Prints clause.lexemes text) :
    (table.tableWith done).amend text = table.tableWith (done ++ [clause]) := by
  have declared := ClauseDescription.declaredName?_clause printed
  have family := ClauseDescription.ofMasked?_clause printed
  have filled := clause.filled
  unfold ClauseDescription.lexemes at printed
  rw [given] at printed filled family
  have named := keyColumns_primaryKey printed filled
  have some_named : columns.map Identifier.name ≠ [] := by simpa [ClauseBody.columns] using filled
  unfold Table.amend Draft.readConstraint
  rw [declared, family]
  simp only [ClauseBody.family, Draft.readPrimaryKey,
    Draft.readKey_table (fun _ _ => Table.markPrimaryKey_of_absent), named, some_named, ↓reduceIte]
  rw [Table.foldl_markPrimaryKey]
  apply record_tableWith _ fun column => column.column_primaryKey done given
  rw [ClauseDescription.constraints, given]
  rfl

theorem amend_unique {columns : List Identifier} (given : clause.body = .unique columns)
    (printed : Printing.Prints clause.lexemes text) :
    (table.tableWith done).amend text = table.tableWith (done ++ [clause]) := by
  have declared := ClauseDescription.declaredName?_clause printed
  have family := ClauseDescription.ofMasked?_clause printed
  have filled := clause.filled
  unfold ClauseDescription.lexemes at printed
  rw [given] at printed filled family
  have named := keyColumns_unique printed filled
  have some_named : columns.map Identifier.name ≠ [] := by simpa [ClauseBody.columns] using filled
  unfold Table.amend Draft.readConstraint
  rw [declared, family]
  simp only [ClauseBody.family, Draft.readUnique,
    Draft.readKey_table (fun _ _ => Table.markUnique_of_absent), named, some_named, ↓reduceIte]
  rw [Table.foldl_markUnique]
  apply record_tableWith _ fun column => column.column_unique done given
  rw [ClauseDescription.constraints, given]
  rfl

/-- Links to columns that the table has are recorded as the foreign keys of the clause. -/
theorem foldl_link_tableWith {links : List (Identifier × Identifier)} {target : Identifier}
    {onDelete onUpdate : Option Action} (given : clause.body = .foreignKey links target onDelete onUpdate)
    (own : ∀ column ∈ clause.body.columns, column.name ∈ table.columns.map (·.name.name))
    {read : ForeignKeyClause} (pairs : read.pairs = links.map fun link => (link.1.name, ⟨target.name, link.2.name⟩))
    (deletes : read.onDelete = (onDelete.map Action.label).getD "NO_ACTION")
    (updates : read.onUpdate = (onUpdate.map Action.label).getD "NO_ACTION") :
    (read.pairs.foldl (Draft.link read (clause.declared.map Identifier.name))
      (Draft.ofTable (table.tableWith done))).table = table.tableWith (done ++ [clause]) := by
  have present : ∀ pair ∈ read.pairs, pair.1 ∈ (Draft.ofTable (table.tableWith done)).table.columns.names := by
    rw [given] at own
    rw [pairs]
    intro pair member
    obtain ⟨link, inside, rfl⟩ := List.mem_map.mp member
    have here := own link.1 (List.mem_map_of_mem inside)
    change link.1.name ∈ (table.columns.map (·.column done)).map Named.name
    rwa [ColumnDescription.names_column]
  obtain ⟨name, indexes, constraints⟩ := Table.foldl_link_table read (clause.declared.map Identifier.name) present
  refine Table.eq_of_parts name ?_ ?_ indexes
  · rw [Table.columns_foldl_link, pairs]
    change (table.columns.map (·.column done)).map _ = table.columns.map (·.column (done ++ [clause]))
    rw [List.map_map]
    exact List.map_congr_left fun column _ => (column.column_foreignKey done given).symm
  · rw [constraints, pairs, deletes, updates]
    change done.flatMap (·.constraints table.name.name) ++ _ =
      (done ++ [clause]).flatMap (·.constraints table.name.name)
    rw [List.flatMap_append, List.flatMap_singleton, ClauseDescription.constraints, given, List.map_map]
    rfl

theorem amend_foreignKey {links : List (Identifier × Identifier)} {target : Identifier}
    {onDelete onUpdate : Option Action} (given : clause.body = .foreignKey links target onDelete onUpdate)
    (own : ∀ column ∈ clause.body.columns, column.name ∈ table.columns.map (·.name.name))
    (printed : Printing.Prints clause.lexemes text) :
    (table.tableWith done).amend text = table.tableWith (done ++ [clause]) := by
  have declared := ClauseDescription.declaredName?_clause printed
  have family := ClauseDescription.ofMasked?_clause printed
  have filled := clause.filled
  unfold ClauseDescription.lexemes at printed
  rw [given] at printed filled family
  have some_links : links ≠ [] := by simpa [ClauseBody.columns] using filled
  let read : ForeignKeyClause := ⟨links.map (·.1.name), target.name, links.map (·.2.name),
    (onDelete.map Action.label).getD "NO_ACTION", (onUpdate.map Action.label).getD "NO_ACTION"⟩
  have found : ForeignKeyClause.read? text = some read := read?_foreignKey printed some_links
  have paired : read.isPaired = true := by simp [read, ForeignKeyClause.isPaired, some_links]
  have pairs : read.pairs = links.map fun link => (link.1.name, ⟨target.name, link.2.name⟩) := by
    simp [read, ForeignKeyClause.pairs, List.zip_map', Function.comp_def]
  unfold Table.amend Draft.readConstraint
  rw [declared, family]
  simp only [ClauseBody.family, Draft.readForeignKey, found, paired, ↓reduceIte]
  exact foldl_link_tableWith given own pairs rfl rfl

/-- A printed clause takes the table with the clauses before it to the table with this one as well. -/
theorem amend_tableWith (own : ∀ column ∈ clause.body.columns, column.name ∈ table.columns.map (·.name.name))
    (printed : Printing.Prints clause.lexemes text) :
    (table.tableWith done).amend text = table.tableWith (done ++ [clause]) := by
  cases given : clause.body with
  | primaryKey columns => exact amend_primaryKey given printed
  | unique columns => exact amend_unique given printed
  | foreignKey links target onDelete onUpdate => exact amend_foreignKey given own printed

theorem foldl_amend {clauses : List ClauseDescription} {texts : List Text}
    (own : ∀ clause ∈ clauses, ∀ column ∈ clause.body.columns, column.name ∈ table.columns.map (·.name.name))
    (printed : List.Forall₂ (fun clause => Printing.Prints clause.lexemes) clauses texts)
    (done : List ClauseDescription) :
    texts.foldl Table.amend (table.tableWith done) = table.tableWith (done ++ clauses) := by
  induction printed generalizing done with
  | nil => rw [List.foldl_nil, List.append_nil]
  | @cons clause text clauses texts first _ ih =>
    have later : ∀ clause ∈ clauses, ∀ column ∈ clause.body.columns,
        column.name ∈ table.columns.map (·.name.name) :=
      fun other member => own other (List.mem_cons_of_mem _ member)
    rw [List.foldl_cons, amend_tableWith (own clause List.mem_cons_self) first, ih later,
      List.append_assoc, List.singleton_append]

/-- Printed columns are read one after the other into a table that has none of their names. -/
theorem readColumns_printed {columns : List ColumnDescription} {texts : List Text}
    (printed : List.Forall₂ (fun column => Printing.Prints column.lexemes) columns texts) {draft : Draft}
    (fresh : (draft.table.columns.names ++ columns.map (·.name.name)).Nodup) :
    ∃ read, draft.readColumns texts = (read, none) ∧ read.table.name = draft.table.name ∧
      read.table.columns.entries = draft.table.columns.entries ++ columns.map (·.plainColumn) ∧
      read.table.constraints = draft.table.constraints ∧ read.table.indexes = draft.table.indexes := by
  induction printed generalizing draft with
  | nil => exact ⟨draft, rfl, rfl, (List.append_nil _).symm, rfl, rfl⟩
  | @cons column text columns texts first _ ih =>
    have absent : column.name.name ∉ draft.table.columns.names := by
      intro member
      exact (List.nodup_append.mp fresh).2.2 _ member _ List.mem_cons_self rfl
    have free : draft.table.columns.has column.name.name = false := by
      rw [← Bool.not_eq_true, Roster.has_iff]
      exact absent
    let next : Draft := { draft with table := draft.table.putColumn column.plainColumn }
    have entries : next.table.columns.entries = draft.table.columns.entries ++ [column.plainColumn] :=
      Roster.entries_put_of_fresh absent
    have names : next.table.columns.names = draft.table.columns.names ++ [column.name.name] := by
      unfold Roster.names
      rw [entries, List.map_append]
      rfl
    obtain ⟨read, here, name, columns_read, constraints, indexes⟩ := @ih next (by
      rw [names, List.append_assoc]
      exact fresh)
    refine ⟨read, ?_, name, ?_, constraints, indexes⟩
    · unfold Draft.readColumns
      rw [ColumnDescription.read_column first free]
      exact here
    · rw [columns_read, entries, List.append_assoc]
      rfl

section Body
variable {columns clauses : List Text}
  (columns_printed : List.Forall₂ (fun column => Printing.Prints column.lexemes) table.columns columns)
  (clauses_printed : List.Forall₂ (fun clause => Printing.Prints clause.lexemes) table.clauses clauses)
include columns_printed clauses_printed

/-- Each piece of a printed body is the text of a column or of a clause, and no index is in it. -/
theorem mem_body {piece : Text} (member : piece ∈ columns ++ clauses) :
    ∃ lexemes, Printing.Prints lexemes piece ∧ AllSound lexemes ∧ Lacks "INDEX" lexemes := by
  rcases List.mem_append.mp member with here | there
  · obtain ⟨column, _, printed⟩ := forall₂_mem_right columns_printed here
    refine ⟨column.lexemes, printed, column.allSound_lexemes, ?_⟩
    exact (lacks_name (by decide)).mpr ((lacks_name (by decide)).mpr (lacks_append.mpr
      ⟨column.lacks_arguments (by decide), column.lacks_attributes_of_foreign (by decide) (by decide)⟩))
  · obtain ⟨clause, _, printed⟩ := forall₂_mem_right clauses_printed there
    have absent : "INDEX" ∉ clause.body.keywords := by
      cases clause.body <;> simp [ClauseBody.keywords]
    refine ⟨clause.lexemes, printed, clause.allSound, ?_⟩
    exact lacks_append.mpr ⟨lacks_declaration (by decide) clause (by decide), lacks_body (by decide) _ absent⟩

theorem clauses_body : Script.clauses ([',', ' '].intercalate (columns ++ clauses)) = columns ++ clauses := by
  apply Script.clauses_join
  intro piece member
  obtain ⟨lexemes, printed, sound, _⟩ := mem_body columns_printed clauses_printed member
  exact ⟨printed.nested sound, printed.tidy sound, printed.filled sound, printed.start sound⟩

/-- The body of a printed table is read as the table. -/
theorem readBody_printed :
    ∃ read, (Draft.ofTable (.empty table.name.name)).readBody ([',', ' '].intercalate (columns ++ clauses)) =
      (read, none) ∧ read.table = table.table := by
  have column_pieces : ∀ piece ∈ columns, Draft.isConstraintClause piece = false := by
    intro piece member
    obtain ⟨column, _, printed⟩ := forall₂_mem_right columns_printed member
    exact ColumnDescription.not_isConstraintClause printed
  have clause_pieces : ∀ piece ∈ clauses, Draft.isConstraintClause piece = true := by
    intro piece member
    obtain ⟨clause, _, printed⟩ := forall₂_mem_right clauses_printed member
    exact ClauseDescription.isConstraintClause printed
  have kept : (columns ++ clauses).filter (!Draft.isConstraintClause ·) = columns := by
    rw [List.filter_append, List.filter_eq_self.mpr, List.filter_eq_nil_iff.mpr, List.append_nil]
    · exact fun piece member => by simp [clause_pieces piece member]
    · exact fun piece member => by simp [column_pieces piece member]
  have others : (columns ++ clauses).filter Draft.isConstraintClause = clauses := by
    rw [List.filter_append, List.filter_eq_nil_iff.mpr, List.filter_eq_self.mpr, List.nil_append]
    · exact clause_pieces
    · exact fun piece member => by simp [column_pieces piece member]
  obtain ⟨read, here, name, entries, constraints, indexes⟩ :=
    readColumns_printed columns_printed
      (show ((Draft.ofTable (.empty table.name.name)).table.columns.names ++ _).Nodup from table.distinct)
  -- The columns alone make the table without its clauses, and the clauses amend it one by one.
  have start : read.table = table.tableWith [] := by
    refine Table.eq_of_parts name ?_ constraints indexes
    rw [entries]
    exact List.map_congr_left fun column _ => column.column_nil.symm
  refine ⟨clauses.foldl Draft.readConstraint read, ?_, ?_⟩
  · unfold Draft.readBody
    simp only [clauses_body columns_printed clauses_printed, kept, others, here]
  · rw [Draft.foldl_readConstraint_table, start, foldl_amend table.own clauses_printed, List.nil_append]
    rfl

end Body

end TableDescription
end Printing
end SchemaAtlas
