import Mathlib.Logic.Relation
import SchemaAtlas.Clause.Constraint
import SchemaAtlas.Proofs.Roster
/-!
What a constraint clause writes to a table. Every clause makes a run of amendments, each of which adds
one constraint and marks the columns that the constraint names; the issues of the clause have no
influence on the table.
-/
namespace SchemaAtlas

namespace Column

theorem name_markPrimaryKey (column : Column) : column.markPrimaryKey.name = column.name := rfl

theorem name_markUnique (column : Column) : column.markUnique.name = column.name := rfl

theorem name_markForeignKey (target : Reference) (column : Column) :
    (column.markForeignKey target).name = column.name := rfl

end Column

namespace Table

theorem name_markPrimaryKey (table : Table) (column : String) :
    (table.markPrimaryKey column).name = table.name := rfl

theorem name_markUnique (table : Table) (column : String) : (table.markUnique column).name = table.name := rfl

def amend (table : Table) (clause : Text) : Table :=
  ((Draft.ofTable table).readConstraint clause).table

/-- Adds a constraint and marks the columns that it names. -/
def record (table : Table) (columns : List String) (mark : Column → Column)
    (keeps : ∀ column, (mark column).name = column.name) (constraint : Constraint) : Table :=
  { table with
    columns := table.columns.mark columns mark keeps
    constraints := table.constraints ++ [constraint] }

/-- One constraint that a clause adds to a table, with the marks that go with it. A check brings its
own name or takes the next ordinal. -/
inductive Amendment (clause : Text) (table : Table) : Table → Prop where
  | foreignKey (key : ForeignKey) (column : Column) (present : table.column? key.column = some column) :
    Amendment clause table
      (table.record [key.column] (·.markForeignKey key.target) (Column.name_markForeignKey key.target)
        (.foreignKey key))
  | primaryKey (name : String) (columns : List String) (filled : columns ≠ []) :
    Amendment clause table
      (table.record columns Column.markPrimaryKey Column.name_markPrimaryKey (.primaryKey name columns))
  | unique (name : String) (columns : List String) (filled : columns ≠ []) :
    Amendment clause table
      (table.record columns Column.markUnique Column.name_markUnique (.unique name columns))
  | check (name condition : String)
    (family : ConstraintFamily.ofMasked? (Script.mask clause) = some .check)
    (named : name = (Constraint.declaredName? clause).getD table.nextCheckName) :
    Amendment clause table (table.addConstraint (.check name condition))

def Amended (clauses : List Text) : Table → Table → Prop :=
  Relation.ReflTransGen fun before after => ∃ clause ∈ clauses, Amendment clause before after

section Mark
variable {change : Column → Column} (keeps : ∀ column, (change column).name = column.name)

theorem modify_of_absent {table : Table} {column : String} (absent : table.column? column = none) :
    { table with columns := table.columns.modify column change keeps } = table := by
  have same := Roster.modify_of_absent keeps (Roster.find?_eq_none_iff.mp absent)
  exact congrArg (fun columns => { table with columns := columns }) same

theorem foldl_modify (idempotent : ∀ column, change (change column) = change column)
    (columns : List String) (table : Table) :
    columns.foldl (fun (table : Table) column =>
        { table with columns := table.columns.modify column change keeps }) table =
      { table with columns := table.columns.mark columns change keeps } := by
  induction columns generalizing table with
  | nil =>
    have same := Roster.mark_nil keeps table.columns
    exact (congrArg (fun columns => { table with columns := columns }) same).symm
  -- The mark is idempotent, so a column that is listed twice is marked like the others.
  | cons column rest ih =>
    have same : (table.columns.modify column change keeps).mark rest change keeps =
        table.columns.mark (column :: rest) change keeps :=
      (congrArg (fun columns : Roster Column => columns.mark rest change keeps)
        (Roster.modify_eq_mark keeps table.columns column)).trans
          (Roster.mark_mark keeps idempotent _ _ _)
    rw [List.foldl_cons, ih]
    exact congrArg (fun columns => { table with columns := columns }) same

end Mark

theorem markPrimaryKey_of_absent {table : Table} {column : String}
    (absent : table.column? column = none) : table.markPrimaryKey column = table :=
  modify_of_absent Column.name_markPrimaryKey absent

theorem markUnique_of_absent {table : Table} {column : String}
    (absent : table.column? column = none) : table.markUnique column = table :=
  modify_of_absent Column.name_markUnique absent

theorem foldl_markPrimaryKey (columns : List String) (table : Table) (constraint : Constraint) :
    (columns.foldl markPrimaryKey table).addConstraint constraint =
      table.record columns Column.markPrimaryKey Column.name_markPrimaryKey constraint :=
  congrArg (·.addConstraint constraint) (foldl_modify
    Column.name_markPrimaryKey (fun _ => rfl) columns table)

theorem foldl_markUnique (columns : List String) (table : Table) (constraint : Constraint) :
    (columns.foldl markUnique table).addConstraint constraint =
      table.record columns Column.markUnique Column.name_markUnique constraint :=
  congrArg (·.addConstraint constraint) (foldl_modify
    Column.name_markUnique (fun _ => rfl) columns table)

theorem markForeignKey_addConstraint (table : Table) (column : String) (target : Reference)
    (constraint : Constraint) :
    (table.markForeignKey column target).addConstraint constraint =
      table.record [column] (·.markForeignKey target) (Column.name_markForeignKey target) constraint := by
  have same : table.columns.modify column (·.markForeignKey target)
        (Column.name_markForeignKey target) =
      table.columns.mark [column] (·.markForeignKey target) (Column.name_markForeignKey target) :=
    Roster.modify_eq_mark _ table.columns column
  exact congrArg (fun columns => { table with
    columns := columns, constraints := table.constraints ++ [constraint] }) same

end Table

namespace Draft

/-- Steps whose tables depend on the table alone make runs of the same kind. -/
theorem foldl_table {α : Type} (step : Draft → α → Draft)
    (plain : ∀ draft item, (step draft item).table = (step (.ofTable draft.table) item).table)
    (items : List α) (draft : Draft) :
    (items.foldl step draft).table = (items.foldl step (.ofTable draft.table)).table := by
  induction items generalizing draft with
  | nil => rfl
  | cons item rest ih =>
    rw [List.foldl_cons, List.foldl_cons, ih, ih (step (.ofTable draft.table) item), plain]

theorem link_table (clause : ForeignKeyClause) (declared : Option String) (draft : Draft)
    (pair : String × Reference) :
    (link clause declared draft pair).table =
      (link clause declared (.ofTable draft.table) pair).table := by
  obtain ⟨column, target⟩ := pair
  simp only [link, ofTable]
  split <;> rfl

theorem readForeignKey_table (draft : Draft) (text : Text) (declared : Option String) :
    (draft.readForeignKey text declared).table =
      ((ofTable draft.table).readForeignKey text declared).table := by
  unfold readForeignKey
  cases ForeignKeyClause.read? text with
  | none => rfl
  | some clause =>
    by_cases paired : clause.isPaired = true
    · simp only [paired, ↓reduceIte]
      exact foldl_table _ (link_table clause declared) clause.pairs draft
    · simp only [paired]
      rfl

section Key
variable {mark : Table → String → Table}

theorem markKeyColumn_table
    (absent : ∀ table column, table.column? column = none → mark table column = table)
    (role : String) (draft : Draft) (column : String) :
    (markKeyColumn role mark draft column).table = mark draft.table column := by
  unfold markKeyColumn
  cases found : draft.table.column? column with
  | none => exact (absent draft.table column found).symm
  | some _ => rfl

theorem foldl_markKeyColumn_table
    (absent : ∀ table column, table.column? column = none → mark table column = table)
    (role : String) (columns : List String) (draft : Draft) :
    (columns.foldl (markKeyColumn role mark) draft).table = columns.foldl mark draft.table := by
  induction columns generalizing draft with
  | nil => rfl
  | cons column rest ih =>
    rw [List.foldl_cons, ih, markKeyColumn_table absent, List.foldl_cons]

/-- The columns that the list of a key clause names. -/
def keyColumns (pattern : Pattern) (text : Text) : List String :=
  (((pattern.find? text).bind (·.text? .columns text)).map ForeignKeyClause.names).getD []

/-- A key clause that names no column changes nothing; any other marks its columns and is recorded. -/
theorem readKey_table
    (absent : ∀ table column, table.column? column = none → mark table column = table)
    (family : ConstraintFamily) (pattern : Pattern) (record : List String → Constraint)
    (draft : Draft) (text : Text) :
    (readKey family pattern mark record draft text).table =
      if keyColumns pattern text = [] then draft.table
      else ((keyColumns pattern text).foldl mark draft.table).addConstraint
        (record (keyColumns pattern text)) := by
  unfold readKey
  have columns : (((pattern.find? text).bind (·.text? .columns text)).map ForeignKeyClause.names).getD [] =
    keyColumns pattern text := rfl
  rw [columns]
  cases keyColumns pattern text with
  | nil => rfl
  | cons column others =>
    simp only [reduceCtorEq, ↓reduceIte, addConstraint]
    rw [foldl_markKeyColumn_table absent]

end Key

theorem readCheck_table (draft : Draft) (text : Text) (declared : Option String) :
    (draft.readCheck text declared).table = draft.table ∨
      ∃ condition, (draft.readCheck text declared).table =
        draft.table.addConstraint (.check (declared.getD draft.table.nextCheckName) condition) := by
  simp only [readCheck]
  split
  · exact Or.inl rfl
  · exact Or.inr ⟨_, rfl⟩

theorem readConstraint_table (draft : Draft) (clause : Text) :
    (draft.readConstraint clause).table = draft.table.amend clause := by
  unfold Table.amend readConstraint
  cases ConstraintFamily.ofMasked? (Script.mask clause) with
  | none => rfl
  | some family =>
    cases family with
    | foreignKey => exact readForeignKey_table draft clause _
    | primaryKey =>
      simp only [readPrimaryKey, readKey_table (fun _ _ => Table.markPrimaryKey_of_absent)]
      rfl
    | unique =>
      simp only [readUnique, readKey_table (fun _ _ => Table.markUnique_of_absent)]
      rfl
    | check =>
      simp only [readCheck]
      split <;> rfl

/-- Clauses amend the table one after another, whatever issues were found before. -/
theorem foldl_readConstraint_table (clauses : List Text) (draft : Draft) :
    (clauses.foldl readConstraint draft).table = clauses.foldl Table.amend draft.table := by
  induction clauses generalizing draft with
  | nil => rfl
  | cons clause rest ih => rw [List.foldl_cons, List.foldl_cons, ih, readConstraint_table]

end Draft

namespace Table

/-- Linking column after column makes one amendment for each column that the table has. -/
theorem links_amended (text : Text) (clause : ForeignKeyClause) (declared : Option String)
    (pairs : List (String × Reference)) (draft : Draft) :
    Relation.ReflTransGen (Amendment text) draft.table
      (pairs.foldl (Draft.link clause declared) draft).table := by
  induction pairs generalizing draft with
  | nil => exact .refl
  | cons pair rest ih =>
    obtain ⟨column, target⟩ := pair
    rw [List.foldl_cons]
    refine .trans ?_ (ih _)
    -- A column that the table lacks gets an issue and no amendment.
    cases found : draft.table.column? column with
    | none => simp only [Draft.link, found]; exact .refl
    | some present =>
      simp only [Draft.link, found, markForeignKey_addConstraint]
      exact .single (.foreignKey
        ⟨_, column, target, clause.onDelete, clause.onUpdate⟩ present found)

theorem amend_amended (table : Table) (clause : Text) :
    Relation.ReflTransGen (Amendment clause) table (table.amend clause) := by
  unfold amend Draft.readConstraint
  cases family : ConstraintFamily.ofMasked? (Script.mask clause) with
  | none => exact .refl
  | some kind =>
    cases kind with
    | foreignKey =>
      simp only [Draft.readForeignKey]
      split
      · exact .refl
      · next key _ =>
        split
        · exact links_amended clause key _ _ (.ofTable table)
        · exact .refl
    | primaryKey =>
      simp only [Draft.readPrimaryKey, Draft.readKey_table (fun _ _ => markPrimaryKey_of_absent)]
      split
      · exact .refl
      · next filled =>
        rw [foldl_markPrimaryKey]
        exact .single (.primaryKey _ _ filled)
    | unique =>
      simp only [Draft.readUnique, Draft.readKey_table (fun _ _ => markUnique_of_absent)]
      split
      · exact .refl
      · next filled =>
        rw [foldl_markUnique]
        exact .single (.unique _ _ filled)
    | check =>
      rcases Draft.readCheck_table (.ofTable table) clause (Constraint.declaredName? clause) with
        same | ⟨condition, written⟩
      · simp only [same]; exact .refl
      · simp only [written]
        exact .single (.check _ condition family rfl)

theorem foldl_amend_amended (clauses : List Text) (table : Table) :
    Amended clauses table (clauses.foldl amend table) := by
  -- Each step is by a clause of the whole list, so the induction is on a part of it.
  suffices general : ∀ rest ⊆ clauses, ∀ table, Amended clauses table (rest.foldl amend table) from
    general clauses (List.Subset.refl _) table
  intro rest
  induction rest with
  | nil => exact fun _ _ => .refl
  | cons clause rest ih =>
    intro inside table
    have member : clause ∈ clauses := inside List.mem_cons_self
    have first : Amended clauses table (table.amend clause) :=
      Relation.ReflTransGen.mono (fun _ _ change => ⟨clause, member, change⟩) _ _
        (amend_amended table clause)
    exact first.trans (ih (fun _ h => inside (List.mem_cons_of_mem _ h)) _)

/-- What every amendment keeps holds after the whole run. -/
theorem Amended.keeps {clauses : List Text} {before after : Table} (keeps : Table → Prop)
    (run : Amended clauses before after) (start : keeps before)
    (step : ∀ clause ∈ clauses, ∀ before after, Amendment clause before after →
      keeps before → keeps after) : keeps after := by
  induction run with
  | refl => exact start
  | tail _ change ih =>
    obtain ⟨clause, member, amendment⟩ := change
    exact step clause member _ _ amendment ih

end Table
end SchemaAtlas
