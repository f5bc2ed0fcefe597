import SchemaAtlas.Proofs.Clause.ColumnFlags
import SchemaAtlas.Proofs.Script.Origin
/-!
Flags and constraints of the tables that a script describes. Column clauses leave a table whose only
constraints are checks; every amendment by a constraint clause then keeps the flags of the columns in
step with the constraints, and so do runs of any length.
-/
namespace SchemaAtlas

def Constraint.foreignKey? : Constraint → Option ForeignKey
  | .foreignKey key => some key
  | _ => none

def Constraint.checkName? : Constraint → Option String
  | .check name _ => some name
  | _ => none

namespace Table

/-- The foreign key constraints on one column, in the order in which they were recorded. -/
def foreignKeysOn (table : Table) (column : String) : List ForeignKey :=
  (table.constraints.filterMap Constraint.foreignKey?).filter (·.column == column)

def checkNames (table : Table) : List String := table.constraints.filterMap Constraint.checkName?

/-- The name of each check is either declared or tells its ordinal. -/
def ChecksNamed (declared : String → Prop) (table : Table) : Prop :=
  ∀ ordinal name, table.checkNames[ordinal]? = some name →
    declared name ∨ name = s!"CK_{table.name}_{ordinal + 1}"

/-- The flags of the columns agree with the constraints of the table. -/
structure Coherent (declared : String → Prop) (table : Table) : Prop where
  columns : ∀ column ∈ table.columns.entries, column.Coherent
  primary_keys : ∀ name columns, .primaryKey name columns ∈ table.constraints →
    ∀ column ∈ table.columns.entries, column.name ∈ columns → column.isPrimaryKey = true
  unique_keys : ∀ name columns, .unique name columns ∈ table.constraints →
    ∀ column ∈ table.columns.entries, column.name ∈ columns → column.isUnique = true
  foreign_keys : ∀ key, .foreignKey key ∈ table.constraints →
    ∃ column, table.column? key.column = some column
  last_target : ∀ column ∈ table.columns.entries, ∀ key,
    (table.foreignKeysOn column.name).getLast? = some key → column.references = some key.target
  checks : table.ChecksNamed declared

/-- What column clauses alone can make: columns that agree with themselves, and checks. -/
structure Columnar (declared : String → Prop) (table : Table) : Prop where
  columns : ∀ column ∈ table.columns.entries, column.Coherent
  only_checks : ∀ constraint ∈ table.constraints, constraint.isCheck = true
  checks : table.ChecksNamed declared

theorem checkCount_eq (table : Table) : table.checkCount = table.checkNames.length := by
  unfold checkCount checkNames
  induction table.constraints with
  | nil => rfl
  | cons constraint rest ih =>
    rw [List.countP_cons, List.filterMap_cons, ih]
    cases constraint <;> rfl

section Checks
variable {declared : String → Prop} {table : Table}

/-- The next ordinal is free for a check without a name of its own. -/
theorem ChecksNamed.add (named : table.ChecksNamed declared) {name : String}
    (fits : declared name ∨ name = table.nextCheckName) (condition : String) :
    (table.addConstraint (.check name condition)).ChecksNamed declared := by
  intro ordinal other found
  have names : (table.addConstraint (.check name condition)).checkNames = table.checkNames ++ [name] := by
    simp [checkNames, addConstraint, List.filterMap_append, Constraint.checkName?]
  rw [names] at found
  -- Earlier checks keep their ordinals, and the new one takes the next.
  by_cases earlier : ordinal < table.checkNames.length
  · rw [List.getElem?_append_left earlier] at found
    exact named ordinal other found
  · rw [List.getElem?_append_right (Nat.le_of_not_lt earlier)] at found
    obtain ⟨inside, rfl⟩ := List.getElem?_eq_some_iff.mp found
    have last : ordinal = table.checkNames.length := by
      rw [List.length_singleton] at inside
      omega
    subst last
    rcases fits with own | next
    · exact Or.inl (by simpa using own)
    · refine Or.inr ?_
      simp only [Nat.sub_self, List.getElem_cons_zero, next, nextCheckName, checkCount_eq]
      rfl

theorem ChecksNamed.record (named : table.ChecksNamed declared) {columns : List String}
    {mark : Column → Column} {keeps : ∀ column, (mark column).name = column.name}
    {constraint : Constraint} (other : constraint.checkName? = none) :
    (table.record columns mark keeps constraint).ChecksNamed declared := by
  have names : (table.record columns mark keeps constraint).checkNames = table.checkNames := by
    simp [checkNames, Table.record, List.filterMap_append, other]
  intro ordinal name found
  rw [names] at found
  exact named ordinal name found

end Checks

section Columnar
variable {declared : String → Prop}

theorem columnar_empty (name : String) : (empty name).Columnar declared where
  columns := by simp [empty, Roster.empty]
  only_checks := by simp [empty]
  checks := by intro ordinal name found; simp [checkNames, empty] at found

theorem Columnar.put {table : Table} (columnar : table.Columnar declared) {column : Column}
    (coherent : column.Coherent) : (table.putColumn column).Columnar declared where
  columns := by
    intro other member
    rcases Roster.mem_put.mp member with rfl | ⟨old, _⟩
    · exact coherent
    · exact columnar.columns other old
  only_checks := columnar.only_checks
  checks := columnar.checks

theorem Columnar.addCheck {table : Table} (columnar : table.Columnar declared) (condition : String) :
    (table.addConstraint (.check table.nextCheckName condition)).Columnar declared where
  columns := columnar.columns
  only_checks := by
    intro constraint member
    rcases List.mem_append.mp member with old | new
    · exact columnar.only_checks constraint old
    · rw [List.mem_singleton.mp new]; rfl
  checks := columnar.checks.add (Or.inr rfl) condition

theorem Columnar.withOutcome {table : Table} (columnar : table.Columnar declared) (clause : Text) :
    (table.withOutcome (Column.read table.columns clause)).Columnar declared := by
  cases outcome : Column.read table.columns clause with
  | accepted column check =>
    obtain ⟨coherent, _⟩ := Column.read_accepted outcome
    cases check with
    | none => exact columnar.put coherent
    | some condition => exact (columnar.addCheck condition).put coherent
  | _ => exact columnar

theorem columnar_ofColumns (name : String) (body : Text) : (ofColumns name body).Columnar declared :=
  Draft.readColumns_keeps (Columnar declared) (fun clause _ columnar => columnar.withOutcome clause) _ _
    (columnar_empty name)

/-- With checks alone there is nothing that a flag could disagree with. -/
theorem Columnar.coherent {table : Table} (columnar : table.Columnar declared) :
    table.Coherent declared where
  columns := columnar.columns
  primary_keys := fun name columns member =>
    absurd (columnar.only_checks _ member) (by simp [Constraint.isCheck])
  unique_keys := fun name columns member =>
    absurd (columnar.only_checks _ member) (by simp [Constraint.isCheck])
  foreign_keys := fun key member =>
    absurd (columnar.only_checks _ member) (by simp [Constraint.isCheck])
  last_target := by
    intro column _ key last
    have member : key ∈ table.foreignKeysOn column.name := List.mem_of_getLast? last
    obtain ⟨constraint, inside, made⟩ :=
      List.mem_filterMap.mp (List.mem_of_mem_filter member)
    have check := columnar.only_checks constraint inside
    cases constraint <;> simp_all [Constraint.isCheck, Constraint.foreignKey?]
  checks := columnar.checks

end Columnar

section Record
variable {declared : String → Prop} {table : Table} {columns : List String} {mark : Column → Column}
  {keeps : ∀ column, (mark column).name = column.name} {constraint : Constraint}

/-- What a marked table has of columns, each with the column that it was. -/
theorem mem_record {column : Column}
    (member : column ∈ (table.record columns mark keeps constraint).columns.entries) :
    ∃ old ∈ table.columns.entries, column.name = old.name ∧
      column = if old.name ∈ columns then mark old else old := by
  obtain ⟨old, inside, rfl⟩ := (Roster.mem_mark keeps).mp member
  refine ⟨old, inside, ?_, rfl⟩
  split
  · exact keeps old
  · rfl

theorem column?_record {name : String} (present : ∃ column, table.column? name = some column) :
    ∃ column, (table.record columns mark keeps constraint).column? name = some column := by
  apply Roster.mem_names_iff.mp
  have same := Roster.names_mark keeps table.columns columns
  exact same ▸ Roster.mem_names_iff.mpr present

theorem foreignKeysOn_record (column : String) :
    (table.record columns mark keeps constraint).foreignKeysOn column =
      table.foreignKeysOn column ++ constraint.foreignKey?.toList.filter (·.column == column) := by
  unfold foreignKeysOn Table.record
  rw [List.filterMap_append, List.filter_append]
  cases found : constraint.foreignKey? <;> simp [found]

/-- A record keeps a flag in step with the constraints that ask for it, if its mark never takes the
flag away and sets it wherever the new constraint asks for it. -/
theorem flagged_record (asks : Constraint → List String → Prop) (flag : Column → Bool)
    (flagged : ∀ old ∈ table.constraints, ∀ named, asks old named →
      ∀ column ∈ table.columns.entries, column.name ∈ named → flag column = true)
    (kept : ∀ column, flag column = true → flag (mark column) = true)
    (new : ∀ named, asks constraint named →
      named = columns ∧ ∀ column, flag (mark column) = true)
    {other : Constraint} (recorded : other ∈ (table.record columns mark keeps constraint).constraints)
    {named : List String} (asked : asks other named) {column : Column}
    (member : column ∈ (table.record columns mark keeps constraint).columns.entries)
    (hit : column.name ∈ named) : flag column = true := by
  obtain ⟨old, inside, same, rfl⟩ := mem_record member
  rw [same] at hit
  -- An older constraint had its columns flagged before; the new one has just marked them.
  rcases List.mem_append.mp recorded with earlier | last
  · have before := flagged other earlier named asked old inside hit
    split
    · exact kept old before
    · exact before
  · rw [List.mem_singleton.mp last] at asked
    obtain ⟨rfl, marks⟩ := new named asked
    rw [if_pos hit]
    exact marks old

/-- A record keeps the agreement, if its mark gives every flag that the new constraint asks for, and
the target that a new foreign key has. -/
theorem Coherent.record (coherent : table.Coherent declared)
    (agrees : ∀ column : Column, column.Coherent → (mark column).Coherent)
    (primary : ∀ column : Column, column.isPrimaryKey = true → (mark column).isPrimaryKey = true)
    (unique : ∀ column : Column, column.isUnique = true → (mark column).isUnique = true)
    (primaryKey : ∀ name named, constraint = .primaryKey name named →
      named = columns ∧ ∀ column, (mark column).isPrimaryKey = true)
    (uniqueKey : ∀ name named, constraint = .unique name named →
      named = columns ∧ ∀ column, (mark column).isUnique = true)
    (link : ∀ key, constraint = .foreignKey key → ∃ column, table.column? key.column = some column)
    (noCheck : constraint.checkName? = none)
    (target : ∀ column ∈ (table.record columns mark keeps constraint).columns.entries, ∀ key,
      ((table.record columns mark keeps constraint).foreignKeysOn column.name).getLast? = some key →
        column.references = some key.target) :
    (table.record columns mark keeps constraint).Coherent declared where
  columns := by
    intro column member
    obtain ⟨old, inside, _, rfl⟩ := mem_record member
    split
    · exact agrees old (coherent.columns old inside)
    · exact coherent.columns old inside
  primary_keys := by
    intro name named recorded column member hit
    refine flagged_record (fun constraint named => ∃ name, constraint = .primaryKey name named)
      Column.isPrimaryKey ?_ primary ?_ recorded ⟨name, rfl⟩ member hit
    · rintro _ earlier named ⟨other, rfl⟩
      exact coherent.primary_keys other named earlier
    · rintro named ⟨other, same⟩
      exact primaryKey other named same
  unique_keys := by
    intro name named recorded column member hit
    refine flagged_record (fun constraint named => ∃ name, constraint = .unique name named)
      Column.isUnique ?_ unique ?_ recorded ⟨name, rfl⟩ member hit
    · rintro _ earlier named ⟨other, rfl⟩
      exact coherent.unique_keys other named earlier
    · rintro named ⟨other, same⟩
      exact uniqueKey other named same
  foreign_keys := by
    intro key recorded
    rcases List.mem_append.mp recorded with earlier | new
    · exact column?_record (coherent.foreign_keys key earlier)
    · exact column?_record (link key (List.mem_singleton.mp new).symm)
  last_target := target
  checks := coherent.checks.record noCheck

/-- A mark that points nowhere new leaves each column at the target of its last foreign key. -/
theorem Coherent.target_record (coherent : table.Coherent declared)
    (noLink : constraint.foreignKey? = none)
    (target : ∀ column : Column, (mark column).references = column.references)
    (column : Column) (member : column ∈ (table.record columns mark keeps constraint).columns.entries)
    (key : ForeignKey)
    (last : ((table.record columns mark keeps constraint).foreignKeysOn column.name).getLast? =
      some key) : column.references = some key.target := by
  obtain ⟨old, inside, same, rfl⟩ := mem_record member
  rw [foreignKeysOn_record, noLink, same] at last
  have pointed := coherent.last_target old inside key (by simpa using last)
  split
  · rw [target]; exact pointed
  · exact pointed

end Record

section Amendment
variable {declared : String → Prop} {table : Table}

/-- A new foreign key is the last one of its column, which now points to its target. -/
theorem Coherent.target_link (coherent : table.Coherent declared) (key : ForeignKey) (column : Column)
    (member : column ∈ (table.record [key.column] (·.markForeignKey key.target)
      (Column.name_markForeignKey key.target) (.foreignKey key)).columns.entries)
    (other : ForeignKey)
    (last : ((table.record [key.column] (·.markForeignKey key.target)
      (Column.name_markForeignKey key.target) (.foreignKey key)).foreignKeysOn column.name).getLast? =
        some other) : column.references = some other.target := by
  obtain ⟨old, inside, same, rfl⟩ := mem_record member
  rw [foreignKeysOn_record, same] at last
  -- On another column neither the target nor the list of foreign keys changes.
  by_cases hit : old.name = key.column
  · have found : other = key := by
      simpa [Constraint.foreignKey?, hit] using last.symm
    simp [hit, found, Column.markForeignKey]
  · have untouched : old.name ∉ [key.column] := by simpa using hit
    rw [if_neg untouched]
    apply coherent.last_target old inside other
    simpa [Constraint.foreignKey?, Ne.symm hit] using last

theorem Coherent.addCheck (coherent : table.Coherent declared) {name : String}
    (fits : declared name ∨ name = table.nextCheckName) (condition : String) :
    (table.addConstraint (.check name condition)).Coherent declared where
  columns := coherent.columns
  primary_keys := by
    intro other named recorded
    exact coherent.primary_keys other named (by simpa [addConstraint] using recorded)
  unique_keys := by
    intro other named recorded
    exact coherent.unique_keys other named (by simpa [addConstraint] using recorded)
  foreign_keys := by
    intro key recorded
    exact coherent.foreign_keys key (by simpa [addConstraint] using recorded)
  last_target := by
    intro column member key last
    apply coherent.last_target column member key
    have same : (table.addConstraint (.check name condition)).foreignKeysOn column.name =
        table.foreignKeysOn column.name := by
      unfold foreignKeysOn addConstraint
      rw [List.filterMap_append]
      exact congrArg _ (List.append_nil _)
    rwa [same] at last
  checks := coherent.checks.add fits condition

/-- The names that check clauses declare. -/
def DeclaredIn (clauses : List Text) (name : String) : Prop :=
  ∃ clause ∈ clauses, ConstraintFamily.ofMasked? (Script.mask clause) = some .check ∧
    Constraint.declaredName? clause = some name

theorem Amendment.coherent {clauses : List Text} {clause : Text} {after : Table}
    (member : clause ∈ clauses) (change : Amendment clause table after)
    (coherent : table.Coherent (DeclaredIn clauses)) : after.Coherent (DeclaredIn clauses) := by
  cases change with
  | foreignKey key column present =>
    apply coherent.record (fun _ agrees => agrees.markForeignKey key.target) (fun _ flagged => flagged)
      (fun _ flagged => flagged) (fun _ _ same => by cases same) (fun _ _ same => by cases same)
      ?_ rfl (coherent.target_link key)
    intro other same
    cases same
    exact ⟨column, present⟩
  | primaryKey name columns filled =>
    apply coherent.record (fun _ agrees => agrees.markPrimaryKey) (fun _ _ => rfl)
      (fun _ flagged => flagged) ?_ (fun _ _ same => by cases same) (fun _ same => by cases same)
      rfl (coherent.target_record rfl fun _ => rfl)
    intro other named same
    cases same
    exact ⟨rfl, fun _ => rfl⟩
  | unique name columns filled =>
    apply coherent.record (fun _ agrees => agrees.markUnique) (fun _ flagged => flagged)
      (fun _ _ => rfl) (fun _ _ same => by cases same) ?_ (fun _ same => by cases same)
      rfl (coherent.target_record rfl fun _ => rfl)
    intro other named same
    cases same
    exact ⟨rfl, fun _ => rfl⟩
  | check name condition family named =>
    apply coherent.addCheck
    cases own : Constraint.declaredName? clause with
    | none => exact Or.inr (by simpa [own] using named)
    | some declared =>
      have same : name = declared := by simpa [own] using named
      exact Or.inl ⟨clause, member, family, same ▸ own⟩

end Amendment

/-- Runs of amendments from columns alone keep flags and constraints in step. -/
theorem Amended.coherent {clauses : List Text} {name : String} {body : Text} {after : Table}
    (run : Amended clauses (ofColumns name body) after) : after.Coherent (DeclaredIn clauses) :=
  run.keeps (Coherent (DeclaredIn clauses)) (columnar_ofColumns name body).coherent
    fun _ member _ _ change coherent => change.coherent member coherent

theorem Coherent.of_bare {declared : String → Prop} {table other : Table}
    (same : table.bare = other.bare) (coherent : other.Coherent declared) :
    table.Coherent declared := by
  obtain ⟨name, columns, constraints, indexes⟩ := table
  obtain ⟨otherName, otherColumns, otherConstraints, otherIndexes⟩ := other
  simp only [bare, Table.mk.injEq] at same
  obtain ⟨rfl, rfl, rfl, _⟩ := same
  exact { coherent with }

end Table

namespace Script

theorem coherent_of_read {script : String} {name : String} {table : Table}
    (found : (read script).table? name = some table) :
    table.Coherent (Table.DeclaredIn (constraintClauses name (statementsOf script))) := by
  obtain ⟨body, result, _, run, same⟩ := amended_of_read found
  exact run.coherent.of_bare same

/-- Tables and columns stand under their own names, and the flags of the columns agree with the
constraints, whatever clauses and alterations the script has and however many of them fail. -/
theorem flags_agree {script name : String} {table : Table}
    (found : (read script).table? name = some table) :
    table.name = name ∧
      (∀ key column, table.column? key = some column → column.name = key) ∧
      table.Coherent (Table.DeclaredIn (constraintClauses name (statementsOf script))) := by
  refine ⟨Roster.name_of_find? found, ?_, coherent_of_read found⟩
  intro key column present
  exact Roster.name_of_find? present

theorem flags_agree_keyed :
    ∃ table,
      (read "CREATE TABLE T (a int, UNIQUE (a), CHECK (a > 0))").table? "T" = some table ∧
      table.name = "T" ∧
      (∀ key column, table.column? key = some column → column.name = key) ∧
      table.Coherent (Table.DeclaredIn (constraintClauses "T"
        (statementsOf "CREATE TABLE T (a int, UNIQUE (a), CHECK (a > 0))"))) := by
  have exists_table :
      ((read "CREATE TABLE T (a int, UNIQUE (a), CHECK (a > 0))").table? "T").isSome = true := by
    decide +kernel
  obtain ⟨table, found⟩ := Option.isSome_iff_exists.mp exists_table
  exact ⟨table, found, flags_agree found⟩

end Script
end SchemaAtlas
