import SchemaAtlas.Proofs.Schema.ForeignKeys
/-!
What the keys of a table promise about its rows. A one-to-one relationship is read from the flags of
its columns, and a composite key flags each of its columns; so the promise that a relationship seems
to make holds exactly if a key stands on the column alone.
-/
namespace SchemaAtlas

/-- The values of a row by column. A null is no value, and so is what the table has no column for. -/
abbrev Row (Value : Type) := String → Option Value

/-- No two different rows hold the same values in all the columns of a key. A null is the same as
nothing. -/
def Identifies {Value : Type} (key : List String) (rows : List (Row Value)) : Prop :=
  ∀ first ∈ rows, ∀ second ∈ rows,
    (∀ column ∈ key, ∃ value, first column = some value ∧ second column = some value) →
      first = second

def Constraint.key? : Constraint → Option (List String)
  | .primaryKey _ columns => some columns
  | .unique _ columns => some columns
  | _ => none

def Column.isKey (column : Column) : Bool := column.isPrimaryKey || column.isUnique

namespace Table

def keys (table : Table) : List (List String) := table.constraints.filterMap Constraint.key?

/-- The keys that columns declare, each for itself alone. -/
def columnKeys (table : Table) : List (List String) :=
  (table.columns.entries.filter Column.isKey).map fun column => [column.name]

/-- Rows that hold nothing but values of the columns of a table, and that satisfy some keys. -/
structure Admits {Value : Type} (table : Table) (keys : List (List String)) (rows : List (Row Value)) :
    Prop where
  fits : ∀ row ∈ rows, ∀ column, table.column? column = none → row column = none
  identified : ∀ key ∈ keys, Identifies key rows

/-- Every flag for a key comes from a key with that column, and no constraint is a key of nothing. -/
structure Keyed (inline : List (List String)) (table : Table) : Prop where
  flagged : ∀ column ∈ table.columns.entries, column.isKey = true →
    ∃ key ∈ inline ++ table.keys, column.name ∈ key
  filled : ∀ key ∈ table.keys, key ≠ []

section Keyed
variable {inline : List (List String)} {table : Table}

theorem keys_addConstraint (table : Table) (constraint : Constraint) :
    (table.addConstraint constraint).keys = table.keys ++ constraint.key?.toList := by
  unfold keys addConstraint
  rw [List.filterMap_append]
  cases found : constraint.key? <;> simp [found]

/-- Recording a constraint keeps every flag with a key, if the columns that the mark newly flags are
those of the constraint. -/
theorem Keyed.record (keyed : table.Keyed inline) {columns : List String} {mark : Column → Column}
    {keeps : ∀ column, (mark column).name = column.name} {constraint : Constraint}
    (flags : ∀ column, (mark column).isKey = true → column.isKey = true ∨
      constraint.key? = some columns)
    (filled : ∀ key, constraint.key? = some key → key ≠ []) :
    (table.record columns mark keeps constraint).Keyed inline := by
  have keys : (table.record columns mark keeps constraint).keys =
      table.keys ++ constraint.key?.toList := keys_addConstraint table constraint
  constructor
  · intro column member flagged
    rw [keys, ← List.append_assoc]
    obtain ⟨old, inside, same, rfl⟩ := mem_record member
    rw [same]
    -- A column that was flagged before keeps its key; any other got its flag from this constraint.
    by_cases before : old.isKey = true
    · obtain ⟨key, declared, hit⟩ := keyed.flagged old inside before
      exact ⟨key, List.mem_append_left _ declared, hit⟩
    · by_cases marked : old.name ∈ columns
      · rw [if_pos marked] at flagged
        have own : constraint.key? = some columns := (flags old flagged).resolve_left before
        exact ⟨columns, List.mem_append_right _ (by simp [own]), marked⟩
      · rw [if_neg marked] at flagged
        exact absurd flagged before
  · intro key declared
    rw [keys] at declared
    rcases List.mem_append.mp declared with earlier | new
    · exact keyed.filled key earlier
    · exact filled key (by simpa using new)

theorem Amendment.keyed {clause : Text} {after : Table} (change : Amendment clause table after)
    (keyed : table.Keyed inline) : after.Keyed inline := by
  cases change with
  | foreignKey key column present =>
    apply keyed.record
    · exact fun _ flagged => Or.inl flagged
    · intro columns own
      cases own
  | primaryKey name columns filled =>
    apply keyed.record
    · exact fun _ _ => Or.inr rfl
    · intro other own
      cases own
      exact filled
  | unique name columns filled =>
    apply keyed.record
    · exact fun _ _ => Or.inr rfl
    · intro other own
      cases own
      exact filled
  | check name condition family named =>
    have same : (table.addConstraint (.check name condition)).keys = table.keys := by
      rw [keys_addConstraint]
      exact List.append_nil _
    constructor
    · intro column member flagged
      rw [same]
      exact keyed.flagged column member flagged
    · rw [same]
      exact keyed.filled

/-- Columns alone declare a key for each column that they flag. -/
theorem keyed_ofColumns (name : String) (body : Text) :
    (ofColumns name body).Keyed (ofColumns name body).columnKeys := by
  have columnar : (ofColumns name body).Columnar fun _ => True := columnar_ofColumns name body
  have none_declared : (ofColumns name body).keys = [] := by
    apply List.filterMap_eq_nil_iff.mpr
    intro constraint member
    have check := columnar.only_checks constraint member
    cases constraint with
    | check => rfl
    | _ => cases check
  constructor
  · intro column member flagged
    have own : [column.name] ∈ (ofColumns name body).columnKeys :=
      List.mem_map_of_mem (List.mem_filter.mpr ⟨member, flagged⟩)
    exact ⟨_, List.mem_append_left _ own, List.mem_singleton.mpr rfl⟩
  · rw [none_declared]
    exact fun key declared => absurd declared (by simp)

theorem Amended.keyed {clauses : List Text} {name : String} {body : Text} {after : Table}
    (run : Amended clauses (ofColumns name body) after) :
    after.Keyed (ofColumns name body).columnKeys :=
  run.keeps (Keyed (ofColumns name body).columnKeys) (keyed_ofColumns name body)
    fun _ _ _ _ change keyed => change.keyed keyed

theorem Keyed.of_bare {other : Table} (same : table.bare = other.bare) (keyed : other.Keyed inline) :
    table.Keyed inline := by
  obtain ⟨name, columns, constraints, indexes⟩ := table
  obtain ⟨otherName, otherColumns, otherConstraints, otherIndexes⟩ := other
  simp only [bare, Table.mk.injEq] at same
  obtain ⟨rfl, rfl, rfl, _⟩ := same
  exact { keyed with }

end Keyed

section Admits
variable (table : Table) {keys : List (List String)} {column : String}

theorem column?_name {other : Column} (member : other ∈ table.columns.entries) :
    table.column? other.name = some other := Roster.find?_of_mem member

/-- A row of a table that holds one value in a column and another one everywhere else. -/
def contrasting (table : Table) (column : String) (elsewhere : Bool) : Row Bool := fun name =>
  if table.column? name = none then none else some (name != column && elsewhere)

/-- Two rows that agree on one column alone satisfy every key that has another column. -/
theorem admits_contrasting (spread : ∀ key ∈ keys, ∃ other ∈ key, other ≠ column) :
    table.Admits keys [table.contrasting column false, table.contrasting column true] where
  fits := by
    intro row member name absent
    simp only [List.mem_cons, List.not_mem_nil, or_false] at member
    rcases member with rfl | rfl <;> simp [contrasting, absent]
  identified := by
    intro key declared first inside second present agree
    obtain ⟨other, hit, different⟩ := spread key declared
    obtain ⟨value, left, right⟩ := agree other hit
    simp only [List.mem_cons, List.not_mem_nil, or_false] at inside present
    rcases inside with rfl | rfl <;> rcases present with rfl | rfl <;>
      simp_all [contrasting]

/-- Keys promise that the values of a column are distinct exactly if one of them is on that column
alone, or if rows have nothing else to differ in. -/
theorem identifies_iff (present : ∃ found, table.column? column = some found) :
    (∀ (Value : Type) (rows : List (Row Value)), table.Admits keys rows → Identifies [column] rows) ↔
      (∃ key ∈ keys, ∀ other ∈ key, other = column) ∨
        ∀ other ∈ table.columns.entries, other.name = column := by
  constructor
  · intro sound
    by_contra neither
    obtain ⟨shared, several⟩ := not_or.mp neither
    -- Otherwise the contrasting rows satisfy every key, and any other column tells them apart.
    have spread : ∀ key ∈ keys, ∃ other ∈ key, other ≠ column := by
      intro key declared
      by_contra alone
      apply shared
      refine ⟨key, declared, ?_⟩
      intro other hit
      by_contra different
      exact alone ⟨other, hit, different⟩
    have same := sound Bool _ (table.admits_contrasting spread)
      (table.contrasting column false) (by simp) (table.contrasting column true) (by simp) (by
        intro other hit
        obtain ⟨found, here⟩ := present
        rw [List.mem_singleton.mp hit]
        exact ⟨false, by simp [contrasting, here]⟩)
    apply several
    intro other member
    by_contra different
    have value := congrFun same other.name
    simp [contrasting, column?_name table member, different] at value
  · rintro (⟨key, declared, alone⟩ | only) Value rows admits first inside second present agree
    · apply admits.identified key declared first inside second present
      intro other hit
      rw [alone other hit]
      exact agree column (List.mem_singleton.mpr rfl)
    · funext name
      by_cases same : name = column
      · obtain ⟨value, left, right⟩ := agree column (List.mem_singleton.mpr rfl)
        rw [same, left, right]
      · have absent : table.column? name = none := by
          apply Roster.find?_eq_none_iff.mpr
          intro member
          obtain ⟨other, inside, named⟩ := List.mem_map.mp member
          exact same (named.symm.trans (only other inside))
        rw [admits.fits first inside name absent, admits.fits second present name absent]

end Admits
end Table

namespace Script

/-- The keys that a script declares on a table: a key for each column that its column clause marks,
and then those of the constraints from its body and from alterations. -/
def declaredKeys (script : String) (table : Table) : List (List String) :=
  ((definingBody? table.name (statementsOf script)).map fun body =>
    (Table.ofColumns table.name body).columnKeys).getD [] ++ table.keys

theorem keyed_of_read {script : String} {name : String} {table : Table}
    (found : (read script).table? name = some table) :
    (∀ column ∈ table.columns.entries, column.isKey = true →
      ∃ key ∈ declaredKeys script table, column.name ∈ key) ∧
      ∀ key ∈ declaredKeys script table, key ≠ [] := by
  have named : table.name = name := Roster.name_of_find? found
  obtain ⟨body, result, defined, run, same⟩ := amended_of_read found
  have keyed : table.Keyed (Table.ofColumns name body).columnKeys := run.keyed.of_bare same
  have keys : declaredKeys script table = (Table.ofColumns name body).columnKeys ++ table.keys := by
    unfold declaredKeys
    rw [named, defined]
    rfl
  rw [keys]
  refine ⟨keyed.flagged, ?_⟩
  intro key declared
  rcases List.mem_append.mp declared with inline | recorded
  · obtain ⟨column, _, rfl⟩ := List.mem_map.mp inline
    simp
  · exact keyed.filled key recorded

end Script

theorem Cardinality.isKey_of_oneToOne {source target : Column}
    (single : Cardinality.between (some source) (some target) = .oneToOne) : source.isKey = true := by
  unfold Cardinality.between at single
  unfold Column.isKey
  cases primary : target.isPrimaryKey <;> cases unique : source.isUnique <;>
    cases own : source.isPrimaryKey <;> simp_all

namespace Script

/-- A one-to-one relationship comes from a column of some declared key. The keys make its values
distinct in all rows that they admit exactly if one of them is on that column alone, or if the table
has no other column. -/
theorem one_to_one_sound_iff {script : String} {relationship : Relationship}
    (drawn : relationship ∈ (read script).relationships)
    (single : relationship.cardinality = .oneToOne) :
    ∃ table, (read script).table? relationship.table = some table ∧
      (∃ column, table.column? relationship.column = some column) ∧
      (∃ key ∈ declaredKeys script table, relationship.column ∈ key) ∧
      (∀ key ∈ declaredKeys script table, key ≠ []) ∧
      ((∀ (Value : Type) (rows : List (Row Value)), table.Admits (declaredKeys script table) rows →
          Identifies [relationship.column] rows) ↔
        (∃ key ∈ declaredKeys script table, ∀ other ∈ key, other = relationship.column) ∨
          ∀ other ∈ table.columns.entries, other.name = relationship.column) := by
  obtain ⟨⟨table, column⟩, member, draws⟩ := draws_of_mem drawn
  obtain ⟨target, _, cardinality⟩ := draws.ends
  have flagged : column.isKey = true :=
    Cardinality.isKey_of_oneToOne (cardinality.symm.trans single)
  obtain ⟨keyed, filled⟩ := keyed_of_read draws.source_table
  have named : column.name = relationship.column := Roster.name_of_find? draws.source_column
  refine ⟨table, draws.source_table, ⟨column, draws.source_column⟩, ?_, filled, ?_⟩
  · rw [← named]
    exact keyed column member flagged
  · exact table.identifies_iff ⟨column, draws.source_column⟩

theorem one_to_one_sound_iff_unique :
    ∃ table,
      (read "CREATE TABLE R (b int UNIQUE); CREATE TABLE T (a int UNIQUE REFERENCES R(b))").table? "T" =
        some table ∧
      (∃ column, table.column? "a" = some column) ∧
      (∃ key ∈ declaredKeys
        "CREATE TABLE R (b int UNIQUE); CREATE TABLE T (a int UNIQUE REFERENCES R(b))" table,
        "a" ∈ key) := by
  have drawn : (⟨"T", "a", ⟨"R", "b"⟩, .oneToOne⟩ : Relationship) ∈
      (read "CREATE TABLE R (b int UNIQUE); CREATE TABLE T (a int UNIQUE REFERENCES R(b))").relationships := by
    decide +kernel
  obtain ⟨table, found, present, keyed, _⟩ := one_to_one_sound_iff drawn rfl
  exact ⟨table, found, present, keyed⟩

/-- The reading of a one-to-one relationship as a promise: whatever keys it was read from, they make
the values of its column distinct. -/
def OneToOneSound (script : String) : Prop :=
  ∀ relationship ∈ (read script).relationships, relationship.cardinality = .oneToOne →
    ∀ table, (read script).table? relationship.table = some table →
      ∀ (Value : Type) (rows : List (Row Value)), table.Admits (declaredKeys script table) rows →
        Identifies [relationship.column] rows

def halfKey : String :=
  "CREATE TABLE R (b int PRIMARY KEY); CREATE TABLE T (a int REFERENCES R(b), c int, PRIMARY KEY (a, c))"

theorem not_oneToOneSound_halfKey : ¬OneToOneSound halfKey := by
  intro sound
  have drawn : (⟨"T", "a", ⟨"R", "b"⟩, .oneToOne⟩ : Relationship) ∈ (read halfKey).relationships := by
    decide +kernel
  -- The key holds `c` as well, and so does the table, which fails both alternatives.
  have halved : ∃ table ∈ (read halfKey).table? "T",
      (table.column? "a").isSome = true ∧ (table.column? "c").isSome = true ∧
        ∀ key ∈ declaredKeys halfKey table, ∃ other ∈ key, other ≠ "a" := by
    decide +kernel
  obtain ⟨table, found, first, second, spread⟩ := halved
  have promised := sound _ drawn rfl table found
  rcases (table.identifies_iff (Option.isSome_iff_exists.mp first)).mp promised with
    ⟨key, declared, alone⟩ | only
  · obtain ⟨other, hit, different⟩ := spread key declared
    exact different (alone other hit)
  · obtain ⟨column, present⟩ := Option.isSome_iff_exists.mp second
    have named : column.name = "c" := Roster.name_of_find? present
    exact absurd (named.symm.trans (only column (Roster.mem_of_find? present))) (by decide)

end Script
end SchemaAtlas
