import SchemaAtlas.Proofs.Clause.Columns
import SchemaAtlas.Proofs.Clause.Effect
import SchemaAtlas.Proofs.Clause.Numbers
import SchemaAtlas.Proofs.Script.Enclosure
/-!
One more column clause in the body of a table. A clause that gives no column costs only itself, and one
that gives a column leaves all others as they are, because a column is read by itself and the other
clauses ask of it no more than its name. The exception is a clause with an unreadable number: it takes
the whole table with it.
-/
namespace SchemaAtlas

/-- The number of a clause that cannot be read. -/
def Column.fault? (clause : Text) : Option NumeralError :=
  match Column.read .empty clause with
  | .unreadable error => some error
  | _ => none

namespace Roster

/-- The columns of a roster but for one name are those of another. -/
def Hides (hidden : Option String) (wide narrow : Roster Column) : Prop :=
  wide.entries.filter (some ·.name != hidden) = narrow.entries

section Hides
variable {hidden : Option String} {wide narrow : Roster Column}

theorem Hides.has (hides : Hides hidden wide narrow) {name : String} (shown : some name ≠ hidden) :
    wide.has name = narrow.has name := by
  rw [Bool.eq_iff_iff, has_iff, has_iff]
  unfold names
  rw [← hides]
  constructor
  · intro member
    obtain ⟨column, inside, rfl⟩ := List.mem_map.mp member
    exact List.mem_map_of_mem (List.mem_filter.mpr ⟨inside, bne_iff_ne.mpr shown⟩)
  · intro member
    obtain ⟨column, inside, rfl⟩ := List.mem_map.mp member
    exact List.mem_map_of_mem (List.mem_filter.mp inside).1

theorem Hides.put (hides : Hides hidden wide narrow) {column : Column} (shown : some column.name ≠ hidden)
    (fresh : column.name ∉ wide.names) : Hides hidden (wide.put column) (narrow.put column) := by
  have also_fresh : column.name ∉ narrow.names := by
    rw [← has_iff, hides.has shown |>.symm, has_iff]
    exact fresh
  unfold Hides
  rw [entries_put_of_fresh fresh, entries_put_of_fresh also_fresh, List.filter_append, hides]
  simp [shown]

theorem hides_put {column : Column} (absent : ∀ name, hidden = some name → name ∉ narrow.names)
    (named : hidden = some column.name) : Hides hidden (narrow.put column) narrow := by
  have kept : narrow.entries.filter (some ·.name != hidden) = narrow.entries := by
    apply List.filter_eq_self.mpr
    intro other member
    apply bne_iff_ne.mpr
    intro same
    exact absent other.name same.symm (List.mem_map_of_mem member)
  unfold Hides
  rw [entries_put_of_fresh (absent column.name named), List.filter_append, kept]
  simp [named]

theorem hides_self (absent : ∀ name, hidden = some name → name ∉ narrow.names) :
    Hides hidden narrow narrow := by
  apply List.filter_eq_self.mpr
  intro column member
  apply bne_iff_ne.mpr
  intro same
  exact absent column.name same.symm (List.mem_map_of_mem member)

end Hides
end Roster

namespace Draft

section Columns
variable {draft wide narrow : Draft} {hidden : Option String}

/-- Clauses that do not give the hidden name do the same on both sides. -/
theorem hides_readColumns {clauses : List Text}
    (shown : ∀ clause ∈ clauses, ∀ name, Column.givenName? clause = some name → some name ≠ hidden)
    (hides : Roster.Hides hidden wide.table.columns narrow.table.columns) :
    (wide.readColumns clauses).2 = (narrow.readColumns clauses).2 ∧
      Roster.Hides hidden (wide.readColumns clauses).1.table.columns
        (narrow.readColumns clauses).1.table.columns := by
  induction clauses generalizing wide narrow with
  | nil => exact ⟨rfl, hides⟩
  | cons clause rest ih =>
    have same : Column.read wide.table.columns clause = Column.read narrow.table.columns clause :=
      Column.read_congr fun name given => hides.has (shown clause List.mem_cons_self name given)
    have later := fun text member => shown text (List.mem_cons_of_mem clause member)
    unfold readColumns
    rw [same]
    cases outcome : Column.read narrow.table.columns clause with
    | unreadable error => exact ⟨rfl, hides⟩
    | accepted column check =>
      have given := Column.givenName?_of_accepted outcome
      refine ih later ?_
      rw [columns_withOutcome, columns_withOutcome]
      exact hides.put (shown clause List.mem_cons_self _ given)
        (Column.read_accepted (same.trans outcome)).2
    | _ =>
      refine ih later ?_
      rw [columns_withOutcome, columns_withOutcome]
      exact hides

/-- One more clause under a name of its own: it fails by itself or hides behind its name. -/
theorem readColumns_insert {front back : List Text} {clause : Text} {result : Draft}
    (readable : draft.readColumns (front ++ back) = (result, none))
    (absent : ∀ name, Column.givenName? clause = some name → name ∉ draft.table.columns.names)
    (unused : ∀ text ∈ front ++ back, ∀ name, Column.givenName? clause = some name →
      Column.givenName? text ≠ some name) :
    (draft.readColumns (front ++ clause :: back)).2 = Column.fault? clause ∧
      (Column.fault? clause = none → Roster.Hides (Column.givenName? clause)
        (draft.readColumns (front ++ clause :: back)).1.table.columns result.table.columns) := by
  cases before : draft.readColumns front with
  | mk middle failure =>
    cases failure with
    | some error =>
      rw [readColumns_append_error before] at readable
      cases readable
    | none =>
      rw [readColumns_append before] at readable ⊢
      have fresh : ∀ name, Column.givenName? clause = some name → name ∉ middle.table.columns.names := by
        intro name given member
        have origin : name ∈ (draft.readColumns front).1.table.columns.names := by rwa [before]
        rcases names_readColumns origin with old | ⟨text, inside, same⟩
        · exact absent name given old
        · exact unused text (List.mem_append_left back inside) name given same
      have alone : Column.read middle.table.columns clause = Column.read .empty clause := by
        apply Column.read_congr
        intro name given
        have unknown : middle.table.columns.has name = false := by
          rw [Bool.eq_false_iff, ne_eq, Roster.has_iff]
          exact fresh name given
        rw [unknown]
        rfl
      have shown : ∀ text ∈ back, ∀ name, Column.givenName? text = some name →
          some name ≠ Column.givenName? clause := by
        intro text inside name given same
        exact unused text (List.mem_append_right front inside) name same.symm given
      -- Whatever the clause gives, the others go on from columns that differ in its name only.
      have later (hides : Roster.Hides (Column.givenName? clause)
          (middle.withOutcome clause (Column.read .empty clause)).table.columns middle.table.columns) :=
        hides_readColumns shown hides
      rw [readable] at later
      rw [readColumns, alone]
      unfold Column.fault?
      cases outcome : Column.read .empty clause with
      | unreadable error => exact ⟨rfl, fun readable => by cases readable⟩
      | accepted column check =>
        have given := Column.givenName?_of_accepted outcome
        rw [columns_withOutcome, outcome] at later
        obtain ⟨readable, hides⟩ := later (Roster.hides_put fresh given)
        exact ⟨readable, fun _ => hides⟩
      | _ =>
        rw [columns_withOutcome, outcome] at later
        obtain ⟨readable, hides⟩ := later (Roster.hides_self fresh)
        exact ⟨readable, fun _ => hides⟩

end Columns
section Body
variable {texts : List Text}

/-- The column clauses among texts that stand for clauses. -/
def columnTexts (texts : List Text) : List Text := (texts.map Text.trim).filter (!isConstraintClause ·)

theorem constraintClauses_join (each : ∀ text ∈ texts, Script.IsEnclosed text) :
    constraintClauses ([','].intercalate texts) = (texts.map Text.trim).filter isConstraintClause := by
  cases blank : Text.isAllBlank ([','].intercalate texts) with
  | false => rw [constraintClauses, Script.clauses_join_of_visible each blank]
  | true =>
    have none_there : constraintClauses ([','].intercalate texts) = [] := by
      rw [constraintClauses, Script.clauses, blank]
      rfl
    rcases Script.blank_join blank with rfl | ⟨text, rfl, only_blank⟩
    · rfl
    · rw [none_there, List.map_singleton, Script.trim_of_blank only_blank]
      decide

/-- A body that is blank as a whole has no clause, which makes no difference to the columns. -/
theorem readColumns_join (each : ∀ text ∈ texts, Script.IsEnclosed text) (draft : Draft) :
    (draft.readColumns (columnClauses ([','].intercalate texts))).2 = (draft.readColumns (columnTexts texts)).2 ∧
      (draft.readColumns (columnClauses ([','].intercalate texts))).1.table.columns =
        (draft.readColumns (columnTexts texts)).1.table.columns := by
  cases blank : Text.isAllBlank ([','].intercalate texts) with
  | false =>
    rw [columnClauses, Script.clauses_join_of_visible each blank]
    exact ⟨rfl, rfl⟩
  | true =>
    have none_there : columnClauses ([','].intercalate texts) = [] := by
      rw [columnClauses, Script.clauses, blank]
      rfl
    rw [none_there]
    rcases Script.blank_join blank with rfl | ⟨text, rfl, only_blank⟩
    · exact ⟨rfl, rfl⟩
    · have single : columnTexts [text] = [[]] := by
        rw [columnTexts, List.map_singleton, Script.trim_of_blank only_blank]
        decide
      have blank_read : Column.read draft.table.columns [] = .blank := rfl
      rw [single]
      simp only [readColumns, blank_read]
      exact ⟨trivial, rfl⟩

theorem readBody_failure (draft : Draft) (body : Text) :
    (draft.readBody body).2 = (draft.readColumns (columnClauses body)).2 := by
  unfold readBody columnClauses
  dsimp only
  split
  · next read => rw [read]
  · next read => rw [read]

/-- A text of the list is a column clause of the same name. -/
def Uses (texts : List Text) (name : String) : Prop :=
  ∃ text ∈ texts, isConstraintClause (Text.trim text) = false ∧ Column.givenName? (Text.trim text) = some name

theorem mem_insert {front back : List Text} {clause text : Text} (member : text ∈ front ++ back) :
    text ∈ front ++ clause :: back :=
  ((List.sublist_cons_self clause back).append_left front).subset member

instance (texts : List Text) (name : String) : Decidable (Uses texts name) :=
  inferInstanceAs (Decidable (∃ text ∈ texts, _ ∧ _))

section Insert
variable {name : String} {front back : List Text} {clause : Text}
  (column : isConstraintClause (Text.trim clause) = false)
include column

theorem columnTexts_insert : columnTexts (front ++ clause :: back) =
    columnTexts front ++ Text.trim clause :: columnTexts back := by
  simp [columnTexts, column]

theorem constraintClauses_insert (each : ∀ text ∈ front ++ clause :: back, Script.IsEnclosed text) :
    constraintClauses ([','].intercalate (front ++ clause :: back)) =
      constraintClauses ([','].intercalate (front ++ back)) := by
  rw [constraintClauses_join each, constraintClauses_join fun text member => each text (mem_insert member)]
  simp [column]

theorem columns_insert (each : ∀ text ∈ front ++ clause :: back, Script.IsEnclosed text)
    (unused : ∀ given, Column.givenName? (Text.trim clause) = some given → ¬Uses (front ++ back) given)
    (readable : ((ofTable (.empty name)).readBody ([','].intercalate (front ++ back))).2 = none) :
    ((ofTable (.empty name)).readBody ([','].intercalate (front ++ clause :: back))).2 =
        Column.fault? (Text.trim clause) ∧
      (Column.fault? (Text.trim clause) = none → Roster.Hides (Column.givenName? (Text.trim clause))
        (Table.ofColumns name ([','].intercalate (front ++ clause :: back))).columns
        (Table.ofColumns name ([','].intercalate (front ++ back))).columns) := by
  obtain ⟨narrow_failure, narrow_columns⟩ :=
    readColumns_join (fun text member => each text (mem_insert member)) (ofTable (.empty name))
  obtain ⟨wide_failure, wide_columns⟩ := readColumns_join each (ofTable (.empty name))
  have split : columnTexts (front ++ back) = columnTexts front ++ columnTexts back := by
    simp [columnTexts]
  rw [readBody_failure, narrow_failure, split] at readable
  rw [readBody_failure, wide_failure]
  unfold Table.ofColumns
  rw [narrow_columns, wide_columns, columnTexts_insert column, split]
  refine readColumns_insert (Prod.ext rfl readable) ?_ ?_
  · intro given _ member
    cases member
  · intro text member given named same
    rw [← split] at member
    obtain ⟨inside, plain⟩ := List.mem_filter.mp member
    obtain ⟨raw, present, rfl⟩ := List.mem_map.mp inside
    exact unused given named ⟨raw, present, by simpa using plain, same⟩

end Insert

end Body

end Draft

/-- Constraint clauses touch each column by itself, so a hidden column stays behind its name. -/
theorem Roster.Hides.map {hidden : Option String} {wide narrow other_wide other_narrow : Roster Column}
    (hides : Hides hidden wide narrow) {change : Column → Column}
    (keeps : ∀ column, (change column).name = column.name)
    (wide_changed : other_wide.entries = wide.entries.map change)
    (narrow_changed : other_narrow.entries = narrow.entries.map change) :
    Hides hidden other_wide other_narrow := by
  have same : (fun column => some column.name != hidden) ∘ change = fun column => some column.name != hidden := by
    funext column
    simp only [Function.comp_apply, keeps]
  unfold Hides at hides ⊢
  rw [wide_changed, narrow_changed, ← hides, List.filter_map, same]

namespace Schema

theorem table?_readTable_of_fresh {schema : Schema} {name : String} {statement body : Text}
    (fresh : schema.table? name = none) (read : TableStatement.read statement = .definition name body) :
    (schema.readTable statement).table? name =
      if ((Draft.ofTable (.empty name)).readBody body).2 = none then some (tableOfBody name body) else none := by
  rw [table?_readTable, fresh, Option.none_or, Script.readableBody?]
  simp only [read, true_and]
  split <;> rfl

/-- One more column clause, of any text that is one clause and whose name no other clause gives: the
table is created unless a number of the clause cannot be read, and then all its other columns are those
that it had without. -/
theorem clause_costs_itself {schema : Schema} {name : String} {front back : List Text} {clause narrow wide : Text}
    {table : Table} (each : ∀ text ∈ front ++ clause :: back, Script.IsEnclosed text)
    (column : Draft.isConstraintClause (Text.trim clause) = false)
    (unused : ∀ given, Column.givenName? (Text.trim clause) = some given → ¬Draft.Uses (front ++ back) given)
    (read_narrow : TableStatement.read narrow = .definition name ([','].intercalate (front ++ back)))
    (read_wide : TableStatement.read wide = .definition name ([','].intercalate (front ++ clause :: back)))
    (fresh : schema.table? name = none) (created : (schema.readTable narrow).table? name = some table) :
    ((schema.readTable wide).table? name = none ↔ (Column.fault? (Text.trim clause)).isSome = true) ∧
      (∀ error, Column.fault? (Text.trim clause) = some error → error.HasCause) ∧
      ∀ wider, (schema.readTable wide).table? name = some wider →
        wider.columns.entries.filter (some ·.name != Column.givenName? (Text.trim clause)) =
          table.columns.entries := by
  rw [table?_readTable_of_fresh fresh read_narrow] at created
  split at created
  · next readable =>
    obtain rfl := Option.some.inj created
    obtain ⟨failure, hides⟩ := Draft.columns_insert column each unused readable
    rw [table?_readTable_of_fresh fresh read_wide, failure]
    refine ⟨?_, ?_, ?_⟩
    · cases Column.fault? (Text.trim clause) <;> simp
    · intro error faulty
      unfold Column.fault? at faulty
      split at faulty
      · next read =>
        cases faulty
        exact Column.hasCause_of_read read
      · cases faulty
    · intro wider found
      split at found
      · next sound =>
        obtain rfl := Option.some.inj found
        refine (hides sound).map (Column.name_foldl_touched (Draft.constraintClauses
          ([','].intercalate (front ++ back)))) ?_ (Table.columns_foldl_amend _ _)
        rw [← Draft.constraintClauses_insert column each]
        exact Table.columns_foldl_amend _ _
      · cases found
  · cases created

/-- A clause between two others gives its own column and leaves theirs alone. -/
theorem clause_costs_itself_between :
    let narrow := "CREATE TABLE T (a int,c int)".toList
    let wide := "CREATE TABLE T (a int,b VARCHAR(10),c int)".toList
    ((empty.readTable wide).table? "T").map (·.columns.names) = some ["a", "b", "c"] ∧
      ∃ table, (empty.readTable narrow).table? "T" = some table ∧
        ∀ wider, (empty.readTable wide).table? "T" = some wider →
          wider.columns.entries.filter (some ·.name != some "b") = table.columns.entries := by
  intro narrow wide
  let front := ["a int".toList]
  let back := ["c int".toList]
  let clause := "b VARCHAR(10)".toList
  have given : Column.givenName? (Text.trim clause) = some "b" := by decide +kernel
  have unused : ∀ name, Column.givenName? (Text.trim clause) = some name → ¬Draft.Uses (front ++ back) name := by
    intro name named
    rw [given] at named
    obtain rfl := Option.some.inj named
    decide +kernel
  have built : ((empty.readTable narrow).table? "T").isSome = true := by decide +kernel
  obtain ⟨table, created⟩ := Option.isSome_iff_exists.mp built
  have each : ∀ text ∈ front ++ clause :: back, Script.IsEnclosed text := by decide +kernel
  have read_narrow : TableStatement.read narrow = .definition "T" ([','].intercalate (front ++ back)) := by
    decide +kernel
  have read_wide : TableStatement.read wide =
      .definition "T" ([','].intercalate (front ++ clause :: back)) := by decide +kernel
  obtain ⟨_, _, others⟩ := clause_costs_itself each (by decide +kernel) unused read_narrow read_wide
    (by decide +kernel) created
  rw [given] at others
  exact ⟨by decide +kernel, table, created, others⟩

/-- A raised digit in a clause takes the whole table with it. -/
theorem clause_takes_table :
    let clause := "b VARCHAR(²)".toList
    let narrow := "CREATE TABLE T (a int,c int)".toList
    let wide := "CREATE TABLE T (a int,b VARCHAR(²),c int)".toList
    (Script.IsEnclosed clause ∧ Draft.isConstraintClause clause = false ∧
        Column.givenName? clause = some "b") ∧
      TableStatement.read wide = .definition "T"
        ([','].intercalate (["a int".toList] ++ clause :: ["c int".toList])) ∧
      ((empty.readTable narrow).table? "T").map (·.columns.names) = some ["a", "c"] ∧
      (empty.readTable wide).table? "T" = none := by
  decide +kernel

end Schema
end SchemaAtlas
