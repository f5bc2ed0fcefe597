import SchemaAtlas.Proofs.Clause.ColumnFlags
import SchemaAtlas.Proofs.Clause.LeadingText
import SchemaAtlas.Proofs.Script.Excerpts
import SchemaAtlas.Proofs.Script.Origin
/-!
The texts of a schema are lines. Names, types, values and targets are cut from the script that was normalised, so no
line break and no tabulator of the script comes as far as the schema, and every type is spelled.
-/
namespace SchemaAtlas

namespace DataType

/-- The texts of a type are lines, and it is not written as nothing. -/
structure SingleLine (type : DataType) : Prop where
  base : Text.IsLine type.base.toList
  full : Text.IsLine type.full.toList
  filled : type.full ≠ ""

theorem isLine_baseName {name : Text} (line : Text.IsLine name) : Text.IsLine (baseName name).toList := by
  have capitals := (line.of_subset (Name.clean_subset name)).uppercase
  unfold baseName
  split
  · decide
  · rwa [String.toList_ofList]

theorem baseName_ne_empty (name : Text) : baseName name ≠ "" := by
  unfold baseName
  split
  · decide
  · next other =>
    rw [← String.toList_eq_nil_iff.ne, String.toList_ofList]
    exact other

theorem isLine_argumentText {argument : Text} (line : Text.IsLine argument) : Text.IsLine (argumentText argument) := by
  unfold argumentText
  split
  · exact line.uppercase
  · exact line

theorem isLine_fullText {base : String} {arguments : List Text} (first : Text.IsLine base.toList)
    (each : ∀ argument ∈ arguments, Text.IsLine argument) : Text.IsLine (fullText base arguments).toList := by
  have inner : Text.IsLine ([','].intercalate (arguments.map argumentText)) :=
    .intercalate (by decide) (List.forall_mem_map.mpr fun argument member => isLine_argumentText (each argument member))
  have opening : Text.IsLine "(".toList := by decide
  have closing : Text.IsLine ")".toList := by decide
  have whole := ((first.append opening).append inner).append closing
  rwa [← String.toList_ofList (l := [','].intercalate _), ← String.toList_append, ← String.toList_append,
    ← String.toList_append] at whole

/-- What is read of a type keeps its base, and its full text is the base or has all its arguments. -/
theorem texts_of_read {name : Text} {arguments : Option Text} {type : DataType}
    (reading : read name arguments = .ok type) :
    type.base = baseName name ∧ (arguments = none ∧ type.full = baseName name ∨
      ∃ text, arguments = some text ∧ type.full = fullText (baseName name) (splitArguments text)) := by
  cases arguments with
  | none =>
    cases reading
    exact ⟨rfl, Or.inl ⟨rfl, rfl⟩⟩
  | some text =>
    simp only [read, Option.map_some, bind, Except.bind, pure, Except.pure] at reading
    -- However many arguments are numbers, the texts of the type are the same.
    repeat' split at reading
    all_goals cases reading
    all_goals exact ⟨rfl, Or.inr ⟨text, rfl, rfl⟩⟩

theorem singleLine_read {name : Text} {arguments : Option Text} {type : DataType} (line : Text.IsLine name)
    (inner : ∀ text ∈ arguments, Text.IsLine text) (reading : read name arguments = .ok type) : type.SingleLine := by
  have base := isLine_baseName line
  obtain ⟨same, ⟨_, plain⟩ | ⟨text, given, full⟩⟩ := texts_of_read reading
  · exact ⟨same ▸ base, plain ▸ base, plain ▸ baseName_ne_empty name⟩
  · have each : ∀ argument ∈ splitArguments text, Text.IsLine argument := List.forall_mem_map.mpr fun field member =>
      (inner text given).of_subset (List.Subset.trans (Text.trim_subset field) (Text.fields_subset member))
    refine ⟨same ▸ base, full ▸ isLine_fullText base each, ?_⟩
    rw [full, fullText, ← String.toList_eq_nil_iff.ne]
    simp

end DataType

structure Reference.SingleLine (target : Reference) : Prop where
  table : Text.IsLine target.table.toList
  column : Text.IsLine target.column.toList

namespace Column

/-- All texts of a column are lines. -/
structure SingleLine (column : Column) : Prop where
  name : Text.IsLine column.name.toList
  type : column.type.SingleLine
  default : ∀ value ∈ column.defaultValue, Text.IsLine value.toList
  target : ∀ target ∈ column.references, target.SingleLine

variable {column : Column}

theorem singleLine_plain {name : String} {type : DataType} (line : Text.IsLine name.toList) (typed : type.SingleLine) :
    (plain name type).SingleLine :=
  ⟨line, typed, by simp [plain], by simp [plain]⟩

theorem SingleLine.markPrimaryKey (line : column.SingleLine) : column.markPrimaryKey.SingleLine := { line with }

theorem SingleLine.markUnique (line : column.SingleLine) : column.markUnique.SingleLine := { line with }

theorem SingleLine.markForeignKey (line : column.SingleLine) {target : Reference} (pointed : target.SingleLine) :
    (column.markForeignKey target).SingleLine :=
  { line with
    target := fun other given => by
      cases given
      exact pointed }

end Column

namespace Attributes
variable {column result : Column} {text : Text}

namespace Scope
variable {scope : Scope}

theorem applyFlags_singleLine (line : column.SingleLine) : (scope.applyFlags column).SingleLine := by
  unfold applyFlags
  split <;> split <;> split <;> exact { line with }

theorem applyIdentity_singleLine (line : column.SingleLine) (success : scope.applyIdentity column = .ok result) :
    result.SingleLine := by
  simp only [applyIdentity, bind, Except.bind, pure, Except.pure] at success
  repeat' split at success
  all_goals cases success
  all_goals exact { line with }

theorem applyDefault_singleLine (within : Text.IsLine scope.text) (line : column.SingleLine) :
    (scope.applyDefault column).SingleLine := by
  unfold applyDefault
  split
  · exact line
  · refine { line with default := fun value given => ?_ }
    obtain ⟨text, read, rfl⟩ := Option.map_eq_some_iff.mp given
    rw [String.toList_ofList]
    exact DefaultValue.isLine_read within read

theorem reference?_singleLine (within : Text.IsLine scope.text) {target : Reference}
    (given : scope.reference? = some target) : target.SingleLine := by
  simp only [reference?, Option.bind_eq_bind, Option.bind_eq_some_iff, Option.pure_def, Option.some.injEq] at given
  obtain ⟨found, _, table, table_part, column, column_part, rfl⟩ := given
  have inside := within.of_subset (Match.text?_subset table_part)
  have also_inside := within.of_subset (Match.text?_subset column_part)
  refine ⟨?_, ?_⟩
  · rw [String.toList_ofList]
    exact inside.of_subset (Name.cleanQualified_subset table)
  · rw [String.toList_ofList]
    exact also_inside.of_subset (Name.clean_subset column)

theorem applyReference_singleLine (within : Text.IsLine scope.text) (line : column.SingleLine) :
    (scope.applyReference column).SingleLine := by
  unfold applyReference
  split
  · exact line
  · next target given => exact line.markForeignKey (reference?_singleLine within given)

end Scope

theorem apply_singleLine {check : Option Text} (within : Text.IsLine text) (line : column.SingleLine)
    (success : apply column text = .ok (result, check)) : result.SingleLine := by
  have inside : Text.IsLine (scope text).text := (scope_text text).symm ▸ within
  simp only [apply, bind, Except.bind, pure, Except.pure] at success
  repeat' split at success
  all_goals cases success
  · exact line
  · next numbered =>
    have flagged : ((scope text).applyFlags column).SingleLine := Scope.applyFlags_singleLine line
    have counted := Scope.applyIdentity_singleLine flagged numbered
    exact Scope.applyReference_singleLine inside (Scope.applyDefault_singleLine inside counted)

end Attributes

namespace Column

theorem singleLine_read {taken : Roster Column} {clause : Text} {column : Column} {check : Option String}
    (within : Text.IsLine clause) (accepted : read taken clause = .accepted column check) : column.SingleLine := by
  obtain ⟨name, found, condition, given, _, _, matched, reading⟩ := of_accepted accepted
  have named : Text.IsLine name.toList := by
    simp only [givenName?, matched] at given
    repeat' split at given
    all_goals cases given
    rw [String.toList_ofList]
    exact within.of_subset (List.Subset.trans (Name.clean_subset _) (Match.part_subset found .column clause))
  unfold readMatch at reading
  cases typed : DataType.read ((found.text? .type clause).getD []) (found.text? .arguments clause) with
  | error cause => simp [typed, bind, Except.bind] at reading
  | ok type =>
    simp only [typed, bind, Except.bind] at reading
    have spelled : type.SingleLine := DataType.singleLine_read (within.of_subset (Match.part_subset found .type clause))
      (fun _ part => within.of_subset (Match.text?_subset part)) typed
    exact Attributes.apply_singleLine (within.of_subset (Match.part_subset found .body clause))
      (singleLine_plain named spelled) reading

end Column

namespace Draft

/-- What marks and records keep, a constraint clause keeps. -/
theorem readConstraint_keeps (keeps : Table → Prop) {clause : Text}
    (primary : ∀ table column, keeps table → keeps (table.markPrimaryKey column))
    (unique : ∀ table column, keeps table → keeps (table.markUnique column))
    (foreign : ∀ parts, ForeignKeyClause.read? clause = some parts → ∀ pair ∈ parts.pairs, ∀ table, keeps table →
      keeps (table.markForeignKey pair.1 pair.2))
    (record : ∀ table constraint, keeps table → keeps (table.addConstraint constraint)) {draft : Draft}
    (start : keeps draft.table) : keeps (draft.readConstraint clause).table := by
  have key (family : ConstraintFamily) (pattern : Pattern) (mark : Table → String → Table)
      (recorded : List String → Constraint) (marks : ∀ table column, keeps table → keeps (mark table column)) :
      keeps (readKey family pattern mark recorded draft clause).table := by
    simp only [readKey]
    split
    · exact start
    · refine record _ _ ?_
      refine List.foldlRecOn _ (motive := fun (draft : Draft) => keeps draft.table) _ start ?_
      intro draft kept column _
      simp only [markKeyColumn]
      split
      · exact kept
      · exact marks _ _ kept
  simp only [readConstraint]
  split
  · simp only [readForeignKey]
    split
    · exact start
    · next parts given =>
      split
      · refine List.foldlRecOn parts.pairs (motive := fun (draft : Draft) => keeps draft.table) _ start ?_
        intro draft kept pair member
        simp only [link]
        split
        · exact kept
        · exact record _ _ (foreign parts given pair member _ kept)
      · exact start
  · exact key _ _ _ _ primary
  · exact key _ _ _ _ unique
  · simp only [readCheck]
    split
    · exact start
    · exact record _ _ start
  · exact start

end Draft

namespace Table

/-- All texts of a table that a diagram or a dictionary shows are lines. -/
structure SingleLine (table : Table) : Prop where
  name : Text.IsLine table.name.toList
  columns : ∀ column ∈ table.columns.entries, column.SingleLine

variable {table : Table}

/-- A change to the columns of a name, like a mark. -/
theorem SingleLine.modify (line : table.SingleLine) {column : String} {change : Column → Column}
    {keeps : ∀ column, (change column).name = column.name}
    (changed : ∀ column : Column, column.SingleLine → (change column).SingleLine) :
    SingleLine { table with columns := table.columns.modify column change keeps } where
  name := line.name
  columns := by
    intro other member
    obtain ⟨old, inside, rfl⟩ := (Roster.mem_modify keeps).mp member
    split
    · exact changed old (line.columns old inside)
    · exact line.columns old inside

theorem SingleLine.withOutcome (line : table.SingleLine) {clause : Text} (within : Text.IsLine clause) :
    (table.withOutcome (Column.read table.columns clause)).SingleLine := by
  cases outcome : Column.read table.columns clause with
  | accepted column check =>
    have columns : ∀ other ∈ (table.columns.put column).entries, other.SingleLine := by
      intro other member
      rcases Roster.mem_put.mp member with rfl | ⟨old, _⟩
      · exact Column.singleLine_read within outcome
      · exact line.columns other old
    cases check <;> exact ⟨line.name, columns⟩
  | _ => exact line

theorem pairs_singleLine {clause : Text} (within : Text.IsLine clause) {parts : ForeignKeyClause}
    (given : ForeignKeyClause.read? clause = some parts) : ∀ pair ∈ parts.pairs, pair.2.SingleLine := by
  simp only [ForeignKeyClause.read?, Option.bind_eq_bind, Option.bind_eq_some_iff, Option.pure_def, Option.some.injEq]
    at given
  obtain ⟨found, _, columns, _, table, table_part, targets, targets_part, rfl⟩ := given
  intro pair member
  obtain ⟨⟨column, target⟩, inside, rfl⟩ := List.mem_map.mp member
  obtain ⟨name, listed, rfl⟩ := List.mem_map.mp (List.of_mem_zip inside).2
  refine ⟨?_, ?_⟩
  · rw [String.toList_ofList]
    exact within.of_subset (List.Subset.trans (Name.cleanQualified_subset table) (Match.text?_subset table_part))
  · rw [String.toList_ofList]
    exact within.of_subset (List.Subset.trans (Name.list_subset listed) (Match.text?_subset targets_part))

theorem SingleLine.amend (line : table.SingleLine) {clause : Text} (within : Text.IsLine clause) :
    (table.amend clause).SingleLine :=
  Draft.readConstraint_keeps SingleLine (fun _ _ line => line.modify fun _ line => line.markPrimaryKey)
    (fun _ _ line => line.modify fun _ line => line.markUnique)
    (fun _ given pair member _ line =>
      line.modify fun _ line => line.markForeignKey (pairs_singleLine within given pair member))
    (fun _ _ line => ⟨line.name, line.columns⟩) line

theorem singleLine_readColumns {clauses : List Text} (within : ∀ clause ∈ clauses, Text.IsLine clause) {draft : Draft}
    (line : draft.table.SingleLine) : (draft.readColumns clauses).1.table.SingleLine := by
  induction clauses generalizing draft with
  | nil => exact line
  | cons clause rest ih =>
    obtain ⟨here, there⟩ := List.forall_mem_cons.mp within
    unfold Draft.readColumns
    split
    · exact line
    · apply ih there
      rw [Draft.withOutcome_table]
      exact line.withOutcome here

theorem singleLine_ofColumns {name : String} {body : Text} (named : Text.IsLine name.toList)
    (within : Text.IsLine body) :
    (ofColumns name body).SingleLine :=
  singleLine_readColumns
    (fun _ member => within.of_subset (Script.clauses_subset (List.mem_filter.mp member).1))
    ⟨named, List.forall_mem_nil _⟩

end Table

namespace Script

theorem isLine_definition {statement : Text} (within : Text.IsLine statement) {name : String} {body : Text}
    (defines : TableStatement.read statement = .definition name body) :
    Text.IsLine name.toList ∧ Text.IsLine body := by
  simp only [TableStatement.read] at defines
  split at defines
  · cases defines
  split at defines
  · next written given =>
    simp only [Option.bind_eq_bind, Option.bind_eq_some_iff, Option.pure_def, Option.some.injEq, Prod.mk.injEq] at given
    obtain ⟨head, _, table, part, ⟨group, stop⟩, enclosed, rfl, rfl⟩ := given
    cases defines
    refine ⟨?_, within.of_subset (group?_subset enclosed)⟩
    rw [String.toList_ofList]
    exact within.of_subset (List.Subset.trans (Name.cleanQualified_subset _) (Match.text?_subset part))
  · cases defines

theorem isLine_addedClauses {statement : Text} (within : Text.IsLine statement) (name : String) :
    ∀ clause ∈ addedClauses name statement, Text.IsLine clause := by
  unfold addedClauses
  split
  · exact List.forall_mem_nil _
  · next alteration given =>
    simp only [Alteration.read?, Option.bind_eq_bind, Option.bind_eq_some_iff, Option.pure_def, Option.some.injEq]
      at given
    obtain ⟨found, _, table, _, body, part, rfl⟩ := given
    split
    · intro clause member
      obtain ⟨written, inside, rfl⟩ := List.mem_map.mp (List.mem_filter.mp member).1
      have bare : Alteration.withoutAdd written ⊆ written := by
        unfold Alteration.withoutAdd
        split
        · exact List.drop_subset _ _
        · exact List.Subset.refl _
      refine within.of_subset ?_
      calc Alteration.withoutAdd written
        _ ⊆ written := bare
        _ ⊆ body := clauses_subset inside
        _ ⊆ statement := Match.text?_subset part
    · exact List.forall_mem_nil _

theorem isLine_statementsOf (script : String) : ∀ statement ∈ statementsOf script, Text.IsLine statement :=
  fun _ member => (isLine_normalized script.toList).of_subset (statements_subset member)

theorem isLine_definingBody {script name : String} {body : Text}
    (defined : definingBody? name (statementsOf script) = some body) : Text.IsLine name.toList ∧ Text.IsLine body := by
  obtain ⟨statement, inside, readable⟩ := List.exists_of_findSome?_eq_some defined
  unfold readableBody? at readable
  split at readable
  · next other written defines =>
    split at readable
    · next named =>
      cases readable
      rw [← named.1]
      exact isLine_definition (isLine_statementsOf script statement inside) defines
    · cases readable
  · cases readable

theorem isLine_constraintClauses (script name : String) :
    ∀ clause ∈ constraintClauses name (statementsOf script), Text.IsLine clause := by
  refine List.forall_mem_append.mpr ⟨fun clause member => ?_, fun clause member => ?_⟩
  · cases defined : definingBody? name (statementsOf script) with
    | none =>
      rw [defined] at member
      cases member
    | some body =>
      rw [defined] at member
      exact (isLine_definingBody defined).2.of_subset (clauses_subset (List.mem_filter.mp member).1)
  · obtain ⟨statement, inside, added⟩ := List.mem_flatMap.mp member
    exact isLine_addedClauses (isLine_statementsOf script statement inside) name clause added

/-- The columns of a table come from its definition, amended by its constraint clauses. -/
theorem columns_of_read {script : String} {table : Table} (member : table ∈ (read script).tables.entries) :
    ∃ body, definingBody? table.name (statementsOf script) = some body ∧
      table.columns = ((constraintClauses table.name (statementsOf script)).foldl Table.amend
        (Table.ofColumns table.name body)).columns := by
  have found : (read script).table? table.name = some table := Roster.find?_of_mem member
  have origin := bare_read_table? script table.name
  rw [found] at origin
  cases defined : definingBody? table.name (statementsOf script) with
  | none =>
    rw [defined] at origin
    cases origin
  | some body =>
    rw [defined, Option.map_some, Option.map_some] at origin
    exact ⟨body, rfl, (Table.mk.inj (Option.some.inj origin)).2.1⟩

/-- Whatever a script holds, the texts of its tables are lines. -/
theorem singleLine_of_read {script : String} {table : Table} (member : table ∈ (read script).tables.entries) :
    table.SingleLine := by
  obtain ⟨body, defined, same⟩ := columns_of_read member
  obtain ⟨named, within⟩ := isLine_definingBody defined
  have amended : ((constraintClauses table.name (statementsOf script)).foldl Table.amend
      (Table.ofColumns table.name body)).SingleLine :=
    List.foldlRecOn _ (motive := Table.SingleLine) _ (Table.singleLine_ofColumns named within)
      fun _ line clause member => line.amend (isLine_constraintClauses script table.name clause member)
  refine ⟨named, fun column inside => ?_⟩
  rw [same] at inside
  exact amended.columns column inside

end Script

end SchemaAtlas
