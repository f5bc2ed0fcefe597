import SchemaAtlas.Proofs.Schema.TableNames
import SchemaAtlas.Proofs.Script.Failure
/-!
Which names of tables are reported. The pattern of the check also takes an identifier with a line break behind it, which
no name of a table has, so on names the check is that for a short identifier. Its reports are all of their kind, as what
is raised while statements are read is of other kinds.
-/
namespace SchemaAtlas

/-- An identifier of no more than 128 characters. -/
def Text.isTableName (text : Text) : Bool := isIdentifier text && text.length ≤ 128

theorem Pattern.isSome_plainTableName {text : Text} (identifier : Text.isIdentifier text = true) :
    (Phrase.plainTableName.match? text).isSome = true := by
  cases text with
  | nil => cases identifier
  | cons first rest =>
    obtain ⟨begins, plain⟩ := Bool.and_eq_true_iff.mp identifier
    have fits : ∀ c ∈ rest, (c.isAlphanum || c == '_') = true := List.all_eq_true.mp plain
    change (run Phrase.plainTableName (Cursor.after [] (first :: rest)) [] _).isSome = true
    rw [Phrase.plainTableName, run_followed, run_followed, run_one begins, ← List.append_nil rest,
      run_many fits rfl run_ending]
    rfl

namespace Schema

/-- On a line, the check is that for a short identifier. -/
theorem isValidTableName_of_isLine {name : String} (line : Text.IsLine name.toList) :
    isValidTableName name = Text.isTableName name.toList := by
  have short : (name.length ≤ longestTableName) = (name.toList.length ≤ 128) := by
    rw [String.length_toList, longestTableName]
  rw [Bool.eq_iff_iff]
  constructor
  · intro valid
    have within := (Bool.and_eq_true_iff.mp valid).2
    rw [decide_eq_true_iff, short] at within
    exact Bool.and_eq_true_iff.mpr ⟨isIdentifier_of_isValidTableName line valid, decide_eq_true within⟩
  · intro named
    obtain ⟨identifier, within⟩ := Bool.and_eq_true_iff.mp named
    rw [decide_eq_true_iff, ← short] at within
    exact Bool.and_eq_true_iff.mpr ⟨Pattern.isSome_plainTableName identifier, decide_eq_true within⟩

/-- The kinds of the errors that statements raise. -/
def statementKinds : List IssueKind :=
  [.syntaxError, .duplicateTable, .missingReference, .duplicateColumn, .invalidColumnDefinition, .invalidConstraint,
    .missingColumn]

/-- Only statements have raised errors so far. -/
def OfStatements (schema : Schema) : Prop := ∀ issue ∈ schema.errors, issue.kind ∈ statementKinds

section Kinds
variable {schema : Schema}

theorem OfStatements.addErrors (before : schema.OfStatements) {issues : List Issue}
    (raised : ∀ issue ∈ issues, issue.kind ∈ statementKinds) : (schema.addErrors issues).OfStatements :=
  List.forall_mem_append.mpr ⟨before, raised⟩

theorem OfStatements.addIssues (before : schema.OfStatements) {draft : Draft} (reported : draft.Reported) :
    (schema.addIssues draft).OfStatements := by
  refine before.addErrors fun issue member => ?_
  have clausal := (reported.errors issue member).kind
  exact List.mem_of_mem_drop (i := 3) clausal

theorem OfStatements.readTable (before : schema.OfStatements) (statement : Text) :
    (schema.readTable statement).OfStatements := by
  unfold Schema.readTable
  split
  · exact before
  · exact before
  · next name body _ =>
    have reported := (Draft.reported_ofTable (.empty name)).readBody body
    split
    · exact before.addErrors (by simp [Issue.duplicateTable, statementKinds])
    · split
      · next built =>
        rw [built] at reported
        exact (before.addIssues reported).addErrors (by simp [Issue.unreadableTable, statementKinds])
      · next built =>
        rw [built] at reported
        exact before.addIssues reported

theorem OfStatements.readAlteration (before : schema.OfStatements) (statement : Text) :
    (schema.readAlteration statement).OfStatements := by
  unfold Schema.readAlteration applyAlteration
  split
  · exact before
  · next alteration _ =>
    split
    · exact before.addErrors (by simp [Issue.missingAlteredTable, statementKinds])
    · next table _ =>
      exact before.addIssues ((Draft.reported_ofTable table).foldl (fun _ clause kept => kept.readConstraint clause)
        (alteration.clauses.filter Draft.isConstraintClause))

theorem OfStatements.drawRelationships (before : schema.OfStatements) : schema.drawRelationships.OfStatements := before

end Kinds

theorem ofStatements_readParts (script : Text) : (Script.readParts script).OfStatements := by
  have start : empty.OfStatements := List.forall_mem_nil _
  have tables := List.foldlRecOn (Script.statements script) readTable start
    fun _ before statement _ => before.readTable statement
  have alterations := List.foldlRecOn (Script.statements script) readAlteration tables
    fun _ before statement _ => before.readAlteration statement
  unfold OfStatements Script.readParts
  rw [errors_readIndexes]
  exact alterations

/-- What the checks find missing is of another kind than the names that they refuse. -/
theorem filter_violations (schema : Schema) :
    schema.violations.filter (·.kind.label == "INVALID_TABLE_NAME") =
      (schema.tables.names.filter (!isValidTableName ·)).map .invalidTableName := by
  have missing :
      (schema.links.filterMap schema.missingTarget?).filter (·.kind.label == "INVALID_TABLE_NAME") = [] := by
    refine List.filter_eq_nil_iff.mpr fun issue member => ?_
    obtain ⟨link, _, found⟩ := List.mem_filterMap.mp member
    rw [kind_of_missingTarget? found]
    decide
  have names : ∀ issue ∈ (schema.tables.names.filter (!isValidTableName ·)).map Issue.invalidTableName,
      (issue.kind.label == "INVALID_TABLE_NAME") = true := List.forall_mem_map.mpr fun _ _ => rfl
  rw [violations, List.filter_append, missing, List.nil_append, List.filter_eq_self.mpr names]

end Schema

namespace Script

theorem filter_errors (script : String) :
    (read script).errors.filter (·.kind.label == "INVALID_TABLE_NAME") =
      ((read script).tables.names.filter fun name => !Text.isTableName name.toList).map .invalidTableName := by
  have raised : (readUnchecked script).errors.filter (·.kind.label == "INVALID_TABLE_NAME") = [] := by
    refine List.filter_eq_nil_iff.mpr fun issue member => ?_
    have others : ∀ kind ∈ Schema.statementKinds, ¬(kind.label == "INVALID_TABLE_NAME") = true := by decide
    have before := (Schema.ofStatements_readParts (normalized script.toList)).drawRelationships
    exact others issue.kind (before issue member)
  have lines : ∀ name ∈ (read script).tables.names,
      (!Schema.isValidTableName name) = !Text.isTableName name.toList :=
    List.forall_mem_map.mpr fun table known =>
      congrArg _ (Schema.isValidTableName_of_isLine (singleLine_of_read known).name)
  have errors : (read script).errors = (readUnchecked script).errors ++ (readUnchecked script).violations := rfl
  have checked (parts : Schema) : parts.validated.counted.tables = parts.tables := rfl
  have names : (readUnchecked script).tables = (read script).tables := (checked _).symm
  rw [errors, List.filter_append, raised, List.nil_append, Schema.filter_violations, names, List.filter_congr lines]

/-- The reports of invalid names are those of the tables without a short identifier for their name, in their order and
once each, so a name that is not reported has no blank in it. -/
theorem invalid_names_reported (script : String) :
    (read script).errors.filter (·.kind.label == "INVALID_TABLE_NAME") =
        ((read script).tables.names.filter fun name => !Text.isTableName name.toList).map .invalidTableName ∧
      (((read script).errors.filter (·.kind.label == "INVALID_TABLE_NAME")).map Issue.table).Nodup ∧
      ∀ name ∈ (read script).tables.names, Issue.invalidTableName name ∉ (read script).errors →
        ∀ c ∈ name.toList, Text.isBlank c = false := by
  refine ⟨filter_errors script, ?_, ?_⟩
  · rw [filter_errors, List.map_map]
    exact ((read script).tables.distinct.filter _).map fun _ _ => Option.some.inj
  · intro name known unreported
    have accepted : Text.isTableName name.toList = true := by
      by_contra refused
      have listed : Issue.invalidTableName name ∈
          (read script).errors.filter (·.kind.label == "INVALID_TABLE_NAME") := by
        rw [filter_errors]
        exact List.mem_map_of_mem (List.mem_filter.mpr ⟨known, by simpa using refused⟩)
      exact unreported (List.mem_of_mem_filter listed)
    have identifier := (Bool.and_eq_true_iff.mp accepted).1
    exact fun c inside => Text.isBlank_of_isPlain (Text.isPlain_of_isIdentifier identifier c inside)

theorem invalid_names_reported_between :
    let script := "CREATE TABLE [1a] (x int); CREATE TABLE b_2 (x int); CREATE TABLE \"c\n\td\" (x int);"
    (read script).errors.filter (·.kind.label == "INVALID_TABLE_NAME") =
        [.invalidTableName "1a", .invalidTableName "c d"] ∧
      "b_2" ∈ (read script).tables.names ∧ Issue.invalidTableName "b_2" ∉ (read script).errors ∧
      ∀ c ∈ "b_2".toList, Text.isBlank c = false := by
  intro script
  obtain ⟨reported, _, solid⟩ := invalid_names_reported script
  have refused : ((read script).tables.names.filter fun name => !Text.isTableName name.toList) = ["1a", "c d"] := by
    decide +kernel
  have listed : "b_2" ∈ (read script).tables.names := by decide +kernel
  have accepted : Issue.invalidTableName "b_2" ∉ (read script).errors := by decide +kernel
  rw [refused] at reported
  exact ⟨reported, listed, accepted, solid "b_2" listed accepted⟩

end Script
end SchemaAtlas
