import SchemaAtlas.Dictionary.Row
import SchemaAtlas.Proofs.Schema.Lines
/-!
The texts of the data dictionary are lines, as those of the schema are.
-/
namespace SchemaAtlas.Dictionary

theorem isLine_orDash {separator : String} {texts : List String} (between : Text.IsLine separator.toList)
    (each : ∀ text ∈ texts, Text.IsLine text.toList) : Text.IsLine (orDash separator texts).toList := by
  unfold orDash
  split
  · decide
  · rw [String.toList_intercalate]
    exact .intercalate between (List.forall_mem_map.mpr each)

theorem isLine_lengthText {type : DataType} (line : type.SingleLine) : Text.IsLine (lengthText type).toList := by
  have comma : Text.IsLine (toString ",").toList := by decide
  unfold lengthText
  split
  · rw [String.toList_append, String.toList_append]
    exact ((Text.isLine_toString _).append comma).append (Text.isLine_toString _)
  · exact Text.isLine_toString _
  · split
    · decide
    · rw [String.toList_ofList]
      exact line.full.of_subset (List.Subset.trans (List.dropLast_sublist _).subset (List.drop_subset _ _))

theorem isLine_keyText (column : Column) : Text.IsLine (keyText column).toList := by
  unfold keyText
  cases column.isPrimaryKey <;> cases column.isForeignKey <;> cases column.isUnique <;> decide

theorem isLine_defaultText {column : Column} (line : column.SingleLine) : Text.IsLine (defaultText column).toList := by
  unfold defaultText
  split
  · next value given => exact line.default value given
  · split <;> decide

theorem isLine_targetText {target : Reference} (line : target.SingleLine) : Text.IsLine (targetText target).toList := by
  have arrow : Text.IsLine "→ ".toList := by decide
  have dot : Text.IsLine ".".toList := by decide
  rw [targetText, String.toList_append, String.toList_append, String.toList_append]
  exact ((arrow.append line.table).append dot).append line.column

theorem isLine_numberText (number : Option Int) : Text.IsLine (numberText number).toList := by
  cases number with
  | none => decide
  | some number => exact Text.isLine_toString number

theorem isLine_identityText (column : Column) : Text.IsLine (identityText column).toList := by
  have opening : Text.IsLine "IDENTITY(".toList := by decide
  have comma : Text.IsLine ",".toList := by decide
  have closing : Text.IsLine ")".toList := by decide
  rw [identityText, String.toList_append, String.toList_append, String.toList_append, String.toList_append]
  exact (((opening.append (isLine_numberText _)).append comma).append (isLine_numberText _)).append closing

theorem isLine_notesText {column : Column} (line : column.SingleLine) : Text.IsLine (notesText column).toList := by
  have separator : Text.IsLine "; ".toList := by decide
  refine isLine_orDash separator (List.forall_mem_append.mpr ⟨?_, fun text member => ?_⟩)
  · split
    · exact List.forall_mem_singleton.mpr (isLine_identityText column)
    · exact List.forall_mem_nil _
  · obtain ⟨target, given, rfl⟩ := Option.map_eq_some_iff.mp (Option.mem_toList.mp member)
    exact isLine_targetText (line.target target given)

theorem isLine_cells {column : Column} (line : column.SingleLine) :
    ∀ cell ∈ (Row.ofColumn column).cells, Text.IsLine cell.toList := by
  have nullable : Text.IsLine (if column.isNullable then "Yes" else "No").toList := by
    split <;> decide
  simp only [Row.ofColumn, Row.cells, List.forall_mem_cons, List.not_mem_nil, false_imp_iff, implies_true, and_true]
  exact ⟨line.name, line.type.base, isLine_lengthText line.type, nullable, isLine_keyText column,
    isLine_defaultText line, isLine_notesText line⟩

theorem isLine_foreignKeyNote {table : Table} (line : table.SingleLine) :
    Text.IsLine (foreignKeyNote table).toList := by
  have separator : Text.IsLine "; ".toList := by decide
  have blank : Text.IsLine " ".toList := by decide
  rw [foreignKeyNote, String.toList_intercalate]
  refine .intercalate separator (List.forall_mem_map.mpr fun text member => ?_)
  obtain ⟨column, declared, written⟩ := List.mem_filterMap.mp member
  obtain ⟨target, given, rfl⟩ := Option.map_eq_some_iff.mp written
  have single := line.columns column declared
  rw [String.toList_append, String.toList_append]
  exact (single.name.append blank).append (isLine_targetText (single.target target given))

theorem isLine_heading (position : Nat) {table : Table} (line : table.SingleLine) :
    Text.IsLine (heading position table).toList := by
  have front : Text.IsLine (toString "Table ").toList := by decide
  have colon : Text.IsLine (toString ": ").toList := by decide
  have number : Text.IsLine (toString (position + 1)).toList := Text.isLine_toString (position + 1 : Nat)
  rw [heading, String.toList_append, String.toList_append, String.toList_append]
  exact ((front.append number).append colon).append line.name

end SchemaAtlas.Dictionary
