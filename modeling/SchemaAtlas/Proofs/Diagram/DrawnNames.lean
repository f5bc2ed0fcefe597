import SchemaAtlas.Proofs.Diagram.DotReading
import SchemaAtlas.Proofs.Diagram.ScriptDrawing
import SchemaAtlas.Proofs.Schema.TypeTexts
/-!
The texts of a drawing of a script, all of which can be quoted: identifiers, words for the eye, types with what is put
around them, and the names of columns as far as they have no open end.
-/
namespace SchemaAtlas

namespace Text

theorem isLine_of_plain {text : Text} (plain : ∀ c ∈ text, isPlain c = true ∨ c = ' ') : IsLine text := by
  intro c member blank
  rcases plain c member with word | space
  · rw [isBlank_of_isPlain word] at blank
    cases blank
  · exact space

theorem not_endingSign_of_plain {c : Char} (plain : isPlain c = true ∨ c = ' ') : c ∉ endingSigns := by
  rcases plain with word | rfl
  · exact ascii_induction (fun c => isPlain c = true → c ∉ endingSigns) (by decide) (ascii_of_isPlain word) word
  · decide

theorem isPlain_toUpper {c : Char} (plain : isPlain c = true) : isPlain c.toUpper = true :=
  ascii_induction (fun c => isPlain c = true → isPlain c.toUpper = true) (by decide) (ascii_of_isPlain plain) plain

theorem isPlain_toLower {c : Char} (plain : isPlain c = true) : isPlain c.toLower = true :=
  ascii_induction (fun c => isPlain c = true → isPlain c.toLower = true) (by decide) (ascii_of_isPlain plain) plain

end Text

namespace Dot
variable {text : Text}

theorem not_endsOpen_concat {c : Char} (other : c ≠ '\\') : ¬EndsOpen (text ++ [c]) := by
  simp [EndsOpen, other]

theorem not_endsOpen_of_last (last : ∀ c ∈ text.getLast?, c ≠ '\\') : ¬EndsOpen text := by
  rcases List.eq_nil_or_concat text with rfl | ⟨front, c, rfl⟩
  · simp [EndsOpen]
  · rw [List.concat_eq_append]
    exact not_endsOpen_concat (last c (by simp))

theorem Nameable.of_unmarked (line : Text.IsLine text) (closed : ¬EndsOpen text)
    (unmarked : (markup.match? text).isSome = false) : Nameable text := by
  refine ⟨⟨line, closed, fun marked => ?_⟩, unmarked⟩
  rw [unmarked] at marked
  cases marked

/-- A line that ends in none of the signs is read as it is between quotation marks, or without them. -/
theorem nameable_of_isShut (line : Text.IsLine text) (shut : Text.IsShut text) : Nameable text := by
  refine .of_unmarked line (not_endsOpen_of_last fun c final same => shut c final (by rw [same]; decide)) ?_
  by_contra marked
  obtain ⟨inner, rfl⟩ := markup_some line (Bool.not_eq_false _ ▸ marked)
  exact shut '>' (by rw [← List.cons_append, List.getLast?_concat]; rfl) (by decide)

theorem nameable_of_plain (plain : ∀ c ∈ text, Text.isPlain c = true ∨ c = ' ') : Nameable text :=
  nameable_of_isShut (Text.isLine_of_plain plain) fun c last =>
    Text.not_endingSign_of_plain (plain c (List.mem_of_getLast? last))

theorem joinable_of_isBare (bare : Text.IsBare text) : Joinable text := by
  refine ⟨nameable_of_plain fun c member => Or.inl (bare.2 c member), fun member => ?_⟩
  exact absurd (bare.2 _ member) (by decide)

theorem sound_settings {values : List Setting}
    (each : ∀ value ∈ values, ∀ text ∈ [value.1.toList, value.2.toList], Text.IsLine text ∧ Text.IsShut text) :
    ∀ value ∈ values, SoundSetting value := by
  intro value member
  have nameable : ∀ text ∈ [value.1.toList, value.2.toList], Nameable text := fun text written =>
    nameable_of_isShut (each value member text written).1 (each value member text written).2
  obtain ⟨key, shown⟩ := List.forall_mem_cons.mp nameable
  exact ⟨key, (List.forall_mem_singleton.mp shown).toQuotable⟩

theorem sound_label {text : String} (quotable : Quotable text.toList) : SoundSetting ("label", text) :=
  ⟨@nameable_of_isShut "label".toList (by decide) (by decide), quotable⟩

end Dot

namespace DisplayName

/-- Words leave out the characters of the other kind. -/
theorem flatten_words (name : Text) : (words name).flatten = name.filter (kind · != .other) := by
  induction name with
  | nil => rfl
  | cons c rest ih =>
    rw [words]
    by_cases other : kind c = .other
    · rw [if_pos (by simp [other]), List.filter_cons_of_neg (by simp [other]), ih]
    · rw [if_neg (by simpa using other), List.filter_cons_of_pos (by simpa using other), ← ih]
      split
      · exact Text.flatten_extendFirst c _
      · rfl

/-- Words have the characters of the name, in capitals or not. -/
theorem plain_ofName {name : Text} (plain : ∀ c ∈ name, Text.isPlain c = true) :
    ∀ c ∈ ofName name, Text.isPlain c = true ∨ c = ' ' := by
  have capitalized (word : Text) (each : ∀ c ∈ word, Text.isPlain c = true) :
      ∀ c ∈ capitalized word, Text.isPlain c = true ∨ c = ' ' := by
    cases word with
    | nil => exact List.forall_mem_nil _
    | cons c rest =>
      obtain ⟨here, there⟩ := List.forall_mem_cons.mp each
      exact List.forall_mem_cons.mpr ⟨Or.inl (Text.isPlain_toUpper here),
        List.forall_mem_map.mpr fun d member => Or.inl (Text.isPlain_toLower (there d member))⟩
  intro c member
  rcases mem_of_mem_intercalate member with space | ⟨word, listed, inside⟩
  · exact Or.inr (List.mem_singleton.mp space)
  · obtain ⟨part, cut, rfl⟩ := List.mem_map.mp listed
    have each : ∀ c ∈ part, Text.isPlain c = true := fun c shown =>
      plain c (List.filter_sublist.subset (flatten_words name ▸ List.mem_flatten.mpr ⟨part, cut, shown⟩))
    exact capitalized part each c inside

end DisplayName

namespace Drawing

section Names
variable {table : Table} {column : Column}

theorem nameable_displayName (named : Text.isIdentifier table.name.toList = true) :
    Dot.Nameable table.toEntity.displayName.toList := by
  have plain := Text.isPlain_of_isIdentifier named
  unfold Table.toEntity Entity.make
  dsimp only
  split
  · exact Dot.nameable_of_plain fun c member => Or.inl (plain c member)
  · rw [String.toList_ofList]
    exact Dot.nameable_of_plain (DisplayName.plain_ofName plain)

/-- A label ends like the type of its column, or with the bracket behind a key. -/
theorem nameable_attributeLabel (line : column.SingleLine) (closes : column.type.Closes) :
    Dot.Nameable (attributeLabel column.toAttribute).toList := by
  have key : column.keyLabel ∈ ["PK", "FK", "UQ", ""] := by
    unfold Column.keyLabel
    split
    · decide
    split
    · decide
    split <;> decide
  have behind : ∀ key ∈ ["PK", "FK", "UQ", ""],
      Text.IsLine (if key == "" then "" else "\\n[" ++ key ++ "]").toList ∧
        Text.IsShut (if key == "" then "" else "\\n[" ++ key ++ "]").toList := by
    decide
  obtain ⟨behind_line, behind_shut⟩ := behind _ key
  have gap : Text.IsLine "\\n".toList := by decide
  have written : (attributeLabel column.toAttribute).toList = column.name.toList ++ "\\n".toList ++
      column.type.display.toList ++
        (if column.keyLabel == "" then "" else "\\n[" ++ column.keyLabel ++ "]").toList := by
    rw [attributeLabel, String.toList_append, String.toList_append, String.toList_append]
    rfl
  have name_shut : Text.IsShut (column.name.toList ++ "\\n".toList) := by
    have ends : "\\n".toList = ['\\'] ++ ['n'] := rfl
    rw [ends, ← List.append_assoc]
    exact Text.isShut_concat (by decide)
  have whole := ((line.name.append gap).append (DataType.isLine_display line.type)).append behind_line
  rw [written]
  exact Dot.nameable_of_isShut whole ((name_shut.append closes).append behind_shut)

theorem joinable_attributeId (named : Text.isIdentifier table.name.toList = true)
    (line : Text.IsLine column.name.toList) (whole : ':' ∉ column.name.toList)
    (closed : ¬Dot.EndsOpen column.name.toList) :
    Dot.Joinable (attributeId table.toEntity column.toAttribute).toList := by
  obtain ⟨filled, plain⟩ := Text.isBare_of_isIdentifier named
  have joining : Text.IsBare "__".toList := by decide
  have front : ∀ c ∈ table.name.toList ++ "__".toList, Text.isPlain c = true :=
    List.forall_mem_append.mpr ⟨plain, joining.2⟩
  have front_named : Dot.Nameable (table.name.toList ++ "__".toList) :=
    Dot.nameable_of_plain fun c member => Or.inl (front c member)
  have all_line : Text.IsLine (Sketch.ellipse table.name.toList column.name.toList) := front_named.line.append line
  have unmarked : (Dot.markup.match? (Sketch.ellipse table.name.toList column.name.toList)).isSome = false := by
    by_contra marked
    obtain ⟨inner, same⟩ := Dot.markup_some all_line (Bool.not_eq_false _ ▸ marked)
    obtain ⟨first, rest, begins⟩ := List.exists_cons_of_ne_nil filled
    rw [Sketch.ellipse, begins] at same
    have bracket : first = '<' := (List.cons.inj same).1
    exact absurd (plain first (begins ▸ List.mem_cons_self)) (by rw [bracket]; decide)
  rw [toList_attributeId]
  refine ⟨.of_unmarked all_line ?_ unmarked, fun member => ?_⟩
  · rwa [Sketch.ellipse, Dot.endsOpen_append front_named.closed]
  · rcases List.mem_append.mp member with here | there
    · exact absurd (front _ here) (by decide)
    · exact whole there

end Names

/-- No column has a colon or an open end in its name, and labels of relationships are balanced if they are markup. -/
structure Legible (schema : Schema) : Prop where
  whole : ∀ table ∈ schema.tables.entries, ∀ column ∈ table.columns.entries, ':' ∉ column.name.toList
  closed : ∀ table ∈ schema.tables.entries, ∀ column ∈ table.columns.entries, ¬Dot.EndsOpen column.name.toList
  balanced : ∀ relationship ∈ schema.relationships, Dot.Balanced relationship.toLink.label.toList

theorem isBare_diamondId (position : Nat) : Text.IsBare (diamondId position).toList := by
  have prefixed : Text.IsBare "rel_".toList := by decide
  rw [toList_diamondId]
  exact ⟨List.append_ne_nil_of_left_ne_nil prefixed.1 _, List.forall_mem_append.mpr ⟨prefixed.2, fun c member =>
    Numeral.isPlain_of_isDigit (Numeral.isDigit_of_mem member)⟩⟩

theorem sound_layout : ∀ item ∈ layout, item.Sound := by
  have settings : Dot.Item.Sound (.single (.settings [("rankdir", "TB")])) := Dot.sound_settings (by decide)
  refine List.forall_mem_cons.mpr ⟨settings, List.forall_mem_cons.mpr ⟨⟨by decide, ?_⟩,
    List.forall_mem_singleton.mpr ⟨by decide, ?_⟩⟩⟩
  · exact Dot.sound_settings (by decide)
  · exact Dot.sound_settings (by decide)

theorem sound_ofSchema {schema : Schema} {name : String} (titled : Dot.Quotable name.toList)
    (entities : ∀ table ∈ schema.tables.entries, (entityItem table.toEntity).Sound)
    (links : ∀ relationship ∈ schema.relationships, ∀ position, ∀ item ∈ linkItems position relationship.toLink,
      item.Sound) : (graph name (Diagram.ofSchema schema)).Sound := by
  have drawn : ∀ link ∈ (Diagram.ofSchema schema).links, ∀ position, ∀ item ∈ linkItems position link, item.Sound :=
    List.forall_mem_map.mpr links
  refine ⟨titled, List.forall_mem_append.mpr ⟨List.forall_mem_append.mpr ⟨sound_layout, ?_⟩, fun item member => ?_⟩⟩
  · exact List.forall_mem_map.mpr (List.forall_mem_map.mpr entities)
  · obtain ⟨items, listed, inside⟩ := List.mem_flatten.mp member
    obtain ⟨position, low, rfl⟩ := List.mem_mapIdx.mp listed
    exact drawn _ (List.getElem_mem low) position item inside

section Sound
variable {script : String} (legible : Legible (Script.read script))
include legible

/-- A label that is a line and is balanced ends as the column does that it leads to. -/
theorem quotable_label {relationship : Relationship} (drawn : relationship ∈ (Script.read script).relationships) :
    Dot.Quotable relationship.toLink.label.toList := by
  obtain ⟨_, _, _, _, target, known, column, inside, _, _, _, same⟩ := Script.ends_of_mem drawn
  have spaced : ¬Dot.EndsOpen (relationship.column ++ " → ").toList := by
    have ends : " → ".toList = [' ', '→'] ++ [' '] := rfl
    rw [String.toList_append, ends, ← List.append_assoc]
    exact Dot.not_endsOpen_concat (by decide)
  refine ⟨Script.isLine_label drawn, ?_, legible.balanced relationship drawn⟩
  rw [Relationship.toLink, String.toList_append, Dot.endsOpen_append spaced, same]
  exact legible.closed target known column inside

variable (success : (Script.read script).success = true)
include success

theorem sound_attributes {table : Table} (known : table ∈ (Script.read script).tables.entries) {column : Column}
    (inside : column ∈ table.columns.entries) :
    ∀ statement ∈ attributeStatements table.toEntity column.toAttribute, statement.Sound := by
  have named := Script.isIdentifier_of_success success known
  have line := (Script.singleLine_of_read known).columns column inside
  have joinable := joinable_attributeId named line.name (legible.whole table known column inside)
    (legible.closed table known column inside)
  have label := nameable_attributeLabel line (Script.typesClose_of_read known column inside)
  have shown := Dot.sound_label label.toQuotable
  refine List.forall_mem_cons.mpr ⟨⟨joinable.toNameable, ?_⟩, List.forall_mem_singleton.mpr ⟨?_, joinable, ?_⟩⟩
  · split
    · exact List.forall_mem_cons.mpr ⟨shown, Dot.sound_settings (by decide)⟩
    · exact List.forall_mem_cons.mpr ⟨shown, Dot.sound_settings (by split <;> split <;> decide)⟩
  · exact Dot.joinable_of_isBare (Text.isBare_of_isIdentifier named)
  · exact Dot.sound_settings (by decide)

theorem sound_entityItem {table : Table} (known : table ∈ (Script.read script).tables.entries) :
    (entityItem table.toEntity).Sound := by
  have named := Script.isIdentifier_of_success success known
  have plain := Text.isPlain_of_isIdentifier named
  have title : Dot.Nameable ("cluster_" ++ table.name).toList := by
    have prefixed : Text.IsBare "cluster_".toList := by decide
    rw [String.toList_append]
    exact Dot.nameable_of_plain fun c member => Or.inl (List.forall_mem_append.mpr ⟨prefixed.2, plain⟩ c member)
  have label := Dot.sound_label (nameable_displayName named).toQuotable
  refine ⟨title.toQuotable, List.forall_mem_cons.mpr ⟨Dot.sound_settings (by decide), List.forall_mem_cons.mpr
    ⟨⟨Dot.nameable_of_plain fun c member => Or.inl (plain c member), ?_⟩, List.forall_mem_flatMap.mpr ?_⟩⟩⟩
  · exact List.forall_mem_cons.mpr ⟨label, Dot.sound_settings (by decide)⟩
  · exact List.forall_mem_map.mpr fun column shown =>
      sound_attributes legible success known (List.mem_mergeSort.mp shown)

theorem sound_linkItems {relationship : Relationship} (drawn : relationship ∈ (Script.read script).relationships)
    (position : Nat) : ∀ item ∈ linkItems position relationship.toLink, item.Sound := by
  obtain ⟨source, source_known, _, _, target, target_known, _, _, source_name, _, target_name, _⟩ :=
    Script.ends_of_mem drawn
  have joinable := Dot.joinable_of_isBare (isBare_diamondId position)
  have from_table : Dot.Joinable relationship.table.toList := by
    rw [source_name]
    exact Dot.joinable_of_isBare (Text.isBare_of_isIdentifier (Script.isIdentifier_of_success success source_known))
  have to_table : Dot.Joinable relationship.target.table.toList := by
    rw [target_name]
    exact Dot.joinable_of_isBare (Text.isBare_of_isIdentifier (Script.isIdentifier_of_success success target_known))
  have kind : relationship.toLink.kind = relationship.cardinality.label := rfl
  refine List.forall_mem_cons.mpr ⟨⟨joinable.toNameable, ?_⟩, List.forall_mem_cons.mpr ⟨⟨from_table, joinable, ?_⟩,
    List.forall_mem_singleton.mpr ⟨joinable, to_table, ?_⟩⟩⟩
  · rw [kind]
    refine Dot.sound_settings ?_
    cases relationship.cardinality <;> decide
  · rw [kind]
    refine List.forall_mem_cons.mpr ⟨Dot.sound_label (quotable_label legible drawn), Dot.sound_settings ?_⟩
    cases relationship.cardinality <;> decide
  · rw [kind]
    refine Dot.sound_settings ?_
    cases relationship.cardinality <;> decide

theorem sound_graph {name : String} (titled : Dot.Quotable name.toList) :
    (graph name (Diagram.ofSchema (Script.read script))).Sound :=
  sound_ofSchema titled (fun _ known => sound_entityItem legible success known)
    fun _ drawn position => sound_linkItems legible success drawn position

end Sound

end Drawing
end SchemaAtlas
