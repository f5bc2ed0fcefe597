import SchemaAtlas.Proofs.Clause.ColumnHead
import SchemaAtlas.Proofs.Printing.Attributes
/-!
Reading a printed column: its name, its type and its attributes are found again.
-/
namespace SchemaAtlas
open Text Pattern Cursor

namespace DataType

theorem baseName_bare {name : Text} (bare : IsBare name) : baseName name = String.ofList (capitals name) := by
  have ascii : ∀ c ∈ name, c.toNat < 128 := fun c member => ascii_of_isPlain (bare.2 c member)
  obtain ⟨c, others, rfl⟩ := List.exists_cons_of_ne_nil bare.1
  rw [baseName, Name.clean_word bare.word, uppercase_of_ascii ascii]
  rfl

section Digits
variable (number : Nat)

theorem argumentText_digits : argumentText (Numeral.digits number) = Numeral.digits number := by
  have unchanged : capitals (Numeral.digits number) = Numeral.digits number := by
    unfold capitals
    apply (List.map_congr_left ?_).trans (List.map_id _)
    intro c member
    exact Numeral.digit_induction (Numeral.isDigit_of_mem member) (fun c => c.toUpper = c) (by decide)
  have bare := Numeral.bare_digits number
  unfold argumentText
  split
  · rw [uppercase_of_ascii fun c member => ascii_of_isPlain (bare.2 c member), unchanged]
  · rfl

theorem isDigits_digits : isDigits (Numeral.digits number) = true := by
  have all : (Numeral.digits number).all Text.isDigit = true := by
    rw [List.all_eq_true]
    intro c member
    simp [Text.isDigit, Numeral.isDecimalDigit_of_isDigit (Numeral.isDigit_of_mem member)]
  simp [isDigits, all, (Numeral.bare_digits number).1]

theorem splitArguments_digits : splitArguments (Numeral.digits number) = [Numeral.digits number] := by
  have bare := Numeral.bare_digits number
  rw [splitArguments, Name.fields_absent (bare.not_mem (by decide)), List.map_singleton, Name.trim_word bare.word]

theorem splitArguments_pair (scale : Nat) :
    splitArguments (Numeral.digits number ++ ',' :: Numeral.digits scale) =
      [Numeral.digits number, Numeral.digits scale] := by
  have bare := Numeral.bare_digits number
  have other := Numeral.bare_digits scale
  rw [splitArguments, Name.fields_append (bare.not_mem (by decide)),
    Name.fields_absent (other.not_mem (by decide)), List.map_cons, List.map_singleton, Name.trim_word bare.word,
    Name.trim_word other.word]

theorem fullText_digits (base : String) : fullText base [Numeral.digits number] = s!"{base}({number})" := by
  have shown : String.ofList (Numeral.digits number) = toString number :=
    Nat.toString_eq_ofList_toDigits.symm
  rw [fullText, List.map_singleton, argumentText_digits, List.intercalate_singleton, shown]
  rfl

theorem fullText_pair (base : String) (scale : Nat) :
    fullText base [Numeral.digits number, Numeral.digits scale] = s!"{base}({number},{scale})" := by
  have shown : ∀ number, String.ofList (Numeral.digits number) = toString number :=
    fun number => Nat.toString_eq_ofList_toDigits.symm
  have joined : String.ofList ([','].intercalate [Numeral.digits number, Numeral.digits scale]) =
      toString number ++ "," ++ toString scale := by
    rw [List.intercalate_cons_cons, List.intercalate_singleton, String.ofList_append, String.ofList_append,
      shown, shown]
  rw [fullText, List.map_cons, List.map_singleton, argumentText_digits, argumentText_digits, joined]
  change _ = base ++ "(" ++ toString number ++ "," ++ toString scale ++ ")"
  simp only [String.append_assoc]

end Digits
end DataType

namespace Printing
open Phrase

theorem read_dataType (column : ColumnDescription) :
    DataType.read column.type.text (column.arguments.map argumentText) = .ok column.dataType := by
  unfold DataType.read ColumnDescription.dataType
  rw [DataType.baseName_bare column.type.bare]
  rcases column.arguments with _ | ⟨size, _ | scale⟩
  · rfl
  · simp only [Option.map_some, argumentText, DataType.splitArguments_digits, List.all_cons, List.all_nil,
      DataType.isDigits_digits, Numeral.read_digits size.short, DataType.fullText_digits]
    rfl
  · simp only [Option.map_some, argumentText, DataType.splitArguments_pair, List.all_cons, List.all_nil,
      DataType.isDigits_digits, Numeral.read_digits size.short, Numeral.read_digits scale.short,
      DataType.fullText_pair]
    rfl

/-- A name is none of the keywords. -/
theorem Identifier.not_ahead (name : Identifier) {keyword : String} (reserved : keyword ∈ keywords)
    (key : IsKeyword keyword) {before rest : Text} (outside : beginsWord rest = false) :
    ¬WordAhead (Keyed keyword) before (name.text ++ rest) := by
  apply not_wordAhead name.bare outside
  intro folds
  exact name.free keyword reserved
    (spells_of_folds key (fun c member => ascii_of_isPlain (name.bare.2 c member)) folds)

namespace ColumnDescription
variable {column : ColumnDescription} {text : Text}

theorem startsWithKeyword_attributes (column : ColumnDescription) :
    startsWithKeyword column.attributeLexemes = true := by
  have flag : ∀ (present : Bool) {keyword : String} {others : List Lexeme},
      startsWithKeyword (when present (.keyword keyword :: others)) = true := by
    intro present keyword others
    cases present <;> rfl
  unfold attributeLexemes flagLexemes identityLexemes referenceLexemes
  apply startsWithKeyword_append
  · exact startsWithKeyword_append (flag _) (startsWithKeyword_append (flag _) (flag _))
  · apply startsWithKeyword_append
    · cases column.identity <;> rfl
    · cases column.references <;> rfl

omit column text in
theorem flat_arguments (numbers : Size × Option Size) : ∀ c ∈ argumentText numbers, c ≠ '(' ∧ c ≠ ')' := by
  have digit : ∀ {number : Nat} {c : Char}, c ∈ Numeral.digits number → c ≠ '(' ∧ c ≠ ')' :=
    fun member => Numeral.digit_induction (Numeral.isDigit_of_mem member)
      (fun c => c ≠ '(' ∧ c ≠ ')') (by decide)
  obtain ⟨size, scale⟩ := numbers
  intro c member
  cases scale with
  | none => exact digit member
  | some scale =>
    rcases List.mem_append.mp member with here | later
    · exact digit here
    · rcases List.mem_cons.mp later with rfl | there
      · decide
      · exact digit there

/-- What a printed column begins with. -/
def head (column : ColumnDescription) : ColumnHead where
  name := column.name.text
  spelled := .plain column.name.bare.word
  gap := [' ']
  filled := List.cons_ne_nil _ _
  blank := isBlank_space
  type := column.type.text
  word := column.type.bare.word
  arguments := column.arguments.map fun numbers =>
    ⟨[], fun _ member => absurd member List.not_mem_nil, argumentText numbers, flat_arguments numbers⟩

theorem columnName_head (column : ColumnDescription) : column.head.columnName = column.name.name := by
  unfold ColumnHead.columnName head
  rw [Name.clean_word column.name.bare.word, Identifier.name]

theorem inner_head (column : ColumnDescription) :
    column.head.arguments.map ArgumentList.inner = column.arguments.map argumentText := by
  unfold head
  rw [Option.map_map]
  rfl

theorem argumentText_head {arguments : Text} (spelled : Spelled column.argumentLexemes arguments) :
    column.head.argumentText = arguments := by
  unfold argumentLexemes at spelled
  unfold ColumnHead.argumentText head
  cases given : column.arguments with
  | none =>
    rw [given] at spelled
    exact (spelled_nil.mp spelled).symm
  | some numbers =>
    rw [given] at spelled
    obtain ⟨tail, finished, rfl⟩ := spelled_group.mp spelled
    obtain rfl := spelled_nil.mp finished
    rfl

theorem split_lexemes (printed : Prints column.lexemes text) :
    ∃ body, Spelled column.attributeLexemes body ∧ text = column.head.text ++ body := by
  obtain ⟨rest, behind, same⟩ := spelled_name.mp printed
  obtain ⟨tail, finished, rfl⟩ := spelled_name.mp behind
  obtain ⟨arguments, body, first, second, rfl⟩ := spelled_append.mp finished
  refine ⟨body, second, (List.cons.inj same).2.trans ?_⟩
  rw [ColumnHead.text_append, argumentText_head first]
  rfl

/-- The attributes begin with a space and a letter, if there are any. -/
theorem precedes_attributes {body : Text} (spelled : Spelled column.attributeLexemes body) :
    column.head.Precedes body := by
  refine fun _ => ⟨spelled.outside, ?_⟩
  rcases spelled.start column.allSound_attributes column.startsWithKeyword_attributes with
    rfl | ⟨c, more, plain, rfl⟩
  · exact ColumnHead.not_argumentsAhead_nil
  · apply ColumnHead.not_argumentsAhead (isBlank_of_isPlain plain)
    rintro rfl
    cases plain

theorem not_isConstraintClause (printed : Prints column.lexemes text) :
    Draft.isConstraintClause text = false := by
  obtain ⟨body, _, rfl⟩ := split_lexemes printed
  rw [← Bool.not_eq_true]
  intro found
  obtain ⟨keyword, member, ahead⟩ := constraintClause_ahead found
  -- A clause would begin with a keyword, and the name of the column is none.
  have each : ∀ keyword ∈ ["CONSTRAINT", "FOREIGN", "PRIMARY", "UNIQUE", "CHECK"],
      keyword ∈ keywords ∧ IsKeyword keyword := by decide
  obtain ⟨reserved, key⟩ := each keyword member
  rw [ColumnHead.text_append] at ahead
  exact column.name.not_ahead reserved key rfl ahead

/-- A printed column is read as what it describes, unless its name is taken. -/
theorem read_column (printed : Prints column.lexemes text) {taken : Roster Column}
    (fresh : taken.has column.name.name = false) :
    Column.read taken text = .accepted column.plainColumn none := by
  have about := not_isConstraintClause printed
  have trimmed := printed.trim column.allSound_lexemes
  obtain ⟨body, spelled, rfl⟩ := split_lexemes printed
  have named := column.columnName_head
  have read := ColumnHead.read_head (precedes_attributes spelled) about trimmed (named ▸ column.name.filled) taken
  rw [read, named, fresh, inner_head]
  change ColumnOutcome.ofReading (DataType.read column.type.text (column.arguments.map argumentText) >>= _) = _
  rw [read_dataType]
  change ColumnOutcome.ofReading (Attributes.apply _ _) = _
  rw [apply_attributes spelled]
  rfl

end ColumnDescription
end Printing
end SchemaAtlas
