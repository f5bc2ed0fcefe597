import SchemaAtlas.Dictionary.Document
import SchemaAtlas.Proofs.Text.Decimal
/-!
The data dictionary read back from the outline of its document. A table stands behind a paragraph that is its heading,
and what follows up to the next table is told by its texts and page breaks alone.
-/
namespace SchemaAtlas.Document

/-- A table of the document: its heading, its rows with the header first, the foreign keys of its note, and whether the
page breaks behind it. -/
structure Chapter where
  heading : String
  rows : List (List String)
  notes : List Text
  breaks : Bool
deriving DecidableEq, Repr

def Paragraph.text (paragraph : Paragraph) : String := String.join (paragraph.runs.map Run.text)

def Grid.texts (grid : Grid) : List (List String) := grid.rows.map fun row => row.map Cell.text

def Block.isGrid : Block → Bool
  | .grid _ => true
  | .paragraph _ => false

def Block.breaks : Block → Bool
  | .grid _ => false
  | .paragraph content => content.breaksPage

/-- What a note says of foreign keys. -/
def Block.foreignKeys? : Block → Option Text
  | .grid _ => none
  | .paragraph content =>
    if "Note: foreign keys ".toList.isPrefixOf content.text.toList then
      some (content.text.toList.drop "Note: foreign keys ".toList.length)
    else none

/-- The chapter of a heading and a grid, with the blocks behind them. -/
def Chapter.of (heading : Paragraph) (grid : Grid) (rest : List Block) : Chapter :=
  let behind := rest.takeWhile (!Block.isGrid ·)
  ⟨heading.text, grid.texts, behind.filterMap Block.foreignKeys?, behind.any Block.breaks⟩

def chapters : List Block → List Chapter
  | .paragraph heading :: .grid grid :: rest => .of heading grid rest :: chapters rest
  | _ :: rest => chapters rest
  | [] => []

section Reading
variable {front rest : List Block}

end Reading

section Outline

/-- What follows the grid of a table. -/
def behindGrid (count position : Nat) (table : Table) : List Block :=
  note table ++ emptyLine :: if breaksAfter count position then [pageBreak] else []

def chapterOf (count position : Nat) (table : Table) : Chapter where
  heading := storedText (Dictionary.heading position table)
  rows := (grid table).texts
  notes := if Dictionary.foreignKeyNote table = "" then [] else [(storedText (Dictionary.foreignKeyNote table)).toList]
  breaks := breaksAfter count position

theorem tableSection_eq (count position : Nat) (table : Table) :
    tableSection count position table =
      heading position table :: .grid (grid table) :: behindGrid count position table := by
  simp [tableSection, behindGrid]

/-- The tables from a position on. -/
def sections (count position : Nat) (tables : List Table) : List Block :=
  (tables.mapIdx fun index => tableSection count (position + index)).flatten

theorem sections_cons (count position : Nat) (table : Table) (tables : List Table) :
    sections count position (table :: tables) =
      tableSection count position table ++ sections count (position + 1) tables := by
  simp [sections, List.mapIdx_cons, Nat.add_comm, Nat.add_left_comm]

end Outline

section Compatibility

/-- The texts that are put into a document, as they are kept. -/
def Block.texts : Block → List String
  | .paragraph content => content.runs.map Run.text
  | .grid content => content.rows.flatMap fun row => row.map Cell.text

theorem isCompatible_append (front behind : String) :
    isCompatible (front ++ behind) = (isCompatible front && isCompatible behind) := by
  rw [isCompatible, String.toList_append, List.all_append]
  rfl

/-- A carriage return and the line break that it becomes are both let through. -/
theorem isCompatible_storedText (text : String) : isCompatible (storedText text) = isCompatible text := by
  rw [isCompatible, storedText, String.toList_ofList, List.all_map, isCompatible]
  congr 1
  funext c
  by_cases returned : c = '\r'
  · rw [returned]
    decide
  · rw [Function.comp_apply, if_neg (by simpa using returned)]

theorem isCompatible_toString (number : Nat) : isCompatible (toString number) = true := by
  have shown : (toString number).toList = Numeral.digits number := Nat.toList_repr
  rw [isCompatible, shown]
  exact List.all_eq_true.mpr fun _ member =>
    Numeral.digit_induction (Numeral.isDigit_of_mem member) (fun c => isCompatibleCharacter c = true) (by decide)

theorem compatible_note (table : Table) :
    ((note table).flatMap Block.texts).all isCompatible = isCompatible (Dictionary.foreignKeyNote table) := by
  have words : isCompatible "Note: foreign keys " = true := by decide
  unfold note
  split
  · next empty =>
    rw [empty]
    rfl
  · simp [Block.texts, Run.make, isCompatible_storedText, isCompatible_append, words]

theorem compatible_grid (table : Table) : (Block.grid (grid table)).texts.all isCompatible =
    ((Dictionary.rows table).flatMap Dictionary.Row.cells).all isCompatible := by
  have header : (headerRow.map Cell.text).all isCompatible = true := by decide
  have row (written : Dictionary.Row) :
      ((row written).map Cell.text).all isCompatible = written.cells.all isCompatible := by
    have stored : (Document.row written).map Cell.text = written.cells.map storedText := rfl
    have same : isCompatible ∘ storedText = isCompatible := by
      funext text
      rw [Function.comp_apply, isCompatible_storedText]
    rw [stored, List.all_map, same]
  simp only [Block.texts, grid, List.flatMap_cons, List.all_append, header, Bool.true_and, List.all_flatMap,
    List.flatMap_map, row]

theorem compatible_heading (position : Nat) (table : Table) :
    (heading position table).texts.all isCompatible = isCompatible table.name := by
  have front : isCompatible (toString "Table ") = true := by decide
  have colon : isCompatible (toString ": ") = true := by decide
  have spelled : isCompatible (Dictionary.heading position table) = isCompatible table.name := by
    rw [Dictionary.heading, isCompatible_append, isCompatible_append, isCompatible_append, front, colon,
      isCompatible_toString, Bool.true_and, Bool.true_and, Bool.true_and]
    rfl
  simp [heading, Block.texts, Run.make, isCompatible_storedText, spelled]

theorem compatible_summary {stamp : String} (plain : isCompatible stamp = true) (schema : Schema) :
    (summary stamp schema).texts.all isCompatible = true := by
  have generated : isCompatible "Generated: " = true := by decide
  have line_break : isCompatible "\n" = true := by decide
  have tables : isCompatible (toString "Tables: ") = true := by decide
  have columns : isCompatible (toString "Columns: ") = true := by decide
  have first : isCompatible ("Generated: " ++ stamp ++ "\n") = true := by
    rw [isCompatible_append, isCompatible_append, generated, plain, line_break]
    rfl
  have second : isCompatible s!"Tables: {schema.tables.size}\n" = true := by
    rw [isCompatible_append, isCompatible_append, tables, isCompatible_toString]
    exact line_break
  have third : isCompatible s!"Columns: {schema.columnCount}" = true := by
    rw [isCompatible_append, columns, isCompatible_toString]
    rfl
  simp only [summary, Block.texts, Run.make, List.map_cons, List.map_nil, List.all_cons, List.all_nil,
    isCompatible_storedText, first, second, third, Bool.and_self]

theorem compatible_tableSection (count position : Nat) (table : Table) :
    ((tableSection count position table).flatMap Block.texts).all isCompatible =
      (table.name :: (Dictionary.rows table).flatMap Dictionary.Row.cells ++
        [Dictionary.foreignKeyNote table]).all isCompatible := by
  have behind : ((emptyLine :: if breaksAfter count position then [pageBreak] else []).flatMap Block.texts).all
      isCompatible = true := by
    cases breaksAfter count position <;> decide
  rw [tableSection_eq, behindGrid, List.flatMap_cons, List.flatMap_cons, List.flatMap_append, List.all_append,
    List.all_append, List.all_append, behind, compatible_heading, compatible_grid, compatible_note]
  simp

theorem compatible_sections (count position : Nat) (tables : List Table) :
    ((sections count position tables).flatMap Block.texts).all isCompatible =
      (tables.flatMap fun table => table.name :: (Dictionary.rows table).flatMap Dictionary.Row.cells ++
        [Dictionary.foreignKeyNote table]).all isCompatible := by
  induction tables generalizing position with
  | nil => rfl
  | cons table tables ih =>
    rw [sections_cons, List.flatMap_append, List.all_append, compatible_tableSection, ih, List.flatMap_cons]
    exact List.all_append.symm

/-- The texts that are looked at before a document is written stand for all that is put into it. -/
theorem compatible_outline {stamp : String} (plain : isCompatible stamp = true) (schema : Schema) :
    ((outline stamp schema).flatMap Block.texts).all isCompatible = (texts schema).all isCompatible := by
  have front : title.texts.all isCompatible = true := by decide
  have tables : sections schema.tables.size 0 schema.tables.entries =
      (schema.tables.entries.mapIdx (tableSection schema.tables.size)).flatten := by
    simp [sections]
  rw [outline, ← tables, List.flatMap_cons, List.flatMap_cons, List.all_append, List.all_append, front,
    compatible_summary plain, compatible_sections, Bool.true_and, Bool.true_and]
  rfl

theorem write_eq_error {stamp : String} {schema : Schema} :
    write stamp schema = .error .incompatibleText ↔ (texts schema).all isCompatible = false := by
  rw [write]
  cases (texts schema).all isCompatible <;> simp

/-- A document is refused exactly if a text that is put into it has a character that it cannot hold. -/
theorem refused_iff {stamp : String} (plain : isCompatible stamp = true) (schema : Schema) :
    write stamp schema = .error .incompatibleText ↔
      ∃ block ∈ outline stamp schema, ∃ text ∈ block.texts, isCompatible text = false := by
  rw [write_eq_error, ← compatible_outline plain, List.all_eq_false]
  simp only [List.mem_flatMap, Bool.not_eq_true]
  constructor
  · rintro ⟨text, ⟨block, inside, member⟩, spoiled⟩
    exact ⟨block, inside, text, member, spoiled⟩
  · rintro ⟨block, inside, text, member, spoiled⟩
    exact ⟨text, ⟨block, inside, member⟩, spoiled⟩

end Compatibility

end SchemaAtlas.Document
