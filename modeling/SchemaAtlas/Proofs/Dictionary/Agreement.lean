import SchemaAtlas.Proofs.Dictionary.Outline
import SchemaAtlas.Proofs.Dictionary.Page
import SchemaAtlas.Proofs.Dictionary.Texts
/-!
The two data dictionaries of a script, the page and the document, side by side. A document is written unless a text of
the schema has a character that it cannot hold, and then its tables are those that a reader of the page finds.
-/
namespace SchemaAtlas

namespace Document

/-- Texts without carriage returns are kept as they are. -/
theorem storedText_of_isLine {text : String} (line : Text.IsLine text.toList) : storedText text = text := by
  have same : text.toList.map (fun c => if c == '\r' then '\n' else c) = text.toList.map id := by
    refine List.map_congr_left fun c member => if_neg fun returned => ?_
    rw [beq_iff_eq] at returned
    exact line.not_mem (by decide) (by decide) (returned ▸ member)
  rw [storedText, same, List.map_id, String.ofList_toList]

end Document

namespace Dictionary

/-- A table of the document and a table of the page say the same; a page of the document holds three tables. -/
structure Agrees (count position : Nat) (chapter : Document.Chapter) (part : Html.Section) : Prop where
  heading : chapter.heading.toList = part.heading
  rows : chapter.rows.map (List.map String.toList) = part.headers :: part.rows.map (List.map Html.Cell.content)
  notes : part.notes = chapter.notes.map ("Foreign keys: ".toList ++ ·)
  breaks : chapter.breaks = true ↔ 3 ∣ position + 1 ∧ position + 1 < count

theorem texts_row {column : Column} (line : column.SingleLine) :
    (Document.row (Row.ofColumn column)).map Document.Cell.text = (Row.ofColumn column).cells := by
  have stored : (Document.row (Row.ofColumn column)).map Document.Cell.text =
      (Row.ofColumn column).cells.map Document.storedText := rfl
  have kept : (Row.ofColumn column).cells.map Document.storedText = (Row.ofColumn column).cells.map id :=
    List.map_congr_left fun cell member => Document.storedText_of_isLine (isLine_cells line cell member)
  rw [stored, kept, List.map_id]

theorem agrees {table : Table} (line : table.SingleLine) (count position : Nat) :
    Agrees count position (Document.chapterOf count position table) (Html.sectionOf position table) where
  heading := congrArg String.toList (Document.storedText_of_isLine (isLine_heading position line))
  rows := by
    have header : (Document.headerRow.map Document.Cell.text).map String.toList = headers.map String.toList := rfl
    have row (column : Column) (declared : column ∈ table.columns.entries) :
        ((Document.row (Row.ofColumn column)).map Document.Cell.text).map String.toList =
          (Html.cellsOf column).map Html.Cell.content := by
      rw [texts_row (line.columns column declared), (Html.cellsOf_shows column).1]
    simp only [Document.chapterOf, Document.Grid.texts, Document.grid, rows, Html.sectionOf, List.map_cons, header,
      List.map_map]
    exact congrArg _ (List.map_congr_left row)
  notes := by
    simp only [Document.chapterOf, Html.sectionOf]
    split
    · rfl
    · rw [Document.storedText_of_isLine (isLine_foreignKeyNote line), List.map_singleton, String.toList_append]
  breaks := by
    simp [Document.chapterOf, Document.breaksAfter, Nat.dvd_iff_mod_eq_zero]

end Dictionary

end SchemaAtlas
