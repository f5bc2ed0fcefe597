import SchemaAtlas.Proofs.Dictionary.Section
/-!
The data dictionary read back from its web page. The tags of a page are told by the outline of its schema: how many
tables there are, which of their columns are primary keys, and which tables have foreign keys. What the schema calls
its parts stands between the tags and is read back as it is.
-/
namespace SchemaAtlas.Html

def endsSection (token : Token) : Bool := beginsTag "<h2" token || isTag "</body>" token

/-- The tables of a page. -/
def read? (page : Text) : Option (List Section) :=
  (stretches (beginsTag "<h2") endsSection (tokens page)).mapM fun part => readSection? part.2

/-- How many tables there are and, of each, which columns are primary keys and whether any has a reference. -/
def shape (schema : Schema) : List (List Bool × Bool) := schema.tables.entries.map outline

def openingTags : List String :=
  ["<!DOCTYPE html>", "<html>", "<head>", "<title>", "</title>", "<meta charset=\"UTF-8\">", "<style>", "</style>",
    "</head>", "<body>", "<h1 class=\"document-title\">", "</h1>", "<p class=\"document-info\">", "<br>", "</p>"]

def tableTags (table : List Bool × Bool) : List String := "<h2 class=\"table-title\">" :: sectionTags table

def pageTags (shape : List (List Bool × Bool)) : List String :=
  openingTags ++ (shape.flatMap tableTags ++ ["</body>", "</html>"])

theorem tagwise_endsSection : Tagwise endsSection := fun c => by
  rw [endsSection, tagwise_beginsTag, tagwise_isTag, Bool.or_false]

section Opening
variable {source more : Text} {held others : List String} {pieces : List Piece}

/-- Markup that leaves no tag open, and the tags it holds. -/
def Marks (source : Text) (held : List String) : Prop :=
  source.foldl tagStep none = none ∧ tags source = held.map String.toList

theorem Marks.append (held others : List String) (first : Marks source held) (second : Marks more others) :
    Marks (source ++ more) (held ++ others) := by
  refine ⟨?_, ?_⟩
  · rw [List.foldl_append, first.1, second.1]
  · rw [tags, tokens_append first.1, List.filterMap_append, List.map_append]
    exact congrArg₂ (· ++ ·) first.2 second.2

/-- A text that is written out is told by its characters. -/
theorem Marks.literal {characters : Text} (closed : characters.foldl tagStep none = none)
    (same : tags characters = held.map String.toList) : Marks (String.ofList characters).toList held := by
  rw [String.toList_ofList]
  exact ⟨closed, same⟩

theorem unlines_cons (line : String) (rest : List String) :
    (Text.unlines (line :: rest)).toList = line.toList ++ (['\n'] ++ (Text.unlines rest).toList) := by
  simp [Text.unlines, String.toList_join]

theorem Marks.line {line : String} {rest : List String} (held : List String) (first : Marks line.toList held)
    (second : Marks (Text.unlines rest).toList others) :
    Marks (Text.unlines (line :: rest)).toList (held ++ others) := by
  have ending : Marks ['\n'] [] := ⟨rfl, rfl⟩
  rw [unlines_cons]
  exact .append held others first (.append [] others ending second)

/-- A line of text between the lines that hold tags. -/
theorem Marks.plain {characters : Text} {rest : List String} (plain : '<' ∉ characters)
    (second : Marks (Text.unlines rest).toList held) :
    Marks (Text.unlines (String.ofList characters :: rest)).toList held := by
  obtain ⟨read, closed⟩ := tokens_plain plain
  have silent : tags characters = [] := by simp [tags, read, Token.tag?]
  exact .line [] (.literal closed silent) second

theorem marks_style : Marks style.toList ["<style>", "</style>"] := by
  have end_of_rules : Marks (Text.unlines ["    </style>"]).toList ["</style>"] :=
    .line ["</style>"] (.literal (by rfl) (by rfl)) ⟨rfl, rfl⟩
  have last : Marks "    ".toList [] := ⟨rfl, rfl⟩
  rw [style, String.toList_append]
  refine .append ["<style>", "</style>"] [] ?_ last
  refine .plain (by decide) (.line ["<style>"] (.literal (by rfl) (by rfl)) ?_)
  iterate 11 refine .plain (by decide) ?_
  exact end_of_rules

theorem marks_head : Marks (Text.unlines ["<!DOCTYPE html>", "<html>", "<head>", "    <title>Database Schema</title>",
      "    <meta charset=\"UTF-8\">", "    " ++ style, "</head>", "<body>",
      "    <h1 class=\"document-title\">Database Schema</h1>",
      "    <p class=\"document-info\">"] ++ "        ").toList openingTags.dropLast.dropLast := by
  rw [String.toList_append]
  have styled : Marks ("    " ++ style).toList ["<style>", "</style>"] := by
    rw [String.toList_append]
    exact .append [] _ ⟨rfl, rfl⟩ marks_style
  refine .append (openingTags.dropLast.dropLast) [] ?_ ⟨rfl, rfl⟩
  refine .line ["<!DOCTYPE html>"] (.literal (by rfl) (by rfl)) ?_
  refine .line ["<html>"] (.literal (by rfl) (by rfl)) ?_
  refine .line ["<head>"] (.literal (by rfl) (by rfl)) ?_
  refine .line ["<title>", "</title>"] (.literal (by rfl) (by rfl)) ?_
  refine .line ["<meta charset=\"UTF-8\">"] (.literal (by rfl) (by rfl)) ?_
  refine .line _ styled ?_
  refine .line ["</head>"] (.literal (by rfl) (by rfl)) ?_
  refine .line ["<body>"] (.literal (by rfl) (by rfl)) ?_
  refine .line ["<h1 class=\"document-title\">", "</h1>"] (.literal (by rfl) (by rfl)) ?_
  exact .line ["<p class=\"document-info\">"] (.literal (by rfl) (by rfl)) ⟨rfl, rfl⟩

theorem Marks.reads {source : String} (marks : Marks source.toList held) :
    ∃ read, Reads [.markup source] read ∧ read.filterMap Token.tag? = held.map String.toList :=
  ⟨_, .markup ⟨marks.1, rfl⟩, marks.2⟩

theorem reads_opening (generated : String) (schema : Schema) : ∃ read, Reads (opening generated schema) read ∧
    read.filterMap Token.tag? = openingTags.map String.toList := by
  obtain ⟨head, reads_head, tags_head⟩ := marks_head.reads
  have break_line : Reads [.markup "<br>\n        "] (tokens "<br>\n        ".toList) := .markup (by decide +kernel)
  have closing : Reads [.markup "\n    </p>\n"] (tokens "\n    </p>\n".toList) := .markup (by decide +kernel)
  have tags_break : (tokens "<br>\n        ".toList).filterMap Token.tag? = ["<br>".toList] := rfl
  have tags_closing : (tokens "\n    </p>\n".toList).filterMap Token.tag? = ["</p>".toList] := rfl
  refine ⟨_, (((reads_head.append (.text _)).append break_line).append (.text _)).append closing, ?_⟩
  simp only [List.filterMap_append, tags_head, tags_written, tags_break, tags_closing, List.append_nil]
  rfl

end Opening

section Chapters
variable {opens : Token → Bool}

/-- A table with the tag that begins its heading. -/
def chapterTokens (position : Nat) (table : Table) : List Token :=
  tokens "    ".toList ++ .tag "<h2 class=\"table-title\">".toList :: sectionTokens position table

def endingTokens : List Token := tokens "</body>\n</html>\n".toList

/-- The tables from a position on. -/
def chapters (position : Nat) (tables : List Table) : List Token :=
  (tables.mapIdx fun index => chapterTokens (position + index)).flatten

theorem chapters_cons (position : Nat) (table : Table) (tables : List Table) :
    chapters position (table :: tables) = chapterTokens position table ++ chapters (position + 1) tables := by
  simp [chapters, List.mapIdx_cons, Nat.add_comm, Nat.add_left_comm]

theorem reads_chapters (position : Nat) (tables : List Table) :
    Reads (tables.mapIdx fun index => tableSection (position + index)).flatten (chapters position tables) := by
  induction tables generalizing position with
  | nil => exact .nil
  | cons table tables ih =>
    have here : Reads (tableSection position table) (chapterTokens position table) := reads_section position table
    have there := ih (position + 1)
    rw [chapters_cons]
    simpa [List.mapIdx_cons, Nat.add_comm, Nat.add_left_comm] using here.append there

theorem tags_chapters (position : Nat) (tables : List Table) : (chapters position tables).filterMap Token.tag? =
    ((tables.map outline).flatMap tableTags).map String.toList := by
  have blank : (tokens "    ".toList).filterMap Token.tag? = [] := rfl
  induction tables generalizing position with
  | nil => rfl
  | cons table tables ih =>
    simp only [chapters_cons, chapterTokens, List.filterMap_append, blank, List.filterMap_cons, Token.tag?,
      tags_section, ih, List.map_cons, List.flatMap_cons, tableTags, List.map_append, List.nil_append,
      List.cons_append]

/-- A table ends where the next heading begins, or the page. -/
theorem chapters_begin (position : Nat) (tables : List Table) : ∃ blank closing rest,
    chapters position tables ++ endingTokens = blank ++ closing :: rest ∧
      blank.filterMap Token.tag? = [] ∧ endsSection closing = true := by
  cases tables with
  | nil => exact ⟨[], _, _, rfl, rfl, by decide⟩
  | cons table tables =>
    refine ⟨tokens "    ".toList, .tag "<h2 class=\"table-title\">".toList,
      sectionTokens position table ++ (chapters (position + 1) tables ++ endingTokens), ?_, rfl, by decide⟩
    rw [chapters_cons, chapterTokens, List.append_assoc, List.append_assoc, List.cons_append]

/-- Whatever the table, its tags are of few kinds. -/
theorem sectionTags_subset (shape : List Bool × Bool) : sectionTags shape ⊆ sectionTags ([true, false], true) := by
  have rows : shape.1.flatMap rowTags ⊆ [true, false].flatMap rowTags := fun tag member => by
    obtain ⟨key, _, inside⟩ := List.mem_flatMap.mp member
    exact List.mem_flatMap.mpr ⟨key, by cases key <;> decide, inside⟩
  have note : (if shape.2 then ["<p class=\"note\">", "</p>"] else []) ⊆ ["<p class=\"note\">", "</p>"] := by
    split
    · exact List.Subset.refl _
    · exact List.nil_subset _
  intro tag member
  simp only [sectionTags, List.mem_append] at member ⊢
  exact member.imp (Or.imp_left (Or.imp_right (@rows tag))) (@note tag)

theorem Tagwise.passed_section (tagwise : Tagwise opens)
    (others : ∀ tag ∈ sectionTags ([true, false], true), opens (.tag tag.toList) = false) (position : Nat)
    (table : Table) :
    ∀ token ∈ sectionTokens position table, opens token = false :=
  tagwise.passed (tags_section position table) fun tag member => others tag (sectionTags_subset _ member)

theorem stretches_chapter (position : Nat) (table : Table) {blank rest : List Token} {closing : Token}
    (plain : blank.filterMap Token.tag? = []) (ends : endsSection closing = true) :
    stretches (beginsTag "<h2") endsSection (chapterTokens position table ++ (blank ++ closing :: rest)) =
      (.tag "<h2 class=\"table-title\">".toList, sectionTokens position table ++ blank) ::
        stretches (beginsTag "<h2") endsSection (blank ++ closing :: rest) := by
  have heading : Yields (beginsTag "<h2") endsSection (tokens "    ".toList) [] := .nothing (by decide)
  have passed : Yields (beginsTag "<h2") endsSection (sectionTokens position table) [] :=
    .nothing ((tagwise_beginsTag _).passed_section (by decide) position table)
  have within : ∀ token ∈ sectionTokens position table ++ blank, (!endsSection token) = true := fun token member => by
    rw [Bool.not_eq_true']
    rcases List.mem_append.mp member with inside | behind
    · exact tagwise_endsSection.passed_section (by decide) position table token inside
    · exact tagwise_endsSection.passed_plain plain token behind
  have all : (sectionTokens position table ++ (blank ++ closing :: rest)).takeWhile (!endsSection ·) =
      sectionTokens position table ++ blank := by
    rw [← List.append_assoc, List.takeWhile_append_of_pos within, List.takeWhile_cons_of_neg (by simp [ends]),
      List.append_nil]
  rw [chapterTokens, List.append_assoc, heading, List.nil_append, List.cons_append, stretches, if_pos (by decide), all,
    passed, List.nil_append]

theorem read_chapters (position : Nat) (tables : List Table) :
    (stretches (beginsTag "<h2") endsSection (chapters position tables ++ endingTokens)).mapM
      (fun part => readSection? part.2) = some (tables.mapIdx fun index => sectionOf (position + index)) := by
  induction tables generalizing position with
  | nil => rfl
  | cons table tables ih =>
    obtain ⟨blank, closing, rest, split, plain, ends⟩ := chapters_begin (position + 1) tables
    rw [chapters_cons, List.append_assoc, split, stretches_chapter position table plain ends, ← split, List.mapM_cons,
      readSection?_tokens plain, ih]
    simp [List.mapIdx_cons, Nat.add_comm, Nat.add_left_comm]

end Chapters

section Render
variable (generated : String) (schema : Schema)

theorem tokens_render : ∃ front, front.filterMap Token.tag? = openingTags.map String.toList ∧
    tokens (render generated schema) = front ++ (chapters 0 schema.tables.entries ++ endingTokens) := by
  obtain ⟨front, reads_front, tags_front⟩ := reads_opening generated schema
  have tables : Reads (schema.tables.entries.mapIdx tableSection).flatten (chapters 0 schema.tables.entries) := by
    simpa using reads_chapters 0 schema.tables.entries
  have ending : Reads [.markup "</body>\n</html>\n"] endingTokens := .markup (by decide +kernel)
  refine ⟨front, tags_front, ?_⟩
  rw [render, page, ((reads_front.append tables).append ending).tokens_eq, List.append_assoc]

theorem tags_render : tags (render generated schema) = (pageTags (shape schema)).map String.toList := by
  obtain ⟨front, tags_front, split⟩ := tokens_render generated schema
  have ending : endingTokens.filterMap Token.tag? = ["</body>", "</html>"].map String.toList := rfl
  rw [tags, split, List.filterMap_append, List.filterMap_append, tags_front, tags_chapters, ending, pageTags, shape,
    List.map_append, List.map_append]

/-- A page shows each table as it is, in the order of the schema. -/
theorem read?_render : read? (render generated schema) = some (schema.tables.entries.mapIdx sectionOf) := by
  obtain ⟨front, tags_front, split⟩ := tokens_render generated schema
  have passed : Yields (beginsTag "<h2") endsSection front [] :=
    .nothing ((tagwise_beginsTag _).passed tags_front (by decide))
  rw [read?, split, passed, List.nil_append, read_chapters]
  simp

end Render

/-- The cells of a row hold the values of its column, and the key cell of a primary key column stands out. -/
theorem cellsOf_shows (column : Column) :
    (cellsOf column).map Cell.content = (Dictionary.Row.ofColumn column).cells.map String.toList ∧
      ∀ index cell, (cellsOf column)[index]? = some cell →
        (cell.tag = "<td class=\"pk-yes\">".toList ↔ index = 4 ∧ column.isPrimaryKey = true) := by
  have marked : ∀ key, ∀ index < 7, ∀ tag ∈ (cellTags key)[index]?,
      (tag.toList = "<td class=\"pk-yes\">".toList ↔ index = 4 ∧ key = true) := by decide
  refine ⟨by simp [cellsOf, cellTags, Dictionary.Row.cells], fun index cell found => ?_⟩
  rw [cellsOf, List.getElem?_map] at found
  obtain ⟨tagged, inside, rfl⟩ := Option.map_eq_some_iff.mp found
  obtain ⟨tag, _⟩ := List.getElem?_zip_eq_some.mp inside
  have within : index < (cellTags column.isPrimaryKey).length := (List.getElem?_eq_some_iff.mp tag).1
  exact marked _ index within _ tag

/-- Nothing that a schema calls its parts changes the tags of its page, and all of it is read back: tables and rows in
order, and in each row the values of its column. -/
theorem render_harmless (generated : String) (schema : Schema) :
    (∀ later other, shape other = shape schema → tags (render later other) = tags (render generated schema)) ∧
      ∃ sections, read? (render generated schema) = some sections ∧
        List.Forall₂ (fun table part => List.Forall₂ (fun column row =>
            row.map Cell.content = (Dictionary.Row.ofColumn column).cells.map String.toList ∧
              ∀ index cell, row[index]? = some cell →
                (cell.tag = "<td class=\"pk-yes\">".toList ↔ index = 4 ∧ column.isPrimaryKey = true))
          table.columns.entries part.rows) schema.tables.entries sections := by
  refine ⟨fun later other same => ?_, _, read?_render generated schema, List.forall₂_iff_get.mpr ⟨by simp, ?_⟩⟩
  · rw [tags_render, tags_render, same]
  · intro position _ _
    simp only [List.get_eq_getElem, List.getElem_mapIdx, sectionOf]
    exact List.forall₂_map_right_iff.mpr (List.forall₂_same.mpr fun column _ => cellsOf_shows column)

theorem render_harmless_script : shape (Schema.empty.putTable (.empty "</h2><script>")) =
      shape (Schema.empty.putTable (.empty "&lt;")) ∧
    tags (render "now" (Schema.empty.putTable (.empty "</h2><script>"))) =
      tags (render "then" (Schema.empty.putTable (.empty "&lt;"))) :=
  ⟨by decide, (render_harmless "then" (Schema.empty.putTable (.empty "&lt;"))).1 "now"
    (Schema.empty.putTable (.empty "</h2><script>")) (by decide)⟩

end SchemaAtlas.Html
