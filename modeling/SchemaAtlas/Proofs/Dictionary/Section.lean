import SchemaAtlas.Proofs.Dictionary.Markup
/-!
One table of the dictionary on its web page: how it is written, tag by tag, and how a reader of the page gets it back.
-/
namespace SchemaAtlas.Html

/-- A cell as a reader of the page sees it, with the tag that opens it. -/
structure Cell where
  tag : Text
  content : Text
deriving DecidableEq, Repr

/-- What stands from one heading to the next. -/
structure Section where
  heading : Text
  headers : List Text
  rows : List (List Cell)
  notes : List Text
deriving DecidableEq, Repr

def readCell? (cell : Token × List Token) : Option Cell := do
  return ⟨← cell.1.tag?, ← content? cell.2⟩

def readRow? (read : List Token) : Option (List Cell) :=
  (stretches (beginsTag "<td") (isTag "</td>") read).mapM readCell?

/-- The rows of a table body; the row of headers stands outside of it. -/
def readSection? (read : List Token) : Option Section := do
  let heading ← content? (read.takeWhile (!isTag "</h2>" ·))
  let headers ← (stretches (isTag "<th>") (isTag "</th>") read).mapM fun header => content? header.2
  let body := (stretches (isTag "<tbody>") (isTag "</tbody>") read).flatMap Prod.snd
  let rows ← (stretches (isTag "<tr>") (isTag "</tr>") body).mapM fun row => readRow? row.2
  let notes ← (stretches (isTag "<p class=\"note\">") (isTag "</p>") read).mapM fun note => content? note.2
  return ⟨heading, headers, rows, notes⟩

/-- The tags of the cells of a row. -/
def cellTags (isPrimaryKey : Bool) : List String :=
  ["<td class=\"field-name\">", "<td>", "<td>", "<td>",
    if isPrimaryKey then "<td class=\"pk-yes\">" else "<td>", "<td>", "<td>"]

def cellsOf (column : Column) : List Cell :=
  ((cellTags column.isPrimaryKey).zip (Dictionary.Row.ofColumn column).cells).map fun cell =>
    ⟨cell.1.toList, cell.2.toList⟩

/-- What a page shows of a table. -/
def sectionOf (position : Nat) (table : Table) : Section where
  heading := (Dictionary.heading position table).toList
  headers := Dictionary.headers.map String.toList
  rows := table.columns.entries.map cellsOf
  notes := if Dictionary.foreignKeyNote table = "" then [] else
    [("Foreign keys: " ++ Dictionary.foreignKeyNote table).toList]

def rowTags (isPrimaryKey : Bool) : List String :=
  "<tr>" :: (cellTags isPrimaryKey).flatMap (fun tag => [tag, "</td>"]) ++ ["</tr>"]

/-- The tags of a table behind the one that opens its heading. -/
def sectionTags (table : List Bool × Bool) : List String :=
  ["</h2>", "<table class=\"three-line-table\">", "<thead>", "<tr>"] ++
    Dictionary.headers.flatMap (fun _ => ["<th>", "</th>"]) ++ ["</tr>", "</thead>", "<tbody>"] ++
    table.1.flatMap rowTags ++ ["</tbody>", "</table>"] ++
    if table.2 then ["<p class=\"note\">", "</p>"] else []

section Tagwise
variable {opens : Token → Bool}

/-- A kind of token that only tags can be of. -/
def Tagwise (opens : Token → Bool) : Prop := ∀ c, opens (.character c) = false

theorem tagwise_isTag (source : String) : Tagwise (isTag source) := fun c => by
  simp [isTag]

theorem tagwise_beginsTag (source : String) : Tagwise (beginsTag source) := fun _ => rfl

/-- Whether tokens of a kind occur is seen at the tags. -/
theorem Tagwise.forall_iff (tagwise : Tagwise opens) (read : List Token) :
    (∀ token ∈ read, opens token = false) ↔ ∀ tag ∈ read.filterMap Token.tag?, opens (.tag tag) = false := by
  constructor
  · intro none_there tag member
    obtain ⟨token, inside, same⟩ := List.mem_filterMap.mp member
    cases token with
    | tag source => cases same; exact none_there _ inside
    | character c => cases same
  · intro none_there token inside
    cases token with
    | tag source => exact none_there source (List.mem_filterMap.mpr ⟨_, inside, rfl⟩)
    | character c => exact tagwise c

@[simp]
theorem tags_written (content : String) : (written content).filterMap Token.tag? = [] := by
  simp [written, Token.tag?]

end Tagwise

section Tokens

def cellTokens (cell : String × String) : List Token :=
  element (.tag cell.1.toList) (written cell.2) (.tag "</td>".toList)

/-- The cells of a column, each with the tag that opens it. -/
def taggedCells (column : Column) : List (String × String) :=
  (cellTags column.isPrimaryKey).zip (Dictionary.Row.ofColumn column).cells

def rowTokens (column : Column) : List Token :=
  tokens "            ".toList ++
    (element (.tag "<tr>".toList) ((taggedCells column).flatMap cellTokens) (.tag "</tr>".toList) ++
      [.character '\n'])

def headerTokens (header : String) : List Token :=
  element (.tag "<th>".toList) (written header) (.tag "</th>".toList)

def noteTokens (table : Table) : List Token :=
  if Dictionary.foreignKeyNote table = "" then []
  else tokens "    ".toList ++
    (element (.tag "<p class=\"note\">".toList) (written ("Foreign keys: " ++ Dictionary.foreignKeyNote table))
      (.tag "</p>".toList) ++ [.character '\n'])

def bodyTokens (table : Table) : List Token :=
  .character '\n' :: (table.columns.entries.flatMap rowTokens ++ tokens "        ".toList)

/-- What stands between a heading and the headers below it. -/
def headTokens : List Token :=
  tokens "</h2>\n    <table class=\"three-line-table\">\n        <thead><tr>".toList

/-- What follows the tag that opens the heading of a table. -/
def sectionTokens (position : Nat) (table : Table) : List Token :=
  written (Dictionary.heading position table) ++
    (headTokens ++
      (Dictionary.headers.flatMap headerTokens ++
        (tokens "</tr></thead>\n        ".toList ++
          (element (.tag "<tbody>".toList) (bodyTokens table) (.tag "</tbody>".toList) ++
            (tokens "\n    </table>\n".toList ++ noteTokens table)))))

theorem reads_cell {opening : String}
    (single : opening.toList.foldl tagStep none = none ∧ tokens opening.toList = [.tag opening.toList])
    (content : String) : Reads (cell opening content) (cellTokens (opening, content)) := by
  have first : Reads [.markup opening] [.tag opening.toList] := .markup single
  have last : Reads [.markup "</td>"] [.tag "</td>".toList] := .markup (by decide +kernel)
  exact (first.append (.text content)).append last

theorem single_cellTags (isPrimaryKey : Bool) : ∀ tag ∈ cellTags isPrimaryKey,
    tag.toList.foldl tagStep none = none ∧ tokens tag.toList = [.tag tag.toList] := by
  cases isPrimaryKey <;> decide

theorem row_eq (column : Column) : row column = [.markup "            <tr>"] ++
    ((taggedCells column).flatMap (fun tagged => cell tagged.1 tagged.2) ++ [.markup "</tr>\n"]) := by
  simp [row, taggedCells, cellTags, Dictionary.Row.cells]

theorem reads_row (column : Column) : Reads (row column) (rowTokens column) := by
  have first : Reads [.markup "            <tr>"] (tokens "            ".toList ++ [.tag "<tr>".toList]) :=
    .markup (by decide +kernel)
  have last : Reads [.markup "</tr>\n"] [.tag "</tr>".toList, .character '\n'] := .markup (by decide +kernel)
  have cells : Reads ((taggedCells column).flatMap fun tagged => cell tagged.1 tagged.2)
      ((taggedCells column).flatMap cellTokens) :=
    .flatMap _ fun tagged member => reads_cell (single_cellTags _ tagged.1 (List.of_mem_zip member).1) tagged.2
  have whole := first.append (cells.append last)
  rw [row_eq]
  simpa only [rowTokens, element, List.append_assoc, List.cons_append, List.nil_append] using whole

theorem reads_headers : Reads headerCells (Dictionary.headers.flatMap headerTokens) := by
  refine .flatMap _ fun header _ => ?_
  have first : Reads [.markup "<th>"] [.tag "<th>".toList] := .markup (by decide +kernel)
  have last : Reads [.markup "</th>"] [.tag "</th>".toList] := .markup (by decide +kernel)
  exact (first.append (.text header)).append last

theorem reads_note (table : Table) : Reads (note table) (noteTokens table) := by
  unfold note noteTokens
  split
  · next empty =>
    rw [if_pos empty]
    exact .nil
  · next filled =>
    rw [if_neg filled]
    have first : Reads [.markup "    <p class=\"note\">"]
        (tokens "    ".toList ++ [.tag "<p class=\"note\">".toList]) := .markup (by decide +kernel)
    have last : Reads [.markup "</p>\n"] [.tag "</p>".toList, .character '\n'] := .markup (by decide +kernel)
    have whole := first.append ((Reads.text ("Foreign keys: " ++ Dictionary.foreignKeyNote table)).append last)
    simpa only [element, List.append_assoc, List.cons_append, List.nil_append] using whole

theorem reads_section (position : Nat) (table : Table) : Reads (tableSection position table)
    (tokens "    ".toList ++ .tag "<h2 class=\"table-title\">".toList :: sectionTokens position table) := by
  have opening : Reads [.markup "    <h2 class=\"table-title\">"]
      (tokens "    ".toList ++ [.tag "<h2 class=\"table-title\">".toList]) := .markup (by decide +kernel)
  have front : Reads [.markup "</h2>\n    <table class=\"three-line-table\">\n        <thead><tr>"]
      headTokens := .markup (by decide +kernel)
  have middle : Reads [.markup "</tr></thead>\n        <tbody>\n"]
      (tokens "</tr></thead>\n        ".toList ++ [.tag "<tbody>".toList, .character '\n']) :=
    .markup (by decide +kernel)
  have rows : Reads (table.columns.entries.flatMap row) (table.columns.entries.flatMap rowTokens) :=
    .flatMap _ fun column _ => reads_row column
  have behind : Reads [.markup "        </tbody>\n    </table>\n"]
      (tokens "        ".toList ++ (.tag "</tbody>".toList :: tokens "\n    </table>\n".toList)) :=
    .markup (by decide +kernel)
  have head := ((opening.append (.text (Dictionary.heading position table))).append front).append reads_headers
  have whole := head.append ((middle.append rows).append (behind.append (reads_note table)))
  simpa only [tableSection, sectionTokens, bodyTokens, element, List.append_assoc, List.cons_append, List.nil_append]
    using whole

end Tokens

section Tags
variable {opens : Token → Bool} {read : List Token}

theorem tags_cells (column : Column) : ((taggedCells column).flatMap cellTokens).filterMap Token.tag? =
    ((cellTags column.isPrimaryKey).flatMap fun tag => [tag, "</td>"]).map String.toList := by
  simp [taggedCells, cellTags, Dictionary.Row.cells, cellTokens, element, Token.tag?]

theorem tags_row (column : Column) : (rowTokens column).filterMap Token.tag? =
    (rowTags column.isPrimaryKey).map String.toList := by
  have blank : (tokens "            ".toList).filterMap Token.tag? = [] := rfl
  simp only [rowTokens, rowTags, element, blank, tags_cells, List.filterMap_append, List.filterMap_cons,
    List.filterMap_nil, Token.tag?, List.map_append, List.map_cons, List.map_nil, List.nil_append, List.cons_append,
    List.append_nil]

theorem tags_headers : (Dictionary.headers.flatMap headerTokens).filterMap Token.tag? =
    (Dictionary.headers.flatMap fun _ => ["<th>", "</th>"]).map String.toList := by
  simp only [List.filterMap_flatMap, List.map_flatMap, headerTokens, element, List.filterMap_append,
    List.filterMap_cons, List.filterMap_nil, Token.tag?, tags_written, List.nil_append, List.map_cons, List.map_nil]

theorem tags_note (table : Table) : (noteTokens table).filterMap Token.tag? =
    (if Dictionary.foreignKeyNote table = "" then [] else ["<p class=\"note\">", "</p>"]).map String.toList := by
  have blank : (tokens "    ".toList).filterMap Token.tag? = [] := rfl
  unfold noteTokens
  split
  · rfl
  · simp only [blank, element, tags_written, List.filterMap_append, List.filterMap_cons, List.filterMap_nil, Token.tag?,
      List.nil_append, List.append_nil, List.map_cons, List.map_nil]

theorem tags_body (table : Table) : (bodyTokens table).filterMap Token.tag? =
    ((table.columns.entries.map Column.isPrimaryKey).flatMap rowTags).map String.toList := by
  have blank : (tokens "        ".toList).filterMap Token.tag? = [] := rfl
  simp only [bodyTokens, List.filterMap_cons, Token.tag?, List.filterMap_append, List.filterMap_flatMap, tags_row,
    blank, List.append_nil, List.flatMap_map, List.map_flatMap]

/-- Which columns of a table are primary keys, and whether any has a reference. -/
def outline (table : Table) : List Bool × Bool :=
  (table.columns.entries.map Column.isPrimaryKey, table.columns.entries.any (·.references.isSome))

theorem intercalate_eq_empty {separator : String} {texts : List String} (filled : ∀ text ∈ texts, text ≠ "") :
    separator.intercalate texts = "" ↔ texts = [] := by
  rw [← String.toList_eq_nil_iff, String.toList_intercalate]
  match texts with
  | [] => simp
  | [only] => simpa using filled only (List.mem_singleton_self only)
  | first :: second :: others =>
    have some_written : first.toList ≠ [] := mt String.toList_eq_nil_iff.mp (filled first List.mem_cons_self)
    rw [List.map_cons, List.map_cons, List.intercalate_cons_cons]
    simp [some_written]

theorem foreignKeyNote_eq_empty (table : Table) :
    Dictionary.foreignKeyNote table = "" ↔ (outline table).2 = false := by
  rw [Dictionary.foreignKeyNote, intercalate_eq_empty]
  · simp [outline, List.filterMap_eq_nil_iff]
  · intro text member
    obtain ⟨column, _, written⟩ := List.mem_filterMap.mp member
    obtain ⟨target, _, rfl⟩ := Option.map_eq_some_iff.mp written
    simp [← String.toList_eq_nil_iff]

/-- The tags of what stands between the parts of a table. -/
theorem tags_head : headTokens.filterMap Token.tag? =
    ["</h2>", "<table class=\"three-line-table\">", "<thead>", "<tr>"].map String.toList := by
  decide +kernel

theorem tags_headEnd : (tokens "</tr></thead>\n        ".toList).filterMap Token.tag? =
    ["</tr>", "</thead>"].map String.toList := by
  decide +kernel

theorem tags_tableEnd : (tokens "\n    </table>\n".toList).filterMap Token.tag? = ["</table>"].map String.toList := by
  decide +kernel

theorem tags_section (position : Nat) (table : Table) : (sectionTokens position table).filterMap Token.tag? =
    (sectionTags (outline table)).map String.toList := by
  have note : (if Dictionary.foreignKeyNote table = "" then [] else ["<p class=\"note\">", "</p>"]) =
      if (outline table).2 then ["<p class=\"note\">", "</p>"] else [] := by
    cases keyed : (outline table).2 <;> simp [foreignKeyNote_eq_empty, keyed]
  simp only [sectionTokens, sectionTags, element, List.filterMap_append, List.filterMap_cons,
    Token.tag?, tags_written, tags_head, tags_headEnd, tags_tableEnd, tags_headers, tags_body, tags_note, note,
    List.map_append, List.map_cons, List.map_nil, List.nil_append, List.cons_append, List.append_assoc, outline]

/-- What the tags of a page say of its tokens. -/
theorem Tagwise.passed (tagwise : Tagwise opens) {tags : List String}
    (same : read.filterMap Token.tag? = tags.map String.toList)
    (others : ∀ tag ∈ tags, opens (.tag tag.toList) = false) : ∀ token ∈ read, opens token = false := by
  refine (tagwise.forall_iff read).mpr ?_
  rw [same]
  exact List.forall_mem_map.mpr others

/-- Where no tag stands, none is met. -/
theorem Tagwise.passed_plain (tagwise : Tagwise opens) (plain : read.filterMap Token.tag? = []) :
    ∀ token ∈ read, opens token = false := by
  refine (tagwise.forall_iff read).mpr ?_
  rw [plain]
  exact List.forall_mem_nil _

theorem Tagwise.passed_written (tagwise : Tagwise opens) (content : String) :
    ∀ token ∈ written content, opens token = false :=
  tagwise.passed_plain (tags_written content)

theorem Tagwise.passed_body (tagwise : Tagwise opens) (table : Table)
    (others : ∀ key, ∀ tag ∈ rowTags key, opens (.tag tag.toList) = false) :
    ∀ token ∈ bodyTokens table, opens token = false := by
  refine tagwise.passed (tags_body table) fun tag member => ?_
  obtain ⟨key, _, inside⟩ := List.mem_flatMap.mp member
  exact others key tag inside

end Tags

section Reading

theorem yields_cells (cells : List (String × String))
    (begins : ∀ cell ∈ cells, beginsTag "<td" (.tag cell.1.toList) = true) :
    Yields (beginsTag "<td") (isTag "</td>") (cells.flatMap cellTokens)
      (cells.map fun cell => (.tag cell.1.toList, written cell.2)) := by
  refine .flatMap cells fun cell member => .element (begins cell member) (fun token inside => ⟨?_, ?_⟩) (by decide)
    (by decide)
  · exact (tagwise_beginsTag _).passed_written cell.2 token inside
  · exact (tagwise_isTag _).passed_written cell.2 token inside

theorem readRow?_cells (column : Column) :
    readRow? ((taggedCells column).flatMap cellTokens) = some (cellsOf column) := by
  have begins : ∀ key, ∀ tag ∈ cellTags key, beginsTag "<td" (.tag tag.toList) = true := by decide
  have cells := yields_cells (taggedCells column) fun cell member => begins _ _ (List.of_mem_zip member).1
  rw [readRow?, cells.stretches_eq, List.mapM_map]
  exact mapM_eq_pure _ fun cell _ => by simp [readCell?, Token.tag?, content?_written]

theorem yields_rows (table : Table) : Yields (isTag "<tr>") (isTag "</tr>") (bodyTokens table)
    (table.columns.entries.map fun column => (.tag "<tr>".toList, (taggedCells column).flatMap cellTokens)) := by
  have outside : ∀ key, ∀ tag ∈ (cellTags key).flatMap fun tag => [tag, "</td>"],
      isTag "<tr>" (.tag tag.toList) = false ∧ isTag "</tr>" (.tag tag.toList) = false := by decide
  have row (column : Column) : Yields (isTag "<tr>") (isTag "</tr>") (rowTokens column)
      [(.tag "<tr>".toList, (taggedCells column).flatMap cellTokens)] := by
    refine (Yields.nothing (by decide)).append (.append (.element (by decide) (fun token member => ?_) (by decide)
      (by decide)) (.nothing (by decide)))
    exact ⟨(tagwise_isTag _).passed (tags_cells column) (fun tag inside => (outside _ tag inside).1) token member,
      (tagwise_isTag _).passed (tags_cells column) (fun tag inside => (outside _ tag inside).2) token member⟩
  have first : Yields (isTag "<tr>") (isTag "</tr>") [.character '\n'] [] := .nothing (by decide)
  have last : Yields (isTag "<tr>") (isTag "</tr>") (tokens "        ".toList) [] := .nothing (by decide)
  have whole := first.append ((Yields.flatMap table.columns.entries fun column _ => row column).append last)
  rwa [List.append_nil, List.nil_append] at whole

section Parts
variable {opens closes : Token → Bool} {position : Nat} {table : Table}
  {headers bodies notes : List (Token × List Token)}
  {tail : List Token}

/-- The tags of a table outside its row of headers, its body and its note. -/
def frameTags : List String :=
  ["</h2>", "<table class=\"three-line-table\">", "<thead>", "<tr>", "</tr>", "</thead>", "</table>"]

/-- The stretches of a table, from those of the parts that may hold some. -/
theorem yields_section (position : Nat) (tagwise : Tagwise opens)
    (frame : ∀ tag ∈ frameTags, opens (.tag tag.toList) = false)
    (header : Yields opens closes (Dictionary.headers.flatMap headerTokens) headers)
    (body : Yields opens closes (element (.tag "<tbody>".toList) (bodyTokens table) (.tag "</tbody>".toList)) bodies)
    (note : Yields opens closes (noteTokens table) notes) (plain : tail.filterMap Token.tag? = []) :
    stretches opens closes (sectionTokens position table ++ tail) = headers ++ (bodies ++ notes) := by
  have passes {read : List Token} (tags : List String) (same : read.filterMap Token.tag? = tags.map String.toList)
      (inside : tags ⊆ frameTags) : Yields opens closes read [] :=
    .nothing (tagwise.passed same fun tag member => frame tag (inside member))
  have heading : Yields opens closes (written (Dictionary.heading position table)) [] :=
    passes [] (tags_written _) (List.nil_subset _)
  have front : Yields opens closes headTokens [] :=
    passes ["</h2>", "<table class=\"three-line-table\">", "<thead>", "<tr>"] tags_head (by decide)
  have middle : Yields opens closes (tokens "</tr></thead>\n        ".toList) [] :=
    passes ["</tr>", "</thead>"] tags_headEnd (by decide)
  have behind : Yields opens closes (tokens "\n    </table>\n".toList) [] :=
    passes ["</table>"] tags_tableEnd (by decide)
  have last : Yields opens closes tail [] := passes [] plain (List.nil_subset _)
  have whole := (heading.append (front.append (header.append
    (middle.append (body.append (behind.append note)))))).append last
  have found := whole.stretches_eq
  simp only [List.nil_append, List.append_nil] at found
  exact found

theorem yields_no_header (tagwise : Tagwise opens)
    (others : ∀ tag ∈ ["<th>", "</th>"], opens (.tag tag.toList) = false) :
    Yields opens closes (Dictionary.headers.flatMap headerTokens) [] := by
  refine .nothing (tagwise.passed tags_headers fun tag member => ?_)
  obtain ⟨_, _, inside⟩ := List.mem_flatMap.mp member
  exact others tag inside

theorem yields_no_body (tagwise : Tagwise opens)
    (others : ∀ tag ∈ ["<tbody>", "</tbody>"], opens (.tag tag.toList) = false)
    (rows : ∀ key, ∀ tag ∈ rowTags key, opens (.tag tag.toList) = false) (table : Table) :
    Yields opens closes (element (.tag "<tbody>".toList) (bodyTokens table) (.tag "</tbody>".toList)) [] := by
  refine .nothing (List.forall_mem_cons.mpr ⟨others "<tbody>" (by decide), List.forall_mem_append.mpr ⟨?_, ?_⟩⟩)
  · exact tagwise.passed_body table rows
  · exact List.forall_mem_singleton.mpr (others "</tbody>" (by decide))

theorem yields_no_note (tagwise : Tagwise opens)
    (others : ∀ tag ∈ ["<p class=\"note\">", "</p>"], opens (.tag tag.toList) = false) (table : Table) :
    Yields opens closes (noteTokens table) [] := by
  refine .nothing (tagwise.passed (tags_note table) fun tag member => ?_)
  split at member
  · cases member
  · exact others tag member

theorem stretches_headers (plain : tail.filterMap Token.tag? = []) :
    stretches (isTag "<th>") (isTag "</th>") (sectionTokens position table ++ tail) =
      Dictionary.headers.map fun header => (.tag "<th>".toList, written header) := by
  have tagwise := tagwise_isTag "<th>"
  have header : Yields (isTag "<th>") (isTag "</th>") (Dictionary.headers.flatMap headerTokens)
      (Dictionary.headers.map fun header => (.tag "<th>".toList, written header)) :=
    .flatMap _ fun header _ => .element (by decide) (fun token inside => ⟨tagwise.passed_written _ token inside,
      (tagwise_isTag _).passed_written _ token inside⟩) (by decide) (by decide)
  have whole := yields_section position tagwise (by decide) header
    (yields_no_body tagwise (by decide) (by decide) table) (yields_no_note tagwise (by decide) table) plain
  rw [whole, List.append_nil, List.append_nil]

theorem stretches_body (plain : tail.filterMap Token.tag? = []) :
    stretches (isTag "<tbody>") (isTag "</tbody>") (sectionTokens position table ++ tail) =
      [(.tag "<tbody>".toList, bodyTokens table)] := by
  have tagwise := tagwise_isTag "<tbody>"
  have body : Yields (isTag "<tbody>") (isTag "</tbody>")
      (element (.tag "<tbody>".toList) (bodyTokens table) (.tag "</tbody>".toList))
        [(.tag "<tbody>".toList, bodyTokens table)] :=
    .element (by decide) (fun token inside => ⟨tagwise.passed_body table (by decide) token inside,
      (tagwise_isTag _).passed_body table (by decide) token inside⟩) (by decide) (by decide)
  exact yields_section position tagwise (by decide) (yields_no_header tagwise (by decide)) body
    (yields_no_note tagwise (by decide) table) plain

theorem stretches_notes (plain : tail.filterMap Token.tag? = []) :
    stretches (isTag "<p class=\"note\">") (isTag "</p>") (sectionTokens position table ++ tail) =
      if Dictionary.foreignKeyNote table = "" then [] else
        [(.tag "<p class=\"note\">".toList, written ("Foreign keys: " ++ Dictionary.foreignKeyNote table))] := by
  have tagwise := tagwise_isTag "<p class=\"note\">"
  have note : Yields (isTag "<p class=\"note\">") (isTag "</p>") (noteTokens table)
      (if Dictionary.foreignKeyNote table = "" then [] else
        [(.tag "<p class=\"note\">".toList, written ("Foreign keys: " ++ Dictionary.foreignKeyNote table))]) := by
    unfold noteTokens
    split
    · exact .nothing (by decide)
    · refine (Yields.nothing (by decide)).append (.append (.element (by decide) (fun token inside => ?_) (by decide)
        (by decide)) (.nothing (by decide)))
      exact ⟨tagwise.passed_written _ token inside, (tagwise_isTag _).passed_written _ token inside⟩
  exact yields_section position tagwise (by decide) (yields_no_header tagwise (by decide))
    (yields_no_body tagwise (by decide) (by decide) table) note plain

theorem takeWhile_heading :
    (sectionTokens position table ++ tail).takeWhile (!isTag "</h2>" ·) =
      written (Dictionary.heading position table) := by
  have plain : ∀ token ∈ written (Dictionary.heading position table), (!isTag "</h2>" token) = true := by
    intro token member
    rw [(tagwise_isTag _).passed_written _ token member, Bool.not_false]
  have front : headTokens =
      .tag "</h2>".toList :: tokens "\n    <table class=\"three-line-table\">\n        <thead><tr>".toList := by
    decide +kernel
  rw [sectionTokens, front, List.append_assoc, List.takeWhile_append_of_pos plain]
  simp [isTag]

/-- What a page shows of a table is read back from it. -/
theorem readSection?_tokens (plain : tail.filterMap Token.tag? = []) :
    readSection? (sectionTokens position table ++ tail) = some (sectionOf position table) := by
  have headers : (Dictionary.headers.map fun header => ((.tag "<th>".toList : Token), written header)).mapM
      (fun header => content? header.2) = some (Dictionary.headers.map String.toList) := by
    rw [List.mapM_map]
    exact mapM_eq_pure _ fun header _ => content?_written header
  have rows : (table.columns.entries.map fun column =>
        ((.tag "<tr>".toList : Token), (taggedCells column).flatMap cellTokens)).mapM (fun row => readRow? row.2) =
      some (table.columns.entries.map cellsOf) := by
    rw [List.mapM_map]
    exact mapM_eq_pure _ fun column _ => readRow?_cells column
  simp only [readSection?, takeWhile_heading, stretches_headers plain, stretches_body plain, stretches_notes plain,
    content?_written, List.flatMap_cons, List.flatMap_nil, List.append_nil, (yields_rows table).stretches_eq, headers,
    rows, Option.bind_eq_bind, Option.bind_some, sectionOf]
  split
  · rfl
  · simp only [List.mapM_cons, List.mapM_nil, content?_written, Option.pure_def, Option.bind_eq_bind, Option.bind_some]

end Parts

end Reading

end SchemaAtlas.Html
