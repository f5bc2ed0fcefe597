import SchemaAtlas.Dictionary.Row
import SchemaAtlas.Text.Basic
/-!
The data dictionary as a web page. A page is a list of markup and texts; all that comes from the
schema is a text, and texts are escaped when the page is written.
-/
namespace SchemaAtlas.Html

inductive Piece where
  | markup (source : String)
  | text (content : String)
deriving DecidableEq, Repr

def escapedCharacter (c : Char) : Text :=
  if c == '&' then "&amp;".toList
  else if c == '<' then "&lt;".toList
  else if c == '>' then "&gt;".toList
  else if c == '"' then "&quot;".toList
  else if c == '\'' then "&#x27;".toList
  else [c]

def escape (text : Text) : Text := text.flatMap escapedCharacter

def Piece.render : Piece → Text
  | markup source => source.toList
  | text content => escape content.toList

def style : String :=
  Text.unlines
    ["",
     "    <style>",
     "        body \x7b font-family: 'Segoe UI', Arial, sans-serif; color: #1e293b; margin: 2rem; \x7d",
     "        .document-title \x7b text-align: center; font-size: 20pt; \x7d",
     "        .document-info \x7b text-align: center; color: #666; font-size: 10pt; \x7d",
     "        .table-title \x7b text-align: center; font-size: 12pt; margin-top: 2rem; \x7d",
     "        .three-line-table \x7b width: 100%; border-collapse: collapse; font-size: 10.5pt;",
     "                            border-top: 2px solid #000; border-bottom: 2px solid #000; \x7d",
     "        .three-line-table th \x7b border-bottom: 1px solid #000; padding: 6px; \x7d",
     "        .three-line-table td \x7b padding: 6px; text-align: center; \x7d",
     "        .three-line-table td.field-name \x7b text-align: left; font-family: Consolas, monospace; \x7d",
     "        .pk-yes \x7b color: #c0392b; font-weight: bold; \x7d",
     "        .note \x7b font-size: 9pt; color: #666; font-style: italic; \x7d",
     "    </style>"] ++ "    "

/-- `generated` is the time of writing. -/
def opening (generated : String) (schema : Schema) : List Piece :=
  [.markup <| Text.unlines ["<!DOCTYPE html>", "<html>", "<head>", "    <title>Database Schema</title>",
      "    <meta charset=\"UTF-8\">", "    " ++ style, "</head>", "<body>",
      "    <h1 class=\"document-title\">Database Schema</h1>",
      "    <p class=\"document-info\">"] ++ "        ",
   .text ("Generated: " ++ generated),
   .markup "<br>\n        ",
   .text s!"Tables: {schema.tables.size} · Columns: {schema.columnCount}",
   .markup "\n    </p>\n"]

def headerCells : List Piece :=
  Dictionary.headers.flatMap fun header => [.markup "<th>", .text header, .markup "</th>"]

def cell (opening : String) (content : String) : List Piece :=
  [.markup opening, .text content, .markup "</td>"]

/-- The key cell of a primary key column stands out. -/
def row (column : Column) : List Piece :=
  let row := Dictionary.Row.ofColumn column
  .markup "            <tr>" ::
    (cell "<td class=\"field-name\">" row.column ++ cell "<td>" row.type ++
      cell "<td>" row.length ++ cell "<td>" row.nullable ++
      cell (if column.isPrimaryKey then "<td class=\"pk-yes\">" else "<td>") row.key ++
      cell "<td>" row.default ++ cell "<td>" row.notes) ++ [.markup "</tr>\n"]

def note (table : Table) : List Piece :=
  match Dictionary.foreignKeyNote table with
  | "" => []
  | note => [.markup "    <p class=\"note\">", .text ("Foreign keys: " ++ note), .markup "</p>\n"]

def tableSection (position : Nat) (table : Table) : List Piece :=
  [.markup "    <h2 class=\"table-title\">", .text (Dictionary.heading position table),
   .markup "</h2>\n    <table class=\"three-line-table\">\n        <thead><tr>"] ++ headerCells ++
    .markup "</tr></thead>\n        <tbody>\n" :: table.columns.entries.flatMap row ++
    .markup "        </tbody>\n    </table>\n" :: note table

def page (generated : String) (schema : Schema) : List Piece :=
  opening generated schema ++ (schema.tables.entries.mapIdx tableSection).flatten ++
    [.markup "</body>\n</html>\n"]

def render (generated : String) (schema : Schema) : Text :=
  (page generated schema).flatMap Piece.render

end SchemaAtlas.Html
