import SchemaAtlas.Script.Phrase
/-!
Names of tables, columns and indexes as a script spells them. A name may stand in brackets or
quotation marks, and a qualifier may precede it; neither belongs to the name.
-/
namespace SchemaAtlas.Name

def areDelimiters (opening closing : Char) : Bool :=
  (opening, closing) ∈ [('[', ']'), ('\'', '\''), ('"', '"'), ('\x60', '\x60')]

/-- Takes off one pair of delimiters. -/
def undelimited (text : Text) : Text :=
  match text with
  | first :: second :: rest =>
    if areDelimiters first ((second :: rest).getLast (by simp)) then (second :: rest).dropLast
    else text
  | _ => text

def clean (text : Text) : Text := Text.trim (undelimited (Text.trim text))

/-- The name without delimiters and without its qualifier. -/
def cleanQualified (text : Text) : Text :=
  let trimmed := Text.trim text
  match (Phrase.wholeName.match? trimmed).bind (·.text? .name trimmed) with
  | some name => clean name
  | none => clean text

/-- A column of a list without its sort order. -/
def withoutSortOrder (text : Text) : Text :=
  match Phrase.sortSuffix.find? text with
  | some suffix => text.take suffix.span.start
  | none => text

/-- The names in a list of columns, without sort orders and without empty names. -/
def list (text : Text) : List Text :=
  ((Text.fields ',' text).map fun field => clean (withoutSortOrder (Text.trim field))).filter
    (· != [])

end SchemaAtlas.Name
