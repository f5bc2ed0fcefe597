import SchemaAtlas.Diagram.Basic
import SchemaAtlas.Text.Quoted
/-!
Diagrams as Mermaid text. Names and types keep the characters that Mermaid allows in them; any other
becomes an underscore.
-/
namespace SchemaAtlas.Mermaid

inductive Error where
  | unknownKey (key : String)
deriving DecidableEq, Repr

def Error.message : Error → String
  | .unknownKey key => String.ofList (Text.quoted key.toList)

def isNameCharacter (c : Char) : Bool := c.isAlphanum || c == '_' || c == '-'

def isTypeCharacter (c : Char) : Bool := isNameCharacter c || c ∈ ['(', ')', '[', ']']

def restricted (allowed : Char → Bool) (text : Text) : Text :=
  text.map fun c => if allowed c then c else '_'

/-- A name is never empty. -/
def name (text : Text) : Text :=
  match restricted isNameCharacter text with
  | [] => ['_']
  | kept => kept

def type (text : Text) : Text := restricted isTypeCharacter text

/-- How the keys of a diagram are written; a column without a key has nothing. -/
def keys : List (String × String) := [("PK", "PK"), ("FK", "FK"), ("UQ", "UK")]

def connectors : List (String × String) :=
  [(Cardinality.oneToOne.label, "||--||"), (Cardinality.manyToOne.label, "\x7do--||"),
   (Cardinality.manyToMany.label, "\x7do--o\x7b")]

def connector (kind : String) : String := (connectors.lookup kind).getD "\x7do--o\x7b"

def keyText (key : String) : Except Error Text :=
  if key == "" then .ok []
  else match keys.lookup key with
    | some text => .ok (' ' :: text.toList)
    | none => .error (.unknownKey key)

def attributeLine (property : Attribute) : Except Error Text := do
  return "        ".toList ++ type property.type.toList ++ ' ' :: name property.name.toList ++
    (← keyText property.key)

def entityLines (entity : Entity) : Except Error (List Text) := do
  return ("    ".toList ++ name entity.name.toList ++ " \x7b".toList) ::
    (← entity.attributes.mapM attributeLine) ++ ["    \x7d".toList]

/-- Double quotation marks of a label become single ones. -/
def labelText (label : Text) : Text := label.map fun c => if c == '"' then '\'' else c

def linkLine (link : EntityLink) : Text :=
  "    ".toList ++ name link.source.toList ++ ' ' :: (connector link.kind).toList ++
    ' ' :: name link.target.toList ++ " : \"".toList ++ labelText link.label.toList ++ ['"']

def lines (diagram : Diagram) : Except Error (List Text) := do
  let entities ← diagram.entities.mapM entityLines
  return "erDiagram".toList :: entities.flatten ++ diagram.links.map linkLine

def render (diagram : Diagram) : Except Error Text := do
  return (← lines diagram).flatMap (· ++ ['\n'])

end SchemaAtlas.Mermaid
