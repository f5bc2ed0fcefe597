import SchemaAtlas.Diagram.Basic
import SchemaAtlas.Diagram.Dot
/-!
Diagrams drawn as graphs: a box for each entity in a cluster with the ellipses of its attributes, and
a diamond for each link between the boxes that it joins.
-/
namespace SchemaAtlas.Drawing

inductive Error where
  | unsupportedFormat (format : String)
deriving DecidableEq, Repr

def Error.message : Error → String
  | .unsupportedFormat format => "Unsupported diagram format: " ++ format

/-- The formats of images; none of them changes the graph. -/
def formats : List String := ["png", "svg", "pdf"]

def defaultName : String := "ER_Diagram"

def defaultFormat : String := "png"

/-- How many rows a link joins at its source and at its target. -/
def ends : List (String × (String × String)) :=
  [(Cardinality.oneToOne.label, ("1", "1")), (Cardinality.manyToOne.label, ("N", "1")),
   (Cardinality.manyToMany.label, ("M", "N"))]

def attributeId (entity : Entity) (property : Attribute) : String :=
  entity.name ++ "__" ++ property.name

def diamondId (position : Nat) : String := s!"rel_{position}"

def entityNode (entity : Entity) : Dot.Statement :=
  .node entity.name [("label", entity.displayName), ("fillcolor", "lightblue"), ("shape", "box"),
    ("style", "filled")]

def attributeLabel (property : Attribute) : String :=
  property.name ++ "\\n" ++ property.type ++
    if property.key == "" then "" else "\\n[" ++ property.key ++ "]"

def attributeNode (entity : Entity) (property : Attribute) : Dot.Statement :=
  let label := ("label", attributeLabel property)
  .node (attributeId entity property) <|
    if property.key == "PK" then
      [label, ("fillcolor", "lightyellow"), ("fontcolor", "red"), ("penwidth", "2"),
        ("shape", "ellipse"), ("style", "filled")]
    else
      [label, ("fillcolor", if property.key == "FK" then "lavender" else "white"),
        ("shape", "ellipse"), ("style", if property.isNullable then "filled,dashed" else "filled")]

def attributeStatements (entity : Entity) (property : Attribute) : List Dot.Statement :=
  [attributeNode entity property,
   .edge entity.name (attributeId entity property) [("dir", "none")]]

def entityItem (entity : Entity) : Dot.Item :=
  .cluster ("cluster_" ++ entity.name) <|
    .settings [("label", ""), ("style", "invis")] :: entityNode entity ::
      entity.attributes.flatMap (attributeStatements entity)

/-- A link of a kind that is not known shows question marks. -/
def linkItems (position : Nat) (link : EntityLink) : List Dot.Item :=
  let diamond := diamondId position
  let (source, target) := (ends.lookup link.kind).getD ("?", "?")
  let label := if (ends.lookup link.kind).isSome then source ++ ":" ++ target else "?"
  [.single (.node diamond [("label", label), ("fillcolor", "lightgreen"), ("fontsize", "9"),
     ("height", "0.6"), ("shape", "diamond"), ("style", "filled"), ("width", "0.8")]),
   .single (.edge link.source diamond [("label", link.label), ("dir", "none"),
     ("taillabel", source)]),
   .single (.edge diamond link.target [("dir", "none"), ("headlabel", target)])]

def layout : List Dot.Item :=
  [.single (.settings [("rankdir", "TB")]),
   .single (.defaults "node" [("fontname", "Arial"), ("fontsize", "10")]),
   .single (.defaults "edge" [("arrowsize", "0.7"), ("penwidth", "1.2")])]

def graph (name : String) (diagram : Diagram) : Dot.Graph :=
  ⟨name, layout ++ diagram.entities.map entityItem ++
    (diagram.links.mapIdx linkItems).flatten⟩

def render (name format : String) (diagram : Diagram) : Except Error Text :=
  if formats.contains format then .ok (graph name diagram).render
  else .error (.unsupportedFormat format)

end SchemaAtlas.Drawing
