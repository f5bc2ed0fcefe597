import SchemaAtlas.Pattern.Basic
/-!
Directed graphs in the DOT language, with at most one level of clusters. Text stands between
quotation marks unless it is an identifier, a number or markup in angle brackets.
-/
namespace SchemaAtlas.Dot

/-- What DOT takes without quotation marks. -/
def bareIdentifier : Pattern :=
  let digit := fun c : Char => c.isDigit
  (.one (fun c => c.isAlpha || c == '_') ++ .many (fun c => c.isAlphanum || c == '_') <|>
    .optional (.exactly '-') ++
      (.exactly '.' ++ .several digit <|>
        .several digit ++ .optional (.exactly '.' ++ .many digit))) ++ .ending

def markup : Pattern := .exactly '<' ++ .many (fun _ => true) ++ .exactly '>' ++ .ending

def keywords : List String := ["node", "edge", "graph", "digraph", "subgraph", "strict"]

/-- Gives each quotation mark an odd number of backslashes; `odd` tells those that precede. -/
def escaped (odd : Bool) : Text → Text
  | [] => []
  | c :: rest =>
    if c == '"' then (if odd then ['"'] else ['\\', '"']) ++ escaped false rest
    else c :: escaped (c == '\\' && !odd) rest

def isBare (text : Text) : Bool :=
  (bareIdentifier.match? text).isSome &&
    !keywords.contains (String.ofList (text.map Char.toLower))

def quote (text : Text) : Text :=
  if (markup.match? text).isSome || isBare text then text else '"' :: escaped false text ++ ['"']

/-- What precedes the first colon, and what follows it. -/
def atColon (text : Text) : Text × Text :=
  (text.takeWhile (· != ':'), (text.dropWhile (· != ':')).drop 1)

/-- The end of an edge: a node, perhaps with a port and a compass point after colons. -/
def quoteEnd (text : Text) : Text :=
  let (node, rest) := atColon text
  let (port, compass) := atColon rest
  quote node ++ (if rest == [] then [] else ':' :: quote port) ++
    (if compass == [] then [] else ':' :: compass)

abbrev Setting := String × String

inductive Statement where
  | settings (values : List Setting)
  | defaults (target : String) (values : List Setting)
  | node (id : String) (values : List Setting)
  | edge (tail head : String) (values : List Setting)
deriving DecidableEq, Repr

inductive Item where
  | single (statement : Statement)
  | cluster (name : String) (statements : List Statement)
deriving DecidableEq, Repr

structure Graph where
  name : String
  items : List Item
deriving DecidableEq, Repr

def settingText (setting : Setting) : Text :=
  quote setting.1.toList ++ '=' :: quote setting.2.toList

def settingsText (values : List Setting) : Text := [' '].intercalate (values.map settingText)

def bracketed (values : List Setting) : Text := " [".toList ++ settingsText values ++ [']']

def Statement.text : Statement → Text
  | settings values => settingsText values
  | defaults target values => target.toList ++ bracketed values
  | node id values => quote id.toList ++ bracketed values
  | edge tail head values =>
    quoteEnd tail.toList ++ " -> ".toList ++ quoteEnd head.toList ++ bracketed values

def Item.lines : Item → List Text
  | single statement => ['\t' :: statement.text]
  | cluster name statements =>
    ("\tsubgraph ".toList ++ quote name.toList ++ " \x7b".toList) ::
      statements.map (fun statement => '\t' :: '\t' :: statement.text) ++ ["\t\x7d".toList]

/-- A graph without a name has none in its first line. -/
def headLine (name : String) : Text :=
  "digraph ".toList ++ (if name == "" then [] else quote name.toList ++ [' ']) ++ ['\x7b']

def Graph.lines (graph : Graph) : List Text :=
  headLine graph.name :: graph.items.flatMap Item.lines ++ [['\x7d']]

def Graph.render (graph : Graph) : Text := graph.lines.flatMap (· ++ ['\n'])

end SchemaAtlas.Dot
