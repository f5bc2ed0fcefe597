import SchemaAtlas.Text.Quoted
/-!
The options of the program, and what can be wrong with its arguments.
-/
namespace SchemaAtlas.CommandLine

/-- What an option asks for. -/
inductive Choice where
  | help
  | output
  | format
  | outputDirectory
  | noView
  | json
  | mermaid
  | document
  | verbose
deriving DecidableEq, Repr

/-- The names of the options, in the order in which they are offered. -/
def optionNames : List (String × Choice) :=
  [("-h", .help), ("--help", .help), ("-o", .output), ("--output", .output),
   ("--format", .format), ("--output-dir", .outputDirectory), ("--no-view", .noView),
   ("--json", .json), ("--mermaid", .mermaid), ("--doc", .document), ("-v", .verbose),
   ("--verbose", .verbose)]

namespace Choice

def names (choice : Choice) : List String :=
  (optionNames.filter (·.2 == choice)).map (·.1)

def label (choice : Choice) : String := "/".intercalate choice.names

def takesValue : Choice → Bool
  | .output | .format | .outputDirectory | .document => true
  | .help | .noView | .json | .mermaid | .verbose => false

end Choice

inductive UsageFault where
  | ambiguous (word : String) (names : List String)
  | missingValue (choice : Choice)
  | unwantedValue (choice : Choice) (value : Text)
  | invalidValue (choice : Choice) (value : Text) (offered : List String)
  | missingInput
  | unrecognized (words : List String)
deriving DecidableEq, Repr

def UsageFault.message : UsageFault → String
  | .ambiguous word names => s!"ambiguous option: {word} could match " ++ ", ".intercalate names
  | .missingValue choice => s!"argument {choice.label}: expected one argument"
  | .unwantedValue choice value =>
    s!"argument {choice.label}: ignored explicit argument " ++ String.ofList (Text.quoted value)
  | .invalidValue choice value offered =>
    let offered := offered.map fun name => String.ofList (Text.quoted name.toList)
    s!"argument {choice.label}: invalid choice: {String.ofList (Text.quoted value)} (choose from " ++
      ", ".intercalate offered ++ ")"
  | .missingInput => "the following arguments are required: input"
  | .unrecognized words => "unrecognized arguments: " ++ " ".intercalate words

/-- Arguments may ask for help instead of a run. -/
inductive Refusal where
  | help
  | usage (fault : UsageFault)
deriving DecidableEq, Repr

end SchemaAtlas.CommandLine
