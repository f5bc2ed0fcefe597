import SchemaAtlas.CommandLine.Word
import SchemaAtlas.Diagram.Drawing
/-!
The arguments of a run: one input, and what its options ask for. They are read word by word.
-/
namespace SchemaAtlas

inductive DocumentFormat where
  | html
  | docx
deriving DecidableEq, Repr

def DocumentFormat.label : DocumentFormat → String
  | .html => "html"
  | .docx => "docx"

def DocumentFormat.all : List DocumentFormat := [.html, .docx]

/-- What a run is asked for. An option may be given without the value that it takes. -/
structure Arguments where
  input : String
  output : Option String
  format : Option String
  outputDirectory : Option String
  view : Bool
  json : Bool
  mermaid : Bool
  document : Option DocumentFormat
  verbose : Bool
deriving DecidableEq, Repr

namespace CommandLine

/-- What is read so far: the input, if it was met, and the words that nothing asked for. -/
structure Progress where
  input : Option Text
  arguments : Arguments
  extras : List Text
deriving DecidableEq, Repr

namespace Progress

def initial : Progress :=
  ⟨none,
    { input := "", output := some "er_diagram", format := some Drawing.defaultFormat,
      outputDirectory := some "output", view := true, json := false, mermaid := false,
      document := none, verbose := false },
    []⟩

def passOver (progress : Progress) (text : Text) : Progress :=
  { progress with extras := progress.extras ++ [text] }

/-- The first value is the input. -/
def takeValue (progress : Progress) (text : Text) : Progress :=
  match progress.input with
  | none => { progress with input := some text }
  | some _ => progress.passOver text

/-- The value in a text. Two minuses are none, even behind an equals sign. -/
def value? (text : Text) : Option String :=
  if text == ['-', '-'] then none else some (String.ofList text)

def settle (progress : Progress) (choice : Choice) (value : Text) : Except Refusal Progress :=
  let set := fun (arguments : Arguments) =>
    (.ok { progress with arguments := arguments } : Except Refusal Progress)
  let arguments := progress.arguments
  match choice with
  | .help => .error .help
  | .output => set { arguments with output := value? value }
  | .outputDirectory => set { arguments with outputDirectory := value? value }
  | .noView => set { arguments with view := false }
  | .json => set { arguments with json := true }
  | .mermaid => set { arguments with mermaid := true }
  | .verbose => set { arguments with verbose := true }
  | .format =>
    if (value? value).all Drawing.formats.contains then
      set { arguments with format := value? value }
    else .error (.usage (.invalidValue .format value Drawing.formats))
  | .document =>
    let document := DocumentFormat.all.find? (some ·.label == value? value)
    if document.isSome || (value? value).isNone then set { arguments with document := document }
    else .error (.usage (.invalidValue .document value (DocumentFormat.all.map (·.label))))

def settleAll (progress : Progress) (settled : List (Choice × Text)) : Except Refusal Progress :=
  settled.foldlM (fun progress (choice, value) => progress.settle choice value) progress

-- Help takes effect as soon as it is met, before the words that follow can be at fault.
/-- The separator goes with the input if it stands next to it; otherwise nothing asked for it. -/
def read (progress : Progress) : List Word → Except Refusal Progress
  | [] => .ok progress
  | .value text :: rest =>
    match progress.input, rest with
    | none, .separator :: rest => (progress.takeValue text).read rest
    | _, rest => (progress.takeValue text).read rest
  | .separator :: rest =>
    match progress.input, rest with
    | none, .value text :: rest => (progress.takeValue text).read rest
    | _, rest => (progress.passOver ['-', '-']).read rest
  | .unknown text :: rest => (progress.passOver text).read rest
  | .option choice isLong attachment :: rest => do
    let cluster ← (Cluster.read choice isLong attachment).mapError .usage
    match cluster.waiting, rest with
    | none, rest => (← progress.settleAll cluster.settled).read rest
    | some waiting, .value value :: rest =>
      (← progress.settleAll (cluster.settled ++ [(waiting, value)])).read rest
    | some waiting, _ => throw (.usage (.missingValue waiting))

def finish (progress : Progress) : Except Refusal Arguments :=
  match progress.input, progress.extras with
  | none, _ => .error (.usage .missingInput)
  | some input, [] => .ok { progress.arguments with input := String.ofList input }
  | some _, extras => .error (.usage (.unrecognized (extras.map String.ofList)))

end Progress

/-- Words are told apart before any of them takes effect. -/
def readArguments (texts : List String) : Except Refusal Arguments := do
  let words ← (readWords (texts.map String.toList)).mapError .usage
  (← Progress.initial.read words).finish

end CommandLine
end SchemaAtlas
