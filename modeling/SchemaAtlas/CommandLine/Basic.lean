import SchemaAtlas.CommandLine.Report
import SchemaAtlas.CommandLine.Usage
import SchemaAtlas.Dictionary.Html
import SchemaAtlas.Json.Export
import SchemaAtlas.Script.Journal
import SchemaAtlas.Surroundings
/-!
Runs of the program: a script is read from the console or from a file, and what it describes is shown
as JSON or Mermaid text, written as a data dictionary, or drawn.
-/
namespace SchemaAtlas.CommandLine

/-- What a run finds: its surroundings, the text on the console and the files. -/
structure Workplace where
  surroundings : Surroundings
  console : Text
  files : FileTree

/-- Every line break as a line feed. -/
def unifiedBreaks : Text → Text
  | [] => []
  | '\r' :: '\n' :: rest => '\n' :: unifiedBreaks rest
  | '\r' :: rest => '\n' :: unifiedBreaks rest
  | c :: rest => c :: unifiedBreaks rest

/-- A script with errors has its own exit code, unless it is drawn. -/
def exitCode (schema : Schema) : Nat := if schema.success then 0 else 2

namespace Report

def showJson (report : Report) (schema : Schema) : Report :=
  let value := Json.object
    [("schema", schema.toJson), ("diagram", (Diagram.ofSchema schema).toJson)]
  (report.print (String.ofList (value.render (.indented false)) ++ "\n")).exit (exitCode schema)

def showMermaid (report : Report) (schema : Schema) : Report :=
  match Mermaid.render (Diagram.ofSchema schema) with
  | .error cause => report.fail (.diagram cause)
  | .ok text => (report.print (String.ofList text)).exit (exitCode schema)

end Report

/-- A file at a path whose directory is there. -/
def writeFile (files : FileTree) (path : Text) (product : Product) :
    Except FileError WrittenFile := do
  let place ← files.writable path
  return ⟨place, (files.entry? place).isNone, product⟩

def dictionary (format : DocumentFormat) (generated : String) (schema : Schema) :
    Except Document.Error Product :=
  match format with
  | .html => .ok (.text (Html.render generated schema))
  | .docx => (Document.write generated schema).map .document

/-- A value that was left out shows as empty brackets. -/
def shown (value : Option String) : String := value.getD "[]"

def documentPath (directory : Text) (arguments : Arguments) (format : DocumentFormat) : Text :=
  Path.normalized (Path.join directory (shown arguments.output ++ "." ++ format.label).toList)

/-- The output directory is made with all that it needs, but no directory inside it. -/
def writeDocument (workplace : Workplace) (directory path : Text) (format : DocumentFormat)
    (schema : Schema) : Except Failure WrittenFile := do
  let files ← (workplace.files.ensureInner (directory :: Path.directories directory)).mapError .file
  let product ← (dictionary format workplace.surroundings.generated schema).mapError .document
  (writeFile files path product).mapError .file

def Report.saveDocument (report : Report) (workplace : Workplace) (arguments : Arguments)
    (format : DocumentFormat) (schema : Schema) : Report :=
  match arguments.outputDirectory with
  | none => report.fail (.gap .directory)
  | some directory =>
    let directory := Path.normalized directory.toList
    let path := documentPath directory arguments format
    match writeDocument workplace directory path format schema with
    | .error cause => report.fail cause
    | .ok file =>
      ((report.leave file).print s!"✅ Document saved to: {String.ofList path}\n").exit
        (exitCode schema)

def issueLine (mark : String) (issue : Issue) : String :=
  let table := match issue.table with
    | none | some "" => ""
    | some name => s!" [{name}]"
  s!"   {mark} {issue.kind.label}{table}: {issue.message}\n"

def issueLines (schema : Schema) : String :=
  if schema.errors.isEmpty && schema.warnings.isEmpty then ""
  else
    s!"⚠️  {schema.errors.length} error(s), {schema.warnings.length} warning(s):\n" ++
      String.join (schema.errors.map (issueLine "❌")) ++
      String.join (schema.warnings.map (issueLine "⚠️ "))

def tableLines (schema : Schema) : String :=
  s!"✅ Found {schema.tables.size} table(s):\n" ++
    String.join (schema.tables.entries.map fun table => s!"   - {table.name}\n")

def diagramLines (diagram : Diagram) : String :=
  Text.unlines
    ["", "🏗️  Building ER model...", s!"   - {diagram.entities.length} entities",
     s!"   - {diagram.links.length} relationships", "", "🎨 Rendering ER diagram..."]

def missingProgram : String :=
  "Graphviz is not installed: failed to execute PosixPath('dot'), " ++
    "make sure the Graphviz executables are on your systems' PATH"

def Report.failDrawing (report : Report) (reason : String) : Report :=
  (report.print s!"\n❌ Error: {reason}\n").exit 1

/-- Writes the graph for a drawing program, with all directories that its path needs. -/
def writeGraph (files : FileTree) (path source : Text) : Except FileError WrittenFile :=
  match files.ensureOuter (Path.directories path) with
  | (files, none) => writeFile files path (.text source)
  | (_, some error) => .error error

def imagePath (arguments : Arguments) : Except Gap Text :=
  match arguments.outputDirectory, arguments.output with
  | none, _ => .error .directory
  | some _, none => .error .name
  | some directory, some name => .ok (Path.join directory.toList name.toList)

-- The format is looked at before the path.
/-- Without a drawing program the graph itself is left behind. -/
def Report.drawImage (report : Report) (workplace : Workplace) (arguments : Arguments)
    (diagram : Diagram) : Report :=
  let format := shown arguments.format
  match Drawing.render (shown arguments.output) format diagram, imagePath arguments with
  | .error cause, _ => report.failDrawing cause.message
  | .ok _, .error part => report.failDrawing part.message
  | .ok source, .ok path =>
    match workplace.surroundings.drawImage? with
    | some draw =>
      let saved := draw ⟨String.ofList path, format, arguments.view⟩
      report.print s!"\n✅ ER diagram saved to: {saved}\n"
    | none => match writeGraph workplace.files path source with
      | .error error => report.failDrawing error.message
      | .ok file => (report.leave file).failDrawing missingProgram

def Report.showImage (report : Report) (workplace : Workplace) (arguments : Arguments)
    (schema : Schema) : Report :=
  let report := report.print ("🔍 Parsing SQL statements...\n" ++ issueLines schema)
  if schema.tables.size == 0 then
    report.print "❌ No CREATE TABLE statements found in the SQL\n"
  else
    let diagram := Diagram.ofSchema schema
    (report.print (tableLines schema ++ diagramLines diagram)).drawImage workplace arguments diagram

/-- Of several ways to show a script the first counts. -/
def Report.showScript (report : Report) (workplace : Workplace) (arguments : Arguments)
    (script : Text) : Report :=
  let script := String.ofList script
  let report := report.note (Journal.text arguments.verbose (Journal.ofScript script))
  let schema := Script.read script
  if arguments.json then report.showJson schema
  else if arguments.mermaid then report.showMermaid schema
  else match arguments.document with
    | some format => report.saveDocument workplace arguments format schema
    | none => report.showImage workplace arguments schema

def Report.showFile (report : Report) (workplace : Workplace) (arguments : Arguments) : Report :=
  let path := Path.normalized arguments.input.toList
  let opened := report.note s!"📝 Reading SQL from: {arguments.input}\n"
  match workplace.files.find path with
  | .error .tooLong => report.fail (.file ⟨.tooLong, path⟩)
  | .error _ => (report.print s!"❌ Error: File not found: {arguments.input}\n").exit 1
  | .ok .directory => opened.fail (.file ⟨.isDirectory, path⟩)
  | .ok (.file bytes) => match Encoding.utf8 false bytes with
    | .error fault => opened.fail (.encoding fault)
    | .ok points =>
      opened.showScript workplace arguments (unifiedBreaks (points.map Char.ofNat))

/-- A minus as the input is the console. -/
def execute (workplace : Workplace) (arguments : Arguments) : Report :=
  if arguments.input == "-" then
    (Report.initial.note "📝 Reading SQL from stdin (press Ctrl+D when done)...\n").showScript
      workplace arguments workplace.console
  else Report.initial.showFile workplace arguments

def run (workplace : Workplace) (words : List String) : Report :=
  match readArguments words with
  | .ok arguments => execute workplace arguments
  | .error .help => Report.initial.print help
  | .error (.usage fault) => (Report.initial.note (refusal fault)).exit 2

end SchemaAtlas.CommandLine
