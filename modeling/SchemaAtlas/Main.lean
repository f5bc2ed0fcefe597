import SchemaAtlas.CommandLine.Basic
import Std.Time.Format
/-!
The program itself. No drawing program is at hand here, so diagrams are left as graphs, and documents
are written as the plain text of their paragraphs and cells.
-/
namespace SchemaAtlas

def Document.Block.plainText : Document.Block → String
  | .paragraph content => String.join (content.runs.map (·.text)) ++ "\n"
  | .grid content => Text.unlines (content.rows.map fun row => "\t".intercalate (row.map (·.text)))

namespace CommandLine

def Product.plainText : Product → String
  | .text content => String.ofList content
  | .document blocks => String.join (blocks.map Document.Block.plainText)

def readConsole (stream : IO.FS.Stream) : IO Text := do
  let mut text := ""
  repeat
    let line ← stream.getLine
    if line.isEmpty then break
    text := text ++ line
  return text.toList

/-- The tree that holds the input, if it is there. What cannot be read as a file is a directory. -/
def inputTree (input : String) : IO FileTree := do
  let path := Path.normalized input.toList
  try
    let bytes ← IO.FS.readBinFile (String.ofList path)
    return FileTree.empty.plant path (.file (bytes.toList.map UInt8.toNat))
  catch
    | .noFileOrDirectory .. => return .empty
    | _ => return FileTree.empty.plant path .directory

/-- The console and the files that the arguments speak of. -/
def gather (words : List String) : IO (Text × FileTree) := do
  match readArguments words with
  | .error _ => return ([], .empty)
  | .ok arguments =>
    if arguments.input == "-" then return (← readConsole (← IO.getStdin), .empty)
    else return ([], ← inputTree arguments.input)

def store (file : WrittenFile) : IO Unit := do
  let names := file.place.map String.ofList
  unless names.length ≤ 1 do IO.FS.createDirAll ("/".intercalate names.dropLast)
  IO.FS.writeFile ("/".intercalate names) file.product.plainText

def finish (report : Report) : IO UInt32 := do
  IO.eprint report.log
  if let some file := report.written then store file
  IO.print report.output
  match report.ending with
  | .exit code => return code.toUInt32
  | .failed cause =>
    IO.eprintln cause.message
    return 1

def perform (words : List String) : IO UInt32 := do
  let (console, files) ← gather words
  let now ← Std.Time.PlainDateTime.now
  finish (run ⟨⟨now.format "uuuu-MM-dd HH:mm:ss", none⟩, console, files⟩ words)

end CommandLine
end SchemaAtlas

def main (words : List String) : IO UInt32 := SchemaAtlas.CommandLine.perform words
