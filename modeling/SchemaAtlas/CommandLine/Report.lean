import SchemaAtlas.Diagram.Mermaid
import SchemaAtlas.Dictionary.Document
import SchemaAtlas.FileTree.Basic
import SchemaAtlas.Text.Encoding
/-!
What a run of the program leaves: what it printed and logged, the file that it wrote, and how it
ended.
-/
namespace SchemaAtlas.CommandLine

/-- What the program writes into a file. -/
inductive Product where
  | text (content : Text)
  | document (blocks : List Document.Block)
deriving DecidableEq, Repr

structure WrittenFile where
  place : Place
  isNew : Bool
  product : Product
deriving DecidableEq, Repr

/-- A part of a path that was left without a value. -/
inductive Gap where
  | directory
  | name
deriving DecidableEq, Repr

def Gap.message : Gap → String
  | .directory => "expected str, bytes or os.PathLike object, not list"
  | .name => "join() argument must be str, bytes, or os.PathLike object, not 'list'"

/-- A cause that breaks a run off. -/
inductive Failure where
  | gap (part : Gap)
  | file (error : FileError)
  | encoding (fault : Encoding.Utf8Fault)
  | document (error : Document.Error)
  | diagram (error : Mermaid.Error)
deriving DecidableEq, Repr

def Failure.message : Failure → String
  | .gap part => part.message
  | .file error => error.message
  | .encoding fault => fault.message
  | .document error => error.message
  | .diagram error => error.message

inductive Ending where
  | exit (code : Nat)
  | failed (cause : Failure)
deriving DecidableEq, Repr

structure Report where
  output : String
  log : String
  written : Option WrittenFile
  ending : Ending
deriving DecidableEq, Repr

namespace Report

/-- The report of a run that has done nothing yet. -/
def initial : Report := ⟨"", "", none, .exit 0⟩

def print (report : Report) (text : String) : Report :=
  { report with output := report.output ++ text }

def note (report : Report) (text : String) : Report := { report with log := report.log ++ text }

def leave (report : Report) (file : WrittenFile) : Report := { report with written := some file }

def exit (report : Report) (code : Nat) : Report := { report with ending := .exit code }

def fail (report : Report) (cause : Failure) : Report := { report with ending := .failed cause }

end Report
end SchemaAtlas.CommandLine
