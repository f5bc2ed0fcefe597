import SchemaAtlas.Text.Quoted
/-!
Paths: names between slashes, read from the working directory or, after a slash, from the root.
-/
namespace SchemaAtlas

/-- What keeps a path from being used. -/
inductive PathFault where
  | missing
  | exists
  | notDirectory
  | isDirectory
  | tooLong
  | nul
deriving DecidableEq, Repr

/-- A fault together with the path at which it was met. -/
structure FileError where
  fault : PathFault
  path : Text
deriving DecidableEq, Repr

namespace FileError

def numbered (number : Nat) (reason : String) (path : Text) : String :=
  s!"[Errno {number}] {reason}: {String.ofList (Text.quoted path)}"

def message (error : FileError) : String :=
  match error.fault with
  | .missing => numbered 2 "No such file or directory" error.path
  | .exists => numbered 17 "File exists" error.path
  | .notDirectory => numbered 20 "Not a directory" error.path
  | .isDirectory => numbered 21 "Is a directory" error.path
  | .tooLong => numbered 36 "File name too long" error.path
  | .nul => "embedded null byte"

end FileError

namespace Path

/-- The longest name and the longest path, in bytes. -/
def longestName : Nat := 255

def longestPath : Nat := 4095

def byteLength (text : Text) : Nat :=
  text.foldl (fun length c => length + c.utf8Size) 0

def fault? (path : Text) : Option PathFault :=
  if path.contains '\x00' then some .nul
  else if path == [] then some .missing
  else if longestPath < byteLength path then some .tooLong
  else none

/-- The slashes that a path from the root begins with; only exactly two of them are kept apart. -/
def root : Text → Text
  | '/' :: '/' :: '/' :: _ => ['/']
  | '/' :: '/' :: _ => ['/', '/']
  | '/' :: _ => ['/']
  | _ => []

/-- The names along a path, without those that stay where they are. -/
def names (path : Text) : List Text :=
  (Text.fields '/' path).filter fun name => name != [] && name != ['.']

/-- A path without needless slashes and dots; the path of the working directory is a dot. -/
def normalized (path : Text) : Text :=
  match root path ++ ['/'].intercalate (names path) with
  | [] => ['.']
  | path => path

/-- A path inside a directory; one from the root leaves the directory out of account. -/
def join (directory path : Text) : Text :=
  if path.head? == some '/' then path
  else if directory == [] || directory.getLast? == some '/' then directory ++ path
  else directory ++ '/' :: path

/-- The beginnings of a path that end before a run of slashes, the longest last. -/
def beginningsFrom (passed : Text) : Text → List Text
  | [] => []
  | c :: rest =>
    let longer := beginningsFrom (passed ++ [c]) rest
    if c == '/' && passed != [] && passed.getLast? != some '/' then passed :: longer else longer

/-- The directories that a path passes through, the innermost first. -/
def directories (path : Text) : List Text := (beginningsFrom [] path).reverse

end Path
end SchemaAtlas
