import SchemaAtlas.FileTree.Path
/-!
The files and directories that a run finds. A place is told by the names that lead to it
from the working directory; two dots at its beginning lead out of that directory, and a slash there
is the root.
-/
namespace SchemaAtlas

abbrev Place := List Text

inductive FileEntry where
  | directory
  | file (bytes : List Nat)
deriving DecidableEq, Repr

/-- Of two entries at one place the earlier one counts. -/
structure FileTree where
  entries : List (Place × FileEntry)
deriving DecidableEq, Repr

namespace Place

def rootName : Text := ['/']

def upName : Text := ['.', '.']

/-- Where a path begins. -/
def start (path : Text) : Place := if path.head? == some '/' then [rootName] else []

/-- The directory that holds a place. The root holds itself. -/
def up (place : Place) : Place :=
  match place.getLast? with
  | none => [upName]
  | some name => if name == upName then place ++ [upName]
    else if name == rootName then place
    else place.dropLast

/-- The working directory, those above it and the root are always there. -/
def isGiven (place : Place) : Bool := place == [rootName] || place.all (· == upName)

end Place

namespace FileTree

def empty : FileTree := ⟨[]⟩

def put (tree : FileTree) (place : Place) (entry : FileEntry) : FileTree :=
  ⟨(place, entry) :: tree.entries⟩

def plantFrom (tree : FileTree) (place : Place) (entry : FileEntry) : List Text → FileTree
  | [] => tree.put place entry
  | name :: names =>
    (tree.put place .directory).plantFrom
      (if name == Place.upName then place.up else place ++ [name]) entry names

/-- Puts an entry at a path, with the directories that lead to it. -/
def plant (tree : FileTree) (path : Text) (entry : FileEntry) : FileTree :=
  tree.plantFrom (Place.start path) entry (Path.names path)

def entry? (tree : FileTree) (place : Place) : Option FileEntry :=
  if place.isGiven then some .directory else tree.entries.lookup place

-- Two dots lead up from a directory only, so the way there has to exist even if it is left again.
/-- The place of a name in a place, which has to be a directory. -/
def step (tree : FileTree) (place : Place) (name : Text) : Except PathFault Place :=
  match tree.entry? place with
  | none => .error .missing
  | some (.file _) => .error .notDirectory
  | some .directory =>
    if name == ['.'] then .ok place
    else if name == Place.upName then .ok place.up
    else if Path.longestName < Path.byteLength name then .error .tooLong
    else .ok (place ++ [name])

/-- The place that a path leads to, whether something is there or not. -/
def place (tree : FileTree) (path : Text) : Except PathFault Place :=
  match Path.fault? path with
  | some fault => .error fault
  | none =>
    ((Text.fields '/' path).filter (· != [])).foldlM tree.step (Place.start path)

def find (tree : FileTree) (path : Text) : Except PathFault FileEntry := do
  match tree.entry? (← tree.place path) with
  | none => throw .missing
  | some entry => return entry

def has (tree : FileTree) (path : Text) : Bool := (tree.find path).isOk

def hasDirectory (tree : FileTree) (path : Text) : Bool :=
  match tree.find path with
  | .ok .directory => true
  | _ => false

/-- Makes a directory where nothing is. -/
def makeDirectory (tree : FileTree) (path : Text) : Except PathFault FileTree := do
  let place ← tree.place path
  if (tree.entry? place).isSome then throw .exists else return tree.put place .directory

/-- Makes a directory unless it is there already. -/
def ensureDirectory (tree : FileTree) (path : Text) : Except FileError FileTree :=
  match tree.makeDirectory path with
  | .ok tree => .ok tree
  | .error fault => if tree.hasDirectory path then .ok tree else .error ⟨fault, path⟩

/-- Makes the first directory of a list, in which each is followed by the one that holds it, and
those of the others that it needs. A file among the others is reported at the first path. -/
def ensureInner (tree : FileTree) : List Text → Except FileError FileTree
  | [] => .ok tree
  | path :: holders =>
    match tree.makeDirectory path, holders with
    | .error .missing, _ :: _ => do (← tree.ensureInner holders).ensureDirectory path
    | _, _ => tree.ensureDirectory path

def tryDirectory (tree : FileTree) (path : Text) : FileTree × Option FileError :=
  match tree.ensureDirectory path with
  | .ok tree => (tree, none)
  | .error error => (tree, some error)

/-- Makes the same directories from the outermost that is missing, and tells what went wrong. A file
among them is reported at the first path that leads into it by a name. -/
def ensureOuter (tree : FileTree) : List Text → FileTree × Option FileError
  | [] => (tree, none)
  | path :: holders =>
    if holders.head?.all tree.has then tree.tryDirectory path
    else
      let (tree, error) := tree.ensureOuter holders
      if error.any (·.fault != .exists) then (tree, error)
      else if ['/', '.'].isSuffixOf path then (tree, none)
      else tree.tryDirectory path

/-- The place of a file to be written. A path that ends with a slash means a directory. -/
def writable (tree : FileTree) (path : Text) : Except FileError Place :=
  match tree.place path with
  | .error fault => .error ⟨fault, path⟩
  | .ok place =>
    if path.getLast? == some '/' || tree.entry? place == some .directory then
      .error ⟨.isDirectory, path⟩
    else .ok place

end FileTree
end SchemaAtlas
