import SchemaAtlas.CommandLine.Choice
import SchemaAtlas.Text.Digit
/-!
The words of a command line. Options may be shortened as long as no other begins alike, short ones
may be written together, and a value may be joined to its option.
-/
namespace SchemaAtlas.CommandLine

/-- A word of the command line. What stands behind an option in its own word is attached to it. -/
inductive Word where
  | value (text : Text)
  | separator
  | option (choice : Choice) (isLong : Bool) (attachment : Option Text)
  | unknown (text : Text)
deriving DecidableEq, Repr

/-- A minus and a decimal numeral, which a line break may follow. -/
def isNegativeNumber : Text → Bool
  | '-' :: text =>
    let text := if text.getLast? == some '\n' then text.dropLast else text
    match Text.fields '.' text with
    | [whole] => whole != [] && whole.all Text.isDecimalDigit
    | [whole, part] => part != [] && (whole ++ part).all Text.isDecimalDigit
    | _ => false
  | _ => false

/-- The part before the first equals sign, and what follows the sign. -/
def splitMark (text : Text) : Text × Option Text :=
  match text.dropWhile (· != '=') with
  | [] => (text, none)
  | _ :: value => (text.takeWhile (· != '='), some value)

def isLongName (name : Text) : Bool := ['-', '-'].isPrefixOf name

def choice? (name : Text) : Option Choice := optionNames.lookup (String.ofList name)

/-- The long options whose names begin with a text. -/
def longOptions (start : Text) : List (String × Choice) :=
  optionNames.filter fun (name, _) => start.isPrefixOf name.toList

/-- A word that begins with a minus but names no option: a short option with something behind it, a
value, or nothing known. -/
def shortOrValue (text : Text) : Word :=
  match choice? (text.take 2) with
  | some choice => .option choice false (some (text.drop 2))
  | none => if isNegativeNumber text || text.contains ' ' then .value text else .unknown text

def readWord (text : Text) : Except UsageFault Word :=
  if text.head? != some '-' then .ok (.value text)
  else if let some choice := choice? text then .ok (.option choice (isLongName text) none)
  else if text == ['-'] then .ok (.value text)
  else
    let (name, attachment) := splitMark text
    match attachment, choice? name with
    | some attachment, some choice => .ok (.option choice (isLongName name) (some attachment))
    | attachment, _ =>
      if !isLongName text then .ok (shortOrValue text)
      else match longOptions name with
        | [] => .ok (if text.contains ' ' then .value text else .unknown text)
        | [(_, choice)] => .ok (.option choice true attachment)
        | several => .error (.ambiguous (String.ofList text) (several.map (·.1)))

-- Behind the separator every word is a value, another separator too.
/-- Two minuses separate options from values. -/
def readWords : List Text → Except UsageFault (List Word)
  | [] => .ok []
  | text :: rest => do
    if text == ['-', '-'] then return .separator :: rest.map .value
    else return (← readWord text) :: (← readWords rest)

/-- The options that one word holds. The last of them may need the next word. -/
structure Cluster where
  settled : List (Choice × Text)
  waiting : Option Choice
deriving DecidableEq, Repr

namespace Cluster

def single (choice : Choice) : Cluster :=
  if choice.takesValue then ⟨[], some choice⟩ else ⟨[(choice, [])], none⟩

def before (choice : Choice) (cluster : Cluster) : Cluster :=
  { cluster with settled := (choice, []) :: cluster.settled }

/-- An option with its value in the same word. -/
def joined (choice : Choice) (value : Text) : Except UsageFault Cluster :=
  if choice.takesValue then .ok ⟨[(choice, value)], none⟩ else .error (.unwantedValue choice value)

-- Faults of a word come before the effects of its options, so the cluster is read as a whole.
/-- Reads what stands behind a short option. Behind one without a value each character has to name
an option of its own; otherwise the text is a value that the option does not take. -/
def ofShort (choice : Choice) : Text → Except UsageFault Cluster
  | [] => joined choice []
  | c :: rest =>
    if choice.takesValue then joined choice (c :: rest)
    else match choice? ['-', c] with
      | none => joined choice (c :: rest)
      | some next =>
        (if rest.isEmpty then .ok (single next) else ofShort next rest).map (before choice)

def read (choice : Choice) (isLong : Bool) : Option Text → Except UsageFault Cluster
  | none => .ok (single choice)
  | some text => if isLong then joined choice text else ofShort choice text

end Cluster

end SchemaAtlas.CommandLine
