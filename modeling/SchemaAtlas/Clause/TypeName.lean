import SchemaAtlas.Name
import SchemaAtlas.Schema.DataType
import SchemaAtlas.Text.Numeral
import SchemaAtlas.Text.Uppercase
/-!
Reading column types. One or two arguments made of digits are the size and the scale; any other
arguments are kept as part of the full text only.
-/
namespace SchemaAtlas.DataType

/-- The base name in capitals. -/
def baseName (name : Text) : String :=
  match Text.uppercase (Name.clean name) with
  | [] => "UNKNOWN"
  | base => String.ofList base

/-- An argument of letters and digits is written in capitals. -/
def argumentText (argument : Text) : Text :=
  if argument != [] && argument.all Text.isAlphanumeric then Text.uppercase argument else argument

def isDigits (argument : Text) : Bool := argument != [] && argument.all Text.isDigit

def splitArguments (arguments : Text) : List Text := (Text.fields ',' arguments).map Text.trim

def fullText (base : String) (arguments : List Text) : String :=
  base ++ "(" ++ String.ofList ([','].intercalate (arguments.map argumentText)) ++ ")"

/-- A digit that is no decimal digit, or a numeral that is too long, cannot be read. -/
def read (name : Text) (arguments : Option Text) : Except NumeralError DataType := do
  let base := baseName name
  match arguments.map splitArguments with
  | none => return plain base
  | some arguments =>
    let full := fullText base arguments
    if !arguments.all isDigits then return ⟨base, none, none, full⟩
    match arguments with
    | [size] => return ⟨base, some (← Numeral.read size), none, full⟩
    | [size, scale] =>
      let size ← Numeral.read size
      return ⟨base, some size, some (← Numeral.read scale), full⟩
    | _ => return ⟨base, none, none, full⟩

end SchemaAtlas.DataType
