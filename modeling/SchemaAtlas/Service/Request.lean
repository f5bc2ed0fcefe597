import SchemaAtlas.Json.Reader
import SchemaAtlas.Settings
import SchemaAtlas.Text.Blank
/-!
Requests to the service, and what their bodies say. A body counts only if its content type is that of
JSON; one that cannot be read counts as an empty object.
-/
namespace SchemaAtlas.Service

structure Request where
  path : String
  method : String
  contentType : Option String
  body : List Nat
deriving DecidableEq, Repr

/-- A script as the body spells it; half a surrogate pair keeps it from being a text. -/
inductive ScriptSource where
  | text (script : String)
  | unpaired (points : List Nat)
deriving DecidableEq, Repr

namespace ScriptSource

def length : ScriptSource → Nat
  | text script => script.length
  | unpaired points => points.length

/-- The first run of halves in the code points of a script, by offset and length. -/
def strayRun (points : List Nat) : Nat × List Nat :=
  let stray := points.dropWhile (!Encoding.isSurrogate ·)
  (points.length - stray.length, stray.takeWhile Encoding.isSurrogate)

/-- What is said of a script that cannot be encoded. -/
def strayMessage (points : List Nat) : String :=
  let problem := ": surrogates not allowed"
  match strayRun points with
  | (offset, [half]) =>
    "'utf-8' codec can't encode character '\\u" ++ String.ofList (Text.hexadecimal 4 half) ++
      s!"' in position {offset}" ++ problem
  | (offset, run) =>
    s!"'utf-8' codec can't encode characters in position {offset}-{offset + run.length - 1}" ++
      problem

end ScriptSource

/-- Why a body gives no members: it is too long or too deep, or it is a value of another kind. -/
inductive BodyFault where
  | tooLong
  | tooDeep (container : Json.Container)
  | notObject (kind : String)
deriving DecidableEq, Repr

def BodyFault.message : BodyFault → String
  | .tooLong => "The data value transmitted exceeds the capacity limit."
  | .tooDeep container =>
    let name := match container with
      | .array => "array"
      | .object => "object"
    s!"maximum recursion depth exceeded while decoding a JSON {name} from a unicode string"
  | .notObject kind => s!"'{kind}' object has no attribute 'get'"

/-- The kind of a value that is neither void nor an object. -/
def kindOf : Json → String
  | .null => "NoneType"
  | .bool _ => "bool"
  | .integer _ => "int"
  | .real _ => "float"
  | .string _ | .unpaired _ => "str"
  | .array _ => "list"
  | .object _ => "dict"

namespace Request

/-- Parameters and letter case of a content type do not matter. -/
def mediaType (request : Request) : Text :=
  let type := (request.contentType.getD "").toList
  (Text.trim (type.takeWhile (· != ';'))).map Char.toLower

def isJson (request : Request) : Bool :=
  let type := request.mediaType
  type == "application/json".toList ||
    ("application/".toList.isPrefixOf type && "+json".toList.isSuffixOf type)

-- The kind of the content is asked for first: a body of another kind is not even measured.
/-- The members of the object in the body. -/
def members (settings : Settings) (request : Request) :
    Except BodyFault (List (String × Json)) :=
  if !request.isJson then .ok []
  else if settings.longestBody < request.body.length then .error .tooLong
  else match Json.ofBytes request.body with
    | .error .malformed => .ok []
    | .error (.tooDeep container) => .error (.tooDeep container)
    | .ok (.object members) => .ok members
    | .ok value => if value.isVoid then .ok [] else .error (.notObject (kindOf value))

end Request

def script? (members : List (String × Json)) : Option ScriptSource :=
  match Json.member? members "sql" with
  | some (.string script) => some (.text script)
  | some (.unpaired points) => some (.unpaired points)
  | _ => none

end SchemaAtlas.Service
