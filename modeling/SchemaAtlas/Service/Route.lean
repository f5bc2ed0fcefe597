import SchemaAtlas.Service.Address
import SchemaAtlas.Service.Request
import SchemaAtlas.Text.Uppercase
/-!
Paths of requests and what they lead to: an endpoint, or a file that would come with the service.
-/
namespace SchemaAtlas.Service

inductive Endpoint where
  | health
  | schema
  | diagram
  | image
  | dictionary
deriving DecidableEq, Repr

inductive Target where
  | endpoint (endpoint : Endpoint)
  | file
deriving DecidableEq, Repr

/-- The one method of an endpoint, and its path. -/
def endpoints : List (String × (String × Endpoint)) :=
  [("/api/health", ("GET", .health)), ("/api/parse", ("POST", .schema)),
   ("/api/diagram", ("POST", .diagram)), ("/api/render", ("POST", .image)),
   ("/api/generate_doc", ("POST", .dictionary))]

/-- Writes one slash for each two that stand together. -/
def mergeSlashes : Text → Text
  | '/' :: '/' :: rest => '/' :: mergeSlashes rest
  | c :: rest => c :: mergeSlashes rest
  | [] => []

/-- The method and the target of a path. -/
def target? (path : Text) : Option (String × Target) :=
  match endpoints.lookup (String.ofList path) with
  | some (method, endpoint) => some (method, .endpoint endpoint)
  | none =>
    if "/static/".toList.isPrefixOf path && (path.drop 8).head?.any (· != '/') then
      some ("GET", .file)
    else none

/-- Every target tells its methods, and one that can be read can be asked for its head. -/
def allows (method allowed : String) : Bool :=
  method == allowed || method == "OPTIONS" || (method == "HEAD" && allowed == "GET")

/-- Where a request goes. -/
inductive Route where
  | found (target : Target)
  | moved
  | wrongMethod
  | refused
  | nowhere
deriving DecidableEq, Repr

namespace Request

def capitalMethod (request : Request) : String :=
  String.ofList (Text.uppercase request.method.toList)

def asksForMethods (request : Request) : Bool := request.capitalMethod == "OPTIONS"

-- Sockets are refused only where a request of another protocol would be served or moved.
/-- A path whose slashes have to be merged is not followed. -/
def routeTo (request : Request) (address : Address) : Route :=
  let allowing := fun allowed route =>
    if !allows request.capitalMethod allowed then .wrongMethod
    else if address.isSocket then .refused
    else route
  if !address.hasServer then .refused
  else match target? address.path with
    | some (allowed, target) => allowing allowed (.found target)
    | none =>
      match target? (mergeSlashes address.path) with
      | some (allowed, _) => allowing allowed .moved
      | none => .nowhere

def route (request : Request) : Except HostFault Route := do
  return request.routeTo (← Address.resolve request.path.toList)

end Request
end SchemaAtlas.Service
