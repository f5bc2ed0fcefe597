import SchemaAtlas.Cache
import SchemaAtlas.Diagram.Drawing
import SchemaAtlas.Diagram.Mermaid
import SchemaAtlas.Dictionary.Document
import SchemaAtlas.Dictionary.Html
import SchemaAtlas.Json.Export
import SchemaAtlas.Schema.Elapsed
import SchemaAtlas.Script.Reading
import SchemaAtlas.Service.RateLimit
import SchemaAtlas.Service.Route
import SchemaAtlas.Surroundings
/-!
The service: endpoints that answer a script with its schema, its diagram, an image or a data
dictionary. Schemas are kept in a cache between requests.
-/
namespace SchemaAtlas.Service

/-- The body of an answer. A page is one that the server words itself. -/
inductive Body where
  | json (value : Json)
  | text (content : Text)
  | document (blocks : List Document.Block)
  | page

structure Response where
  status : Nat
  mediaType : String
  disposition : Option String
  body : Body

/-- Why a request has no answer. One to an unreadable address never comes to the service. -/
inductive Failure where
  | address (fault : HostFault)
  | body (fault : BodyFault)
  | limit (fault : RateLimit.Fault)
deriving DecidableEq, Repr

structure State where
  settings : Settings
  now : Int
  cache : Cache String Schema
  asked : List Endpoint

def version : String := "1.0.0"

def State.initial (settings : Settings) : State :=
  ⟨settings, 0,
    .empty settings.cacheCapacity
      (Elapsed.longest (settings.cacheLifetime * Elapsed.ticksPerSecond)), []⟩

namespace Response

def page (status : Nat) : Response := ⟨status, "text/html", none, .page⟩

def json (status : Nat) (value : Json) : Response := ⟨status, "application/json", none, .json value⟩

def error (status : Nat) (message : String) : Response :=
  json status (.object [("error", .string message)])

/-- A file for the user to keep. -/
def file (mediaType name : String) (body : Body) : Response :=
  ⟨200, mediaType, some ("attachment; filename=" ++ name), body⟩

/-- The text of an answer, if it has one; in debugging JSON is broken into lines. -/
def text? (settings : Settings) (response : Response) : Option Text :=
  match response.body with
  | .json value =>
    let layout : Json.Layout := if settings.debug then .indented true else .compact
    some (value.render layout ++ ['\n'])
  | .text content => some content
  | .document _ | .page => none

end Response

def imageTypes : List (String × String) :=
  [("png", "image/png"), ("svg", "image/svg+xml"), ("pdf", "application/pdf")]

def documentType : String :=
  "application/vnd.openxmlformats-officedocument.wordprocessingml.document"

/-- The schema of a script, from the cache if it is there. -/
def State.schemaOf (state : State) : ScriptSource → State × Except String Schema
  | .unpaired points => (state, .error (ScriptSource.strayMessage points))
  | .text script =>
    let (cache, schema) := state.cache.fetch state.now script Script.read
    ({ state with cache := cache }, .ok schema)

def diagramResponse (schema : Schema) : Response :=
  let diagram := Diagram.ofSchema schema
  match Mermaid.render diagram with
  | .error cause => .error 500 cause.message
  | .ok mermaid =>
    .json 200 (.object [("success", .bool schema.success),
      ("errors", .ofList Issue.toJson schema.errors),
      ("warnings", .ofList Issue.toJson schema.warnings), ("stats", schema.stats.toJson),
      ("diagram", diagram.toJson), ("mermaid", .string (String.ofList mermaid))])

/-- The format that a request asks for, in small letters; anything but a text is no format. -/
def imageFormat? (members : List (String × Json)) : Option String :=
  match Json.member? members "format" with
  | none => some Drawing.defaultFormat
  | some (.string format) =>
    let format := String.ofList (format.toList.map Char.toLower)
    if Drawing.formats.contains format then some format else none
  | some _ => none

def imageResponse (surroundings : Surroundings) (format : String) (schema : Schema) : Response :=
  if !surroundings.drawsImages then
    .error 503 "Diagram rendering is unavailable: Graphviz is not installed"
  else match Drawing.render "er_diagram" format (Diagram.ofSchema schema) with
    | .error cause => .error 500 cause.message
    | .ok source =>
      .file ((imageTypes.lookup format).getD "") ("er_diagram." ++ format) (.text source)

def documentFailure (reason : String) : Response :=
  .error 500 ("Failed to generate document: " ++ reason)

def dictionaryResponse (surroundings : Surroundings) (format : Json) (schema : Schema) : Response :=
  if schema.tables.size == 0 then
    .json 400 (.object [("error", .string "No table definitions found"),
      ("errors", .ofList Issue.toJson schema.errors)])
  else match format with
    | .string "html" =>
      .json 200 (.object
        [("html", .string (String.ofList (Html.render surroundings.generated schema)))])
    | .string "docx" =>
      match Document.write surroundings.generated schema with
      | .error cause => documentFailure cause.message
      | .ok blocks => .file documentType "database_schema.docx" (.document blocks)
    | _ => .error 400 "Invalid format, use \"html\" or \"docx\""

/-- The answer about a script of acceptable length. -/
def State.answerScript (surroundings : Surroundings) (state : State) (endpoint : Endpoint)
    (members : List (String × Json)) (script : ScriptSource) : State × Response :=
  match endpoint with
  | .health => (state, .page 404)
  | .schema =>
    match state.schemaOf script with
    | (state, .error message) => (state, .error 500 message)
    | (state, .ok schema) => (state, .json 200 schema.toJson)
  | .diagram =>
    match state.schemaOf script with
    | (state, .error message) => (state, .error 500 message)
    | (state, .ok schema) => (state, diagramResponse schema)
  | .image =>
    match imageFormat? members with
    | none => (state, .error 400 ("Invalid format, use one of: " ++ ", ".intercalate Drawing.formats))
    | some format =>
      match state.schemaOf script with
      | (state, .error message) => (state, .error 500 message)
      | (state, .ok schema) => (state, imageResponse surroundings format schema)
  | .dictionary =>
    match state.schemaOf script with
    | (state, .error message) => (state, documentFailure message)
    | (state, .ok schema) =>
      let format := (Json.member? members "format").getD (.string "html")
      (state, dictionaryResponse surroundings format schema)

def State.answerMembers (surroundings : Surroundings) (state : State) (endpoint : Endpoint)
    (members : List (String × Json)) : State × Response :=
  match script? members with
  | none => (state, .error 400 "Request body must contain a 'sql' string")
  | some script =>
    if state.settings.longestScript < script.length then
      (state, .error 413
        s!"SQL content exceeds the maximum of {state.settings.longestScript} characters")
    else state.answerScript surroundings endpoint members script

/-- A failure is shown while the service is tested or debugged, and hidden behind a page otherwise. -/
def State.failed (state : State) (failure : Failure) : Except Failure Response :=
  if state.settings.testing || state.settings.debug then .error failure else .ok (.page 500)

-- A body that is too long has a page of its own before anything in it is looked at.
/-- A body of the wrong kind is a failure of the service. -/
def State.answerBody (surroundings : Surroundings) (state : State) (endpoint : Endpoint)
    (request : Request) : State × Except Failure Response :=
  match request.members state.settings with
  | .ok members =>
    let (state, response) := state.answerMembers surroundings endpoint members
    (state, .ok response)
  | .error .tooLong => (state, .ok (.page 413))
  | .error fault => (state, state.failed (.body fault))

def healthResponse (method : String) : Response :=
  if method == "HEAD" then ⟨200, "application/json", none, .text []⟩
  else .json 200 (.object [("status", .string "ok"), ("version", .string version)])

-- The count includes the request that is being answered, so a limit of n lets n requests pass.
/-- Counts a request to an endpoint, and tells whether there were too many. -/
def State.count (state : State) (endpoint : Endpoint) : State × Except RateLimit.Fault Bool :=
  if state.settings.limitsRates then
    let asked := endpoint :: state.asked
    ({ state with asked := asked }, do
      let limits ← RateLimit.read state.settings.rateLimits.toList
      RateLimit.exceeded (asked.count endpoint) (RateLimit.inOrder limits))
  else (state, .ok false)

def State.answerEndpoint (surroundings : Surroundings) (state : State) (endpoint : Endpoint)
    (request : Request) : State × Except Failure Response :=
  match state.count endpoint with
  | (state, .error fault) => (state, state.failed (.limit fault))
  | (state, .ok true) => (state, .ok (.page 429))
  | (state, .ok false) =>
    if request.asksForMethods then (state, .ok (.page 200))
    else match endpoint with
      | .health => (state, .ok (healthResponse request.method))
      | endpoint => state.answerBody surroundings endpoint request

-- No file comes with the service, so the place for files holds none.
/-- Only requests to endpoints are counted. -/
def State.answer (surroundings : Surroundings) (state : State) (request : Request) :
    State × Except Failure Response :=
  match request.route with
  | .error fault => (state, .error (.address fault))
  | .ok .refused => (state, .ok (.page 400))
  | .ok .nowhere => (state, .ok (.page 404))
  | .ok .wrongMethod => (state, .ok (.page 405))
  | .ok .moved => (state, .ok (.page 308))
  | .ok (.found .file) => (state, .ok (.page (if request.asksForMethods then 200 else 404)))
  | .ok (.found (.endpoint endpoint)) => state.answerEndpoint surroundings endpoint request

/-- The state when the clock has come to a time, in ticks. -/
def State.atTime (state : State) (now : Int) : State := { state with now := now }

end SchemaAtlas.Service
