import Mathlib
import SchemaAtlas.Proofs.Service.History
/-!
What is answered to a body that is sent for a schema. A body without a script is refused, a script that is too long as
well, and any other script is answered with its schema. Three kinds of bodies are not answered like this: those whose
value is neither void nor an object, those whose values stand too deep in one another, and those whose script holds half
of a surrogate pair.
-/
namespace SchemaAtlas.Service

/-- What a body submits. Of a value that is too deep nothing is known. -/
inductive Submission where
  | nothing
  | unread
  | script (source : ScriptSource)
deriving DecidableEq

def Submission.ofBody (body : List Nat) : Submission :=
  match Json.ofBytes body with
  | .error .malformed => .nothing
  | .error (.tooDeep _) => .unread
  | .ok (.object members) => (script? members).elim .nothing .script
  | .ok _ => .nothing

/-- What is to be answered: that there is no script, that it is too long, or its schema. -/
def Promised (settings : Settings) (body : List Nat) (answer : Except Failure Response) : Prop :=
  match Submission.ofBody body with
  | .nothing => answer = .ok (.error 400 "Request body must contain a 'sql' string")
  | .unread => ∃ response, answer = .ok response ∧ response.status ∈ [200, 400, 413]
  | .script source =>
    if settings.longestScript < source.length then
      answer = .ok (.error 413 s!"SQL content exceeds the maximum of {settings.longestScript} characters")
    else match source with
      | .text script => answer = .ok (.json 200 (Script.read script).toJson)
      | .unpaired _ => ∃ value, answer = .ok (.json 200 value)

/-- Why a body is not answered as promised. -/
inductive Trouble where
  | body (fault : BodyFault)
  | unpaired (points : List Nat)
deriving DecidableEq

def trouble? (settings : Settings) (body : List Nat) : Option Trouble :=
  match Json.ofBytes body with
  | .error .malformed => none
  | .error (.tooDeep container) => some (.body (.tooDeep container))
  | .ok (.object members) =>
    match script? members with
    | some (.unpaired points) => if settings.longestScript < points.length then none else some (.unpaired points)
    | _ => none
  | .ok value => if value.isVoid then none else some (.body (.notObject (kindOf value)))

/-- What comes of it: a failure that only a test or a debugger sees, or an error of the encoding. -/
def Trouble.outcome (settings : Settings) : Trouble → Except Failure Response
  | .body fault => if settings.testing || settings.debug then .error (.body fault) else .ok (.page 500)
  | .unpaired points => .ok (.error 500 (ScriptSource.strayMessage points))

/-- A body in JSON that is posted for a schema and is not too long. -/
structure Posted (settings : Settings) (request : Request) : Prop where
  path : request.path = "/api/parse"
  method : request.method = "POST"
  kind : request.isJson = true
  short : (request.body.length : Int) ≤ settings.longestBody

section Promise
variable {settings : Settings} {body : List Nat} {answer : Except Failure Response}

/-- What is promised is an answer, and no failure of the service. -/
theorem Promised.answered (promised : Promised settings body answer) :
    ∃ response, answer = .ok response ∧ response.status ∈ [200, 400, 413] := by
  unfold Promised at promised
  split at promised
  · exact ⟨_, promised, List.mem_cons_of_mem _ List.mem_cons_self⟩
  · exact promised
  · split at promised
    · exact ⟨_, promised, List.mem_of_getLast? rfl⟩
    · split at promised
      · exact ⟨_, promised, List.mem_cons_self⟩
      · obtain ⟨value, rfl⟩ := promised
        exact ⟨_, rfl, List.mem_cons_self⟩

theorem Trouble.not_promised (trouble : Trouble) : ¬Promised settings body (trouble.outcome settings) := by
  have other : 500 ∉ [200, 400, 413] := by decide
  intro promised
  obtain ⟨response, same, status⟩ := promised.answered
  unfold Trouble.outcome at same
  split at same
  · split at same <;> cases same
    exact other status
  · cases same
    exact other status

end Promise

section Answer
variable {settings : Settings} {state : State} {surroundings : Surroundings} {request : Request}

/-- What a body that was read says. -/
def membersOf : Except Json.Fault Json → Except BodyFault (List (String × Json))
  | .error .malformed => .ok []
  | .error (.tooDeep container) => .error (.tooDeep container)
  | .ok (.object members) => .ok members
  | .ok value => if value.isVoid then .ok [] else .error (.notObject (kindOf value))

theorem Posted.members (posted : Posted settings request) :
    request.members settings = membersOf (Json.ofBytes request.body) := by
  have fits : ¬settings.longestBody < request.body.length := Int.not_lt.mpr posted.short
  rw [Request.members, posted.kind]
  simp only [Bool.not_true, Bool.false_eq_true, if_false, if_neg fits]
  rfl

theorem Posted.asks (posted : Posted settings request) :
    request.route = .ok (.found (.endpoint .schema)) ∧ request.asksForMethods = false := by
  have address : Address.resolve "/api/parse".toList = .ok ⟨[], [], "/api/parse".toList⟩ := by rfl
  have capital : request.capitalMethod = "POST" := by
    rw [Request.capitalMethod, posted.method]
    decide
  have target : request.routeTo ⟨[], [], "/api/parse".toList⟩ = .found (.endpoint .schema) := by
    rw [Request.routeTo, capital]
    decide
  refine ⟨?_, ?_⟩
  · rw [Request.route, posted.path, address]
    exact congrArg Except.ok target
  · rw [Request.asksForMethods, capital]
    decide

theorem answer_posted (posted : Posted state.settings request) (unlimited : state.settings.limitsRates = false) :
    state.answer surroundings request = state.answerBody surroundings .schema request := by
  have uncounted : state.count .schema = (state, .ok false) := by
    rw [State.count, unlimited]
    rfl
  rw [State.answer, posted.asks.1]
  simp only [State.answerEndpoint, uncounted, posted.asks.2, Bool.false_eq_true, if_false]

theorem answerScript_schema (faithful : state.cache.Faithful Script.read) (members : List (String × Json)) :
    ∀ source, (state.answerScript surroundings .schema members source).2 =
      match source with
      | .text script => .json 200 (Script.read script).toJson
      | .unpaired points => .error 500 (ScriptSource.strayMessage points)
  | .text script => by
    have read := State.schemaOf_text faithful script
    unfold State.answerScript
    dsimp only
    split
    · next asked =>
      rw [asked] at read
      cases read
    · next asked =>
      rw [asked] at read
      cases read
      rfl
  | .unpaired _ => rfl

theorem answerMembers_schema (faithful : state.cache.Faithful Script.read) {members : List (String × Json)} :
    (state.answerMembers surroundings .schema members).2 =
      match script? members with
      | none => .error 400 "Request body must contain a 'sql' string"
      | some source =>
        if state.settings.longestScript < source.length then
          .error 413 s!"SQL content exceeds the maximum of {state.settings.longestScript} characters"
        else match source with
          | .text script => .json 200 (Script.read script).toJson
          | .unpaired points => .error 500 (ScriptSource.strayMessage points) := by
  unfold State.answerMembers
  cases script? members with
  | none => rfl
  | some source =>
    dsimp only
    split
    · rfl
    · exact answerScript_schema faithful members source

/-- Members are answered as is promised, unless half of a pair stands in their script. -/
theorem answers_members (faithful : state.cache.Faithful Script.read) {members : List (String × Json)} {body : List Nat}
    (read : Json.ofBytes body = .ok (.object members)) :
    match trouble? state.settings body with
    | none => Promised state.settings body (.ok (state.answerMembers surroundings .schema members).2)
    | some trouble =>
      .ok (state.answerMembers surroundings .schema members).2 = trouble.outcome state.settings := by
  rw [answerMembers_schema faithful]
  simp only [trouble?, Promised, Submission.ofBody, read]
  cases script? members with
  | none => rfl
  | some source =>
    cases source with
    | text script =>
      simp only [Option.elim]
      split <;> rfl
    | unpaired points =>
      by_cases long : state.settings.longestScript < points.length
      · simp only [Option.elim, ScriptSource.length, long, if_true]
      · simp only [ScriptSource.length, long, if_false]
        rfl

/-- A value that is no object submits nothing, and it passes for an empty object only if it is void. -/
theorem reading_of_other {value : Json} {body : List Nat} (read : Json.ofBytes body = .ok value)
    (other : ∀ members, value ≠ .object members) : Submission.ofBody body = .nothing ∧
      trouble? settings body = (if value.isVoid then none else some (.body (.notObject (kindOf value)))) ∧
      membersOf (.ok value) = if value.isVoid then .ok [] else .error (.notObject (kindOf value)) := by
  unfold Submission.ofBody trouble? membersOf
  rw [read]
  cases value with
  | object members => exact absurd rfl (other members)
  | _ => exact ⟨rfl, rfl, rfl⟩

variable (state surroundings) in
/-- A body that is posted for a schema is answered as is promised, unless there is a trouble with it. -/
theorem answers_posted (posted : Posted state.settings request) (unlimited : state.settings.limitsRates = false)
    (faithful : state.cache.Faithful Script.read) :
    match trouble? state.settings request.body with
    | none => Promised state.settings request.body (state.answer surroundings request).2
    | some trouble => (state.answer surroundings request).2 = trouble.outcome state.settings := by
  have void : (state.answerMembers surroundings .schema []).2 =
      .error 400 "Request body must contain a 'sql' string" := answerMembers_schema faithful
  rw [answer_posted posted unlimited, State.answerBody, posted.members]
  cases read : Json.ofBytes request.body with
  | error fault =>
    cases fault with
    | malformed => simp only [trouble?, Promised, Submission.ofBody, read, membersOf, void]
    | tooDeep container =>
      simp only [trouble?, read, membersOf]
      rfl
  | ok value =>
    by_cases object : ∃ members, value = .object members
    · obtain ⟨members, rfl⟩ := object
      exact answers_members faithful read
    · obtain ⟨nothing, trouble, members⟩ := reading_of_other read (not_exists.mp object)
      rw [trouble, members]
      by_cases empty : value.isVoid = true
      · simp only [empty, if_true, Promised, nothing, void]
      · simp only [empty]
        rfl

end Answer

section Visits
variable {settings : Settings} {request : Request}

/-- Whatever was asked before, a script that is posted is answered by a refusal or by its schema, and never by a
failure, exactly if its body is an object or void, is not too deep, and the script to be read is a text. -/
theorem schema_answered (visits : List Visit) (now : Int) (surroundings : Surroundings)
    (posted : Posted settings request) (unlimited : settings.limitsRates = false) :
    let answer := ((((State.initial settings).after visits).atTime now).answer surroundings request).2
    (Promised settings request.body answer ↔ trouble? settings request.body = none) ∧
      (Promised settings request.body answer →
        ∃ response, answer = .ok response ∧ response.status ∈ [200, 400, 413]) ∧
      ∀ trouble ∈ trouble? settings request.body, answer = trouble.outcome settings := by
  intro answer
  have follows : (State.initial settings).Follows (((State.initial settings).after visits).atTime now) :=
    (State.follows_after _ visits).trans ⟨rfl, id⟩
  have same : (((State.initial settings).after visits).atTime now).settings = settings := follows.settings
  have answers := answers_posted (((State.initial settings).after visits).atTime now) surroundings
    (same.symm ▸ posted) (same.symm ▸ unlimited) (follows.faithful (State.faithful_initial settings))
  rw [same] at answers
  refine ⟨⟨fun promised => ?_, fun none => ?_⟩, Promised.answered, fun trouble given => ?_⟩
  · cases found : trouble? settings request.body with
    | none => rfl
    | some trouble =>
      rw [found] at answers
      exact absurd (answers ▸ promised : Promised settings request.body (trouble.outcome settings))
        trouble.not_promised
  · rwa [none] at answers
  · rwa [Option.mem_def.mp given] at answers

end Visits

/-- A request that posts a text in JSON. -/
def posting (text : String) : Request :=
  ⟨"/api/parse", "POST", some "application/json", text.toList.map Char.toNat⟩

/-- The request for a script without characters that JSON escapes. -/
def postingScript (script : String) : Request := posting ("\x7b\"sql\": \"" ++ script ++ "\"\x7d")

/-- A script that was answered before is answered again. -/
theorem schema_answered_again : ∃ settings, Settings.load [("FLASK_ENV", "testing")] = .ok settings ∧
    Posted settings (postingScript "CREATE TABLE a (x int)") ∧ settings.limitsRates = false ∧
    Promised settings (postingScript "CREATE TABLE a (x int)").body
      ((((State.initial settings).after
        [⟨0, ⟨"", none⟩, postingScript "CREATE TABLE a (x int)"⟩]).atTime 1).answer ⟨"", none⟩
          (postingScript "CREATE TABLE a (x int)")).2 := by
  have read : Json.ofBytes (postingScript "CREATE TABLE a (x int)").body =
      .ok (.object [("sql", .string "CREATE TABLE a (x int)")]) := by cbv
  refine ⟨_, rfl, ⟨rfl, rfl, by decide, by decide⟩, rfl, ?_⟩
  refine (schema_answered _ _ _ ⟨rfl, rfl, by decide, by decide⟩ rfl).1.mpr ?_
  simp only [trouble?, read]
  rfl

/-- A list is a value of JSON and no object, but it is not refused as one. -/
theorem list_unanswered : ∃ settings, Settings.load [("FLASK_ENV", "testing")] = .ok settings ∧
    Posted settings (posting "[\"sql\"]") ∧ settings.limitsRates = false ∧
    Submission.ofBody (posting "[\"sql\"]").body = .nothing ∧
    ((State.initial settings).answer ⟨"", none⟩ (posting "[\"sql\"]")).2 = .error (.body (.notObject "list")) ∧
    ¬Promised settings (posting "[\"sql\"]").body
      ((State.initial settings).answer ⟨"", none⟩ (posting "[\"sql\"]")).2 := by
  have read : Json.ofBytes (posting "[\"sql\"]").body = .ok (.array [.string "sql"]) := by cbv
  have loads : ∃ settings, Settings.load [("FLASK_ENV", "testing")] = .ok settings ∧ settings.testing = true ∧
      settings.limitsRates = false ∧ Posted settings (posting "[\"sql\"]") :=
    ⟨_, rfl, rfl, rfl, rfl, rfl, by decide, by decide⟩
  obtain ⟨settings, loaded, testing, unlimited, posted⟩ := loads
  have trouble : trouble? settings (posting "[\"sql\"]").body = some (.body (.notObject "list")) := by
    simp only [trouble?, read]
    rfl
  have answers := answers_posted (.initial settings) ⟨"", none⟩ posted unlimited (State.faithful_initial settings)
  have settled : (State.initial settings).settings = settings := rfl
  rw [settled, trouble] at answers
  have failed : ((State.initial settings).answer ⟨"", none⟩ (posting "[\"sql\"]")).2 =
      .error (.body (.notObject "list")) := by
    rw [answers]
    simp only [Trouble.outcome, testing, Bool.true_or, if_true]
  refine ⟨settings, loaded, posted, unlimited, ?_, failed, fun promised => ?_⟩
  · simp only [Submission.ofBody, read]
  · obtain ⟨_, answered, _⟩ := promised.answered
    rw [failed] at answered
    cases answered

end SchemaAtlas.Service
