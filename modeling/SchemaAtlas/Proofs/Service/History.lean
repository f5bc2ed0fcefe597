import SchemaAtlas.Proofs.Cache.Entries
import SchemaAtlas.Service.Basic
/-!
The service over a history of requests. Whatever was asked before, and whenever, the settings are those that the service
began with, and every schema in its cache was read from the script that it is kept under.
-/
namespace SchemaAtlas

namespace Cache
variable {Key Value : Type} [DecidableEq Key] {compute : Key → Value} {cache : Cache Key Value}

/-- Every value that is stored is the computed one of its key. -/
def Faithful (compute : Key → Value) (cache : Cache Key Value) : Prop :=
  ∀ entry ∈ cache.entries, entry.value = compute entry.key

theorem Faithful.fetch (faithful : cache.Faithful compute) (now : Int) (key : Key) :
    (cache.fetch now key compute).1.Faithful compute ∧ (cache.fetch now key compute).2 = compute key := by
  have kept : (cache.lookup now key).1.Faithful compute := fun entry member =>
    faithful entry (mem_of_mem_lookup member)
  unfold Cache.fetch
  split
  · next after value looked =>
    rw [looked] at kept
    obtain ⟨entry, inside, rfl, rfl⟩ := mem_of_lookup (congrArg Prod.snd looked)
    exact ⟨kept, faithful entry inside⟩
  · next after looked =>
    rw [looked] at kept
    refine ⟨fun entry member => ?_, rfl⟩
    rcases mem_of_mem_store member with rfl | old
    · rfl
    · exact kept entry old

end Cache

namespace Service

/-- What no request changes or spoils. -/
structure State.Follows (before after : State) : Prop where
  settings : after.settings = before.settings
  faithful : before.cache.Faithful Script.read → after.cache.Faithful Script.read

/-- A request with the time at which it comes and what the program is then given. -/
structure Visit where
  now : Int
  surroundings : Surroundings
  request : Request

namespace State
variable {state before middle last : State} {surroundings : Surroundings}

theorem Follows.refl (state : State) : state.Follows state := ⟨rfl, id⟩

theorem Follows.trans (first : before.Follows middle) (second : middle.Follows last) : before.Follows last :=
  ⟨second.settings.trans first.settings, second.faithful ∘ first.faithful⟩

theorem schemaOf_text (faithful : state.cache.Faithful Script.read) (script : String) :
    (state.schemaOf (.text script)).2 = .ok (Script.read script) :=
  congrArg Except.ok (faithful.fetch state.now script).2

theorem follows_schemaOf (state : State) (source : ScriptSource) : state.Follows (state.schemaOf source).1 := by
  cases source with
  | text script => exact ⟨rfl, fun faithful => (faithful.fetch state.now script).1⟩
  | unpaired points => exact .refl state

theorem follows_answerScript (state : State) (endpoint : Endpoint) (members : List (String × Json))
    (source : ScriptSource) : state.Follows (state.answerScript surroundings endpoint members source).1 := by
  -- Each endpoint asks for the schema at most once, and otherwise leaves the state as it is.
  have follows := state.follows_schemaOf source
  cases endpoint with
  | health => exact .refl state
  | schema | diagram | dictionary =>
    unfold answerScript
    dsimp only
    split <;> (next asked => rw [asked] at follows; exact follows)
  | image =>
    unfold answerScript
    dsimp only
    split
    · exact .refl state
    · split <;> (next asked => rw [asked] at follows; exact follows)

theorem follows_answerMembers (state : State) (endpoint : Endpoint) (members : List (String × Json)) :
    state.Follows (state.answerMembers surroundings endpoint members).1 := by
  unfold answerMembers
  split
  · exact .refl state
  · split
    · exact .refl state
    · exact follows_answerScript state endpoint members _

theorem follows_answerBody (state : State) (endpoint : Endpoint) (request : Request) :
    state.Follows (state.answerBody surroundings endpoint request).1 := by
  unfold answerBody
  split
  · exact follows_answerMembers state endpoint _
  · exact .refl state
  · exact .refl state

theorem follows_count (state : State) (endpoint : Endpoint) : state.Follows (state.count endpoint).1 := by
  unfold count
  split
  · exact ⟨rfl, id⟩
  · exact .refl state

theorem follows_answerEndpoint (state : State) (endpoint : Endpoint) (request : Request) :
    state.Follows (state.answerEndpoint surroundings endpoint request).1 := by
  have counted := state.follows_count endpoint
  unfold answerEndpoint
  split
  · next found => exact (found ▸ counted :)
  · next found => exact (found ▸ counted :)
  · next found =>
    rw [found] at counted
    split
    · exact counted
    · split
      · exact counted
      · exact counted.trans (follows_answerBody _ _ request)

theorem follows_answer (state : State) (request : Request) : state.Follows (state.answer surroundings request).1 := by
  unfold answer
  split
  case h_7 => exact follows_answerEndpoint state _ request
  all_goals exact .refl state

/-- The state after requests that were answered one after the other. -/
def after (state : State) (visits : List Visit) : State :=
  visits.foldl (fun state visit => ((state.atTime visit.now).answer visit.surroundings visit.request).1) state

theorem follows_after (state : State) (visits : List Visit) : state.Follows (state.after visits) := by
  induction visits generalizing state with
  | nil => exact .refl state
  | cons visit rest ih =>
    have moved : state.Follows (state.atTime visit.now) := ⟨rfl, id⟩
    exact (moved.trans (follows_answer _ visit.request)).trans (ih _)

theorem faithful_initial (settings : Settings) : (State.initial settings).cache.Faithful Script.read :=
  fun _ member => absurd member List.not_mem_nil

end State
end Service
end SchemaAtlas
