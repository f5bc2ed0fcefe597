import SchemaAtlas.Proofs.Cache.Entries
import SchemaAtlas.Script.Reading
import SchemaAtlas.Service.Basic
/-!
Calls for the schema of a script that share one cache. A call looks the script up under its digest, reads it if nothing
is found, and stores what it read. The lookup and the store are one step each, and so are emptying and measuring the
cache; the steps of different calls may come in any order, and the clock may move between any two of them.
-/
namespace SchemaAtlas

/-- How far a call has come. One that is `holding` a schema has read the script and not stored the schema yet. -/
inductive Traffic.Phase where
  | asked
  | missed
  | holding (schema : Schema)
  | answered (schema : Schema)
deriving DecidableEq

structure Traffic.Call where
  text : String
  phase : Traffic.Phase
deriving DecidableEq

/-- The cache, the time, every call that was made, and the sizes that were measured. -/
structure Traffic (Digest : Type) where
  cache : Cache Digest Schema
  clock : Int
  calls : List Traffic.Call
  measured : List Nat

namespace Traffic

/-- What a call does next. Reading takes place outside the cache and takes some time, which the schema records. -/
inductive Act where
  | lookup
  | read (elapsed : Option Int)
  | store
deriving DecidableEq

inductive Event where
  | call (text : String)
  | act (index : Nat) (act : Act)
  | clear
  | measure
  | advance (amount : Nat)
deriving DecidableEq

def Event.isLookup : Event → Bool
  | .act _ .lookup => true
  | _ => false

def Phase.schema? : Phase → Option Schema
  | .asked | .missed => none
  | .holding schema | .answered schema => some schema

variable {Digest : Type}

/-- A call does its acts in their order, and reads and stores only if the lookup found nothing. -/
def Call.act? [DecidableEq Digest] (digest : String → Digest) (cache : Cache Digest Schema) (clock : Int) :
    Call → Act → Option (Cache Digest Schema × Call)
  | ⟨text, .asked⟩, .lookup =>
    match cache.lookup clock (digest text) with
    | (cache, some schema) => some (cache, ⟨text, .answered schema⟩)
    | (cache, none) => some (cache, ⟨text, .missed⟩)
  | ⟨text, .missed⟩, .read elapsed => some (cache, ⟨text, .holding (Script.timed (Script.read text) elapsed)⟩)
  | ⟨text, .holding schema⟩, .store => some (cache.store clock (digest text) schema, ⟨text, .answered schema⟩)
  | _, _ => none

def start (capacity lifetime : Int) : Traffic Digest := ⟨.empty capacity lifetime, 0, [], []⟩

def step [DecidableEq Digest] (digest : String → Digest) (traffic : Traffic Digest) : Event → Option (Traffic Digest)
  | .call text => some { traffic with calls := traffic.calls ++ [⟨text, .asked⟩] }
  | .act index act => do
    let call ← traffic.calls[index]?
    let (cache, call) ← call.act? digest traffic.cache traffic.clock act
    some { traffic with cache := cache, calls := traffic.calls.set index call }
  | .clear => some { traffic with cache := traffic.cache.clear }
  | .measure => some { traffic with measured := traffic.measured ++ [traffic.cache.size] }
  | .advance amount => some { traffic with clock := traffic.clock + amount }

def run [DecidableEq Digest] (digest : String → Digest) : Traffic Digest → List Event → Option (Traffic Digest)
  | traffic, [] => some traffic
  | traffic, event :: events => (traffic.step digest event).bind fun after => run digest after events

/-- What one reading of the text gave in the course of the events. The reading was done by a call for the same text, and
the schema records the time that it took. -/
def IsReading (events : List Event) (calls : List Call) (text : String) (schema : Schema) : Prop :=
  ∃ index elapsed, .act index (.read elapsed) ∈ events ∧ (calls.map Call.text)[index]? = some text ∧
    schema = Script.timed (Script.read text) elapsed

/-- What holds of the traffic after the events. -/
structure Sound (digest : String → Digest) (capacity : Int) (events : List Event) (traffic : Traffic Digest) :
    Prop where
  kept : traffic.cache.WellKept
  bounds : traffic.cache.capacity = capacity
  stored : ∀ entry ∈ traffic.cache.entries, ∃ text, entry.key = digest text ∧
    IsReading events traffic.calls text entry.value
  held : ∀ call ∈ traffic.calls, ∀ schema ∈ call.phase.schema?, IsReading events traffic.calls call.text schema
  counted : traffic.cache.hits + traffic.cache.misses = events.countP Event.isLookup
  measured : ∀ size ∈ traffic.measured, (size : Int) ≤ max capacity 0

section
variable {digest : String → Digest} {capacity lifetime : Int} {events later : List Event} {event : Event}
  {traffic after : Traffic Digest} {calls grown : List Call} {call next : Call} {cache cache' : Cache Digest Schema}
  {clock : Int} {act : Act} {text : String} {schema : Schema} {elapsed : Option Int} {index : Nat}

/-- What was a reading stays one. -/
theorem IsReading.mono (reading : IsReading events calls text schema) (event : Event)
    (more : calls.map Call.text <+: grown.map Call.text) : IsReading (events ++ [event]) grown text schema := by
  obtain ⟨index, elapsed, done, asked, same⟩ := reading
  obtain ⟨rest, whole⟩ := more
  have inside : index < (calls.map Call.text).length := (List.getElem?_eq_some_iff.mp asked).1
  refine ⟨index, elapsed, List.mem_append_left _ done, ?_, same⟩
  rw [← whole, List.getElem?_append_left inside, asked]

theorem texts_set (found : calls[index]? = some call) (same : next.text = call.text) :
    (calls.set index next).map Call.text = calls.map Call.text := by
  have text : (calls.map Call.text)[index]? = some next.text := by rw [List.getElem?_map, found, same]; rfl
  obtain ⟨inside, here⟩ := List.getElem?_eq_some_iff.mp text
  rw [List.map_set, ← here, List.set_getElem_self]

namespace Sound

theorem start (digest : String → Digest) (capacity lifetime : Int) :
    Sound digest capacity [] (start capacity lifetime) where
  kept := .empty capacity lifetime
  bounds := rfl
  stored _ member := absurd member List.not_mem_nil
  held _ member := absurd member List.not_mem_nil
  counted := rfl
  measured _ member := absurd member List.not_mem_nil

/-- What the cache holds was read, also when one event more is counted. -/
theorem stored_later (sound : Sound digest capacity events traffic) (event : Event)
    (more : traffic.calls.map Call.text <+: grown.map Call.text) {entry : CacheEntry Digest Schema}
    (member : entry ∈ traffic.cache.entries) :
    ∃ text, entry.key = digest text ∧ IsReading (events ++ [event]) grown text entry.value := by
  obtain ⟨text, keyed, reading⟩ := sound.stored entry member
  exact ⟨text, keyed, reading.mono event more⟩

theorem held_later (sound : Sound digest capacity events traffic) (event : Event)
    (more : traffic.calls.map Call.text <+: grown.map Call.text) (member : call ∈ traffic.calls)
    (has : schema ∈ call.phase.schema?) : IsReading (events ++ [event]) grown call.text schema :=
  (sound.held call member schema has).mono event more

/-- An act of a call leaves the traffic sound if it stores at most what the call holds and takes up a schema that was
read from its text. -/
theorem update (sound : Sound digest capacity events traffic) (found : traffic.calls[index]? = some call)
    (same : next.text = call.text) (kept : cache.WellKept) (bounds : cache.capacity = traffic.cache.capacity)
    (stored : ∀ entry ∈ cache.entries, entry ∈ traffic.cache.entries ∨
      entry.key = digest call.text ∧ entry.value ∈ call.phase.schema?)
    (held : ∀ schema ∈ next.phase.schema?, IsReading (events ++ [.act index act]) traffic.calls call.text schema)
    (counted : cache.hits + cache.misses = (events ++ [Event.act index act]).countP Event.isLookup) :
    Sound digest capacity (events ++ [.act index act])
      { traffic with cache := cache, calls := traffic.calls.set index next } := by
  have texts := texts_set found same
  have more : traffic.calls.map Call.text <+: (traffic.calls.set index next).map Call.text :=
    texts.symm ▸ List.prefix_rfl
  have here : call ∈ traffic.calls := List.mem_of_getElem? found
  refine ⟨kept, bounds.trans sound.bounds, fun entry member => ?_, fun other member schema has => ?_, counted,
    sound.measured⟩
  · rcases stored entry member with old | ⟨keyed, has⟩
    · exact sound.stored_later _ more old
    · exact ⟨call.text, keyed, sound.held_later _ more here has⟩
  · rcases List.mem_or_eq_of_mem_set member with old | rfl
    · exact sound.held_later _ more old has
    · unfold IsReading
      rw [texts, same]
      exact held schema has

end Sound

variable [DecidableEq Digest]

/-- All that an act can do: to find a schema, to find none, to read, or to store what was read. -/
theorem Call.act?_cases (done : call.act? digest traffic.cache clock act = some (cache, next)) :
    (∃ schema, act = .lookup ∧ traffic.cache.lookup clock (digest call.text) = (cache, some schema) ∧
      next = ⟨call.text, .answered schema⟩) ∨
    (act = .lookup ∧ traffic.cache.lookup clock (digest call.text) = (cache, none) ∧ next = ⟨call.text, .missed⟩) ∨
    (∃ elapsed, act = .read elapsed ∧ cache = traffic.cache ∧
      next = ⟨call.text, .holding (Script.timed (Script.read call.text) elapsed)⟩) ∨
    ∃ schema, act = .store ∧ call.phase = .holding schema ∧
      cache = traffic.cache.store clock (digest call.text) schema ∧ next = ⟨call.text, .answered schema⟩ := by
  unfold Call.act? at done
  split at done
  · split at done
    · next found =>
      cases done
      exact Or.inl ⟨_, rfl, found, rfl⟩
    · next found =>
      cases done
      exact Or.inr (Or.inl ⟨rfl, found, rfl⟩)
  · cases done
    exact Or.inr (Or.inr (Or.inl ⟨_, rfl, rfl, rfl⟩))
  · cases done
    exact Or.inr (Or.inr (Or.inr ⟨_, rfl, rfl, rfl, rfl⟩))
  · cases done

namespace Sound

/-- What a lookup finds was read from the text that is looked up. -/
theorem reading_of_lookup (sound : Sound digest capacity events traffic) (injective : Function.Injective digest)
    (found : (traffic.cache.lookup clock (digest text)).2 = some schema) :
    IsReading events traffic.calls text schema := by
  obtain ⟨entry, inside, keyed, rfl⟩ := Cache.mem_of_lookup found
  obtain ⟨other, written, reading⟩ := sound.stored entry inside
  -- The entry has the digest of the text, so no other text was stored there.
  rwa [injective (keyed.symm.trans written)]

theorem looked_up {result : Option Schema} (sound : Sound digest capacity events traffic)
    (injective : Function.Injective digest) (found : traffic.calls[index]? = some call)
    (looked : traffic.cache.lookup traffic.clock (digest call.text) = (cache, result)) (same : next.text = call.text)
    (takes : next.phase.schema? = result) :
    Sound digest capacity (events ++ [.act index .lookup])
      { traffic with cache := cache, calls := traffic.calls.set index next } := by
  have kept := sound.kept.lookup traffic.clock (digest call.text)
  have bounds := (traffic.cache.bounds_lookup traffic.clock (digest call.text)).1
  have counted := traffic.cache.count_lookup traffic.clock (digest call.text)
  rw [looked] at kept bounds counted
  refine sound.update found same kept bounds (fun entry member => ?_) (fun schema has => ?_) ?_
  · exact Or.inl (Cache.mem_of_mem_lookup (by rwa [looked]))
  · have answer : (traffic.cache.lookup traffic.clock (digest call.text)).2 = some schema := by
      rw [looked, ← takes]
      exact has
    exact (sound.reading_of_lookup injective answer).mono _ List.prefix_rfl
  · rw [counted, sound.counted, List.countP_append]
    rfl

theorem acted (sound : Sound digest capacity events traffic) (injective : Function.Injective digest)
    (found : traffic.calls[index]? = some call)
    (done : call.act? digest traffic.cache traffic.clock act = some (cache, next)) :
    Sound digest capacity (events ++ [.act index act])
      { traffic with cache := cache, calls := traffic.calls.set index next } := by
  rcases Call.act?_cases done with ⟨schema, rfl, looked, rfl⟩ | ⟨rfl, looked, rfl⟩ | ⟨elapsed, rfl, rfl, rfl⟩ |
    ⟨schema, rfl, holding, rfl, rfl⟩
  · exact sound.looked_up injective found looked rfl rfl
  · exact sound.looked_up injective found looked rfl rfl
  · refine sound.update found rfl sound.kept rfl (fun _ => Or.inl) ?_ ?_
    · rintro _ ⟨⟩
      refine ⟨index, elapsed, List.mem_append_right _ List.mem_cons_self, ?_, rfl⟩
      rw [List.getElem?_map, found]
      rfl
    · rw [sound.counted, List.countP_append]
      rfl
  · have holds : schema ∈ call.phase.schema? := by rw [holding]; rfl
    refine sound.update found rfl (sound.kept.store ..) (Cache.bounds_store ..).1 (fun entry member => ?_) ?_ ?_
    · rcases Cache.mem_of_mem_store member with rfl | old
      · exact Or.inr ⟨rfl, holds⟩
      · exact Or.inl old
    · rintro _ ⟨⟩
      exact sound.held_later _ List.prefix_rfl (List.mem_of_getElem? found) holds
    · rw [(Cache.count_store ..).1, (Cache.count_store ..).2, sound.counted, List.countP_append]
      rfl

theorem step (sound : Sound digest capacity events traffic) (injective : Function.Injective digest)
    (done : traffic.step digest event = some after) : Sound digest capacity (events ++ [event]) after := by
  have counted : event.isLookup = false →
      traffic.cache.hits + traffic.cache.misses = (events ++ [event]).countP Event.isLookup := fun other => by
    rw [sound.counted, List.countP_append, List.countP_singleton, if_neg (by simp [other]), Nat.add_zero]
  cases event with
  | call text =>
    cases done
    have more : traffic.calls.map Call.text <+: (traffic.calls ++ [(⟨text, .asked⟩ : Call)]).map Call.text :=
      (List.prefix_append ..).map _
    refine ⟨sound.kept, sound.bounds, fun _ => sound.stored_later _ more, fun call member schema has => ?_,
      counted rfl, sound.measured⟩
    rcases List.mem_append.mp member with old | new
    · exact sound.held_later _ more old has
    · rw [List.mem_singleton.mp new] at has
      cases has
  | act index act =>
    obtain ⟨call, found, rest⟩ := Option.bind_eq_some_iff.mp done
    obtain ⟨⟨cache, next⟩, acted, same⟩ := Option.bind_eq_some_iff.mp rest
    cases same
    exact sound.acted injective found acted
  | clear =>
    cases done
    exact ⟨.clear traffic.cache, sound.bounds, fun _ member => absurd member List.not_mem_nil,
      fun _ member _ => sound.held_later _ List.prefix_rfl member, counted rfl, sound.measured⟩
  | measure =>
    cases done
    refine ⟨sound.kept, sound.bounds, fun _ => sound.stored_later _ List.prefix_rfl,
      fun _ member _ => sound.held_later _ List.prefix_rfl member, counted rfl, fun size member => ?_⟩
    rcases List.mem_append.mp member with old | new
    · exact sound.measured size old
    · rw [List.mem_singleton.mp new, ← sound.bounds]
      exact sound.kept.bounded
  | advance amount =>
    cases done
    exact ⟨sound.kept, sound.bounds, fun _ => sound.stored_later _ List.prefix_rfl,
      fun _ member _ => sound.held_later _ List.prefix_rfl member, counted rfl, sound.measured⟩

theorem run (sound : Sound digest capacity events traffic) (injective : Function.Injective digest)
    (done : Traffic.run digest traffic later = some after) : Sound digest capacity (events ++ later) after := by
  -- The events that are done grow at their end while those to come are taken from the front.
  induction later generalizing traffic events with
  | nil =>
    cases done
    rwa [List.append_nil]
  | cons event later ih =>
    obtain ⟨between, first, rest⟩ := Option.bind_eq_some_iff.mp done
    rw [← List.singleton_append, ← List.append_assoc]
    exact ih (sound.step injective first) rest

end Sound

theorem run_act (found : traffic.calls[index]? = some call)
    (acted : call.act? digest traffic.cache traffic.clock act = some (cache, next)) (events : List Event) :
    run digest traffic (.act index act :: events) =
      run digest { traffic with cache := cache, calls := traffic.calls.set index next } events := by
  simp only [run, step, found, acted, Option.bind_eq_bind, Option.bind_some]

theorem Call.act?_hit (found : cache.lookup clock (digest text) = (cache', some schema)) :
    Call.act? digest cache clock ⟨text, .asked⟩ .lookup = some (cache', ⟨text, .answered schema⟩) := by
  simp only [Call.act?, found]

theorem Call.act?_miss (found : cache.lookup clock (digest text) = (cache', none)) :
    Call.act? digest cache clock ⟨text, .asked⟩ .lookup = some (cache', ⟨text, .missed⟩) := by
  simp only [Call.act?, found]

/-- Some of the acts, in their order, bring the call back with a schema. No other call has to move for it. -/
def CanAnswer (digest : String → Digest) (traffic : Traffic Digest) (index : Nat) (text : String) (acts : List Act) :
    Prop :=
  ∃ done : List Act, ∃ after schema, done.Sublist acts ∧ run digest traffic (done.map (Event.act index)) = some after ∧
    after.calls[index]? = some ⟨text, .answered schema⟩

namespace CanAnswer

theorem answered (found : traffic.calls[index]? = some ⟨text, .answered schema⟩) (acts : List Act) :
    CanAnswer digest traffic index text acts :=
  ⟨[], traffic, schema, List.nil_sublist acts, rfl, found⟩

theorem cons {acts : List Act} (found : traffic.calls[index]? = some call)
    (acted : call.act? digest traffic.cache traffic.clock act = some (cache, next))
    (rest : CanAnswer digest { traffic with cache := cache, calls := traffic.calls.set index next } index text acts) :
    CanAnswer digest traffic index text (act :: acts) := by
  obtain ⟨done, after, schema, part, ran, back⟩ := rest
  refine ⟨act :: done, after, schema, part.cons_cons act, ?_, back⟩
  rw [List.map_cons, run_act found acted, ran]

theorem skip {acts : List Act} (rest : CanAnswer digest traffic index text acts) (act : Act) :
    CanAnswer digest traffic index text (act :: acts) := by
  obtain ⟨done, after, schema, part, ran, back⟩ := rest
  exact ⟨done, after, schema, part.cons act, ran, back⟩

theorem holding (found : traffic.calls[index]? = some ⟨text, .holding schema⟩) :
    CanAnswer digest traffic index text [.store] :=
  cons found rfl (answered (List.getElem?_set_self (List.getElem?_eq_some_iff.mp found).1) [])

theorem missed (found : traffic.calls[index]? = some ⟨text, .missed⟩) (elapsed : Option Int) :
    CanAnswer digest traffic index text [.read elapsed, .store] :=
  cons found rfl (holding (List.getElem?_set_self (List.getElem?_eq_some_iff.mp found).1))

theorem asked (found : traffic.calls[index]? = some ⟨text, .asked⟩) (elapsed : Option Int) :
    CanAnswer digest traffic index text [.lookup, .read elapsed, .store] := by
  have here (phase : Phase) : (traffic.calls.set index ⟨text, phase⟩)[index]? = some ⟨text, phase⟩ :=
    List.getElem?_set_self (List.getElem?_eq_some_iff.mp found).1
  rcases looked : traffic.cache.lookup traffic.clock (digest text) with ⟨cache, _ | schema⟩
  · exact cons found (Call.act?_miss looked) (missed (here _) elapsed)
  · exact cons found (Call.act?_hit looked) (answered (here _) _)

/-- From wherever a call has come to, its own acts bring it back with a schema. -/
theorem of_call (found : traffic.calls[index]? = some call) (elapsed : Option Int) :
    CanAnswer digest traffic index call.text [.lookup, .read elapsed, .store] := by
  obtain ⟨text, phase⟩ := call
  cases phase with
  | asked => exact asked found elapsed
  | missed => exact (missed found elapsed).skip .lookup
  | holding schema => exact ((holding found).skip (.read elapsed)).skip .lookup
  | answered schema => exact answered found _

end CanAnswer

/-- A call whose acts follow on each other does what fetching from the cache does. -/
theorem run_uninterrupted {compute : Digest → Schema} (found : traffic.calls[index]? = some ⟨text, .asked⟩)
    (agree : compute (digest text) = Script.timed (Script.read text) elapsed) :
    ∃ acts : List Act, acts.Sublist [.lookup, .read elapsed, .store] ∧
      run digest traffic (acts.map (Event.act index)) = some { traffic with
        cache := (traffic.cache.fetch traffic.clock (digest text) compute).1
        calls := traffic.calls.set index
          ⟨text, .answered (traffic.cache.fetch traffic.clock (digest text) compute).2⟩ } := by
  have here (phase : Phase) : (traffic.calls.set index ⟨text, phase⟩)[index]? = some ⟨text, phase⟩ :=
    List.getElem?_set_self (List.getElem?_eq_some_iff.mp found).1
  rcases looked : traffic.cache.lookup traffic.clock (digest text) with ⟨cache, _ | schema⟩
  · refine ⟨[.lookup, .read elapsed, .store], .refl _, ?_⟩
    rw [List.map_cons, run_act found (Call.act?_miss looked), List.map_cons, run_act (here _) rfl, List.set_set,
      List.map_cons, run_act (here _) rfl, List.set_set]
    simp only [Cache.fetch, looked, agree]
    rfl
  · refine ⟨[.lookup], List.cons_sublist_cons.mpr (List.nil_sublist _), ?_⟩
    rw [List.map_cons, run_act found (Call.act?_hit looked)]
    simp only [Cache.fetch, looked]
    rfl

theorem timed_elapsed (schema : Schema) : Script.timed schema (some schema.stats.elapsed) = schema := rfl

/-- The service gets the schema of a script as one uninterrupted call does. -/
theorem schemaOf_uninterrupted {state : Service.State} {traffic : Traffic String} (shared : traffic.cache = state.cache)
    (same_time : traffic.clock = state.now) (found : traffic.calls[index]? = some ⟨text, .asked⟩) :
    ∃ acts : List Act, ∃ after schema, run id traffic (acts.map (Event.act index)) = some after ∧
      after.calls[index]? = some ⟨text, .answered schema⟩ ∧
      state.schemaOf (.text text) = ({ state with cache := after.cache }, .ok schema) := by
  have agree : Script.read (id text) = Script.timed (Script.read text) (some (Script.read text).stats.elapsed) :=
    (timed_elapsed _).symm
  obtain ⟨acts, _, ran⟩ := run_uninterrupted found agree
  refine ⟨acts, _, _, ran, List.getElem?_set_self (List.getElem?_eq_some_iff.mp found).1, ?_⟩
  rw [Service.State.schemaOf, ← shared, ← same_time]
  rfl

/-- What a shared cache promises after the events. A call that is back got a reading of its own text, what is stored
was read from a text of the key's digest, no key comes twice, the capacity is kept and was kept whenever the cache was
measured, the lookups are counted, and every call that is not back can still be answered. -/
structure Transparent (digest : String → Digest) (capacity : Int) (events : List Event) (traffic : Traffic Digest) :
    Prop where
  answers : ∀ call ∈ traffic.calls, ∀ schema, call.phase = .answered schema →
    IsReading events traffic.calls call.text schema
  entries : ∀ entry ∈ traffic.cache.entries, ∃ text, entry.key = digest text ∧
    IsReading events traffic.calls text entry.value
  distinct : (traffic.cache.entries.map CacheEntry.key).Nodup
  bounded : (traffic.cache.size : Int) ≤ max capacity 0
  measured : ∀ size ∈ traffic.measured, (size : Int) ≤ max capacity 0
  counted : traffic.cache.hits + traffic.cache.misses = events.countP Event.isLookup
  answerable : ∀ index call, traffic.calls[index]? = some call → ∀ elapsed,
    CanAnswer digest traffic index call.text [.lookup, .read elapsed, .store]

/-- Whatever the order in which calls take their steps, sharing a cache cannot be told from reading every script. -/
theorem cache_transparent (injective : Function.Injective digest)
    (done : run digest (start capacity lifetime) events = some traffic) :
    Transparent digest capacity events traffic := by
  have sound : Sound digest capacity ([] ++ events) traffic := (Sound.start digest capacity lifetime).run injective done
  rw [List.nil_append] at sound
  exact {
    answers := fun call member schema back => sound.held call member schema (by rw [back]; rfl)
    entries := sound.stored
    distinct := sound.kept.distinct
    bounded := sound.bounds ▸ sound.kept.bounded
    measured := sound.measured
    counted := sound.counted
    answerable := fun _ _ found elapsed => .of_call found elapsed }

/-- Two calls for one script that both find nothing. The cache is emptied after the first of them stored its schema, and
a third call finds what the second stored. -/
def race (script : String) : List Event :=
  [.call script, .call script, .act 0 .lookup, .act 1 .lookup, .act 1 (.read (some 2)), .act 1 .store, .clear,
    .act 0 (.read (some 5)), .advance 60, .act 0 .store, .call script, .advance 60, .act 2 .lookup, .measure]

theorem cache_transparent_amid : Function.Injective (id : String → String) ∧
    ∃ traffic, run id (start 1 60) (race "CREATE TABLE a (x int);") = some traffic ∧
      traffic.calls.map (fun call => call.phase.schema?.map (·.stats.elapsed)) = [some 5, some 2, some 5] ∧
      traffic.measured = [1] ∧ traffic.cache.hits = 1 ∧ traffic.cache.misses = 2 ∧
      Transparent id 1 (race "CREATE TABLE a (x int);") traffic := by
  have ran : ∃ traffic, run id (start 1 60) (race "CREATE TABLE a (x int);") = some traffic ∧
      traffic.calls.map (fun call => call.phase.schema?.map (·.stats.elapsed)) = [some 5, some 2, some 5] ∧
      traffic.measured = [1] ∧ traffic.cache.hits = 1 ∧ traffic.cache.misses = 2 :=
    ⟨_, rfl, rfl, rfl, rfl, rfl⟩
  obtain ⟨traffic, done, times, sizes, hits, misses⟩ := ran
  exact ⟨Function.injective_id, traffic, done, times, sizes, hits, misses,
    cache_transparent Function.injective_id done⟩

end
end Traffic
end SchemaAtlas
