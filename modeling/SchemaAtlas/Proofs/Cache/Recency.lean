import Mathlib.Data.Finset.Card
import SchemaAtlas.Proofs.Cache.Entries
/-!
A cache in the course of time. Values are stored, looked up and fetched, the cache is emptied, and the clock moves on.
What was done is remembered, the latest first. The entries stand in the order in which their keys were last stored or
found, so only keys that were used after an entry's own stand behind it, and the entry is given up only if these are
as many as the capacity.
-/
namespace SchemaAtlas.Cache
variable {Key Value : Type}

/-- What was done with one key or with the whole cache. -/
inductive Deed (Key Value : Type) where
  | stored (key : Key) (value : Value)
  | found (key : Key) (value : Value)
  | missed (key : Key)
  | cleared
deriving DecidableEq

/-- The key that a deed makes the latest one. -/
def Deed.used? : Deed Key Value → Option Key
  | .stored key _ | .found key _ => some key
  | .missed _ | .cleared => none

structure Moment (Key Value : Type) where
  time : Int
  deed : Deed Key Value
deriving DecidableEq

/-- A cache with its clock and with all that was done, the latest first. -/
structure Usage (Key Value : Type) where
  cache : Cache Key Value
  clock : Int
  past : List (Moment Key Value)
deriving DecidableEq

/-- Fetching computes the value if none is found, which takes some time. -/
inductive Event (Key Value : Type) where
  | lookup (key : Key)
  | store (key : Key) (value : Value)
  | fetch (key : Key) (value : Value) (elapsed : Nat)
  | clear
  | advance (amount : Nat)
deriving DecidableEq

variable [DecidableEq Key]

/-- When the key was last stored, and with which value, unless the cache was emptied since. -/
def lastStored? (key : Key) : List (Moment Key Value) → Option (Int × Value)
  | [] => none
  | ⟨time, .stored other value⟩ :: earlier => if other = key then some (time, value) else lastStored? key earlier
  | ⟨_, .cleared⟩ :: _ => none
  | ⟨_, .found ..⟩ :: earlier | ⟨_, .missed _⟩ :: earlier => lastStored? key earlier

/-- The other keys that were stored or found since the key was. -/
def usedSince (key : Key) : List (Moment Key Value) → Finset Key
  | [] => ∅
  | moment :: earlier =>
    match moment.deed.used? with
    | none => usedSince key earlier
    | some other => if other = key then ∅ else insert other (usedSince key earlier)

namespace Usage

def start (capacity lifetime clock : Int) : Usage Key Value := ⟨.empty capacity lifetime, clock, []⟩

/-- What a lookup of the key answers now. -/
def answer (usage : Usage Key Value) (key : Key) : Option Value := (usage.cache.lookup usage.clock key).2

def lookup (usage : Usage Key Value) (key : Key) : Usage Key Value :=
  { usage with
    cache := (usage.cache.lookup usage.clock key).1
    past := ⟨usage.clock, match usage.answer key with
      | some value => .found key value
      | none => .missed key⟩ :: usage.past }

def store (usage : Usage Key Value) (key : Key) (value : Value) : Usage Key Value :=
  { usage with
    cache := usage.cache.store usage.clock key value
    past := ⟨usage.clock, .stored key value⟩ :: usage.past }

def clear (usage : Usage Key Value) : Usage Key Value :=
  { usage with cache := usage.cache.clear, past := ⟨usage.clock, .cleared⟩ :: usage.past }

def advance (usage : Usage Key Value) (amount : Nat) : Usage Key Value :=
  { usage with clock := usage.clock + amount }

def fetch (usage : Usage Key Value) (key : Key) (value : Value) (elapsed : Nat) : Usage Key Value :=
  match usage.answer key with
  | some _ => usage.lookup key
  | none => ((usage.lookup key).advance elapsed).store key value

def step (usage : Usage Key Value) : Event Key Value → Usage Key Value
  | .lookup key => usage.lookup key
  | .store key value => usage.store key value
  | .fetch key value elapsed => usage.fetch key value elapsed
  | .clear => usage.clear
  | .advance amount => usage.advance amount

def run (usage : Usage Key Value) (events : List (Event Key Value)) : Usage Key Value := events.foldl step usage

/-- Fetching in no time is what the cache calls fetching. -/
theorem cache_fetch (usage : Usage Key Value) (key : Key) (compute : Key → Value) :
    (usage.fetch key (compute key) 0).cache = (usage.cache.fetch usage.clock key compute).1 := by
  unfold fetch Cache.fetch answer
  rcases looked : usage.cache.lookup usage.clock key with ⟨cache, _ | value⟩
  · simp [lookup, advance, store, looked]
  · simp [lookup, looked]

end Usage

section Entries
variable {cache : Cache Key Value} {now : Int} {key : Key} {value : Value} {entry : CacheEntry Key Value}

theorem WellKept.find?_of_mem (kept : cache.WellKept) (member : entry ∈ cache.entries) :
    cache.entries.find? (·.key == entry.key) = some entry := by
  cases found : cache.entries.find? (·.key == entry.key) with
  | none => exact absurd (beq_self_eq_true entry.key) (by simpa using List.find?_eq_none.mp found entry member)
  | some other =>
    have same : other.key = entry.key := by simpa using List.find?_some found
    rw [List.inj_on_of_nodup_map kept.distinct (List.mem_of_find?_eq_some found) member same]

/-- A lookup answers with the entry of the key, if there is one that is not too old. -/
theorem WellKept.lookup_eq_some_iff (kept : cache.WellKept) : (cache.lookup now key).2 = some value ↔
    ∃ entry ∈ cache.entries, entry.key = key ∧ entry.value = value ∧ now - entry.stored ≤ cache.lifetime := by
  constructor
  · intro answered
    cases found : cache.entries.find? (·.key == key) with
    | none => rw [lookup_of_absent found] at answered; cases answered
    | some entry =>
      by_cases old : cache.lifetime < now - entry.stored
      · rw [lookup_of_stale found old] at answered
        cases answered
      · rw [lookup_of_fresh found old] at answered
        have keyed : entry.key = key := by simpa using List.find?_some found
        exact ⟨entry, List.mem_of_find?_eq_some found, keyed, Option.some.inj answered, Int.not_lt.mp old⟩
  · rintro ⟨entry, member, rfl, rfl, young⟩
    rw [lookup_of_fresh (kept.find?_of_mem member) (Int.not_lt.mpr young)]

/-- An entry with few others behind it outlasts a store under another key. -/
theorem mem_store_of_few {front back : List (CacheEntry Key Value)}
    (split : cache.entries = front ++ entry :: back) (other : entry.key ≠ key)
    (few : ((back.filter (·.key != key)).length : Int) + 1 < cache.capacity) :
    entry ∈ (cache.store now key value).entries := by
  have some_fit : ¬cache.capacity ≤ 0 := by omega
  have parts : cache.without key ++ [(⟨key, now, value⟩ : CacheEntry Key Value)] =
      front.filter (·.key != key) ++
        (entry :: (back.filter (·.key != key) ++ [(⟨key, now, value⟩ : CacheEntry Key Value)])) := by
    simp [without, split, other]
  unfold store
  rw [if_neg some_fit]
  simp only [parts]
  -- What is dropped is at most what stands in front of the entry.
  rw [List.drop_append_of_le_length]
  · exact List.mem_append_right _ List.mem_cons_self
  · simp only [List.length_append, List.length_cons, List.length_nil]
    omega

/-- A store keeps the entries of other keys in their order and puts its own behind them. -/
theorem WellKept.sublist_store (kept : cache.WellKept) (now : Int) (key : Key) (value : Value) :
    (cache.store now key value).entries.Sublist
      (cache.without key ++ [(⟨key, now, value⟩ : CacheEntry Key Value)]) := by
  rcases Int.lt_or_le 0 cache.capacity with some_fit | none_fits
  · obtain ⟨dropped, same, _⟩ := store_of_capacity now key value some_fit
    rw [same]
    exact List.drop_sublist _ _
  · have few := kept.bounded
    have none_there : cache.entries = [] := List.length_eq_zero_iff.mp (by unfold size at few; omega)
    rw [store_of_no_capacity none_fits, none_there]
    exact List.nil_sublist _

theorem mem_store_self (some_fit : 0 < cache.capacity) :
    (⟨key, now, value⟩ : CacheEntry Key Value) ∈ (cache.store now key value).entries := by
  unfold store
  rw [if_neg (Int.not_le.mpr some_fit)]
  dsimp only
  rw [List.drop_append_of_le_length (by simp only [List.length_append, List.length_singleton]; omega)]
  exact List.mem_append_right _ List.mem_cons_self

theorem mem_lookup_of_ne (member : entry ∈ cache.entries) (different : entry.key ≠ key) :
    entry ∈ (cache.lookup now key).1.entries := by
  unfold lookup
  cases cache.entries.find? (·.key == key) with
  | none => exact member
  | some other =>
    have inside : entry ∈ cache.without key := mem_without.mpr ⟨member, different⟩
    dsimp only
    split
    · exact inside
    · exact List.mem_append_left _ inside

end Entries

section Past
variable {moment : Moment Key Value} {past since earlier : List (Moment Key Value)} {key other : Key} {time : Int}
  {value : Value}

theorem usedSince_of_other (used : moment.deed.used? = some other) (different : other ≠ key) :
    usedSince key (moment :: past) = insert other (usedSince key past) := by
  simp only [usedSince, used, if_neg different]

/-- What was stored last was stored at some moment, and neither was the key stored nor the cache emptied since. -/
theorem exists_of_lastStored? (last : lastStored? key past = some (time, value)) :
    ∃ since earlier, past = since ++ ⟨time, .stored key value⟩ :: earlier ∧
      ∀ moment ∈ since, moment.deed ≠ .cleared ∧ ∀ other, moment.deed ≠ .stored key other := by
  induction past with
  | nil => cases last
  | cons moment past ih =>
    have goes_on (later : lastStored? key past = some (time, value)) (silent : moment.deed ≠ .cleared ∧
        ∀ other, moment.deed ≠ .stored key other) : ∃ since earlier,
          moment :: past = since ++ ⟨time, .stored key value⟩ :: earlier ∧
            ∀ moment ∈ since, moment.deed ≠ .cleared ∧ ∀ other, moment.deed ≠ .stored key other := by
      obtain ⟨since, earlier, rfl, rest⟩ := ih later
      exact ⟨moment :: since, earlier, rfl, List.forall_mem_cons.mpr ⟨silent, rest⟩⟩
    obtain ⟨now, deed⟩ := moment
    cases deed with
    | stored other written =>
      by_cases same : other = key
      · subst same
        rw [lastStored?, if_pos rfl] at last
        cases last
        exact ⟨[], past, rfl, by simp⟩
      · rw [lastStored?, if_neg same] at last
        exact goes_on last ⟨by simp, by simp [same]⟩
    | found other written => exact goes_on last ⟨by simp, by simp⟩
    | missed other => exact goes_on last ⟨by simp, by simp⟩
    | cleared => cases last

/-- A key that was stored was stored last then or later, unless the cache was emptied. -/
theorem exists_lastStored?
    (ordered : ((since ++ ⟨time, .stored key value⟩ :: earlier).map Moment.time).Pairwise (· ≥ ·))
    (uncleared : ∀ moment ∈ since, moment.deed ≠ .cleared) : ∃ last written,
      lastStored? key (since ++ ⟨time, .stored key value⟩ :: earlier) = some (last, written) ∧ time ≤ last := by
  induction since with
  | nil => exact ⟨time, value, by simp [lastStored?], Int.le_refl _⟩
  | cons moment since ih =>
    obtain ⟨silent, rest⟩ := List.forall_mem_cons.mp uncleared
    obtain ⟨after, others⟩ := List.pairwise_cons.mp ordered
    have before := ih others rest
    obtain ⟨now, deed⟩ := moment
    cases deed with
    | stored other written =>
      by_cases same : other = key
      · refine ⟨now, written, by simp [lastStored?, same], after time ?_⟩
        simp
      · simpa [lastStored?, same] using before
    | found other written => exact before
    | missed other => exact before
    | cleared => exact absurd rfl silent

end Past

namespace Usage
variable {capacity lifetime : Int} {usage : Usage Key Value} {key : Key} {value : Value}

/-- What is kept in the course of time. The entries are those that were stored last, the keys behind an entry were used
after its own, and a key that is missing was used too long ago. -/
structure Tracked (capacity lifetime : Int) (usage : Usage Key Value) : Prop where
  kept : usage.cache.WellKept
  bounds : usage.cache.capacity = capacity ∧ usage.cache.lifetime = lifetime
  dated : ∀ entry ∈ usage.cache.entries, lastStored? entry.key usage.past = some (entry.stored, entry.value)
  ranked : usage.cache.entries.Pairwise fun earlier later => later.key ∈ usedSince earlier.key usage.past
  present : ∀ key time value, lastStored? key usage.past = some (time, value) → usage.clock - time ≤ lifetime →
    ((usedSince key usage.past).card : Int) < capacity → ∃ entry ∈ usage.cache.entries, entry.key = key
  ordered : (usage.clock :: usage.past.map Moment.time).Pairwise (· ≥ ·)

namespace Tracked

theorem start (capacity lifetime clock : Int) :
    Tracked capacity lifetime (start capacity lifetime clock : Usage Key Value) where
  kept := .empty capacity lifetime
  bounds := ⟨rfl, rfl⟩
  dated _ member := absurd member List.not_mem_nil
  ranked := List.Pairwise.nil
  present _ _ _ last := by cases last
  ordered := List.pairwise_singleton _ _

/-- The new moment is not before the others. -/
theorem ordered_now (tracked : Tracked capacity lifetime usage) (deed : Deed Key Value) :
    (usage.clock :: ((⟨usage.clock, deed⟩ : Moment Key Value) :: usage.past).map Moment.time).Pairwise (· ≥ ·) := by
  have before := tracked.ordered
  refine List.pairwise_cons.mpr ⟨?_, before⟩
  rw [List.map_cons]
  exact List.forall_mem_cons.mpr ⟨Int.le_refl _, (List.pairwise_cons.mp before).1⟩

/-- The entry of a key that is used goes behind all others. -/
theorem ranked_use (tracked : Tracked capacity lifetime usage) {moment : Moment Key Value}
    {entry : CacheEntry Key Value}
    (used : moment.deed.used? = some key) (keyed : entry.key = key) :
    (usage.cache.without key ++ [entry]).Pairwise fun earlier later =>
      later.key ∈ usedSince earlier.key (moment :: usage.past) := by
  refine List.pairwise_append.mpr ⟨?_, List.pairwise_singleton _ _, ?_⟩
  · have before := tracked.ranked.sublist (List.filter_sublist (p := (·.key != key)))
    refine before.imp_of_mem fun {earlier later} inside _ behind => ?_
    have different : key ≠ earlier.key := Ne.symm (mem_without.mp inside).2
    rw [usedSince_of_other used different]
    exact Finset.mem_insert_of_mem behind
  · intro earlier inside later last
    have different : key ≠ earlier.key := Ne.symm (mem_without.mp inside).2
    rw [List.mem_singleton.mp last, usedSince_of_other used different, keyed]
    exact Finset.mem_insert_self _ _

/-- An entry outlasts a store under another key, if fewer keys than the capacity were used since its own. -/
theorem mem_store (tracked : Tracked capacity lifetime usage) {entry : CacheEntry Key Value}
    (member : entry ∈ usage.cache.entries) (different : key ≠ entry.key)
    (few : ((insert key (usedSince entry.key usage.past)).card : Int) < capacity) :
    entry ∈ (usage.cache.store usage.clock key value).entries := by
  obtain ⟨front, back, split⟩ := List.append_of_mem member
  refine mem_store_of_few split (Ne.symm different) ?_
  rw [tracked.bounds.1]
  refine Int.lt_of_le_of_lt ?_ few
  -- The new key and those behind the entry are distinct, and all of them were used since.
  have behind : ∀ other ∈ back, other.key ∈ usedSince entry.key usage.past := by
    have ranked := tracked.ranked
    rw [split] at ranked
    exact (List.pairwise_cons.mp (List.pairwise_append.mp ranked).2.1).1
  have distinct : (key :: (back.filter (·.key != key)).map CacheEntry.key).Nodup := by
    refine List.nodup_cons.mpr ⟨by simp, ?_⟩
    have all := tracked.kept.distinct
    rw [split, List.map_append, List.map_cons] at all
    have rest := (List.nodup_cons.mp (List.Nodup.of_append_right all)).2
    exact rest.sublist (List.filter_sublist.map _)
  have counted := Finset.card_le_card (s := (key :: (back.filter (·.key != key)).map CacheEntry.key).toFinset)
    (t := insert key (usedSince entry.key usage.past)) (by
      intro other inside
      rcases List.mem_cons.mp (List.mem_toFinset.mp inside) with rfl | inside
      · exact Finset.mem_insert_self _ _
      · obtain ⟨later, there, rfl⟩ := List.mem_map.mp inside
        exact Finset.mem_insert_of_mem (behind later (List.mem_of_mem_filter there)))
  rw [List.toFinset_card_of_nodup distinct, List.length_cons, List.length_map] at counted
  exact_mod_cast counted

theorem store (tracked : Tracked capacity lifetime usage) (key : Key) (value : Value) :
    Tracked capacity lifetime (usage.store key value) where
  kept := tracked.kept.store _ _ _
  bounds := by
    obtain ⟨same, alike⟩ := bounds_store usage.cache usage.clock key value
    exact ⟨same.trans tracked.bounds.1, alike.trans tracked.bounds.2⟩
  dated := by
    intro entry member
    rcases List.mem_append.mp ((tracked.kept.sublist_store _ _ _).subset member) with earlier | last
    · obtain ⟨inside, different⟩ := mem_without.mp earlier
      exact (if_neg (Ne.symm different)).trans (tracked.dated entry inside)
    · rw [List.mem_singleton.mp last]
      exact if_pos rfl
  ranked := by
    have behind : (usage.cache.without key ++ [(⟨key, usage.clock, value⟩ : CacheEntry Key Value)]).Pairwise
        fun earlier later => later.key ∈ usedSince earlier.key (usage.store key value).past :=
      tracked.ranked_use rfl rfl
    exact behind.sublist (tracked.kept.sublist_store _ _ _)
  present := by
    intro other time written last young few
    by_cases same : key = other
    · subst same
      exact ⟨_, mem_store_self (by rw [tracked.bounds.1]; omega), rfl⟩
    · change ((usedSince other (⟨usage.clock, .stored key value⟩ :: usage.past)).card : Int) < capacity at few
      rw [usedSince_of_other rfl same] at few
      have fewer := Finset.card_le_card (Finset.subset_insert key (usedSince other usage.past))
      obtain ⟨entry, member, rfl⟩ :=
        tracked.present other time written ((if_neg same).symm.trans last) young (by omega)
      exact ⟨entry, tracked.mem_store member same few, rfl⟩
  ordered := tracked.ordered_now _

theorem hit (tracked : Tracked capacity lifetime usage) (found : usage.answer key = some value) :
    Tracked capacity lifetime (usage.lookup key) := by
  have past : (usage.lookup key).past = ⟨usage.clock, .found key value⟩ :: usage.past := by
    simp only [Usage.lookup, found]
  rcases lookup_cases usage.cache usage.clock key with ⟨_, _, same⟩ | ⟨entry, member, keyed, same⟩
  · rw [answer, same] at found
    cases found
  have entries : (usage.lookup key).cache.entries = usage.cache.without key ++ [entry] := by
    simp only [Usage.lookup, same]
  have bounds := bounds_lookup usage.cache usage.clock key
  exact {
    kept := tracked.kept.lookup _ _
    bounds := ⟨bounds.1.trans tracked.bounds.1, bounds.2.trans tracked.bounds.2⟩
    dated := by
      intro other inside
      rw [past]
      exact tracked.dated other (mem_of_mem_lookup inside)
    ranked := by
      rw [entries, past]
      exact tracked.ranked_use rfl keyed
    present := by
      intro other time written last young few
      rw [past] at last few
      by_cases same : key = other
      · exact ⟨entry, by rw [entries]; exact List.mem_append_right _ List.mem_cons_self, keyed.trans same⟩
      · rw [usedSince_of_other rfl same] at few
        have fewer := Finset.card_le_card (Finset.subset_insert key (usedSince other usage.past))
        obtain ⟨kept, inside, rfl⟩ := tracked.present other time written last young (by omega)
        exact ⟨kept, mem_lookup_of_ne inside (Ne.symm same), rfl⟩
    ordered := tracked.ordered_now _ }

/-- A lookup that finds nothing drops only what is too old. -/
theorem miss (tracked : Tracked capacity lifetime usage) (absent : usage.answer key = none) :
    Tracked capacity lifetime (usage.lookup key) := by
  have past : (usage.lookup key).past = ⟨usage.clock, .missed key⟩ :: usage.past := by
    simp only [Usage.lookup, absent]
  rcases lookup_cases usage.cache usage.clock key with ⟨entries, part, same⟩ | ⟨_, _, _, same⟩
  rotate_left
  · rw [answer, same] at absent
    cases absent
  have fewer : (usage.lookup key).cache.entries.Sublist usage.cache.entries := by
    simp only [Usage.lookup, same]
    exact part
  have bounds := bounds_lookup usage.cache usage.clock key
  exact {
    kept := tracked.kept.lookup _ _
    bounds := ⟨bounds.1.trans tracked.bounds.1, bounds.2.trans tracked.bounds.2⟩
    dated := by
      intro other inside
      rw [past]
      exact tracked.dated other (fewer.subset inside)
    ranked := by
      rw [past]
      exact tracked.ranked.sublist fewer
    present := by
      intro other time written last young few
      rw [past] at last few
      obtain ⟨entry, inside, rfl⟩ := tracked.present other time written last young few
      refine ⟨entry, mem_lookup_of_ne inside fun same => ?_, rfl⟩
      -- An entry of the key that was looked up would have been found.
      have when_stored : some (entry.stored, entry.value) = some (time, written) :=
        (tracked.dated entry inside).symm.trans last
      cases when_stored
      have found : usage.answer key = some entry.value :=
        tracked.kept.lookup_eq_some_iff.mpr ⟨entry, inside, same, rfl, tracked.bounds.2 ▸ young⟩
      rw [absent] at found
      cases found
    ordered := tracked.ordered_now _ }

theorem lookup (tracked : Tracked capacity lifetime usage) (key : Key) :
    Tracked capacity lifetime (usage.lookup key) := by
  cases found : usage.answer key with
  | none => exact tracked.miss found
  | some value => exact tracked.hit found

theorem clear (tracked : Tracked capacity lifetime usage) : Tracked capacity lifetime usage.clear where
  kept := .clear usage.cache
  bounds := tracked.bounds
  dated _ member := absurd member List.not_mem_nil
  ranked := List.Pairwise.nil
  present _ _ _ last := by cases last
  ordered := tracked.ordered_now _

theorem advance (tracked : Tracked capacity lifetime usage) (amount : Nat) :
    Tracked capacity lifetime (usage.advance amount) where
  kept := tracked.kept
  bounds := tracked.bounds
  dated := tracked.dated
  ranked := tracked.ranked
  present key time value last young few := by
    refine tracked.present key time value last ?_ few
    simp only [Usage.advance] at young
    omega
  ordered := by
    obtain ⟨before, others⟩ := List.pairwise_cons.mp tracked.ordered
    refine List.pairwise_cons.mpr ⟨fun time inside => ?_, others⟩
    have earlier := before time inside
    simp only [Usage.advance]
    omega

theorem fetch (tracked : Tracked capacity lifetime usage) (key : Key) (value : Value) (elapsed : Nat) :
    Tracked capacity lifetime (usage.fetch key value elapsed) := by
  unfold Usage.fetch
  split
  · exact tracked.lookup key
  · exact ((tracked.lookup key).advance elapsed).store key value

theorem step (tracked : Tracked capacity lifetime usage) (event : Event Key Value) :
    Tracked capacity lifetime (usage.step event) := by
  cases event with
  | lookup key => exact tracked.lookup key
  | store key value => exact tracked.store key value
  | fetch key value elapsed => exact tracked.fetch key value elapsed
  | clear => exact tracked.clear
  | advance amount => exact tracked.advance amount

theorem run (tracked : Tracked capacity lifetime usage) (events : List (Event Key Value)) :
    Tracked capacity lifetime (usage.run events) := by
  induction events generalizing usage with
  | nil => exact tracked
  | cons event events ih => exact ih (tracked.step event)

end Tracked

/-- What a cache promises at any time. It is never larger than its capacity. What it answers was stored under the key
no longer ago than the lifetime, and neither was another value stored there nor the cache emptied since. What was stored
no longer ago than the lifetime is answered, if the cache was not emptied since and fewer other keys than the capacity
were used since the key was. A cache without capacity answers nothing. -/
structure Regular (capacity lifetime : Int) (usage : Usage Key Value) : Prop where
  bounded : (usage.cache.size : Int) ≤ max capacity 0
  hit : ∀ key value, usage.answer key = some value → ∃ since time earlier,
    usage.past = since ++ ⟨time, .stored key value⟩ :: earlier ∧ usage.clock - time ≤ lifetime ∧
      ∀ moment ∈ since, moment.deed ≠ .cleared ∧ ∀ other, moment.deed ≠ .stored key other
  kept : ∀ key value since time earlier, usage.past = since ++ ⟨time, .stored key value⟩ :: earlier →
    (∀ moment ∈ since, moment.deed ≠ .cleared) → ((usedSince key usage.past).card : Int) < capacity →
      usage.clock ≤ time + lifetime → (usage.answer key).isSome = true
  disabled : capacity ≤ 0 → ∀ key, usage.answer key = none

/-- Whatever is done with a cache, it answers with what was stored last, and gives up only what is too old, or what was
not used while as many others as the capacity were. -/
theorem recency_kept (capacity lifetime clock : Int) (events : List (Event Key Value)) :
    Regular capacity lifetime ((start capacity lifetime clock).run events) := by
  have tracked : Tracked capacity lifetime ((start capacity lifetime clock : Usage Key Value).run events) :=
    (Tracked.start capacity lifetime clock).run events
  generalize (start capacity lifetime clock).run events = usage at tracked
  have bounded : (usage.cache.size : Int) ≤ max capacity 0 := tracked.bounds.1 ▸ tracked.kept.bounded
  refine ⟨bounded, fun key value found => ?_, fun key value since time earlier split uncleared few young => ?_,
    fun none_fits key => ?_⟩
  · obtain ⟨entry, member, rfl, rfl, young⟩ := tracked.kept.lookup_eq_some_iff.mp found
    obtain ⟨since, earlier, split, silent⟩ := exists_of_lastStored? (tracked.dated entry member)
    exact ⟨since, entry.stored, earlier, split, tracked.bounds.2 ▸ young, silent⟩
  · have ordered := (List.pairwise_cons.mp tracked.ordered).2
    rw [split] at ordered
    obtain ⟨last, written, stored, later⟩ := exists_lastStored? ordered uncleared
    rw [← split] at stored
    have still_young : usage.clock - last ≤ lifetime := by omega
    obtain ⟨entry, member, rfl⟩ := tracked.present key last written stored still_young few
    have same : some (entry.stored, entry.value) = some (last, written) :=
      (tracked.dated entry member).symm.trans stored
    cases same
    have found : usage.answer entry.key = some entry.value :=
      tracked.kept.lookup_eq_some_iff.mpr ⟨entry, member, rfl, rfl, tracked.bounds.2 ▸ still_young⟩
    rw [found]
    rfl
  · have none_there : usage.cache.entries = [] := List.length_eq_zero_iff.mp (by unfold size at bounded; omega)
    rw [answer, lookup_of_absent (by rw [none_there]; rfl)]

/-- The second key makes room for the third, since the first was found after it. Being found does not prolong a life. -/
example :
    let usage := (start 2 60 0).run [.store 1 'a', .store 2 'b', .advance 50, .lookup 1, .fetch 3 'c' 5]
    usage.answer 1 = some 'a' ∧ usage.answer 2 = none ∧ usage.answer 3 = some 'c' ∧
      (usage.advance 6).answer 1 = none ∧ (usage.advance 60).answer 3 = some 'c' := by decide

end Usage
end SchemaAtlas.Cache
