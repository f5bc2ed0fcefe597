import Mathlib.Data.List.Nodup
import SchemaAtlas.Cache
/-!
What a lookup and a store do to the entries of a cache. No key comes twice, there are never more entries than the
capacity, an entry is only ever added by a store, and every lookup is counted once.
-/
namespace SchemaAtlas.Cache
variable {Key Value : Type} {cache : Cache Key Value} {now : Int} {key : Key} {value : Value}
  {entry : CacheEntry Key Value}

/-- No key comes twice, and there are not more entries than the capacity. -/
structure WellKept (cache : Cache Key Value) : Prop where
  distinct : (cache.entries.map CacheEntry.key).Nodup
  bounded : (cache.size : Int) ≤ max cache.capacity 0

theorem WellKept.empty (capacity lifetime : Int) : (Cache.empty capacity lifetime : Cache Key Value).WellKept :=
  ⟨List.nodup_nil, Int.le_max_right _ _⟩

theorem WellKept.clear (cache : Cache Key Value) : cache.clear.WellKept := ⟨List.nodup_nil, Int.le_max_right _ _⟩

variable [DecidableEq Key]

theorem mem_without : entry ∈ cache.without key ↔ entry ∈ cache.entries ∧ entry.key ≠ key := by
  simp [without]

theorem lookup_of_absent (absent : cache.entries.find? (·.key == key) = none) :
    cache.lookup now key = ({ cache with misses := cache.misses + 1 }, none) := by
  rw [lookup, absent]

theorem lookup_of_stale (found : cache.entries.find? (·.key == key) = some entry)
    (old : cache.lifetime < now - entry.stored) : cache.lookup now key =
      ({ cache with entries := cache.without key, misses := cache.misses + 1 }, none) := by
  rw [lookup, found]
  exact if_pos old

theorem lookup_of_fresh (found : cache.entries.find? (·.key == key) = some entry)
    (young : ¬cache.lifetime < now - entry.stored) : cache.lookup now key =
      ({ cache with entries := cache.without key ++ [entry], hits := cache.hits + 1 }, some entry.value) := by
  rw [lookup, found]
  exact if_neg young

/-- A lookup misses, and then at most drops what is stored under the key, or it finds the entry of the key and makes it
the latest one. -/
theorem lookup_cases (cache : Cache Key Value) (now : Int) (key : Key) :
    (∃ entries, entries.Sublist cache.entries ∧ cache.lookup now key =
      ({ cache with entries := entries, misses := cache.misses + 1 }, none)) ∨
    ∃ entry ∈ cache.entries, entry.key = key ∧ cache.lookup now key =
      ({ cache with entries := cache.without key ++ [entry], hits := cache.hits + 1 }, some entry.value) := by
  cases found : cache.entries.find? (·.key == key) with
  | none => exact Or.inl ⟨cache.entries, .refl _, lookup_of_absent found⟩
  | some entry =>
    by_cases old : cache.lifetime < now - entry.stored
    · exact Or.inl ⟨cache.without key, List.filter_sublist, lookup_of_stale found old⟩
    · refine Or.inr ⟨entry, List.mem_of_find?_eq_some found, ?_, lookup_of_fresh found old⟩
      simpa using List.find?_some found

theorem store_of_no_capacity (none_fits : cache.capacity ≤ 0) : cache.store now key value = cache := if_pos none_fits

/-- A store puts the entry last and drops the first ones beyond the capacity. -/
theorem store_of_capacity (now : Int) (key : Key) (value : Value) (some_fit : 0 < cache.capacity) :
    ∃ dropped, cache.store now key value =
      { cache with entries := (cache.without key ++ [(⟨key, now, value⟩ : CacheEntry Key Value)]).drop dropped } ∧
        ((cache.store now key value).size : Int) ≤ cache.capacity := by
  refine ⟨_, if_neg (Int.not_le.mpr some_fit), ?_⟩
  unfold store size
  rw [if_neg (Int.not_le.mpr some_fit)]
  simp only [List.length_drop]
  omega

theorem mem_of_mem_lookup (member : entry ∈ (cache.lookup now key).1.entries) : entry ∈ cache.entries := by
  rcases lookup_cases cache now key with ⟨entries, part, same⟩ | ⟨found, inside, _, same⟩
  · rw [same] at member
    exact part.subset member
  · rw [same] at member
    rcases List.mem_append.mp member with earlier | latest
    · exact (mem_without.mp earlier).1
    · rwa [List.mem_singleton.mp latest]

theorem mem_of_lookup (found : (cache.lookup now key).2 = some value) :
    ∃ entry ∈ cache.entries, entry.key = key ∧ entry.value = value := by
  rcases lookup_cases cache now key with ⟨_, _, same⟩ | ⟨entry, inside, keyed, same⟩
  · rw [same] at found
    cases found
  · rw [same] at found
    exact ⟨entry, inside, keyed, Option.some.inj found⟩

theorem mem_of_mem_store (member : entry ∈ (cache.store now key value).entries) :
    entry = ⟨key, now, value⟩ ∨ entry ∈ cache.entries := by
  rcases Int.lt_or_le 0 cache.capacity with some_fit | none_fits
  · obtain ⟨_, same, _⟩ := store_of_capacity now key value some_fit
    rw [same] at member
    rcases List.mem_append.mp (List.mem_of_mem_drop member) with earlier | latest
    · exact Or.inr (mem_without.mp earlier).1
    · exact Or.inl (List.mem_singleton.mp latest)
  · rw [store_of_no_capacity none_fits] at member
    exact Or.inr member

/-- Every lookup is a hit or a miss, and nothing else is counted. -/
theorem count_lookup (cache : Cache Key Value) (now : Int) (key : Key) :
    (cache.lookup now key).1.hits + (cache.lookup now key).1.misses = cache.hits + cache.misses + 1 := by
  rcases lookup_cases cache now key with ⟨_, _, same⟩ | ⟨_, _, _, same⟩ <;>
    (rw [same]; dsimp only; omega)

theorem count_store (cache : Cache Key Value) (now : Int) (key : Key) (value : Value) :
    (cache.store now key value).hits = cache.hits ∧ (cache.store now key value).misses = cache.misses := by
  unfold store
  split <;> exact ⟨rfl, rfl⟩

/-- The bounds that a cache was made with stay. -/
theorem bounds_lookup (cache : Cache Key Value) (now : Int) (key : Key) :
    (cache.lookup now key).1.capacity = cache.capacity ∧ (cache.lookup now key).1.lifetime = cache.lifetime := by
  rcases lookup_cases cache now key with ⟨_, _, same⟩ | ⟨_, _, _, same⟩ <;> (rw [same]; exact ⟨rfl, rfl⟩)

theorem bounds_store (cache : Cache Key Value) (now : Int) (key : Key) (value : Value) :
    (cache.store now key value).capacity = cache.capacity ∧
      (cache.store now key value).lifetime = cache.lifetime := by
  unfold store
  split <;> exact ⟨rfl, rfl⟩

namespace WellKept

/-- An entry of the key may be put behind those of the other keys. -/
theorem distinct_latest (kept : cache.WellKept) (keyed : entry.key = key) :
    ((cache.without key ++ [entry]).map CacheEntry.key).Nodup := by
  rw [List.map_append, List.map_singleton, ← List.concat_eq_append, List.nodup_concat]
  refine ⟨fun member => ?_, kept.distinct.sublist (List.filter_sublist.map _)⟩
  obtain ⟨other, inside, same⟩ := List.mem_map.mp member
  exact (mem_without.mp inside).2 (same.trans keyed)

theorem lookup (kept : cache.WellKept) (now : Int) (key : Key) : (cache.lookup now key).1.WellKept := by
  rcases lookup_cases cache now key with ⟨entries, part, same⟩ | ⟨entry, inside, keyed, same⟩
  · rw [same]
    have fewer := part.length_le
    exact ⟨kept.distinct.sublist (part.map _), Int.le_trans (Int.ofNat_le.mpr fewer) kept.bounded⟩
  · rw [same]
    refine ⟨kept.distinct_latest keyed, Int.le_trans (Int.ofNat_le.mpr ?_) kept.bounded⟩
    -- The entry was among those that the key is taken out of.
    have fewer : (cache.without key).length < cache.entries.length :=
      List.length_filter_lt_length_iff_exists.mpr ⟨entry, inside, by simp [keyed]⟩
    simp only [size, List.length_append, List.length_singleton]
    omega

theorem store (kept : cache.WellKept) (now : Int) (key : Key) (value : Value) :
    (cache.store now key value).WellKept := by
  rcases Int.lt_or_le 0 cache.capacity with some_fit | none_fits
  · obtain ⟨dropped, same, short⟩ := store_of_capacity now key value some_fit
    refine ⟨?_, Int.le_trans short ?_⟩
    · rw [same]
      have distinct : ((cache.without key ++ [(⟨key, now, value⟩ : CacheEntry Key Value)]).map CacheEntry.key).Nodup :=
        kept.distinct_latest rfl
      exact distinct.sublist ((List.drop_sublist _ _).map _)
    · rw [(bounds_store cache now key value).1]
      exact Int.le_max_left _ _
  · rwa [store_of_no_capacity none_fits]

end WellKept
end SchemaAtlas.Cache
