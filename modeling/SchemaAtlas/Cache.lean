/-!
A cache of values by key. It holds at most as many entries as its capacity, gives up the one that was
stored or found longest ago, and forgets an entry when its lifetime is over. Times are whole counts
of some tick of a clock that the caller keeps.
-/
namespace SchemaAtlas

structure CacheEntry (Key Value : Type) where
  key : Key
  stored : Int
  value : Value
deriving DecidableEq, Repr

/-- The entries stand in the order of their last use, the latest at the end. -/
structure Cache (Key Value : Type) where
  capacity : Int
  lifetime : Int
  entries : List (CacheEntry Key Value)
  hits : Nat
  misses : Nat
deriving DecidableEq, Repr

namespace Cache
variable {Key Value : Type} [DecidableEq Key]

def empty (capacity lifetime : Int) : Cache Key Value := ⟨capacity, lifetime, [], 0, 0⟩

def size (cache : Cache Key Value) : Nat := cache.entries.length

def without (cache : Cache Key Value) (key : Key) : List (CacheEntry Key Value) :=
  cache.entries.filter (·.key != key)

-- An entry whose age is exactly the lifetime is still found.
/-- A value that is found is the latest used; one that is too old is dropped. -/
def lookup (cache : Cache Key Value) (now : Int) (key : Key) : Cache Key Value × Option Value :=
  match cache.entries.find? (·.key == key) with
  | none => ({ cache with misses := cache.misses + 1 }, none)
  | some entry =>
    if cache.lifetime < now - entry.stored then
      ({ cache with entries := cache.without key, misses := cache.misses + 1 }, none)
    else
      ({ cache with entries := cache.without key ++ [entry], hits := cache.hits + 1 },
        some entry.value)

/-- A cache without capacity stores nothing. -/
def store (cache : Cache Key Value) (now : Int) (key : Key) (value : Value) : Cache Key Value :=
  if cache.capacity ≤ 0 then cache
  else
    let entries := cache.without key ++ [⟨key, now, value⟩]
    { cache with entries := entries.drop (entries.length - cache.capacity.toNat) }

def clear (cache : Cache Key Value) : Cache Key Value := { cache with entries := [] }

/-- The stored value, or else the computed one, which is stored. -/
def fetch (cache : Cache Key Value) (now : Int) (key : Key) (compute : Key → Value) :
    Cache Key Value × Value :=
  match cache.lookup now key with
  | (cache, some value) => (cache, value)
  | (cache, none) =>
    let value := compute key
    (cache.store now key value, value)

end Cache
end SchemaAtlas
