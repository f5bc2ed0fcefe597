/-!
Entries with distinct names, in the order in which the names first came. Putting an entry under a
name that is taken replaces the old entry where it stands.
-/
namespace SchemaAtlas

class Named (α : Type) where
  name : α → String

structure Roster (α : Type) [Named α] where
  entries : List α
  distinct : (entries.map Named.name).Nodup

namespace Roster
variable {α : Type} [Named α]

@[ext]
theorem ext {left right : Roster α} (same : left.entries = right.entries) : left = right := by
  cases left; cases right; simp_all

instance [DecidableEq α] : DecidableEq (Roster α) := fun left right =>
  if same : left.entries = right.entries then .isTrue (ext same)
  else .isFalse fun equal => same (equal ▸ rfl)

def empty : Roster α := ⟨[], by simp⟩

instance : Inhabited (Roster α) := ⟨empty⟩

def names (roster : Roster α) : List String := roster.entries.map Named.name

def size (roster : Roster α) : Nat := roster.entries.length

def find? (roster : Roster α) (name : String) : Option α :=
  roster.entries.find? (Named.name · == name)

def has (roster : Roster α) (name : String) : Bool := roster.names.contains name

/-- Changes the entry of a name in a way that keeps its name. -/
def modify (roster : Roster α) (name : String) (change : α → α)
    (keeps : ∀ entry, Named.name (change entry) = Named.name entry) : Roster α :=
  ⟨roster.entries.map fun entry => if Named.name entry = name then change entry else entry, by
    have same : (fun entry => Named.name (if Named.name entry = name then change entry else entry)) =
        (Named.name : α → String) := by
      funext entry; split <;> simp [keeps]
    simpa [List.map_map, Function.comp_def, same] using roster.distinct⟩

def put (roster : Roster α) (entry : α) : Roster α :=
  if taken : Named.name entry ∈ roster.entries.map Named.name then
    ⟨roster.entries.map fun old => if Named.name old = Named.name entry then entry else old, by
      have same : (fun old => Named.name (if Named.name old = Named.name entry then entry else old)) =
          (Named.name : α → String) := by
        funext old; split <;> simp_all
      simpa [List.map_map, Function.comp_def, same] using roster.distinct⟩
  else
    ⟨roster.entries ++ [entry], by
      rw [List.map_append, List.map_singleton]
      refine List.nodup_append.mpr ⟨roster.distinct, by simp, ?_⟩
      intro name old other last
      rw [List.mem_singleton.mp last]
      exact fun equal => taken (equal ▸ old)⟩

theorem entries_put_of_fresh {roster : Roster α} {entry : α}
    (fresh : Named.name entry ∉ roster.names) :
    (roster.put entry).entries = roster.entries ++ [entry] := by
  unfold put
  rw [dif_neg (by simpa [names] using fresh)]

theorem names_put_of_taken {roster : Roster α} {entry : α}
    (taken : Named.name entry ∈ roster.names) : (roster.put entry).names = roster.names := by
  have known : Named.name entry ∈ roster.entries.map Named.name := taken
  unfold put names
  rw [dif_pos known]
  simp only [List.map_map]
  apply List.map_congr_left
  intro old _
  simp only [Function.comp_apply]
  split
  · rename_i equal; exact equal.symm
  · rfl

end Roster
end SchemaAtlas
