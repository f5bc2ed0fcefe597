import Mathlib.Data.List.Nodup
import SchemaAtlas.Schema.Roster
/-!
Looking up in a roster. The entry that a name finds carries that name, and each entry is the one that
its own name finds; changing an entry and putting one are described by what they do to look-ups.
-/
namespace SchemaAtlas.Roster
variable {α : Type} [Named α]

theorem name_of_find? {roster : Roster α} {name : String} {entry : α}
    (found : roster.find? name = some entry) : Named.name entry = name := by
  have same := List.find?_some found
  exact beq_iff_eq.mp same

theorem mem_of_find? {roster : Roster α} {name : String} {entry : α}
    (found : roster.find? name = some entry) : entry ∈ roster.entries :=
  List.mem_of_find?_eq_some found

theorem find?_eq_none_iff {roster : Roster α} {name : String} :
    roster.find? name = none ↔ name ∉ roster.names := by
  simp [find?, names]

theorem has_iff {roster : Roster α} {name : String} :
    roster.has name = true ↔ name ∈ roster.names := by
  simp [has]

/-- Distinct names make every entry the one that is found. -/
theorem find?_of_mem {roster : Roster α} {entry : α} (member : entry ∈ roster.entries) :
    roster.find? (Named.name entry) = some entry := by
  cases found : roster.find? (Named.name entry) with
  | none =>
    have absent := find?_eq_none_iff.mp found
    exact absurd (List.mem_map_of_mem member) absent
  | some other =>
    have same := List.inj_on_of_nodup_map roster.distinct (mem_of_find? found) member
      (name_of_find? found)
    rw [same]

theorem find?_eq_some_iff {roster : Roster α} {name : String} {entry : α} :
    roster.find? name = some entry ↔ entry ∈ roster.entries ∧ Named.name entry = name := by
  constructor
  · exact fun found => ⟨mem_of_find? found, name_of_find? found⟩
  · rintro ⟨member, rfl⟩
    exact find?_of_mem member

theorem mem_names_iff {roster : Roster α} {name : String} :
    name ∈ roster.names ↔ ∃ entry, roster.find? name = some entry := by
  rw [← Option.isSome_iff_exists, ← Option.ne_none_iff_isSome, ne_eq, find?_eq_none_iff, not_not]

section Modify
variable {change : α → α} (keeps : ∀ entry, Named.name (change entry) = Named.name entry)

theorem entries_modify (roster : Roster α) (name : String) :
    (roster.modify name change keeps).entries =
      roster.entries.map fun entry => if Named.name entry = name then change entry else entry := rfl

@[simp]
theorem names_modify (roster : Roster α) (name : String) :
    (roster.modify name change keeps).names = roster.names := by
  simp only [names, entries_modify, List.map_map]
  apply List.map_congr_left
  intro entry _
  simp only [Function.comp_apply]
  split
  · exact keeps entry
  · rfl

theorem mem_modify {roster : Roster α} {name : String} {entry : α} :
    entry ∈ (roster.modify name change keeps).entries ↔
      ∃ old ∈ roster.entries, entry = if Named.name old = name then change old else old := by
  simp only [entries_modify, List.mem_map, eq_comm]

theorem find?_modify (roster : Roster α) (name other : String) :
    (roster.modify name change keeps).find? other =
      if other = name then (roster.find? other).map change else roster.find? other := by
  -- A change keeps names, so it neither hides an entry nor brings one up.
  cases found : roster.find? other with
  | none =>
    have absent : other ∉ (roster.modify name change keeps).names := by
      rw [names_modify]
      exact find?_eq_none_iff.mp found
    rw [find?_eq_none_iff.mpr absent]
    simp
  | some entry =>
    obtain ⟨member, same⟩ := find?_eq_some_iff.mp found
    by_cases hit : other = name
    · simp only [hit, ↓reduceIte, Option.map_some]
      apply find?_eq_some_iff.mpr
      refine ⟨(mem_modify keeps).mpr ⟨entry, member, ?_⟩, ?_⟩
      · simp [same, hit]
      · rw [keeps, same, hit]
    · simp only [hit, ↓reduceIte]
      apply find?_eq_some_iff.mpr
      refine ⟨(mem_modify keeps).mpr ⟨entry, member, ?_⟩, same⟩
      simp [same, hit]

/-- Changes the entries of all the names. -/
def mark (roster : Roster α) (targets : List String) (change : α → α)
    (keeps : ∀ entry, Named.name (change entry) = Named.name entry) : Roster α :=
  ⟨roster.entries.map fun entry => if Named.name entry ∈ targets then change entry else entry, by
    have same : (fun entry => Named.name (if Named.name entry ∈ targets then change entry else entry)) =
        (Named.name : α → String) := by
      funext entry; split <;> simp [keeps]
    simpa [List.map_map, Function.comp_def, same] using roster.distinct⟩

theorem mem_mark {roster : Roster α} {targets : List String} {entry : α} :
    entry ∈ (roster.mark targets change keeps).entries ↔
      ∃ old ∈ roster.entries, entry = if Named.name old ∈ targets then change old else old := by
  simp only [mark, List.mem_map, eq_comm]

theorem names_mark (roster : Roster α) (targets : List String) :
    (roster.mark targets change keeps).names = roster.names := by
  simp only [names, mark, List.map_map]
  apply List.map_congr_left
  intro entry _
  simp only [Function.comp_apply]
  split
  · exact keeps entry
  · rfl

theorem mark_nil (roster : Roster α) : roster.mark [] change keeps = roster := by
  apply ext
  simp [mark]

theorem modify_eq_mark (roster : Roster α) (name : String) :
    roster.modify name change keeps = roster.mark [name] change keeps := by
  apply ext
  simp [modify, mark]

/-- A change that happens twice to a name is as good as one. -/
theorem mark_mark (idempotent : ∀ entry, change (change entry) = change entry)
    (roster : Roster α) (first second : List String) :
    (roster.mark first change keeps).mark second change keeps =
      roster.mark (first ++ second) change keeps := by
  apply ext
  simp only [mark, List.map_map]
  apply List.map_congr_left
  intro entry _
  by_cases early : Named.name entry ∈ first <;> by_cases late : Named.name entry ∈ second <;>
    simp [early, late, keeps, idempotent]

theorem modify_of_absent {roster : Roster α} {name : String} (absent : name ∉ roster.names) :
    roster.modify name change keeps = roster := by
  apply ext
  rw [entries_modify]
  apply (List.map_congr_left ?_).trans (List.map_id _)
  intro entry member
  have different : Named.name entry ≠ name :=
    fun same => absent (same ▸ List.mem_map_of_mem member)
  simp [different]

end Modify

theorem entries_put_of_taken {roster : Roster α} {entry : α} (taken : Named.name entry ∈ roster.names) :
    (roster.put entry).entries =
      roster.entries.map fun old => if Named.name old = Named.name entry then entry else old := by
  have known : Named.name entry ∈ roster.entries.map Named.name := taken
  unfold put
  rw [dif_pos known]

/-- A roster that is put into holds the new entry and the old ones of other names. -/
theorem mem_put {roster : Roster α} {entry other : α} :
    other ∈ (roster.put entry).entries ↔
      other = entry ∨ (other ∈ roster.entries ∧ Named.name other ≠ Named.name entry) := by
  -- A taken name is replaced in its place, and a fresh one comes last.
  by_cases taken : Named.name entry ∈ roster.names
  · rw [entries_put_of_taken taken]
    simp only [List.mem_map]
    constructor
    · rintro ⟨old, member, rfl⟩
      split
      · exact Or.inl rfl
      · next different => exact Or.inr ⟨member, different⟩
    · rintro (rfl | ⟨member, different⟩)
      · obtain ⟨old, member, same⟩ := List.mem_map.mp taken
        exact ⟨old, member, by simp [same]⟩
      · exact ⟨other, member, by simp [different]⟩
  · rw [entries_put_of_fresh taken, List.mem_append, List.mem_singleton]
    constructor
    · rintro (member | rfl)
      · refine Or.inr ⟨member, fun same => taken ?_⟩
        exact same ▸ List.mem_map_of_mem member
      · exact Or.inl rfl
    · rintro (rfl | ⟨member, _⟩)
      · exact Or.inr rfl
      · exact Or.inl member

/-- An entry under a new name leaves all others where they are. -/
theorem mem_put_of_absent {roster : Roster α} {entry other : α}
    (absent : roster.find? (Named.name entry) = none) :
    other ∈ (roster.put entry).entries ↔ other = entry ∨ other ∈ roster.entries := by
  rw [entries_put_of_fresh (find?_eq_none_iff.mp absent), List.mem_append, List.mem_singleton, or_comm]

/-- An entry under a taken name stands for the one that the name found before. -/
theorem mem_put_of_found {roster : Roster α} {entry old other : α}
    (found : roster.find? (Named.name entry) = some old) :
    other ∈ (roster.put entry).entries ↔ other = entry ∨ (other ∈ roster.entries ∧ other ≠ old) := by
  rw [mem_put]
  constructor
  · rintro (rfl | ⟨member, different⟩)
    · exact Or.inl rfl
    · exact Or.inr ⟨member, fun same => different (same ▸ name_of_find? found)⟩
  · rintro (rfl | ⟨member, different⟩)
    · exact Or.inl rfl
    · refine Or.inr ⟨member, fun same => different ?_⟩
      have taken := find?_of_mem member
      rw [same, found] at taken
      exact (Option.some.inj taken).symm

theorem names_put_of_fresh {roster : Roster α} {entry : α} (fresh : Named.name entry ∉ roster.names) :
    (roster.put entry).names = roster.names ++ [Named.name entry] := by
  simp [names, entries_put_of_fresh fresh]

/-- A fresh entry can be changed before or after it is put. -/
theorem modify_put_of_fresh {change : α → α} (keeps : ∀ entry, Named.name (change entry) = Named.name entry)
    {roster : Roster α} {entry : α} (fresh : Named.name entry ∉ roster.names) (name : String) :
    (roster.put entry).modify name change keeps =
      (roster.modify name change keeps).put (if Named.name entry = name then change entry else entry) := by
  have still_fresh : Named.name (if Named.name entry = name then change entry else entry) ∉
      (roster.modify name change keeps).names := by
    rw [names_modify, apply_ite Named.name, keeps, ite_self]
    exact fresh
  apply ext
  rw [entries_put_of_fresh still_fresh, entries_modify, entries_put_of_fresh fresh, List.map_append, entries_modify,
    List.map_singleton]

/-- Of two entries under one name the second one counts. -/
theorem put_put {first second : α} (roster : Roster α) (same : Named.name first = Named.name second) :
    (roster.put first).put second = roster.put second := by
  apply ext
  by_cases taken : Named.name second ∈ roster.names
  · have first_taken : Named.name first ∈ roster.names := same ▸ taken
    have still_taken : Named.name second ∈ (roster.put first).names := by rwa [names_put_of_taken first_taken]
    rw [entries_put_of_taken still_taken, entries_put_of_taken first_taken, entries_put_of_taken taken, List.map_map]
    apply List.map_congr_left
    intro old _
    by_cases hit : Named.name old = Named.name second <;> simp [hit, same]
  · have first_fresh : Named.name first ∉ roster.names := same ▸ taken
    have now_taken : Named.name second ∈ (roster.put first).names := by
      rw [names_put_of_fresh first_fresh, same]
      exact List.mem_append_right _ List.mem_cons_self
    rw [entries_put_of_taken now_taken, entries_put_of_fresh first_fresh, entries_put_of_fresh taken, List.map_append,
      List.map_singleton, if_pos same]
    congr 1
    apply (List.map_congr_left ?_).trans (List.map_id _)
    intro old member
    have different : Named.name old ≠ Named.name second := fun hit => taken (hit ▸ List.mem_map_of_mem member)
    exact if_neg different

theorem find?_put (roster : Roster α) (entry : α) (name : String) :
    (roster.put entry).find? name =
      if name = Named.name entry then some entry else roster.find? name := by
  by_cases hit : name = Named.name entry
  · simp only [hit, ↓reduceIte]
    exact find?_of_mem (mem_put.mpr (Or.inl rfl))
  · simp only [hit, ↓reduceIte]
    cases found : roster.find? name with
    | none =>
      apply find?_eq_none_iff.mpr
      intro member
      obtain ⟨other, present, same⟩ := List.mem_map.mp member
      rcases mem_put.mp present with rfl | ⟨old, _⟩
      · exact hit same.symm
      · exact find?_eq_none_iff.mp found (same ▸ List.mem_map_of_mem old)
    | some old =>
      obtain ⟨member, same⟩ := find?_eq_some_iff.mp found
      apply find?_eq_some_iff.mpr
      exact ⟨mem_put.mpr (Or.inr ⟨member, same ▸ hit⟩), same⟩

end SchemaAtlas.Roster
