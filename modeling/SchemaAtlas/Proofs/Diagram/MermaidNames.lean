import SchemaAtlas.Diagram.Mermaid
import SchemaAtlas.Proofs.Schema.Coherence
import SchemaAtlas.Proofs.Schema.TableNames
/-!
Names in Mermaid text. A table of a script that is read without errors keeps its name as it is, so tables stay apart.
The name of a column may hold anything, and columns are run together when they differ only in characters that become
underscores.
-/
namespace SchemaAtlas.Mermaid

/-- An underscore, or a character that becomes one. -/
def isUnderscored (c : Char) : Bool := c == '_' || !isNameCharacter c

/-- The texts have the same length, and where they differ, both have an underscore in Mermaid. -/
def Alike (first second : Text) : Prop :=
  List.Forall₂ (fun c d => c = d ∨ isUnderscored c = true ∧ isUnderscored d = true) first second

section Names
variable {first second : Text}

theorem shown_eq_iff {c d : Char} :
    ((if isNameCharacter c then c else '_') = if isNameCharacter d then d else '_') ↔
      c = d ∨ isUnderscored c = true ∧ isUnderscored d = true := by
  -- A character that is kept shows itself, and any other is shown as an underscore.
  by_cases left : isNameCharacter c = true <;> by_cases right : isNameCharacter d = true
  · simp only [isUnderscored, left, right, if_true, Bool.not_true, Bool.or_false, beq_iff_eq]
    exact ⟨Or.inl, fun same => same.elim id fun both => both.1.trans both.2.symm⟩
  · have different : c ≠ d := fun same => right (same ▸ left)
    simp [isUnderscored, left, right, different]
  · have different : c ≠ d := fun same => left (same ▸ right)
    have turned : '_' = d ↔ d = '_' := eq_comm
    simp [isUnderscored, left, right, different, turned]
  · simp [isUnderscored, left, right]

theorem restricted_eq_iff :
    restricted isNameCharacter first = restricted isNameCharacter second ↔ Alike first second := by
  rw [restricted, restricted, ← List.forall₂_eq_eq_eq, List.forall₂_map_left_iff, List.forall₂_map_right_iff]
  simp only [shown_eq_iff, Alike]

theorem name_of_filled (filled : first ≠ []) : name first = restricted isNameCharacter first := by
  unfold name
  split
  · next empty => exact absurd (List.map_eq_nil_iff.mp empty) filled
  · rfl

theorem name_eq_iff (filled : first ≠ []) (also_filled : second ≠ []) :
    name first = name second ↔ Alike first second := by
  rw [name_of_filled filled, name_of_filled also_filled, restricted_eq_iff]

theorem name_of_isIdentifier (plain : Text.isIdentifier first = true) : name first = first := by
  obtain ⟨filled, each⟩ := Text.isBare_of_isIdentifier plain
  rw [name_of_filled filled]
  refine (List.map_congr_left fun c member => ?_).trans (List.map_id first)
  have allowed : isNameCharacter c = true := by
    rw [isNameCharacter, Bool.or_eq_true_iff]
    exact Or.inl (each c member)
  exact if_pos allowed

end Names

/-- If a script is read without errors, every table stands in its Mermaid text under its own name, and so different
tables under different names. Two columns of a table stand under one name exactly if their names are of one length and
differ only where both have an underscore or a character that becomes one. -/
theorem names_apart_iff {script : String} (success : (Script.read script).success = true) :
    (∀ table ∈ (Script.read script).tables.entries, name table.name.toList = table.name.toList) ∧
    (∀ first ∈ (Script.read script).tables.entries, ∀ second ∈ (Script.read script).tables.entries,
      name first.name.toList = name second.name.toList → first = second) ∧
    ∀ table ∈ (Script.read script).tables.entries, ∀ first ∈ table.columns.entries,
      ∀ second ∈ table.columns.entries,
        name first.name.toList = name second.name.toList ↔ Alike first.name.toList second.name.toList := by
  have kept : ∀ table ∈ (Script.read script).tables.entries, name table.name.toList = table.name.toList :=
    fun table known => name_of_isIdentifier (Script.isIdentifier_of_success success known)
  refine ⟨kept, fun first known second also_known same => ?_, fun table known first inside second also_inside => ?_⟩
  · rw [kept first known, kept second also_known] at same
    exact List.inj_on_of_nodup_map (Script.read script).tables.distinct known also_known (String.toList_inj.mp same)
  · have coherent := Script.coherent_of_read (Roster.find?_of_mem known)
    have filled (column : Column) (member : column ∈ table.columns.entries) : column.name.toList ≠ [] :=
      mt String.toList_eq_nil_iff.mp (coherent.columns column member).named
    exact name_eq_iff (filled first inside) (filled second also_inside)

theorem names_apart_hyphen :
    (Script.read "CREATE TABLE t ([a b] int, [a-b] int); CREATE TABLE t_ (c int)").success = true ∧
      ∀ table ∈ (Script.read "CREATE TABLE t ([a b] int, [a-b] int); CREATE TABLE t_ (c int)").tables.entries,
        ∀ first ∈ table.columns.entries, ∀ second ∈ table.columns.entries,
          name first.name.toList = name second.name.toList ↔ Alike first.name.toList second.name.toList := by
  have success : (Script.read "CREATE TABLE t ([a b] int, [a-b] int); CREATE TABLE t_ (c int)").success = true := by
    decide +kernel
  exact ⟨success, (names_apart_iff success).2.2⟩

/-- Different tables have different names in Mermaid, and so have different columns of one table. -/
def KeepsApart (schema : Schema) : Prop :=
  (∀ first ∈ schema.tables.entries, ∀ second ∈ schema.tables.entries,
    name first.name.toList = name second.name.toList → first.name = second.name) ∧
  ∀ table ∈ schema.tables.entries, ∀ first ∈ table.columns.entries, ∀ second ∈ table.columns.entries,
    name first.name.toList = name second.name.toList → first.name = second.name

/-- A space becomes an underscore, which the other column has already. -/
theorem columns_run_together : (Script.read "CREATE TABLE t ([a b] int, a_b int)").success = true ∧
    ¬KeepsApart (Script.read "CREATE TABLE t ([a b] int, a_b int)") := by
  refine ⟨by decide +kernel, fun apart => ?_⟩
  have shared : ∃ table ∈ (Script.read "CREATE TABLE t ([a b] int, a_b int)").tables.entries,
      ∃ first ∈ table.columns.entries, ∃ second ∈ table.columns.entries,
        name first.name.toList = name second.name.toList ∧ first.name ≠ second.name := by
    decide +kernel
  obtain ⟨table, known, first, inside, second, also_inside, same, different⟩ := shared
  exact different (apart.2 table known first inside second also_inside same)

end SchemaAtlas.Mermaid
