import SchemaAtlas.Proofs.Pattern.Trial
import SchemaAtlas.Proofs.Schema.ForeignKeys
import SchemaAtlas.Proofs.Schema.Lines
/-!
Names of tables in a script that is read without errors. The check of table names lets a final line break through, but
no name comes with one, so every table has an identifier for its name.
-/
namespace SchemaAtlas

namespace Text

/-- An ASCII letter or an underscore, and behind it ASCII letters, digits and underscores. -/
def isIdentifier : Text → Bool
  | [] => false
  | first :: rest => (first.isAlpha || first == '_') && rest.all isPlain

section Identifier
variable {text : Text}

theorem isPlain_of_isIdentifier (plain : isIdentifier text = true) : ∀ c ∈ text, isPlain c = true := by
  cases text with
  | nil => cases plain
  | cons first rest =>
    obtain ⟨begins, goes⟩ := Bool.and_eq_true_iff.mp plain
    refine List.forall_mem_cons.mpr ⟨?_, List.all_eq_true.mp goes⟩
    rcases Bool.or_eq_true_iff.mp begins with letter | underscore
    · simp [isPlain, Char.isAlphanum, letter]
    · simp [isPlain, underscore]

theorem isBare_of_isIdentifier (plain : isIdentifier text = true) : IsBare text := by
  refine ⟨?_, isPlain_of_isIdentifier plain⟩
  rintro rfl
  cases plain

end Identifier

end Text

namespace Pattern
open Text
variable {α : Type} {before rest : Text} {parts : List (Part × Span)}
  {next : Cursor → List (Part × Span) → Option α} {result : α}

/-- In a line there is no final line break to be let through. -/
theorem run_ending_some (line : IsLine rest)
    (found : run ending (Cursor.after before rest) parts next = some result) :
    rest = [] ∧ next (Cursor.after before []) parts = some result := by
  have ends : (Cursor.after before rest).atEnd = true := by
    by_contra open_end
    simp [run, open_end] at found
  have closed : rest = [] := by
    rcases Bool.or_eq_true_iff.mp ends with none | break_only
    · exact beq_iff_eq.mp none
    · have last : rest = ['\n'] := beq_iff_eq.mp break_only
      rw [last] at line
      exact absurd (line '\n' List.mem_cons_self (by decide)) (by decide)
  subst closed
  exact ⟨rfl, found⟩

/-- A line that is an identifier up to its ending is one. -/
theorem isIdentifier_of_run (line : IsLine rest)
    (found : run (one (fun c => c.isAlpha || c == '_') ++ many (fun c => c.isAlphanum || c == '_'))
      (Cursor.after before rest) parts (fun stop parts => run ending stop parts next) = some result) :
    isIdentifier rest = true := by
  rw [run_followed] at found
  obtain ⟨first, tail, rfl, begins, goes⟩ := run_one_some found
  obtain ⟨text, behind, rfl, plain, goes⟩ := run_many_some goes
  have inside : IsLine behind := line.of_subset fun c member => by simp [member]
  obtain ⟨rfl, _⟩ := run_ending_some inside goes
  rw [List.append_nil, isIdentifier, Bool.and_eq_true_iff]
  exact ⟨begins, List.all_eq_true.mpr plain⟩

end Pattern

namespace Schema

theorem isIdentifier_of_isValidTableName {name : String} (line : Text.IsLine name.toList)
    (valid : isValidTableName name = true) : Text.isIdentifier name.toList = true := by
  obtain ⟨found, matched⟩ := Option.isSome_iff_exists.mp (Bool.and_eq_true_iff.mp valid).1
  have tried : Pattern.run Phrase.plainTableName (Cursor.after [] name.toList) []
      (fun stop parts => some (Match.mk ⟨0, stop.offset⟩ parts)) = some found := matched
  rw [Phrase.plainTableName, Pattern.run_followed] at tried
  exact Pattern.isIdentifier_of_run line tried

end Schema

namespace Script

theorem violations_of_success {script : String} (success : (read script).success = true) :
    (readUnchecked script).violations = [] := by
  have clean : (read script).errors = [] := List.isEmpty_iff.mp success
  exact (List.append_eq_nil_iff.mp clean).2

/-- The check of names passes over no table. -/
theorem isIdentifier_of_success {script : String} (success : (read script).success = true) {table : Table}
    (known : table ∈ (read script).tables.entries) : Text.isIdentifier table.name.toList = true := by
  have line : Text.IsLine table.name.toList := (singleLine_of_read known).name
  refine Schema.isIdentifier_of_isValidTableName line ?_
  by_contra invalid
  have refused : table.name ∈ (readUnchecked script).tables.names.filter (!Schema.isValidTableName ·) :=
    List.mem_filter.mpr ⟨List.mem_map_of_mem known, by simpa using invalid⟩
  have raised : Issue.invalidTableName table.name ∈ (readUnchecked script).violations :=
    List.mem_append_right _ (List.mem_map_of_mem refused)
  rw [violations_of_success success] at raised
  cases raised

end Script

end SchemaAtlas
