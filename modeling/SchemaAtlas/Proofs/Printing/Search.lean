import SchemaAtlas.Proofs.Printing.Description
import SchemaAtlas.Proofs.Script.Keywords
/-!
Keywords in printed text. A phrase is not found where its keyword is no lexeme, and the first match of
a phrase is at the first lexeme that is its keyword.
-/
namespace SchemaAtlas.Printing
open Text Pattern Cursor Phrase
variable {lexemes front back : List Lexeme} {text : Text} {keyword : String}

/-- No lexeme holds the keyword. -/
def Lacks (keyword : String) (lexemes : List Lexeme) : Prop :=
  keyword.toList ∉ lexemes.flatMap Lexeme.capitals

def AllSound (lexemes : List Lexeme) : Prop := ∀ lexeme ∈ lexemes, lexeme.IsSound

section Lists

theorem lacks_nil : Lacks keyword [] := by simp [Lacks]

theorem lacks_append : Lacks keyword (front ++ back) ↔ Lacks keyword front ∧ Lacks keyword back := by
  simp only [Lacks, List.flatMap_append, List.mem_append, not_or]

theorem lacks_cons {lexeme : Lexeme} : Lacks keyword (lexeme :: back) ↔
    keyword.toList ∉ lexeme.capitals ∧ Lacks keyword back := by
  simp only [Lacks, List.flatMap_cons, List.mem_append, not_or]

theorem lacks_keyword {other : String} : Lacks keyword (.keyword other :: back) ↔
    keyword ≠ other ∧ Lacks keyword back := by
  simp only [lacks_cons, Lexeme.capitals, List.mem_singleton, ne_eq, String.toList_inj]

theorem lacks_name {name : Identifier} (reserved : keyword ∈ keywords) :
    Lacks keyword (.name name.text :: back) ↔ Lacks keyword back := by
  have other : keyword.toList ∉ (Lexeme.name name.text).capitals := by
    intro member
    exact name.free keyword reserved (List.mem_singleton.mp member).symm
  simp only [lacks_cons, other, not_false_eq_true, true_and]

theorem lacks_when {present : Bool} (lacks : present = true → Lacks keyword lexemes) :
    Lacks keyword (when present lexemes) := by
  cases present with
  | false => exact lacks_nil
  | true => exact lacks rfl

theorem allSound_nil : AllSound [] := by simp [AllSound]

theorem allSound_append : AllSound (front ++ back) ↔ AllSound front ∧ AllSound back := by
  simp only [AllSound, List.mem_append, or_imp, forall_and]

theorem allSound_cons {lexeme : Lexeme} : AllSound (lexeme :: back) ↔ lexeme.IsSound ∧ AllSound back := by
  simp only [AllSound, List.mem_cons, forall_eq_or_imp]

theorem allSound_when {present : Bool} (sound : AllSound lexemes) : AllSound (when present lexemes) := by
  cases present with
  | false => exact allSound_nil
  | true => exact sound

end Lists

section Prints
variable (printed : Prints lexemes text) (sound : AllSound lexemes)
include printed sound

theorem Prints.spaced : Tidy (' ' :: text) := Spelled.tidy printed sound

theorem Prints.tidy : Tidy text := (printed.spaced sound).of_space.1

theorem Prints.filled : text ≠ [] := (printed.spaced sound).of_space.2.1

theorem Prints.start : text.head?.any isBlank = false := (printed.spaced sound).of_space.2.2

theorem Prints.nested : Script.Nested false text := by
  have spaced : Script.Nested false (' ' :: text) := Spelled.nested printed sound
  cases spaced with
  | flat _ _ nested => exact nested

theorem Prints.trim : Text.trim text = text := (printed.tidy sound).trim (printed.start sound)

end Prints

/-- The word of a keyword, where it stands in a printed text. A text that is printed without its first
space is one that a space was put before. -/
theorem Spelled.split_keyword {lead : Text} (lead_blank : lead = [] ∨ lead = [' '])
    (spelled : Spelled (front ++ .keyword keyword :: back) (lead ++ text)) :
    ∃ left before word tail, Spelled front left ∧ lead ++ before = left ++ [' '] ∧
      text = before ++ (word ++ tail) ∧ Spells keyword word ∧ Spelled back tail ∧
      endsWord before = false := by
  obtain ⟨left, right, before_printed, printed, same⟩ := spelled_append.mp spelled
  obtain ⟨word, tail, word_spelled, behind, rfl⟩ := spelled_keyword.mp printed
  have space : isWordCharacter ' ' = false := by decide
  have finish : ∀ {before : Text}, lead ++ before = left ++ [' '] → endsWord before = false →
      ∃ left before word tail, Spelled front left ∧ lead ++ before = left ++ [' '] ∧
        text = before ++ (word ++ tail) ∧ Spells keyword word ∧ Spelled back tail ∧
        endsWord before = false := by
    intro before gap start
    have whole : lead ++ text = lead ++ (before ++ (word ++ tail)) := by
      rw [same, ← List.append_assoc, gap]
      simp
    exact ⟨left, before, word, tail, before_printed, gap, List.append_cancel_left whole, word_spelled,
      behind, start⟩
  rcases lead_blank with rfl | rfl
  · apply finish rfl
    simp [endsWord, space]
  · cases left with
    | nil => exact finish rfl rfl
    | cons c left =>
      obtain ⟨rfl, _⟩ := List.cons.inj same
      have gap : [' '] ++ (left ++ [' ']) = ' ' :: left ++ [' '] := rfl
      apply finish gap
      simp [endsWord, space]

theorem Spelled.find?_eq_none {pattern : Pattern} (led : LedBy (Keyed keyword) pattern)
    (key : IsKeyword keyword) (spelled : Spelled lexemes text) (sound : AllSound lexemes)
    (lacks : Lacks keyword lexemes) : pattern.find? text = none :=
  find?_eq_none_of_words led (spelled.not_folds sound key lacks)

theorem Prints.find?_eq_none {pattern : Pattern} (led : LedBy (Keyed keyword) pattern)
    (key : IsKeyword keyword) (printed : Prints lexemes text) (sound : AllSound lexemes)
    (lacks : Lacks keyword lexemes) : pattern.find? text = none := by
  apply find?_eq_none_of_words led
  have clear := Spelled.not_folds printed sound key lacks
  rwa [Text.words_cons text (by decide)] at clear

/-- Neither spelling of the keyword is among the words. -/
theorem Spelled.not_autoIncrement (spelled : Spelled lexemes text) (sound : AllSound lexemes)
    (joined : Lacks "AUTOINCREMENT" lexemes) (spaced : Lacks "AUTO_INCREMENT" lexemes) :
    ∀ word ∈ words text, ¬IsAutoIncrement word := by
  rintro word member ⟨first, gap, second, rfl, auto, between, increment⟩
  have ascii : ∀ c ∈ first ++ (gap ++ second), c.toNat < 128 :=
    fun c inside => (spelled.tidy sound).ascii c (mem_of_mem_words member inside)
  have auto_capitals : capitals first = "AUTO".toList :=
    spells_of_folds (by decide) (fun c inside => ascii c (List.mem_append_left _ inside)) auto
  have increment_capitals : capitals second = "INCREMENT".toList :=
    spells_of_folds (by decide)
      (fun c inside => ascii c (List.mem_append_right _ (List.mem_append_right _ inside))) increment
  have here : capitals (first ++ (gap ++ second)) ∈ lexemes.flatMap Lexeme.capitals := by
    rw [← spelled.capitals_words sound]
    exact List.mem_map_of_mem member
  have whole : capitals (first ++ (gap ++ second)) = "AUTO".toList ++ (capitals gap ++ "INCREMENT".toList) := by
    rw [← auto_capitals, ← increment_capitals]
    simp [capitals]
  rw [whole] at here
  -- Joined, the parts would be one of the reserved words, which no name and no number spells.
  rcases between with rfl | rfl
  · exact joined here
  · exact spaced here

/-- The search for a phrase reaches the first lexeme that is its keyword. -/
theorem Spelled.find?_at_keyword {pattern : Pattern} (led : LedBy (Keyed keyword) pattern)
    (key : IsKeyword keyword) (spelled : Spelled (front ++ .keyword keyword :: back) text)
    (sound : AllSound front) (lacks : Lacks keyword front) :
    ∃ before word tail, text = before ++ (word ++ tail) ∧ Spells keyword word ∧ Spelled back tail ∧
      endsWord before = false ∧ pattern.find? text = pattern.findAfter before (word ++ tail) := by
  obtain ⟨left, right, before_printed, printed, rfl⟩ := spelled_append.mp spelled
  obtain ⟨word, tail, word_spelled, behind, rfl⟩ := spelled_keyword.mp printed
  have space : isWordCharacter ' ' = false := by decide
  refine ⟨left ++ [' '], word, tail, by simp, word_spelled, behind, by simp [endsWord, space], ?_⟩
  have outside : beginsWord (' ' :: (word ++ tail)) = false := space
  rw [find?_eq_findAfter, findAfter_append_of_words led (before_printed.not_folds sound key lacks) outside,
    findAfter_cons_of_led led space]
  rfl

section Occur
variable {lead : Text} {second : String}

theorem Spelled.occurs_word (lead_blank : lead = [] ∨ lead = [' ']) (key : IsKeyword keyword)
    (spelled : Spelled (front ++ .keyword keyword :: back) (lead ++ text)) :
    (standalone (word keyword)).occurs text = true := by
  obtain ⟨_, before, letters, tail, _, _, rfl, printed, behind, start⟩ := spelled.split_keyword lead_blank
  exact occurs_of_matchAt (matchAt_standalone_word key printed start behind.outside)

theorem Spelled.occurs_words (lead_blank : lead = [] ∨ lead = [' ']) (key : IsKeyword keyword)
    (second_key : IsKeyword second)
    (spelled : Spelled (front ++ .keyword keyword :: .keyword second :: back) (lead ++ text)) :
    (standalone (words keyword second)).occurs text = true := by
  obtain ⟨_, before, letters, tail, _, _, rfl, printed, behind, start⟩ := spelled.split_keyword lead_blank
  obtain ⟨more, rest, second_printed, last, rfl⟩ := spelled_keyword.mp behind
  exact occurs_of_matchAt
    (matchAt_standalone_words key second_key printed second_printed start last.outside)

end Occur
end SchemaAtlas.Printing
