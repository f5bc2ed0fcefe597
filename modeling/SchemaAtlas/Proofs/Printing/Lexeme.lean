import SchemaAtlas.Proofs.Pattern.Keyword
import SchemaAtlas.Proofs.Script.Layout
/-!
Printed text as a list of lexemes. Keywords may be printed in any letter case, and each on its own;
names are printed as they are, and so is what stands in parentheses.
-/
namespace SchemaAtlas.Printing
open Text Pattern Script

inductive Lexeme where
  | keyword (word : String)
  | name (word : Text)
  | group (spaced : Bool) (inner : Text)

namespace Lexeme

/-- Words follow a space, and so may parentheses. -/
def Prints : Lexeme → Text → Prop
  | keyword word, text => ∃ letters, Spells word letters ∧ text = ' ' :: letters
  | name word, text => text = ' ' :: word
  | group spaced inner, text => text = (if spaced then [' '] else []) ++ '(' :: (inner ++ [')'])

/-- The words of a lexeme in capitals. -/
def capitals : Lexeme → List Text
  | keyword word => [word.toList]
  | name word => [Text.capitals word]
  | group _ inner => (words inner).map Text.capitals

/-- Keywords and names are words, and parentheses are around text that can stand in them. -/
def IsSound : Lexeme → Prop
  | keyword word => IsKeyword word
  | name word => IsBare word
  | group _ inner => Tidy inner ∧ Nested true inner

end Lexeme

def Spelled : List Lexeme → Text → Prop
  | [], text => text = []
  | lexeme :: rest, text => ∃ first tail, lexeme.Prints first ∧ Spelled rest tail ∧ text = first ++ tail

theorem spelled_nil {text : Text} : Spelled [] text ↔ text = [] := Iff.rfl

theorem spelled_append {first second : List Lexeme} {text : Text} : Spelled (first ++ second) text ↔
    ∃ left right, Spelled first left ∧ Spelled second right ∧ text = left ++ right := by
  induction first generalizing text with
  | nil => simp [Spelled]
  | cons lexeme first ih =>
    simp only [List.cons_append, Spelled, ih]
    constructor
    · rintro ⟨head, _, printed, ⟨left, right, before, behind, rfl⟩, rfl⟩
      exact ⟨head ++ left, right, ⟨head, left, printed, before, rfl⟩, behind, by simp⟩
    · rintro ⟨_, right, ⟨head, left, printed, before, rfl⟩, behind, rfl⟩
      exact ⟨head, left ++ right, printed, ⟨left, right, before, behind, rfl⟩, by simp⟩

section Single
variable {rest : List Lexeme} {text : Text}

theorem spelled_keyword {keyword : String} : Spelled (.keyword keyword :: rest) text ↔
    ∃ word tail, Spells keyword word ∧ Spelled rest tail ∧ text = ' ' :: (word ++ tail) := by
  constructor
  · rintro ⟨_, tail, ⟨word, spelled, rfl⟩, behind, rfl⟩
    exact ⟨word, tail, spelled, behind, rfl⟩
  · rintro ⟨word, tail, spelled, behind, rfl⟩
    exact ⟨' ' :: word, tail, ⟨word, spelled, rfl⟩, behind, rfl⟩

theorem spelled_name {word : Text} : Spelled (.name word :: rest) text ↔
    ∃ tail, Spelled rest tail ∧ text = ' ' :: (word ++ tail) := by
  constructor
  · rintro ⟨_, tail, rfl, behind, rfl⟩
    exact ⟨tail, behind, rfl⟩
  · rintro ⟨tail, behind, rfl⟩
    exact ⟨' ' :: word, tail, rfl, behind, rfl⟩

theorem spelled_group {inner : Text} : Spelled (.group false inner :: rest) text ↔
    ∃ tail, Spelled rest tail ∧ text = '(' :: (inner ++ ')' :: tail) := by
  constructor
  · rintro ⟨_, tail, rfl, behind, rfl⟩
    exact ⟨tail, behind, by simp⟩
  · rintro ⟨tail, behind, rfl⟩
    exact ⟨'(' :: (inner ++ [')']), tail, rfl, behind, by simp⟩

theorem spelled_group_spaced {inner : Text} : Spelled (.group true inner :: rest) text ↔
    ∃ tail, Spelled rest tail ∧ text = ' ' :: '(' :: (inner ++ ')' :: tail) := by
  constructor
  · rintro ⟨_, tail, rfl, behind, rfl⟩
    exact ⟨tail, behind, by simp⟩
  · rintro ⟨tail, behind, rfl⟩
    exact ⟨' ' :: '(' :: (inner ++ [')']), tail, rfl, behind, by simp⟩

end Single

section Sound
variable {lexemes : List Lexeme} {text : Text}

theorem Lexeme.tidy {lexeme : Lexeme} (sound : lexeme.IsSound) (printed : lexeme.Prints text) :
    Tidy text := by
  have spaced : ∀ {word : Text}, IsBare word → Tidy (' ' :: word) := by
    intro word bare
    apply (Tidy.of_plain bare.2).space bare.1
    obtain ⟨c, word, rfl⟩ := List.exists_cons_of_ne_nil bare.1
    exact isOrdinary_of_isPlain (bare.2 c List.mem_cons_self)
  cases lexeme with
  | keyword keyword =>
    obtain ⟨word, spelled, rfl⟩ := printed
    exact spaced (bare_of_spells sound spelled)
  | name word =>
    obtain rfl := printed
    exact spaced sound
  | group gap inner =>
    obtain rfl := printed
    have closing : Tidy [')'] := .ordinary (by decide) .nil
    cases gap with
    | false => exact .ordinary (by decide) (sound.1.append closing)
    | true => exact .spaced (by decide) (sound.1.append closing)

theorem Lexeme.nested {lexeme : Lexeme} (sound : lexeme.IsSound) (printed : lexeme.Prints text) :
    Nested false text := by
  cases lexeme with
  | keyword keyword =>
    obtain ⟨word, spelled, rfl⟩ := printed
    exact .flat (by decide) (by decide) (.of_plain (bare_of_spells sound spelled).2)
  | name word =>
    obtain rfl := printed
    exact .flat (by decide) (by decide) (.of_plain sound.2)
  | group gap inner =>
    obtain rfl := printed
    cases gap with
    | false => exact .group sound.2 .nil
    | true => exact .flat (by decide) (by decide) (.group sound.2 .nil)

theorem Lexeme.outside {lexeme : Lexeme} (printed : lexeme.Prints text) (rest : Text) :
    beginsWord (text ++ rest) = false := by
  have space : isWordCharacter ' ' = false := by decide
  have opening : isWordCharacter '(' = false := by decide
  cases lexeme with
  | keyword keyword =>
    obtain ⟨word, _, rfl⟩ := printed
    exact space
  | name word =>
    obtain rfl := printed
    exact space
  | group gap inner =>
    obtain rfl := printed
    cases gap with
    | false => exact opening
    | true => exact space

theorem Lexeme.capitals_words {lexeme : Lexeme} (sound : lexeme.IsSound) (printed : lexeme.Prints text) :
    (words text).map Text.capitals = lexeme.capitals := by
  have space : isWordCharacter ' ' = false := by decide
  have opening : isWordCharacter '(' = false := by decide
  have closing : isWordCharacter ')' = false := by decide
  cases lexeme with
  | keyword keyword =>
    obtain ⟨word, spelled, rfl⟩ := printed
    have bare := bare_of_spells sound spelled
    rw [words_cons _ space, words_self bare.1 bare.fits]
    exact congrArg (fun word => [word]) spelled
  | name word =>
    obtain rfl := printed
    rw [words_cons _ space, words_self sound.1 sound.fits]
    rfl
  | group gap inner =>
    obtain rfl := printed
    cases gap with
    | false =>
      rw [if_neg Bool.false_ne_true, List.nil_append, words_cons _ opening,
        words_append_cons inner [] closing, words_nil, List.append_nil]
      rfl
    | true =>
      rw [if_pos rfl, List.singleton_append, words_cons _ space, words_cons _ opening,
        words_append_cons inner [] closing, words_nil, List.append_nil]
      rfl

theorem Spelled.eq_nil (spelled : Spelled lexemes []) : lexemes = [] := by
  cases lexemes with
  | nil => rfl
  | cons lexeme rest =>
    obtain ⟨first, tail, printed, _, same⟩ := spelled
    obtain ⟨rfl, _⟩ := List.append_eq_nil_iff.mp same.symm
    cases lexeme with
    | keyword keyword => obtain ⟨_, _, impossible⟩ := printed; cases impossible
    | name word => cases printed
    | group gap inner => cases gap <;> cases printed

theorem Spelled.tidy (spelled : Spelled lexemes text) (sound : ∀ lexeme ∈ lexemes, lexeme.IsSound) :
    Tidy text := by
  induction lexemes generalizing text with
  | nil => rw [spelled_nil.mp spelled]; exact .nil
  | cons lexeme rest ih =>
    obtain ⟨first, tail, printed, behind, rfl⟩ := spelled
    have here := Lexeme.tidy (sound lexeme List.mem_cons_self) printed
    exact here.append (ih behind fun other member => sound other (List.mem_cons_of_mem _ member))

theorem Spelled.nested (spelled : Spelled lexemes text) (sound : ∀ lexeme ∈ lexemes, lexeme.IsSound) :
    Nested false text := by
  induction lexemes generalizing text with
  | nil => rw [spelled_nil.mp spelled]; exact .nil
  | cons lexeme rest ih =>
    obtain ⟨first, tail, printed, behind, rfl⟩ := spelled
    have here := Lexeme.nested (sound lexeme List.mem_cons_self) printed
    exact here.append (ih behind fun other member => sound other (List.mem_cons_of_mem _ member))

theorem Spelled.outside (spelled : Spelled lexemes text) : beginsWord text = false := by
  cases lexemes with
  | nil => rw [spelled_nil.mp spelled]; rfl
  | cons lexeme rest =>
    obtain ⟨first, tail, printed, _, rfl⟩ := spelled
    exact Lexeme.outside printed tail

/-- The words of a printed text are those of its lexemes. -/
theorem Spelled.capitals_words (spelled : Spelled lexemes text)
    (sound : ∀ lexeme ∈ lexemes, lexeme.IsSound) :
    (words text).map Text.capitals = lexemes.flatMap Lexeme.capitals := by
  induction lexemes generalizing text with
  | nil => rw [spelled_nil.mp spelled, words_nil]; rfl
  | cons lexeme rest ih =>
    obtain ⟨first, tail, printed, behind, rfl⟩ := spelled
    rw [words_append behind.outside, List.map_append,
      Lexeme.capitals_words (sound lexeme List.mem_cons_self) printed,
      ih behind fun other member => sound other (List.mem_cons_of_mem _ member), List.flatMap_cons]

theorem Spelled.not_folds (spelled : Spelled lexemes text)
    (sound : ∀ lexeme ∈ lexemes, lexeme.IsSound) {keyword : String} (key : IsKeyword keyword)
    (absent : keyword.toList ∉ lexemes.flatMap Lexeme.capitals) :
    ∀ word ∈ words text, ¬Folds keyword.toList word := by
  intro word member folds
  apply absent
  rw [← spelled.capitals_words sound]
  have ascii : ∀ c ∈ word, c.toNat < 128 := by
    intro c inside
    exact (spelled.tidy sound).ascii c (mem_of_mem_words member inside)
  rw [← spells_of_folds key ascii folds]
  exact List.mem_map_of_mem member

def Lexeme.isGroup : Lexeme → Bool
  | group _ _ => true
  | _ => false

theorem Spelled.not_mem_opening (spelled : Spelled lexemes text) (sound : ∀ lexeme ∈ lexemes, lexeme.IsSound)
    (wordy : ∀ lexeme ∈ lexemes, lexeme.isGroup = false) : '(' ∉ text := by
  induction lexemes generalizing text with
  | nil => rw [spelled_nil.mp spelled]; exact List.not_mem_nil
  | cons lexeme rest ih =>
    obtain ⟨first, tail, printed, behind, rfl⟩ := spelled
    have later := ih behind (fun other member => sound other (List.mem_cons_of_mem _ member))
      fun other member => wordy other (List.mem_cons_of_mem _ member)
    have here : '(' ∉ first := by
      cases lexeme with
      | keyword keyword =>
        obtain ⟨word, spelled, rfl⟩ := printed
        have key : IsKeyword keyword := sound _ List.mem_cons_self
        simpa using (bare_of_spells key spelled).not_mem (c := '(') (by decide)
      | name word =>
        obtain rfl := printed
        have bare : IsBare word := sound _ List.mem_cons_self
        simpa using bare.not_mem (c := '(') (by decide)
      | group gap inner => cases wordy _ List.mem_cons_self
    exact fun member => (List.mem_append.mp member).elim here later

/-- The first of the lexemes, if there is one, is a keyword. -/
def startsWithKeyword : List Lexeme → Bool
  | [] => true
  | .keyword _ :: _ => true
  | _ => false

theorem startsWithKeyword_append {front back : List Lexeme} (first : startsWithKeyword front = true)
    (second : startsWithKeyword back = true) : startsWithKeyword (front ++ back) = true := by
  cases front with
  | nil => exact second
  | cons lexeme front => cases lexeme <;> exact first

theorem Spelled.start (spelled : Spelled lexemes text) (sound : ∀ lexeme ∈ lexemes, lexeme.IsSound)
    (starts : startsWithKeyword lexemes = true) :
    text = [] ∨ ∃ c rest, isPlain c = true ∧ text = ' ' :: c :: rest := by
  cases lexemes with
  | nil => exact Or.inl (spelled_nil.mp spelled)
  | cons lexeme rest =>
    cases lexeme with
    | keyword keyword =>
      obtain ⟨word, tail, printed, _, rfl⟩ := spelled_keyword.mp spelled
      have key : IsKeyword keyword := sound _ List.mem_cons_self
      have bare := bare_of_spells key printed
      obtain ⟨c, others, rfl⟩ := List.exists_cons_of_ne_nil bare.1
      exact Or.inr ⟨c, others ++ tail, bare.2 c List.mem_cons_self, rfl⟩
    | name word => cases starts
    | group gap inner => cases starts

end Sound
end SchemaAtlas.Printing
