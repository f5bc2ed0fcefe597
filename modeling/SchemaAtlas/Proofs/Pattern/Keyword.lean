import SchemaAtlas.Proofs.Pattern.Trial
/-!
Keywords in a text. Patterns read a keyword in any letter case, and a printed keyword is one that is
the keyword once it is written in capitals.
-/
namespace SchemaAtlas
open Text

namespace Pattern
open Cursor
variable {α : Type} {before rest : Text} {parts : List (Part × Span)}
  {next : Cursor → List (Part × Span) → Option α} {result : α}

section Letter
variable {letter c : Char}

theorem isLetter_toUpper (c : Char) : isLetter c.toUpper c = true := by
  by_cases ascii : c.toNat < 128
  · exact ascii_induction (fun c => isLetter c.toUpper c = true) (by decide) ascii
  · have same : c.toUpper = c := by
      apply dif_neg
      rintro ⟨_, last⟩
      exact ascii (Nat.lt_of_le_of_lt (UInt32.le_iff_toNat_le.mp last) (by decide))
    simp [isLetter, same]

theorem isAlphanum_of_isUpper (upper : letter.isUpper = true) : letter.isAlphanum = true :=
  Bool.or_eq_true_iff.mpr (.inl (Bool.or_eq_true_iff.mpr (.inl upper)))

theorem ascii_of_isUpper (upper : letter.isUpper = true) : letter.toNat < 128 :=
  ascii_of_isAlphanum (isAlphanum_of_isUpper upper)

theorem isLetter_cases (folds : isLetter letter c = true) :
    c = letter ∨ c = letter.toLower ∨ c ∈ ['ſ', '\u212a', 'İ', 'ı'] := by
  simp only [isLetter, Bool.or_eq_true, Bool.and_eq_true, beq_iff_eq] at folds
  simp only [List.mem_cons, List.not_mem_nil, or_false]
  rcases folds with (((same | lower) | ⟨_, s⟩) | ⟨_, k⟩) | ⟨_, i | i⟩ <;> simp [*]

theorem isWordCharacter_of_isLetter (upper : letter.isUpper = true) (folds : isLetter letter c = true) :
    isWordCharacter c = true := by
  rcases isLetter_cases folds with rfl | rfl | other
  · exact isWordCharacter_of_isPlain (Bool.or_eq_true_iff.mpr (.inl (isAlphanum_of_isUpper upper)))
  · exact ascii_induction (fun letter => letter.isUpper = true → isWordCharacter letter.toLower = true)
      (by decide) (ascii_of_isUpper upper) upper
  · have each : ∀ d ∈ ['ſ', '\u212a', 'İ', 'ı'], isWordCharacter d = true :=
      List.all_eq_true.mp (by decide +kernel)
    exact each c other

theorem toUpper_of_isLetter (upper : letter.isUpper = true) (ascii : c.toNat < 128)
    (folds : isLetter letter c = true) : c.toUpper = letter := by
  rcases isLetter_cases folds with rfl | rfl | other
  · exact ascii_induction (fun c => c.isUpper = true → c.toUpper = c) (by decide) ascii upper
  · exact ascii_induction (fun letter => letter.isUpper = true → letter.toLower.toUpper = letter)
      (by decide) (ascii_of_isUpper upper) upper
  · have each : ∀ d ∈ ['ſ', '\u212a', 'İ', 'ı'], (!decide (d.toNat < 128)) = true :=
      List.all_eq_true.mp (by decide)
    simpa [ascii] using each c other

end Letter

/-- The text is the keyword in some letter case, as patterns see it. -/
def Folds (keyword text : Text) : Prop := List.Forall₂ (fun letter c => isLetter letter c = true) keyword text

instance (keyword text : Text) : Decidable (Folds keyword text) :=
  inferInstanceAs (Decidable (List.Forall₂ (fun letter c => isLetter letter c = true) keyword text))

/-- The text is the keyword in some letter case, as it is printed. -/
def Spells (keyword : String) (text : Text) : Prop := capitals text = keyword.toList

/-- Keywords are made of capital letters. -/
def IsKeyword (keyword : String) : Prop := keyword ≠ "" ∧ ∀ letter ∈ keyword.toList, letter.isUpper = true

instance (keyword : String) (text : Text) : Decidable (Spells keyword text) :=
  inferInstanceAs (Decidable (_ = _))

instance (keyword : String) : Decidable (IsKeyword keyword) :=
  have same : (keyword ≠ "" ∧ keyword.toList.all Char.isUpper = true) ↔ IsKeyword keyword := by
    rw [IsKeyword, List.all_eq_true]
  decidable_of_decidable_of_iff same

section Keyword
variable {keyword : String} {text : Text}

theorem folds_of_spells (spelled : Spells keyword text) : Folds keyword.toList text := by
  unfold Spells capitals at spelled
  rw [← spelled]
  apply List.forall₂_map_left_iff.mpr
  exact List.forall₂_same.mpr fun c _ => isLetter_toUpper c

theorem spells_of_folds (key : IsKeyword keyword) (ascii : ∀ c ∈ text, c.toNat < 128)
    (folds : Folds keyword.toList text) : Spells keyword text := by
  -- Some letters outside ASCII fold to a capital as well, so the text must be free of them.
  unfold Spells capitals
  have upper := key.2
  unfold Folds at folds
  generalize keyword.toList = letters at folds upper
  induction folds with
  | nil => rfl
  | cons here _ ih =>
    rw [List.map_cons, toUpper_of_isLetter (upper _ List.mem_cons_self) (ascii _ List.mem_cons_self) here,
      ih (fun c member => ascii c (List.mem_cons_of_mem _ member))
        fun letter member => upper letter (List.mem_cons_of_mem _ member)]

theorem wordCharacters_of_folds (key : IsKeyword keyword) (folds : Folds keyword.toList text) :
    ∀ c ∈ text, isWordCharacter c = true := by
  have upper := key.2
  unfold Folds at folds
  generalize keyword.toList = letters at folds upper
  induction folds with
  | nil => simp
  | cons here _ ih =>
    intro c member
    rcases List.mem_cons.mp member with rfl | later
    · exact isWordCharacter_of_isLetter (upper _ List.mem_cons_self) here
    · exact ih (fun letter member => upper letter (List.mem_cons_of_mem _ member)) c later

theorem ne_nil_of_folds (key : IsKeyword keyword) (folds : Folds keyword.toList text) : text ≠ [] := by
  rintro rfl
  have empty : keyword.toList = [] := List.forall₂_nil_right_iff.mp folds
  exact key.1 (by simpa using empty)

theorem bare_of_spells (key : IsKeyword keyword) (spelled : Spells keyword text) : IsBare text := by
  constructor
  · exact ne_nil_of_folds key (folds_of_spells spelled)
  · intro c member
    have capital : c.toUpper ∈ keyword.toList := spelled ▸ List.mem_map_of_mem member
    have upper : c.toUpper.isUpper = true := key.2 _ capital
    have ascii : c.toNat < 128 := by
      by_contra high
      have same : c.toUpper = c := by
        apply dif_neg
        rintro ⟨_, last⟩
        exact high (Nat.lt_of_le_of_lt (UInt32.le_iff_toNat_le.mp last) (by decide))
      rw [same] at upper
      exact high (ascii_of_isUpper upper)
    exact ascii_induction (fun c => c.toUpper.isUpper = true → isPlain c = true) (by decide) ascii upper

theorem not_folds_of_spells {other : String} (key : IsKeyword keyword) (other_key : IsKeyword other)
    (spelled : Spells other text) (different : keyword ≠ other) : ¬Folds keyword.toList text := by
  intro folds
  have bare := bare_of_spells other_key spelled
  have same : Spells keyword text :=
    spells_of_folds key (fun c member => ascii_of_isPlain (bare.2 c member)) folds
  exact different (String.toList_inj.mp (same.symm.trans spelled))

theorem run_letters {letters : Text} (folds : Folds letters text) :
    run (Pattern.letters letters) (after before (text ++ rest)) parts next =
      next (after (before ++ text) rest) parts := by
  induction folds generalizing before with
  | nil => simp [Pattern.letters, run]
  | @cons letter c others text here tail ih =>
    cases tail with
    | nil =>
      unfold Pattern.letters
      exact run_one here
    | cons second more =>
      unfold Pattern.letters
      rw [run_followed, List.cons_append, run_one here, ih]
      simp

theorem run_letters_some {letters : Text}
    (found : run (Pattern.letters letters) (after before rest) parts next = some result) :
    ∃ text tail, rest = text ++ tail ∧ Folds letters text ∧
      next (after (before ++ text) tail) parts = some result := by
  induction letters generalizing before rest with
  | nil => exact ⟨[], rest, rfl, .nil, by simpa [Pattern.letters, run] using found⟩
  | cons letter others ih =>
    cases others with
    | nil =>
      unfold Pattern.letters at found
      obtain ⟨c, tail, rfl, here, goes⟩ := run_one_some found
      exact ⟨[c], tail, rfl, .cons here .nil, goes⟩
    | cons second more =>
      unfold Pattern.letters at found
      rw [run_followed] at found
      obtain ⟨c, behind, rfl, here, goes⟩ := run_one_some found
      obtain ⟨text, tail, rfl, folds, goes⟩ := ih goes
      exact ⟨c :: text, tail, rfl, .cons here folds, by simpa using goes⟩

theorem run_word (spelled : Spells keyword text) :
    run (word keyword) (after before (text ++ rest)) parts next =
      next (after (before ++ text) rest) parts := run_letters (folds_of_spells spelled)

theorem run_word_some (found : run (word keyword) (after before rest) parts next = some result) :
    ∃ text tail, rest = text ++ tail ∧ Folds keyword.toList text ∧
      next (after (before ++ text) tail) parts = some result := run_letters_some found

theorem run_word_none (key : IsKeyword keyword) (outside : beginsWord rest = false) :
    run (word keyword) (after before rest) parts next = none := by
  by_contra found
  obtain ⟨_, found⟩ := Option.ne_none_iff_exists'.mp found
  obtain ⟨text, tail, rfl, folds, _⟩ := run_word_some found
  obtain ⟨c, text, rfl⟩ := List.exists_cons_of_ne_nil (ne_nil_of_folds key folds)
  have fits : isWordCharacter c = true := wordCharacters_of_folds key folds c List.mem_cons_self
  have stops : isWordCharacter c = false := outside
  rw [fits] at stops
  cases stops

/-- A keyword is not read where another one stands that it is no beginning of. -/
theorem run_word_ne {other : String} (key : IsKeyword keyword) (other_key : IsKeyword other)
    (spelled : Spells other text) (stop : beginsWord rest = false)
    (different : ¬keyword.toList <+: other.toList) :
    run (word keyword) (after before (text ++ rest)) parts next = none := by
  by_contra found
  obtain ⟨_, found⟩ := Option.ne_none_iff_exists'.mp found
  obtain ⟨read, tail, same, folds, _⟩ := run_word_some found
  have bare := bare_of_spells other_key spelled
  -- What is read ends inside the word, because no word character follows the word.
  have inside : ∃ more, text = read ++ more := by
    rcases List.append_eq_append_iff.mp same with ⟨more, rfl, rfl⟩ | ⟨more, rfl, rfl⟩
    · cases more with
      | nil => exact ⟨[], by simp⟩
      | cons c more =>
        have fits := wordCharacters_of_folds key folds c (by simp)
        have stops : isWordCharacter c = false := stop
        rw [fits] at stops
        cases stops
    · exact ⟨more, rfl⟩
  obtain ⟨more, rfl⟩ := inside
  have ascii : ∀ c ∈ read, c.toNat < 128 :=
    fun c member => ascii_of_isPlain (bare.2 c (List.mem_append_left more member))
  apply different
  rw [← spelled, capitals, List.map_append]
  exact ⟨capitals more, congrArg (· ++ capitals more) (spells_of_folds key ascii folds).symm⟩

end Keyword

end Pattern
end SchemaAtlas
