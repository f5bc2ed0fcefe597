import SchemaAtlas.Proofs.Diagram.DisplayWords
import SchemaAtlas.Proofs.Diagram.DrawnNames
import SchemaAtlas.Proofs.Script.Spelling
/-!
Names as they are written for the eye. Each of their words is a number or has one capital letter, in front, and together
they have the letters and digits of the name. Such words are found again as they stand, so a name for the eye is its own
name for the eye.
-/
namespace SchemaAtlas.DisplayName
open Text Pattern Cursor

/-- The ASCII letters, all of them small, and the digits of a text. -/
def letters (text : Text) : Text := (text.filter fun c => c.isAlpha || isDecimalDigit c).map Char.toLower

/-- A word for the eye: a number, or a capital letter and small ones behind it. -/
inductive IsTitle : Text → Prop where
  | number {digits : Text} (filled : digits ≠ []) (all : ∀ c ∈ digits, isDecimalDigit c = true) : IsTitle digits
  | capitalized {first : Char} {others : Text} (capital : first.isUpper = true)
    (small : ∀ c ∈ others, c.isLower = true) : IsTitle (first :: others)

variable {c : Char} {word rest text name : Text}

section Titles

/-- Digits only, or letters only. -/
def IsUniform (word : Text) : Prop :=
  word ≠ [] ∧ ((∀ c ∈ word, isDecimalDigit c = true) ∨ ∀ c ∈ word, c.isAlpha = true)

theorem isUniform_of_wordAt? {stop : Cursor} (here : wordAt? text = some stop) :
    ∃ word rest, text = word ++ rest ∧ stop = after word rest ∧ IsUniform word := by
  have large {c : Char} (capital : c.isUpper = true) : c.isAlpha = true := Bool.or_eq_true_iff.mpr (.inl capital)
  have little {c : Char} (small : c.isLower = true) : c.isAlpha = true := Bool.or_eq_true_iff.mpr (.inr small)
  -- One case for each of the alternatives, of which the second one may begin with a capital.
  rw [wordAt?, start_eq_after] at here
  rcases Option.or_eq_some_iff.mp here with capitals | ⟨_, others⟩
  · obtain ⟨word, rest, rfl, filled, all, goes⟩ := run_several_some capitals
    split at goes
    · cases goes
    · exact ⟨word, rest, rfl, (Option.some.inj goes).symm, filled, .inr fun c member => large (all c member)⟩
  rcases run_either_some others with letters | digits
  · rw [run_followed] at letters
    rcases run_optional_some letters with capitalized | small
    · obtain ⟨c, behind, rfl, capital, goes⟩ := run_one_some capitalized
      obtain ⟨word, rest, rfl, _, all, goes⟩ := run_several_some goes
      exact ⟨c :: word, rest, rfl, (Option.some.inj goes).symm, List.cons_ne_nil _ _,
        .inr (List.forall_mem_cons.mpr ⟨large capital, fun d member => little (all d member)⟩)⟩
    · obtain ⟨word, rest, rfl, filled, all, goes⟩ := run_several_some small
      exact ⟨word, rest, rfl, (Option.some.inj goes).symm, filled, .inr fun c member => little (all c member)⟩
  · obtain ⟨word, rest, rfl, filled, all, goes⟩ := run_several_some digits
    exact ⟨word, rest, rfl, (Option.some.inj goes).symm, filled, .inl all⟩

theorem Finds.isUniform {found : List Text} (finds : Finds name found) : ∀ word ∈ found, IsUniform word := by
  induction finds with
  | done => exact List.forall_mem_nil _
  | skip _ _ ih => exact ih
  | word _ here _ ih =>
    obtain ⟨read, tail, same, stop, uniform⟩ := isUniform_of_wordAt? here
    obtain ⟨_, _, rfl⟩ := Cursor.mk.inj stop
    obtain rfl := List.append_cancel_right same
    exact List.forall_mem_cons.mpr ⟨uniform, ih⟩

theorem isUniform_of_mem (member : word ∈ words name) : IsUniform word := (finds_words name).isUniform word member

theorem casing_of_isDecimalDigit (digit : isDecimalDigit c = true) : c.toUpper = c ∧ c.toLower = c := by
  obtain ⟨large, small⟩ := Bool.or_eq_false_iff.mp (not_isAlpha_of_isDecimalDigit digit)
  exact ⟨Char.toUpper_eq_of_not_isLower (Bool.eq_false_iff.mp small),
    Char.toLower_eq_of_not_isUpper (Bool.eq_false_iff.mp large)⟩

theorem capitalized_of_digits (all : ∀ c ∈ word, isDecimalDigit c = true) : capitalized word = word := by
  cases word with
  | nil => rfl
  | cons c word =>
    obtain ⟨here, later⟩ := List.forall_mem_cons.mp all
    rw [capitalized, (casing_of_isDecimalDigit here).1,
      (List.map_congr_left fun d member => (casing_of_isDecimalDigit (later d member)).2).trans (List.map_id' _)]

theorem isTitle_capitalized (uniform : IsUniform word) : IsTitle (capitalized word) := by
  obtain ⟨filled, digits | letters⟩ := uniform
  · rw [capitalized_of_digits digits]
    exact .number filled digits
  · obtain ⟨c, word, rfl⟩ := List.exists_cons_of_ne_nil filled
    obtain ⟨here, later⟩ := List.forall_mem_cons.mp letters
    refine .capitalized (by rwa [Char.isUpper_toUpper_eq_isAlpha]) (List.forall_mem_map.mpr fun d member => ?_)
    rw [Char.isLower_toLower_eq_isAlpha]
    exact later d member

/-- The words of a name are words for the eye once they have their capitals. -/
theorem isTitle_of_mem (name : Text) : ∀ word ∈ (words name).map capitalized, IsTitle word :=
  List.forall_mem_map.mpr fun _ member => isTitle_capitalized (isUniform_of_mem member)

namespace IsTitle

theorem capitalized_eq (title : IsTitle word) : DisplayName.capitalized word = word := by
  cases title with
  | number _ all => exact capitalized_of_digits all
  | capitalized capital small =>
    rw [DisplayName.capitalized, Char.toUpper_eq_of_not_isLower (Char.not_isLower_of_isUpper capital),
      (List.map_congr_left fun d member => Char.toLower_eq_of_not_isUpper
        (Char.not_isUpper_of_isLower (small d member))).trans (List.map_id' _)]

theorem known (title : IsTitle word) : ∀ c ∈ word, (c.isAlpha || isDecimalDigit c) = true := by
  cases title with
  | number _ all => exact fun c member => Bool.or_eq_true_iff.mpr (.inr (all c member))
  | capitalized capital small =>
    refine List.forall_mem_cons.mpr ⟨?_, fun c member => ?_⟩
    · rw [Char.isAlpha, capital]; rfl
    · rw [Char.isAlpha, small c member, Bool.or_true]; rfl

theorem not_mem_space (title : IsTitle word) : ' ' ∉ word := fun member => absurd (title.known ' ' member) (by decide)

/-- A word for the eye stands in front of a space and at the end of a text. -/
theorem stands (title : IsTitle word) (stops : ∀ c ∈ rest.head?, kind c = .other) : Stands word rest := by
  have apart {c : Char} : joins c rest = false := by
    cases rest with
    | nil => rfl
    | cons next rest =>
      have other := stops next rfl
      cases same : kind c <;> simp [joins, same, other]
  cases title with
  | number filled all => exact stands_digits filled all fun c first same => by simp [stops c first] at same
  | @capitalized first others capital small =>
    have known : kind first = .capital := kind_eq_capital.mpr capital
    cases others with
    | nil => exact .last (by rw [known]; decide) apart
    | cons d others =>
      refine .more ?_ (stands_small (List.cons_ne_nil _ _) small ?_)
      · simp [joins, known, kind_eq_small.mpr (small d List.mem_cons_self)]
      · rw [← beginsSmall_eq]
        cases rest with
        | nil => rfl
        | cons next rest => simp [beginsSmall, stops next rfl]

end IsTitle

/-- Words for the eye with spaces between them are cut where they were. -/
theorem words_join {titles : List Text} (each : ∀ word ∈ titles, IsTitle word) :
    words ([' '].intercalate titles) = titles := by
  induction titles with
  | nil => rfl
  | cons first others ih =>
    obtain ⟨here, later⟩ := List.forall_mem_cons.mp each
    cases others with
    | nil =>
      have alone : Stands first [] := here.stands (by simp)
      have found := alone.words_append
      rw [List.append_nil] at found
      rw [List.intercalate_singleton, found]
      rfl
    | cons second others =>
      have front : Stands first (' ' :: [' '].intercalate (second :: others)) :=
        here.stands (by rintro c ⟨⟩; decide)
      rw [List.intercalate_cons_cons, List.append_assoc, List.singleton_append, front.words_append]
      exact congrArg _ (ih later)

end Titles

section Letters

theorem map_toLower_capitalized (word : Text) : (capitalized word).map Char.toLower = word.map Char.toLower := by
  cases word with
  | nil => rfl
  | cons c word =>
    rw [capitalized, List.map_cons, List.map_cons, Char.toLower_toUpper_eq_toLower, List.map_map]
    exact congrArg _ (List.map_congr_left fun d _ => Char.toLower_toLower_eq_toLower d)

theorem filter_join {titles : List Text} (each : ∀ word ∈ titles, IsTitle word) :
    ([' '].intercalate titles).filter (fun c => c.isAlpha || isDecimalDigit c) = titles.flatten := by
  induction titles with
  | nil => rfl
  | cons first others ih =>
    obtain ⟨here, later⟩ := List.forall_mem_cons.mp each
    have whole : first.filter (fun c => c.isAlpha || isDecimalDigit c) = first := List.filter_eq_self.mpr here.known
    cases others with
    | nil => rw [List.intercalate_singleton, whole, List.flatten_singleton]
    | cons second others =>
      rw [List.intercalate_cons_cons, List.filter_append, List.filter_append, whole, ih later]
      simp [show isDecimalDigit ' ' = false by decide]

theorem letters_ofName (name : Text) : letters (ofName name) = letters name := by
  calc letters (ofName name) = ((words name).map capitalized).flatten.map Char.toLower := by
        rw [letters, ofName, filter_join (isTitle_of_mem name)]
    _ = ((words name).map (·.map Char.toLower)).flatten := by
        rw [List.map_flatten, List.map_map]
        exact congrArg _ (List.map_congr_left fun word _ => map_toLower_capitalized word)
    _ = letters name := by
        rw [letters, ← List.map_flatten, flatten_words]
        simp only [kind_ne_other]

end Letters

/-- The name for the eye has the words that the search finds; between single spaces each of them is a number or has one
capital in front; all letters and digits of the name are kept in their order; and a name for the eye is left as it is. -/
theorem ofName_settled (name : Text) :
    (∃ found, Finds name found ∧ ofName name = [' '].intercalate (found.map capitalized)) ∧
    (ofName name = [] ∨ ∀ word ∈ fields ' ' (ofName name), IsTitle word) ∧
    letters (ofName name) = letters name ∧
    ofName (ofName name) = ofName name := by
  have each := isTitle_of_mem name
  refine ⟨⟨words name, finds_words name, rfl⟩, ?_, letters_ofName name, ?_⟩
  · by_cases empty : (words name).map capitalized = []
    · exact .inl (by rw [ofName, empty]; rfl)
    · rw [ofName, Name.fields_intercalate empty fun word member => (each word member).not_mem_space]
      exact .inr each
  · rw [ofName, ofName, words_join each]
    exact congrArg _ ((List.map_congr_left fun word member => (each word member).capitalized_eq).trans (List.map_id _))

-- The last capital of a run goes with the small letters behind it.
example : ofName "HTTPLogs_users2fa".toList = "Http Logs Users 2 Fa".toList := by decide

end SchemaAtlas.DisplayName
