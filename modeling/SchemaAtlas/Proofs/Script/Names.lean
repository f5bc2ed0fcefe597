import SchemaAtlas.Name
import SchemaAtlas.Clause.Constraint
import SchemaAtlas.Proofs.Pattern.Search
import SchemaAtlas.Proofs.Script.Joining
/-!
How names without delimiters are read. Such a name is an identifier as a whole, it is no qualifier where
no dot follows, and cleaning leaves it as it is; a list of bare names gives these names.
-/
namespace SchemaAtlas

namespace Phrase
open Pattern Cursor Text
variable {α : Type} {before rest name : Text} {parts : List (Part × Span)}
  {next : Cursor → List (Part × Span) → Option α} {result : α}

theorem run_delimited_ne {opening closing c : Char} (different : c ≠ opening) :
    run (delimited opening closing) (after before (c :: rest)) parts next = none := by
  unfold delimited
  rw [run_followed, run_followed, run_exactly_ne different]

theorem run_identifier (word : IsWord name) (outside : beginsWord rest = false)
    (goes : next (after (before ++ name) rest) parts = some result) :
    run identifier (after before (name ++ rest)) parts next = some result := by
  have plainly : run plainWord (after before (name ++ rest)) parts next = some result :=
    run_several word.1 word.2 outside goes
  obtain ⟨c, others, rfl⟩ := List.exists_cons_of_ne_nil word.1
  unfold identifier
  rw [List.cons_append] at plainly ⊢
  rw [run_either, run_either, run_either, run_either, run_delimited_ne (word.head_ne (by decide)),
    run_delimited_ne (word.head_ne (by decide)), run_delimited_ne (word.head_ne (by decide)),
    run_delimited_ne (word.head_ne (by decide)), plainly]
  rfl

/-- An identifier that begins with a word character has no delimiters. -/
theorem run_identifier_some {c : Char} (fits : isWordCharacter c = true)
    (found : run identifier (after before (c :: rest)) parts next = some result) :
    ∃ text tail, c :: rest = text ++ tail ∧ IsWord text ∧
      next (after (before ++ text) tail) parts = some result := by
  have word : IsWord [c] := ⟨List.cons_ne_nil c [], by simpa using fits⟩
  unfold identifier at found
  rw [run_either, run_either, run_either, run_either, run_delimited_ne (word.head_ne (by decide)),
    run_delimited_ne (word.head_ne (by decide)), run_delimited_ne (word.head_ne (by decide)),
    run_delimited_ne (word.head_ne (by decide)), Option.none_or, Option.none_or, Option.none_or,
    Option.none_or] at found
  obtain ⟨text, tail, same, filled, all, goes⟩ := run_several_some found
  exact ⟨text, tail, same, ⟨filled, all⟩, goes⟩

theorem run_identifier_none : run identifier (after before ('(' :: rest)) parts next = none := by
  unfold identifier plainWord
  rw [run_either, run_either, run_either, run_either, run_delimited_ne (by decide), run_delimited_ne (by decide),
    run_delimited_ne (by decide), run_delimited_ne (by decide), run_several_ne rfl]
  rfl

theorem run_typeName (word : IsWord name) (outside : beginsWord rest = false)
    (goes : next (after (before ++ name) rest) parts = some result) :
    run (exactly '[' ++ plainWord ++ exactly ']' <|> plainWord) (after before (name ++ rest)) parts next =
      some result := by
  have plainly : run plainWord (after before (name ++ rest)) parts next = some result :=
    run_several word.1 word.2 outside goes
  obtain ⟨c, others, rfl⟩ := List.exists_cons_of_ne_nil word.1
  rw [List.cons_append] at plainly ⊢
  rw [run_either, run_followed, run_followed, run_exactly_ne (word.head_ne (by decide)), plainly]
  rfl

/-- A dot comes next, perhaps behind blanks. -/
def DotAhead (rest : Text) : Prop := ∃ gap tail, rest = gap ++ '.' :: tail ∧ ∀ c ∈ gap, isBlank c = true

theorem not_dotAhead_of_not_mem (absent : '.' ∉ rest) : ¬DotAhead rest := by
  rintro ⟨gap, tail, rfl, _⟩
  exact absent (by simp)

theorem not_dotAhead {gap : Text} {c : Char} (blank : ∀ d ∈ gap, isBlank d = true) (solid : isBlank c = false)
    (other : c ≠ '.') : ¬DotAhead (gap ++ c :: rest) := by
  rintro ⟨other_gap, tail, same, other_blank⟩
  -- Both gaps are the blanks before the first other character.
  have dropped := congrArg (List.dropWhile isBlank) same
  rw [List.dropWhile_append_of_pos blank, List.dropWhile_append_of_pos other_blank,
    List.dropWhile_cons_of_neg (by simp [solid]), List.dropWhile_cons_of_neg (by decide)] at dropped
  exact other (List.cons.inj dropped).1

theorem not_dotAhead_opening : ¬DotAhead ('(' :: rest) := by
  have gapless : ∀ d ∈ [], isBlank d = true := fun _ member => absurd member List.not_mem_nil
  exact not_dotAhead gapless (by decide) (by decide)

theorem run_qualifier_none (word : IsWord name) (outside : beginsWord rest = false) (dotless : ¬DotAhead rest) :
    run qualifier (after before (name ++ rest)) parts next = none := by
  by_contra found
  obtain ⟨result, found⟩ := Option.ne_none_iff_exists'.mp found
  obtain ⟨c, others, rfl⟩ := List.exists_cons_of_ne_nil word.1
  unfold qualifier at found
  rw [run_followed, run_followed, run_followed, List.cons_append] at found
  obtain ⟨text, tail, same, text_word, found⟩ := run_identifier_some (word.2 c List.mem_cons_self) found
  obtain ⟨gap, tail, rfl, blank, found⟩ := run_many_some found
  obtain ⟨tail, rfl, _⟩ := run_exactly_some found
  have stop : beginsWord (gap ++ '.' :: tail) = false := by
    cases gap with
    | nil => rfl
    | cons d gap => exact isWordCharacter_of_isBlank (blank d List.mem_cons_self)
  obtain ⟨_, rfl⟩ := word_unique word.2 text_word.2 outside stop same
  exact dotless ⟨gap, tail, rfl, blank⟩

theorem run_qualified (word : IsWord name) (outside : beginsWord rest = false) (dotless : ¬DotAhead rest)
    (goes : next (after (before ++ name) rest) parts = some result) :
    run qualified (after before (name ++ rest)) parts next = some result := by
  -- A qualifier would be tried first, and it needs a dot.
  unfold qualified
  rw [run_followed, run_optional_none (run_qualifier_none word outside dotless)]
  exact run_identifier word outside goes

/-- One space is a whole gap if no blank follows. -/
theorem run_blanks (start : rest.head?.any isBlank = false) :
    run blanks (after before (' ' :: rest)) parts next = next (after (before ++ [' ']) rest) parts := by
  unfold blanks several
  rw [run_followed, run_one (by decide), run_many_nil start]

theorem run_perhapsBlanks (start : rest.head?.any isBlank = false)
    (goes : next (after (before ++ [' ']) rest) parts = some result) :
    run perhapsBlanks (after before (' ' :: rest)) parts next = some result := run_many isBlank_space start goes

theorem run_perhapsBlanks_none (start : rest.head?.any isBlank = false) :
    run perhapsBlanks (after before rest) parts next = next (after before rest) parts := run_many_nil start

section Parenthesized
variable {part : Part} {inner : Text}

theorem run_parenthesized (flat : ∀ c ∈ inner, c ≠ '(' ∧ c ≠ ')')
    (goes : next (after (before ++ ['('] ++ inner ++ [')']) rest)
      ((part, Span.behind (before ++ ['(']) inner) :: parts) = some result) :
    run (parenthesized part) (after before ('(' :: (inner ++ ')' :: rest))) parts next = some result := by
  unfold parenthesized
  rw [run_followed, run_followed, run_exactly, run_named]
  apply run_many
  · intro c member
    obtain ⟨opening, closing⟩ := flat c member
    simp [opening, closing]
  · rfl
  · rw [run_exactly]
    exact goes

theorem run_parenthesized_some
    (found : run (parenthesized part) (after before rest) parts next = some result) :
    ∃ inner tail, rest = '(' :: (inner ++ ')' :: tail) ∧ (∀ c ∈ inner, c ≠ '(' ∧ c ≠ ')') ∧
      next (after (before ++ ['('] ++ inner ++ [')']) tail)
        ((part, Span.behind (before ++ ['(']) inner) :: parts) = some result := by
  unfold parenthesized at found
  rw [run_followed, run_followed] at found
  obtain ⟨_, rfl, inside⟩ := run_exactly_some found
  rw [run_named] at inside
  obtain ⟨inner, _, rfl, flat, closing⟩ := run_many_some inside
  obtain ⟨tail, rfl, goes⟩ := run_exactly_some closing
  refine ⟨inner, tail, rfl, ?_, goes⟩
  intro c member
  simpa using flat c member

end Parenthesized

end Phrase

namespace Name
open Text Pattern Cursor
variable {name : Text}

theorem trim_word (word : IsWord name) : Text.trim name = name := by
  have start := word.start []
  rw [List.append_nil] at start
  exact trim_eq_self start word.stop

theorem undelimited_word (word : IsWord name) : undelimited name = name := by
  unfold undelimited
  split
  · next first second rest =>
    have none_matches : ∀ closing, areDelimiters first closing = false := by
      intro closing
      have bracket : first ≠ '[' := word.head_ne (by decide)
      have single : first ≠ '\'' := word.head_ne (by decide)
      have double : first ≠ '"' := word.head_ne (by decide)
      have back : first ≠ '\x60' := word.head_ne (by decide)
      simp [areDelimiters, bracket, single, double, back]
    rw [none_matches]
    rfl
  · rfl

theorem clean_word (word : IsWord name) : clean name = name := by
  rw [clean, trim_word word, undelimited_word word, trim_word word]

theorem wholeName_word (word : IsWord name) : Phrase.wholeName.match? name =
    some ⟨⟨0, name.length⟩, [(.name, Span.behind [] name)]⟩ := by
  have dotless : ¬Phrase.DotAhead [] := Phrase.not_dotAhead_of_not_mem List.not_mem_nil
  have matched : ∀ {text : Text}, text = name ++ [] →
      Phrase.wholeName.matchAt (after [] text) =
        some ⟨⟨0, name.length⟩, [(.name, Span.behind [] name)]⟩ := by
    rintro text rfl
    unfold matchAt Phrase.wholeName
    rw [run_followed, run_followed,
      run_optional_none (Phrase.run_qualifier_none word rfl dotless), run_named]
    apply Phrase.run_identifier word rfl
    rw [run_ending]
    rfl
  exact matched (List.append_nil name).symm

theorem cleanQualified_word (word : IsWord name) : cleanQualified name = name := by
  have part : (⟨⟨0, name.length⟩, [(.name, Span.behind [] name)]⟩ : Match).text? .name name = some name := by
    have same : (Span.behind [] name).of name = name :=
      Span.of_behind (show name = [] ++ (name ++ []) by simp)
    simp [Match.text?, Match.part?, same]
  unfold cleanQualified
  simp only [trim_word word, wholeName_word word, Option.bind_some, part]
  exact clean_word word

theorem withoutSortOrder_bare (bare : IsBare name) : withoutSortOrder name = name := by
  -- The suffix begins with a blank, and a bare name has none.
  have none_found : Phrase.sortSuffix.find? name = none := by
    by_contra found
    obtain ⟨found, place⟩ := Option.ne_none_iff_exists'.mp found
    rw [find?_eq_findAfter] at place
    obtain ⟨passed, tail, rfl, here⟩ := findAfter_some place
    unfold matchAt Phrase.sortSuffix at here
    rw [run_followed, run_followed] at here
    obtain ⟨gap, tail, rfl, filled, blank, _⟩ := run_several_some here
    obtain ⟨c, gap, rfl⟩ := List.exists_cons_of_ne_nil filled
    have solid := isBlank_of_isPlain (bare.2 c (by simp))
    rw [blank c List.mem_cons_self] at solid
    cases solid
  rw [withoutSortOrder, none_found]

section List
variable {names : List Text}

theorem fields_append {separator : Char} {first : Text} (absent : separator ∉ first) (rest : Text) :
    fields separator (first ++ separator :: rest) = first :: fields separator rest := by
  induction first with
  | nil => simp [fields]
  | cons c first ih =>
    have different : (c == separator) = false := by
      apply beq_eq_false_iff_ne.mpr
      rintro rfl
      exact absent List.mem_cons_self
    rw [List.cons_append, fields, ih fun member => absent (List.mem_cons_of_mem c member)]
    simp [different, extendFirst]

theorem fields_absent {separator : Char} {text : Text} (absent : separator ∉ text) :
    fields separator text = [text] := by
  induction text with
  | nil => rfl
  | cons c text ih =>
    have different : (c == separator) = false := by
      apply beq_eq_false_iff_ne.mpr
      rintro rfl
      exact absent List.mem_cons_self
    rw [fields, ih fun member => absent (List.mem_cons_of_mem c member)]
    simp [different, extendFirst]

theorem fields_commas {first : Text} (here : ',' ∉ first) (each : ∀ name ∈ names, ',' ∉ name) :
    fields ',' ([',', ' '].intercalate (first :: names)) = first :: names.map (' ' :: ·) := by
  induction names generalizing first with
  | nil => simpa using fields_absent here
  | cons second others ih =>
    have tail := ih (each second List.mem_cons_self) fun name member => each name (List.mem_cons_of_mem _ member)
    rw [commas_cons, fields_append here, fields, tail]
    simp [extendFirst]

theorem list_join (filled : names ≠ []) (bare : ∀ name ∈ names, IsBare name) :
    list ([',', ' '].intercalate names) = names := by
  obtain ⟨first, others, rfl⟩ := List.exists_cons_of_ne_nil filled
  have comma : ∀ name ∈ first :: others, ',' ∉ name := fun name member => (bare name member).not_mem (by decide)
  have read : ∀ name, IsBare name → clean (withoutSortOrder (Text.trim name)) = name := by
    intro name bare
    rw [trim_word bare.word, withoutSortOrder_bare bare, clean_word bare.word]
  have read_spaced : ∀ name, IsBare name → clean (withoutSortOrder (Text.trim (' ' :: name))) = name := by
    intro name bare
    rw [trim_cons (by decide), read name bare]
  have rest : ∀ name ∈ others,
      ((fun field => clean (withoutSortOrder (Text.trim field))) ∘ (' ' :: ·)) name = name :=
    fun name member => read_spaced name (bare name (List.mem_cons_of_mem _ member))
  unfold list
  rw [fields_commas (comma first List.mem_cons_self)
    fun name member => comma name (List.mem_cons_of_mem _ member)]
  rw [List.map_cons, List.map_map, read first (bare first List.mem_cons_self),
    (List.map_congr_left rest).trans (List.map_id _), List.filter_eq_self]
  exact fun name member => bne_iff_ne.mpr (bare name member).1

end List
end Name
end SchemaAtlas
