import SchemaAtlas.Proofs.Pattern.Keyword
/-!
The first match of a pattern in a text. A pattern that begins with a whole keyword passes every text
without that word; what a match reads and which spans it names follow from the pattern.
-/
namespace SchemaAtlas.Pattern
open Text Cursor
variable {before rest : Text}

/-- The first match at or behind a place. -/
def findAfter (pattern : Pattern) (before rest : Text) : Option Match :=
  pattern.findFrom before.length before.getLast? rest

section Search
variable {pattern : Pattern} {found : Match}

theorem find?_eq_findAfter (text : Text) : pattern.find? text = pattern.findAfter [] text := rfl

theorem match?_eq_matchAt (text : Text) : pattern.match? text = pattern.matchAt (after [] text) := rfl

theorem findAfter_cons (c : Char) : pattern.findAfter before (c :: rest) =
    (pattern.matchAt (after before (c :: rest))).or (pattern.findAfter (before ++ [c]) rest) := by
  have moved : pattern.findAfter (before ++ [c]) rest =
      pattern.findFrom (before.length + 1) (some c) rest := by
    simp [findAfter]
  rw [moved]
  have place : (⟨before.length, before.getLast?, c :: rest⟩ : Cursor) = after before (c :: rest) := rfl
  unfold findAfter
  rw [findFrom, place]
  cases pattern.matchAt (after before (c :: rest)) <;> rfl

theorem findAfter_of_matchAt (here : pattern.matchAt (after before rest) = some found) :
    pattern.findAfter before rest = some found := by
  cases rest with
  | nil => exact here
  | cons c rest => rw [findAfter_cons, here, Option.some_or]

theorem findAfter_some (here : pattern.findAfter before rest = some found) :
    ∃ passed tail, rest = passed ++ tail ∧
      pattern.matchAt (after (before ++ passed) tail) = some found := by
  induction rest generalizing before with
  | nil => exact ⟨[], [], rfl, by rwa [List.append_nil]⟩
  | cons c rest ih =>
    rw [findAfter_cons] at here
    rcases Option.or_eq_some_iff.mp here with now | ⟨_, later⟩
    · exact ⟨[], c :: rest, rfl, by simpa using now⟩
    · obtain ⟨passed, tail, rfl, place⟩ := ih later
      exact ⟨c :: passed, tail, rfl, by simpa using place⟩

theorem findAfter_append {passed : Text} (none_here : ∀ first second, passed = first ++ second →
      second ≠ [] → pattern.matchAt (after (before ++ first) (second ++ rest)) = none) :
    pattern.findAfter before (passed ++ rest) = pattern.findAfter (before ++ passed) rest := by
  induction passed generalizing before with
  | nil => simp
  | cons c passed ih =>
    have here := none_here [] (c :: passed) rfl (by simp)
    rw [List.append_nil] at here
    rw [List.cons_append, findAfter_cons]
    rw [List.cons_append] at here
    rw [here, Option.none_or, ih]
    · simp
    · intro first second same filled
      have later := none_here (c :: first) second (by rw [same, List.cons_append]) filled
      simpa using later

theorem isSome_findAfter (before passed : Text)
    (here : (pattern.matchAt (after (before ++ passed) rest)).isSome = true) :
    (pattern.findAfter before (passed ++ rest)).isSome = true := by
  induction passed generalizing before with
  | nil =>
    obtain ⟨found, here⟩ := Option.isSome_iff_exists.mp here
    rw [List.append_nil] at here
    rw [List.nil_append, findAfter_of_matchAt here, Option.isSome_some]
  | cons c passed ih =>
    rw [List.cons_append, findAfter_cons, Option.isSome_or, ih (before ++ [c]) (by simpa using here),
      Bool.or_true]

theorem occurs_of_matchAt (here : (pattern.matchAt (after before rest)).isSome = true) :
    pattern.occurs (before ++ rest) = true := isSome_findAfter [] before (by simpa using here)

theorem occurs_eq_false (none_found : pattern.find? rest = none) : pattern.occurs rest = false := by
  unfold occurs
  rw [none_found, Option.isSome_none]

theorem findAll_eq_nil {text : Text} (none_found : pattern.find? text = none) :
    pattern.findAll text = [] := by
  -- Where the next match may begin is of no account, so the induction is general in it.
  suffices general : ∀ (rest before : Text) (resume : Nat), pattern.findAfter before rest = none →
      pattern.findAllFrom resume before.length before.getLast? rest = [] from
    general text [] 0 none_found
  intro rest
  induction rest with
  | nil => exact fun _ _ _ => rfl
  | cons c rest ih =>
    intro before resume none_behind
    rw [findAfter_cons] at none_behind
    obtain ⟨none_here, none_later⟩ := Option.or_eq_none_iff.mp none_behind
    have later : ∀ resume, pattern.findAllFrom resume (before.length + 1) (some c) rest = [] := by
      intro resume
      simpa using ih (before ++ [c]) resume none_later
    have here : pattern.matchAt ⟨before.length, before.getLast?, c :: rest⟩ = none := none_here
    rw [findAllFrom, here]
    split
    · exact later resume
    · exact later resume

end Search

section Led
variable {leads : Text → Prop}

/-- A whole word with a property stands between two texts and begins the second of them. -/
def WordAhead (leads : Text → Prop) (before rest : Text) : Prop :=
  ∃ text tail, rest = text ++ tail ∧ leads text ∧ text ≠ [] ∧ (∀ c ∈ text, isWordCharacter c = true) ∧
    endsWord before = false ∧ beginsWord tail = false

theorem not_wordAhead {word : Text} (bare : IsBare word) (outside : beginsWord rest = false)
    (other : ¬leads word) : ¬WordAhead leads before (word ++ rest) := by
  rintro ⟨text, tail, same, holds, _, fits, _, stop⟩
  obtain ⟨rfl, _⟩ := word_unique bare.fits fits outside stop same
  exact other holds

theorem WordAhead.mem_words (ahead : WordAhead leads before rest) :
    ∃ word ∈ words (before ++ rest), leads word := by
  obtain ⟨text, tail, rfl, holds, filled, fits, start, stop⟩ := ahead
  exact ⟨text, Text.mem_words filled fits start stop, holds⟩

/-- The pattern matches only where such a word begins. -/
def LedBy (leads : Text → Prop) (pattern : Pattern) : Prop :=
  ∀ {α : Type} {before rest : Text} {parts : List (Part × Span)}
    {next : Cursor → List (Part × Span) → Option α} {result : α},
    run pattern (after before rest) parts next = some result → WordAhead leads before rest

/-- The pattern reads word characters only. -/
def Wordy (leads : Text → Prop) (pattern : Pattern) : Prop :=
  ∀ {α : Type} {before rest : Text} {parts : List (Part × Span)}
    {next : Cursor → List (Part × Span) → Option α} {result : α},
    run pattern (after before rest) parts next = some result →
      ∃ text tail, rest = text ++ tail ∧ leads text ∧ text ≠ [] ∧
        (∀ c ∈ text, isWordCharacter c = true) ∧ next (after (before ++ text) tail) parts = some result

theorem endsWord_of_fits {text : Text} (filled : text ≠ []) (fits : ∀ c ∈ text, isWordCharacter c = true) :
    endsWord (before ++ text) = true := by
  rw [endsWord_append filled, endsWord, List.getLast?_eq_some_getLast filled]
  exact fits _ (List.getLast_mem filled)

theorem beginsWord_of_fits {text : Text} (filled : text ≠ [])
    (fits : ∀ c ∈ text, isWordCharacter c = true) (tail : Text) : beginsWord (text ++ tail) = true := by
  cases text with
  | nil => exact absurd rfl filled
  | cons c text => exact fits c List.mem_cons_self

theorem beginsWord_of_isBlank {blanks : Text} (filled : blanks ≠ []) (all : ∀ c ∈ blanks, isBlank c = true)
    (tail : Text) : beginsWord (blanks ++ tail) = false := by
  cases blanks with
  | nil => exact absurd rfl filled
  | cons c blanks => exact isWordCharacter_of_isBlank (all c List.mem_cons_self)

theorem wordy_word {keyword : String} (key : IsKeyword keyword) :
    Wordy (Folds keyword.toList) (word keyword) := by
  intro α before rest parts next result found
  obtain ⟨text, tail, same, folds, goes⟩ := run_word_some found
  exact ⟨text, tail, same, folds, ne_nil_of_folds key folds, wordCharacters_of_folds key folds, goes⟩

/-- A word is whole if it has an edge before it, and behind it an edge, a blank or a parenthesis. -/
theorem ledBy_edge_edge {core : Pattern} (wordy : Wordy leads core) : LedBy leads (edge ++ core ++ edge) := by
  intro α before rest parts next result found
  rw [run_followed, run_followed] at found
  obtain ⟨start, found⟩ := run_edge_some found
  obtain ⟨text, tail, rfl, holds, filled, fits, found⟩ := wordy found
  obtain ⟨stop, _⟩ := run_edge_some found
  rw [beginsWord_of_fits filled fits, ne_eq, Bool.not_eq_true] at start
  rw [endsWord_of_fits filled fits, ne_comm, ne_eq, Bool.not_eq_true] at stop
  exact ⟨text, tail, rfl, holds, filled, fits, start, stop⟩

theorem ledBy_edge_blanks {core : Pattern} (wordy : Wordy leads core) :
    LedBy leads (edge ++ core ++ blanks) := by
  intro α before rest parts next result found
  rw [run_followed, run_followed] at found
  obtain ⟨start, found⟩ := run_edge_some found
  obtain ⟨text, tail, rfl, holds, filled, fits, found⟩ := wordy found
  obtain ⟨gap, tail, rfl, open_gap, blank, _⟩ := run_several_some found
  rw [beginsWord_of_fits filled fits, ne_eq, Bool.not_eq_true] at start
  exact ⟨text, gap ++ tail, rfl, holds, filled, fits, start, beginsWord_of_isBlank open_gap blank tail⟩

theorem ledBy_edge_parenthesis {core : Pattern} (wordy : Wordy leads core) :
    LedBy leads (edge ++ core ++ perhapsBlanks ++ exactly '(') := by
  intro α before rest parts next result found
  rw [run_followed, run_followed, run_followed] at found
  obtain ⟨start, found⟩ := run_edge_some found
  obtain ⟨text, tail, rfl, holds, filled, fits, found⟩ := wordy found
  obtain ⟨gap, tail, rfl, blank, found⟩ := run_many_some found
  obtain ⟨tail, rfl, _⟩ := run_exactly_some found
  rw [beginsWord_of_fits filled fits, ne_eq, Bool.not_eq_true] at start
  refine ⟨text, gap ++ '(' :: tail, rfl, holds, filled, fits, start, ?_⟩
  cases gap with
  | nil => rfl
  | cons c gap => exact isWordCharacter_of_isBlank (blank c List.mem_cons_self)

theorem ledBy_followed {first : Pattern} (led : LedBy leads first) (second : Pattern) :
    LedBy leads (first ++ second) := fun found => led found

theorem findAfter_append_of_words {pattern : Pattern} (led : LedBy leads pattern) {passed : Text}
    (clear : ∀ word ∈ words passed, ¬leads word) (outside : beginsWord rest = false) :
    pattern.findAfter before (passed ++ rest) = pattern.findAfter (before ++ passed) rest := by
  apply findAfter_append
  rintro first second rfl filled
  by_contra found
  obtain ⟨_, found⟩ := Option.ne_none_iff_exists'.mp found
  obtain ⟨text, tail, same, holds, some_text, fits, start, stop⟩ := led found
  -- The word begins in the text that is passed. It ends there too, because the rest begins outside words.
  have inside : ∃ more, second = text ++ more ∧ beginsWord more = false := by
    rcases List.append_eq_append_iff.mp same with ⟨more, rfl, rfl⟩ | ⟨more, rfl, rfl⟩
    · cases more with
      | nil => exact ⟨[], by simp, rfl⟩
      | cons c more =>
        have here : isWordCharacter c = true := fits c (by simp)
        simp [beginsWord, here] at outside
    · cases more with
      | nil => exact ⟨[], rfl, rfl⟩
      | cons c more => exact ⟨c :: more, rfl, stop⟩
  obtain ⟨more, rfl, stop⟩ := inside
  have begun : endsWord first = false := by
    cases first with
    | nil => rfl
    | cons c first => rwa [endsWord_append (by simp)] at start
  exact clear text (mem_words some_text fits begun stop) holds

/-- A word is passed where the pattern does not match at its beginning. -/
theorem findAfter_word {pattern : Pattern} (led : LedBy leads pattern) {word : Text} (bare : IsBare word)
    (none_here : pattern.matchAt (after before (word ++ rest)) = none) :
    pattern.findAfter before (word ++ rest) = pattern.findAfter (before ++ word) rest := by
  apply findAfter_append
  rintro first second rfl _
  -- Inside the word no whole word can begin.
  cases first with
  | nil => simpa using none_here
  | cons c first =>
    by_contra found
    obtain ⟨_, found⟩ := Option.ne_none_iff_exists'.mp found
    obtain ⟨_, _, _, _, _, _, start, _⟩ := led found
    have inside : ∀ d ∈ c :: first, isWordCharacter d = true :=
      fun d member => bare.fits d (List.mem_append_left _ member)
    rw [endsWord_of_fits (List.cons_ne_nil c first) inside] at start
    cases start

theorem findAfter_cons_of_led {pattern : Pattern} (led : LedBy leads pattern) {c : Char}
    (separates : isWordCharacter c = false) :
    pattern.findAfter before (c :: rest) = pattern.findAfter (before ++ [c]) rest := by
  have none_here : pattern.matchAt (after before (c :: rest)) = none := by
    by_contra found
    obtain ⟨_, found⟩ := Option.ne_none_iff_exists'.mp found
    obtain ⟨text, tail, same, _, filled, fits, _⟩ := led found
    obtain ⟨d, text, rfl⟩ := List.exists_cons_of_ne_nil filled
    have here : isWordCharacter d = true := fits d List.mem_cons_self
    rw [(List.cons.inj same).1, here] at separates
    cases separates
  rw [findAfter_cons, none_here, Option.none_or]

theorem findAfter_eq_none_of_words {pattern : Pattern} (led : LedBy leads pattern)
    (clear : ∀ word ∈ words rest, ¬leads word) : pattern.findAfter before rest = none := by
  have passed : pattern.findAfter before (rest ++ []) = pattern.findAfter (before ++ rest) [] :=
    findAfter_append_of_words led clear rfl
  rw [List.append_nil] at passed
  rw [passed]
  by_contra found
  obtain ⟨_, found⟩ := Option.ne_none_iff_exists'.mp found
  obtain ⟨word, tail, same, _, filled, _⟩ := led found
  exact filled (List.append_eq_nil_iff.mp same.symm).1

theorem find?_eq_none_of_words {pattern : Pattern} (led : LedBy leads pattern) {text : Text}
    (clear : ∀ word ∈ words text, ¬leads word) : pattern.find? text = none := by
  rw [find?_eq_findAfter]
  exact findAfter_eq_none_of_words led clear

end Led

section Parts
variable {α : Type} {parts : List (Part × Span)} {next : Cursor → List (Part × Span) → Option α}
  {result : α}

/-- The pattern names no part. -/
def isUnnamed : Pattern → Bool
  | named _ _ => false
  | followed first second | either first second => first.isUnnamed && second.isUnnamed
  | optional inner => inner.isUnnamed
  | _ => true

/-- A pattern reads a stretch of the text, and goes on behind it. -/
theorem run_some {pattern : Pattern} (found : run pattern (after before rest) parts next = some result) :
    ∃ text tail ends, rest = text ++ tail ∧ (pattern.isUnnamed = true → ends = parts) ∧
      next (after (before ++ text) tail) ends = some result := by
  -- One case for each kind of pattern, of which a named part alone adds to the parts.
  induction pattern generalizing before rest parts next with
  | nothing => exact ⟨[], rest, parts, rfl, fun _ => rfl, by simpa [run] using found⟩
  | one test =>
    obtain ⟨c, tail, rfl, _, goes⟩ := run_one_some found
    exact ⟨[c], tail, parts, rfl, fun _ => rfl, goes⟩
  | many test =>
    obtain ⟨text, tail, rfl, _, goes⟩ := run_many_some found
    exact ⟨text, tail, parts, rfl, fun _ => rfl, goes⟩
  | edge => exact ⟨[], rest, parts, rfl, fun _ => rfl, by simpa using (run_edge_some found).2⟩
  | ending =>
    simp only [run] at found
    split at found
    · exact ⟨[], rest, parts, rfl, fun _ => rfl, by simpa using found⟩
    · cases found
  | remainder =>
    rw [run_remainder] at found
    exact ⟨rest, [], parts, by simp, fun _ => rfl, found⟩
  | followed first second first_reads second_reads =>
    obtain ⟨text, tail, middle, rfl, kept, goes⟩ := first_reads found
    obtain ⟨more, tail, ends, rfl, also_kept, goes⟩ := second_reads goes
    refine ⟨text ++ more, tail, ends, by simp, ?_, by simpa using goes⟩
    intro unnamed
    obtain ⟨left, right⟩ := Bool.and_eq_true_iff.mp unnamed
    rw [also_kept right, kept left]
  | either first second first_reads second_reads =>
    rcases run_either_some found with found | found
    · obtain ⟨text, tail, ends, same, kept, goes⟩ := first_reads found
      exact ⟨text, tail, ends, same, fun unnamed => kept (Bool.and_eq_true_iff.mp unnamed).1, goes⟩
    · obtain ⟨text, tail, ends, same, kept, goes⟩ := second_reads found
      exact ⟨text, tail, ends, same, fun unnamed => kept (Bool.and_eq_true_iff.mp unnamed).2, goes⟩
  | optional inner reads =>
    rcases run_optional_some found with found | goes
    · exact reads found
    · exact ⟨[], rest, parts, rfl, fun _ => rfl, by simpa using goes⟩
  | named part inner reads =>
    rw [run_named] at found
    obtain ⟨text, tail, ends, same, _, goes⟩ := reads found
    exact ⟨text, tail, _, same, fun unnamed => absurd unnamed Bool.false_ne_true, goes⟩

end Parts
end SchemaAtlas.Pattern
