import SchemaAtlas.Proofs.Script.Names
/-!
The phrases that stand by themselves begin with a whole keyword, so they pass every text without it;
where the keyword stands as a whole word, they are found.
-/
namespace SchemaAtlas.Phrase
open Pattern Cursor Text
variable {before rest : Text}

/-- The word is a keyword in some letter case. -/
abbrev Keyed (keyword : String) : Text → Prop := Folds keyword.toList

theorem standalone_word_led {keyword : String} (key : IsKeyword keyword) :
    LedBy (Keyed keyword) (standalone (word keyword)) := ledBy_edge_edge (wordy_word key)

/-- Two words with a gap between them begin with the first one as a whole. -/
theorem edge_words_led {first : String} (key : IsKeyword first) (second : String) :
    LedBy (Keyed first) (edge ++ words first second) := by
  intro α before rest parts next result found
  have flat : run (edge ++ word first ++ blanks) (after before rest) parts
      (fun middle parts => run (word second) middle parts next) = some result := found
  exact ledBy_edge_blanks (wordy_word key) flat

theorem standalone_words_led {first : String} (key : IsKeyword first) (second : String) :
    LedBy (Keyed first) (standalone (words first second)) := ledBy_followed (edge_words_led key second) _

theorem foreignKeyKeyword_led : LedBy (Keyed "FOREIGN") foreignKeyKeyword :=
  standalone_words_led (by decide) _

theorem primaryKeyKeyword_led : LedBy (Keyed "PRIMARY") primaryKeyKeyword :=
  standalone_words_led (by decide) _

theorem uniqueKeyword_led : LedBy (Keyed "UNIQUE") uniqueKeyword := standalone_word_led (by decide)

theorem checkOpening_led : LedBy (Keyed "CHECK") checkOpening :=
  ledBy_edge_parenthesis (wordy_word (by decide))

theorem notNull_led : LedBy (Keyed "NOT") notNull := standalone_words_led (by decide) _

theorem identity_led : LedBy (Keyed "IDENTITY") identity :=
  ledBy_followed (standalone_word_led (by decide)) _

theorem default_led : LedBy (Keyed "DEFAULT") default := ledBy_edge_blanks (wordy_word (by decide))

theorem references_led : LedBy (Keyed "REFERENCES") references := by
  have core : LedBy (Keyed "REFERENCES") (edge ++ word "REFERENCES" ++ blanks) :=
    ledBy_edge_blanks (wordy_word (by decide))
  unfold references
  iterate 7 apply ledBy_followed
  exact core

theorem referentialAction_led (event : String) : LedBy (Keyed "ON") (referentialAction event) :=
  ledBy_followed (ledBy_followed (ledBy_followed (edge_words_led (by decide) event) _) _) _

/-- The two spellings of the keyword, with and without an underscore. -/
def IsAutoIncrement (text : Text) : Prop :=
  ∃ first gap second, text = first ++ (gap ++ second) ∧ Keyed "AUTO" first ∧ (gap = [] ∨ gap = ['_']) ∧
    Keyed "INCREMENT" second

theorem autoIncrement_led : LedBy IsAutoIncrement autoIncrement := by
  apply ledBy_edge_edge
  intro α before rest parts next result found
  rw [run_followed, run_followed] at found
  obtain ⟨first, tail, rfl, auto, found⟩ := run_word_some found
  have auto_fits := wordCharacters_of_folds (by decide) auto
  have finish : ∀ {gap tail : Text}, gap = [] ∨ gap = ['_'] →
      run (word "INCREMENT") (after (before ++ first ++ gap) tail) parts next = some result →
      ∃ text rest, first ++ (gap ++ tail) = text ++ rest ∧ IsAutoIncrement text ∧ text ≠ [] ∧
        (∀ c ∈ text, isWordCharacter c = true) ∧ next (after (before ++ text) rest) parts = some result := by
    intro gap tail either_gap found
    obtain ⟨second, rest, rfl, increment, goes⟩ := run_word_some found
    refine ⟨first ++ (gap ++ second), rest, by simp, ⟨first, gap, second, rfl, auto, either_gap, increment⟩,
      ?_, ?_, by simpa using goes⟩
    · exact List.append_ne_nil_of_left_ne_nil (ne_nil_of_folds (by decide) auto) _
    · intro c member
      rcases List.mem_append.mp member with here | later
      · exact auto_fits c here
      · rcases List.mem_append.mp later with here | later
        · rcases either_gap with rfl | rfl
          · cases here
          · rw [List.mem_singleton.mp here]; decide
        · exact wordCharacters_of_folds (by decide) increment c later
  rcases run_optional_some found with found | found
  · obtain ⟨tail, rfl, goes⟩ := run_exactly_some found
    exact finish (Or.inr rfl) goes
  · exact finish (Or.inl rfl) (by simpa using found)

section Ahead
variable {α : Type} {parts : List (Part × Span)} {next : Cursor → List (Part × Span) → Option α} {result : α}
  {keyword : String}

theorem wordAhead_of_blanks (key : IsKeyword keyword) (start : endsWord before = false)
    (found : run (word keyword) (after before rest) parts (fun middle parts => run blanks middle parts next) =
      some result) : WordAhead (Keyed keyword) before rest := by
  obtain ⟨text, tail, rfl, folds, filled, fits, found⟩ := wordy_word key found
  obtain ⟨gap, tail, rfl, open_gap, blank, _⟩ := run_several_some found
  exact ⟨text, gap ++ tail, rfl, folds, filled, fits, start, beginsWord_of_isBlank open_gap blank tail⟩

theorem wordAhead_of_words (key : IsKeyword keyword) {second : String} (start : endsWord before = false)
    (found : run (words keyword second) (after before rest) parts next = some result) :
    WordAhead (Keyed keyword) before rest := by
  unfold words at found
  rw [run_followed, run_followed] at found
  exact wordAhead_of_blanks key start found

theorem wordAhead_of_edge (key : IsKeyword keyword) (start : endsWord before = false)
    (found : run (word keyword) (after before rest) parts (fun middle parts => run edge middle parts next) =
      some result) : WordAhead (Keyed keyword) before rest := by
  obtain ⟨text, tail, rfl, folds, filled, fits, found⟩ := wordy_word key found
  obtain ⟨stop, _⟩ := run_edge_some found
  rw [endsWord_of_fits filled fits, ne_comm, ne_eq, Bool.not_eq_true] at stop
  exact ⟨text, tail, rfl, folds, filled, fits, start, stop⟩

/-- A clause about the table begins with one of five keywords. -/
theorem constraintClause_ahead {text : Text} (found : (constraintClause.match? text).isSome = true) :
    ∃ keyword ∈ ["CONSTRAINT", "FOREIGN", "PRIMARY", "UNIQUE", "CHECK"],
      WordAhead (Keyed keyword) [] text := by
  obtain ⟨_, found⟩ := Option.isSome_iff_exists.mp found
  rw [match?_eq_matchAt] at found
  unfold matchAt constraintClause at found
  rw [run_followed] at found
  rcases run_either_some found with found | found
  · exact ⟨"CONSTRAINT", by decide, wordAhead_of_edge (by decide) rfl found⟩
  rcases run_either_some found with found | found
  · exact ⟨"FOREIGN", by decide, wordAhead_of_words (by decide) rfl found⟩
  rcases run_either_some found with found | found
  · exact ⟨"PRIMARY", by decide, wordAhead_of_words (by decide) rfl found⟩
  rcases run_either_some found with found | found
  · exact ⟨"UNIQUE", by decide, wordAhead_of_edge (by decide) rfl found⟩
  · exact ⟨"CHECK", by decide, wordAhead_of_edge (by decide) rfl found⟩

theorem alterTableAdd_ahead {text : Text} (found : (alterTableAdd.match? text).isSome = true) :
    WordAhead (Keyed "ALTER") [] text := by
  obtain ⟨_, found⟩ := Option.isSome_iff_exists.mp found
  exact wordAhead_of_words (by decide) rfl found

theorem constraintName_ahead {text : Text} (start : text.head?.any isBlank = false)
    (found : (constraintName.match? text).isSome = true) : WordAhead (Keyed "CONSTRAINT") [] text := by
  obtain ⟨_, found⟩ := Option.isSome_iff_exists.mp found
  rw [match?_eq_matchAt] at found
  unfold matchAt constraintName at found
  rw [run_followed, run_followed, run_followed, run_perhapsBlanks_none start] at found
  exact wordAhead_of_blanks (by decide) rfl found

end Ahead

section Index

/-- The pattern leaves no word unfinished where it stops. -/
def StopsOutside (pattern : Pattern) : Prop :=
  ∀ {α : Type} {before rest : Text} {parts : List (Part × Span)}
    {next : Cursor → List (Part × Span) → Option α} {result : α}, endsWord before = false →
    run pattern (after before rest) parts next = some result →
      ∃ text tail ends, rest = text ++ tail ∧ endsWord (before ++ text) = false ∧
        next (after (before ++ text) tail) ends = some result

theorem stopsOutside_gap (first : Pattern) : StopsOutside (first ++ blanks) := by
  intro α before rest parts next result _ found
  rw [run_followed] at found
  obtain ⟨text, _, ends, rfl, _, found⟩ := run_some found
  obtain ⟨gap, tail, rfl, filled, blank, goes⟩ := run_several_some found
  refine ⟨text ++ gap, tail, ends, by simp, ?_, by simpa using goes⟩
  rw [← List.append_assoc, endsWord_append filled, endsWord, List.getLast?_eq_some_getLast filled]
  exact isWordCharacter_of_isBlank (blank _ (List.getLast_mem filled))

theorem stopsOutside_named {inner : Pattern} (stops : StopsOutside inner) (part : Part) :
    StopsOutside (named part inner) := by
  intro α before rest parts next result start found
  rw [run_named] at found
  obtain ⟨text, tail, _, same, outside, goes⟩ := stops start found
  exact ⟨text, tail, _, same, outside, goes⟩

theorem stopsOutside_optional {inner : Pattern} (stops : StopsOutside inner) :
    StopsOutside (optional inner) := by
  intro α before rest parts next result start found
  rcases run_optional_some found with found | goes
  · exact stops start found
  · exact ⟨[], rest, parts, rfl, by simpa using start, by simpa using goes⟩

theorem stopsOutside_followed {first second : Pattern} (stops : StopsOutside first)
    (also_stops : StopsOutside second) : StopsOutside (first ++ second) := by
  intro α before rest parts next result start found
  rw [run_followed] at found
  obtain ⟨text, _, _, rfl, outside, found⟩ := stops start found
  obtain ⟨more, tail, ends, rfl, outside, goes⟩ := also_stops outside found
  exact ⟨text ++ more, tail, ends, by simp, by simpa using outside, by simpa using goes⟩

theorem createIndex_led : LedBy (Keyed "CREATE") createIndex := by
  unfold createIndex
  iterate 10 apply ledBy_followed
  exact ledBy_edge_blanks (wordy_word (by decide))

/-- The keyword of an index stands as a whole word behind the beginning of its definition. -/
theorem createIndex_ahead {α : Type} {parts : List (Part × Span)}
    {next : Cursor → List (Part × Span) → Option α} {result : α}
    (found : run createIndex (after before rest) parts next = some result) :
    ∃ passed tail, rest = passed ++ tail ∧ WordAhead (Keyed "INDEX") (before ++ passed) tail := by
  have led : LedBy (Keyed "CREATE") (edge ++ word "CREATE" ++ blanks) :=
    ledBy_edge_blanks (wordy_word (by decide))
  have unique : StopsOutside (optional (named .unique (word "UNIQUE" ++ blanks))) :=
    stopsOutside_optional (stopsOutside_named (stopsOutside_gap _) _)
  have clustered : StopsOutside (optional (clustering ++ blanks)) :=
    stopsOutside_optional (stopsOutside_gap _)
  have stops : StopsOutside (edge ++ word "CREATE" ++ blanks ++
      optional (named .unique (word "UNIQUE" ++ blanks)) ++ optional (clustering ++ blanks)) :=
    stopsOutside_followed (stopsOutside_followed (stopsOutside_gap _) unique) clustered
  -- What may stand in front of the keyword ends with a gap, and so no word goes on into it.
  unfold createIndex at found
  iterate 10 rw [run_followed] at found
  obtain ⟨_, _, _, _, _, _, start, _⟩ := led found
  obtain ⟨passed, tail, _, rfl, outside, goes⟩ := stops start found
  exact ⟨passed, tail, rfl, wordAhead_of_blanks (by decide) outside goes⟩

theorem find?_createIndex {text : Text} (clear : ∀ word ∈ Text.words text, ¬Keyed "INDEX" word) :
    createIndex.find? text = none := by
  by_contra found
  obtain ⟨_, found⟩ := Option.ne_none_iff_exists'.mp found
  rw [find?_eq_findAfter] at found
  obtain ⟨before, rest, rfl, trial⟩ := findAfter_some found
  obtain ⟨passed, tail, rfl, ahead⟩ := createIndex_ahead trial
  obtain ⟨word, member, keyed⟩ := ahead.mem_words
  exact clear word (by simpa using member) keyed

end Index

section Occur
variable {α : Type} {first second : String} {word other : Text} {parts : List (Part × Span)}
  {next : Cursor → List (Part × Span) → Option α}

theorem run_words (other_key : IsKeyword second) (spelled : Spells first word)
    (other_spelled : Spells second other) :
    run (words first second) (after before (word ++ ' ' :: (other ++ rest))) parts next =
      next (after (before ++ word ++ [' '] ++ other) rest) parts := by
  unfold words
  rw [run_followed, run_followed, run_word spelled,
    run_blanks ((bare_of_spells other_key other_spelled).start rest), run_word other_spelled]

theorem matchAt_standalone_word (key : IsKeyword first) (spelled : Spells first word)
    (start : endsWord before = false) (stop : beginsWord rest = false) :
    ((standalone (Pattern.word first)).matchAt (after before (word ++ rest))).isSome = true := by
  have bare := bare_of_spells key spelled
  unfold matchAt standalone
  rw [run_followed, run_followed, run_edge (bare.opens start rest), run_word spelled,
    run_edge (bare.closes stop before)]
  rfl

theorem matchAt_standalone_words (key : IsKeyword first) (other_key : IsKeyword second)
    (spelled : Spells first word) (other_spelled : Spells second other)
    (start : endsWord before = false) (stop : beginsWord rest = false) :
    ((standalone (words first second)).matchAt
      (after before (word ++ ' ' :: (other ++ rest)))).isSome = true := by
  have bare := bare_of_spells key spelled
  have other_bare := bare_of_spells other_key other_spelled
  unfold matchAt standalone
  rw [run_followed, run_followed, run_edge (bare.opens start _), run_words other_key spelled other_spelled,
    run_edge (other_bare.closes stop _)]
  rfl

end Occur

/-- The name behind CONSTRAINT is found. -/
theorem match?_constraintName {letters gap name : Text} (spelled : Spells "CONSTRAINT" letters) (filled : gap ≠ [])
    (blank : ∀ c ∈ gap, isBlank c = true) (named : IsWord name) (outside : beginsWord rest = false) :
    ∃ span, constraintName.match? (letters ++ (gap ++ (name ++ rest))) =
      some ⟨span, [(.name, Span.behind (letters ++ gap) name)]⟩ := by
  have bare := bare_of_spells (by decide) spelled
  refine ⟨?span, ?reads⟩
  case reads =>
    rw [match?_eq_matchAt]
    unfold matchAt constraintName
    rw [run_followed, run_followed, run_followed, run_perhapsBlanks_none (bare.start _), run_word spelled]
    apply run_several filled blank (named.start _)
    rw [run_named]
    apply run_identifier named outside
    rfl

/-- A clause that begins with another keyword has no name. -/
theorem match?_constraintName_none {keyword : String} {letters : Text} (key : IsKeyword keyword)
    (other : keyword ≠ "CONSTRAINT") (spelled : Spells keyword letters) (outside : beginsWord rest = false) :
    constraintName.match? (letters ++ rest) = none := by
  have bare := bare_of_spells key spelled
  by_contra found
  have ahead := constraintName_ahead (bare.start rest) (Option.ne_none_iff_isSome.mp found)
  exact not_wordAhead bare outside (not_folds_of_spells (by decide) key spelled other.symm) ahead

/-- A check that begins the text is found there. -/
theorem find?_checkOpening {letters gap : Text} (spelled : Spells "CHECK" letters)
    (blank : ∀ c ∈ gap, isBlank c = true) (rest : Text) :
    checkOpening.find? (letters ++ gap ++ '(' :: rest) = some ⟨⟨0, (letters ++ gap).length + 1⟩, []⟩ := by
  have bare := bare_of_spells (by decide) spelled
  have here : checkOpening.matchAt (after [] (letters ++ (gap ++ '(' :: rest))) =
      some ⟨⟨0, (letters ++ gap ++ ['(']).length⟩, []⟩ := by
    unfold matchAt checkOpening
    rw [run_followed, run_followed, run_followed, run_edge (bare.opens rfl _), run_word spelled]
    apply run_many blank rfl
    rw [run_exactly]
    rfl
  rw [List.append_assoc, find?_eq_findAfter, findAfter_of_matchAt here, List.length_append]
  rfl

/-- A reference is found where it stands, and its names are read from any text with it at that place. -/
theorem matchAt_references {before letters table target : Text} (spelled : Spells "REFERENCES" letters)
    (start : endsWord before = false) (table_bare : IsBare table) (target_bare : IsBare target) (tail : Text) :
    let rest := fun tail => letters ++ ' ' :: (table ++ '(' :: (target ++ ')' :: tail))
    ∃ found, references.findAfter before (rest tail) = some found ∧
      ∀ other, found.text? .table (before ++ rest other) = some table ∧
        found.text? .column (before ++ rest other) = some target := by
  intro rest
  have bare := bare_of_spells (by decide) spelled
  have here : ∃ span, references.matchAt (after before (rest tail)) =
      some ⟨span, [(.column, Span.behind (before ++ letters ++ [' '] ++ table ++ ['(']) target),
        (.table, Span.behind (before ++ letters ++ [' ']) table)]⟩ := by
    refine ⟨?span, ?reads⟩
    case reads =>
      unfold matchAt references
      rw [run_followed, run_followed, run_followed, run_followed, run_followed, run_followed, run_followed,
        run_followed, run_followed, run_edge (bare.opens start _), run_word spelled,
        run_blanks (table_bare.start _), run_named]
      apply run_qualified table_bare.word rfl not_dotAhead_opening
      rw [run_perhapsBlanks_none rfl, run_exactly, run_perhapsBlanks_none (target_bare.start _), run_named]
      apply run_identifier target_bare.word rfl
      rw [run_perhapsBlanks_none rfl, run_exactly]
      rfl
  obtain ⟨span, here⟩ := here
  refine ⟨_, findAfter_of_matchAt here, fun other => ⟨?_, ?_⟩⟩
  · exact Match.text?_of_part _ ('(' :: (target ++ ')' :: other)) rfl (by simp [rest])
  · exact Match.text?_of_part _ (')' :: other) rfl (by simp [rest])

end SchemaAtlas.Phrase
