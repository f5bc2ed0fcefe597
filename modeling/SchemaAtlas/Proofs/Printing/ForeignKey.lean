import SchemaAtlas.Proofs.Printing.Clause
/-!
Reading printed foreign keys. What a clause says of deletions and of changes is told apart by the word
behind ON, and a match of the whole begins at the keyword, even if a name before it ends like one.
-/
namespace SchemaAtlas
open Text Pattern Cursor

namespace Phrase
variable {α : Type} {before rest text : Text} {parts : List (Part × Span)}
  {next : Cursor → List (Part × Span) → Option α} {result : α}

theorem run_words_ne {first second other : String} (key : IsKeyword first) (other_key : IsKeyword other)
    (spelled : Spells other text) (stop : beginsWord rest = false)
    (different : ¬first.toList <+: other.toList) :
    run (words first second) (after before (text ++ rest)) parts next = none := by
  unfold words
  rw [run_followed, run_followed, run_word_ne key other_key spelled stop different]

end Phrase

namespace Printing
open Phrase

section Action
variable {α : Type} {before rest text : Text} {parts : List (Part × Span)}
  {next : Cursor → List (Part × Span) → Option α} {result : α} {action : Action}

theorem split_action (printed : Prints action.lexemes text) : match action with
    | .cascade => Spells "CASCADE" text
    | .restrict => Spells "RESTRICT" text
    | .setNull =>
      ∃ first second, Spells "SET" first ∧ Spells "NULL" second ∧ text = first ++ ' ' :: second
    | .setDefault =>
      ∃ first second, Spells "SET" first ∧ Spells "DEFAULT" second ∧ text = first ++ ' ' :: second
    | .noAction =>
      ∃ first second, Spells "NO" first ∧ Spells "ACTION" second ∧ text = first ++ ' ' :: second := by
  have single : ∀ {keyword : String}, Prints [.keyword keyword] text → Spells keyword text := by
    intro keyword printed
    obtain ⟨word, tail, spelled, behind, same⟩ := spelled_keyword.mp printed
    obtain rfl := spelled_nil.mp behind
    rw [(List.cons.inj same).2, List.append_nil]
    exact spelled
  have pair : ∀ {first second : String}, Prints [.keyword first, .keyword second] text →
      ∃ word other, Spells first word ∧ Spells second other ∧ text = word ++ ' ' :: other := by
    intro first second printed
    obtain ⟨word, tail, spelled, behind, same⟩ := spelled_keyword.mp printed
    obtain ⟨other, rest, other_spelled, last, rfl⟩ := spelled_keyword.mp behind
    obtain rfl := spelled_nil.mp last
    refine ⟨word, other, spelled, other_spelled, ?_⟩
    rw [(List.cons.inj same).2, List.append_nil]
  cases action with
  | cascade => exact single printed
  | setNull => exact pair printed
  | setDefault => exact pair printed
  | noAction => exact pair printed
  | restrict => exact single printed

theorem run_action (printed : Prints action.lexemes text) (stop : beginsWord rest = false)
    (goes : next (after (before ++ text) rest) parts = some result) :
    run Phrase.action (after before (text ++ rest)) parts next = some result := by
  have parts_read := split_action printed
  have pair : ∀ {first second : String} {word other : Text}, IsKeyword second → Spells first word →
      Spells second other → text = word ++ ' ' :: other →
      run (Phrase.words first second) (after before (word ++ ' ' :: (other ++ rest))) parts next = some result := by
    rintro first second word other key spelled other_spelled rfl
    rw [run_words key spelled other_spelled]
    simpa using goes
  unfold Phrase.action
  rw [run_either, run_either, run_either, run_either]
  -- In each case the alternatives before the printed one fail at their first word, or at the second of SET.
  cases action with
  | cascade => rw [run_word parts_read, goes, Option.some_or]
  | restrict =>
    rw [run_word_ne (by decide) (by decide) parts_read stop (by decide),
      run_words_ne (by decide) (by decide) parts_read stop (by decide),
      run_words_ne (by decide) (by decide) parts_read stop (by decide),
      run_words_ne (by decide) (by decide) parts_read stop (by decide), run_word parts_read, goes]
    rfl
  | setNull =>
    obtain ⟨first, second, spelled, other_spelled, rfl⟩ := parts_read
    rw [List.append_assoc, List.cons_append, run_word_ne (by decide) (by decide) spelled rfl (by decide),
      pair (by decide) spelled other_spelled rfl]
    rfl
  | setDefault =>
    obtain ⟨first, second, spelled, other_spelled, rfl⟩ := parts_read
    have not_null : run (Phrase.words "SET" "NULL") (after before (first ++ ' ' :: (second ++ rest))) parts next =
        none := by
      unfold Phrase.words
      rw [run_followed, run_followed, run_word spelled,
        run_blanks ((bare_of_spells (by decide) other_spelled).start rest),
        run_word_ne (by decide) (by decide) other_spelled stop (by decide)]
    rw [List.append_assoc, List.cons_append, run_word_ne (by decide) (by decide) spelled rfl (by decide), not_null,
      pair (by decide) spelled other_spelled rfl]
    rfl
  | noAction =>
    obtain ⟨first, second, spelled, other_spelled, rfl⟩ := parts_read
    rw [List.append_assoc, List.cons_append, run_word_ne (by decide) (by decide) spelled rfl (by decide),
      run_words_ne (by decide) (by decide) spelled rfl (by decide),
      run_words_ne (by decide) (by decide) spelled rfl (by decide), pair (by decide) spelled other_spelled rfl]
    rfl

/-- An action is told by its words in capitals, with an underscore between them. -/
theorem label_action (printed : Prints action.lexemes text) :
    String.ofList (Text.collapse '_' (uppercase text)) = action.label := by
  have parts_read := split_action printed
  rw [uppercase_of_ascii (printed.tidy (allSound_action action)).ascii]
  have pair : ∀ {first second : String} {word other : Text}, Spells first word → Spells second other →
      capitals (word ++ ' ' :: other) = first.toList ++ ' ' :: second.toList := by
    intro first second word other spelled other_spelled
    rw [← spelled, ← other_spelled]
    simp [capitals]
  cases action with
  | cascade => rw [parts_read]; decide +kernel
  | restrict => rw [parts_read]; decide +kernel
  | setNull =>
    obtain ⟨first, second, spelled, other_spelled, rfl⟩ := parts_read
    rw [pair spelled other_spelled]
    decide +kernel
  | setDefault =>
    obtain ⟨first, second, spelled, other_spelled, rfl⟩ := parts_read
    rw [pair spelled other_spelled]
    decide +kernel
  | noAction =>
    obtain ⟨first, second, spelled, other_spelled, rfl⟩ := parts_read
    rw [pair spelled other_spelled]
    decide +kernel

theorem endsWord_action (printed : Prints action.lexemes text) : endsWord (before ++ text) = true := by
  have parts_read := split_action printed
  have pair : ∀ {second : String} {word other : Text}, IsKeyword second → Spells second other →
      endsWord (before ++ (word ++ ' ' :: other)) = true := by
    intro second word other key spelled
    have ends := (bare_of_spells key spelled).endsWord (before ++ (word ++ [' ']))
    simpa using ends
  cases action with
  | cascade => exact (bare_of_spells (by decide) parts_read).endsWord before
  | restrict => exact (bare_of_spells (by decide) parts_read).endsWord before
  | setNull =>
    obtain ⟨first, second, _, spelled, rfl⟩ := parts_read
    exact pair (by decide) spelled
  | setDefault =>
    obtain ⟨first, second, _, spelled, rfl⟩ := parts_read
    exact pair (by decide) spelled
  | noAction =>
    obtain ⟨first, second, _, spelled, rfl⟩ := parts_read
    exact pair (by decide) spelled

end Action

section Event
variable {event other : String} {before rest text on letters : Text} {action : Action}

/-- The action for an event is found behind the word for it. -/
theorem matchAt_event (key : IsKeyword event) (spelled : Spells "ON" on) (event_spelled : Spells event letters)
    (printed : Prints action.lexemes text) (start : endsWord before = false) (stop : beginsWord rest = false) :
    let clause := on ++ ' ' :: (letters ++ ' ' :: (text ++ rest))
    ∃ found, (referentialAction event).matchAt (after before clause) = some found ∧
      found.text? .action (before ++ clause) = some text := by
  intro clause
  have bare := bare_of_spells (by decide) spelled
  have start_text : (text ++ rest).head?.any isBlank = false := by
    obtain ⟨c, others, rfl⟩ := List.exists_cons_of_ne_nil (printed.filled (allSound_action action))
    exact printed.start (allSound_action action)
  have stops : ∀ before : Text, endsWord (before ++ text) ≠ beginsWord rest := by
    intro before
    rw [endsWord_action printed, stop]
    decide
  have here : ∃ span, (referentialAction event).matchAt (after before clause) =
      some ⟨span, [(.action, Span.behind (before ++ on ++ [' '] ++ letters ++ [' ']) text)]⟩ := by
    refine ⟨?span, ?reads⟩
    case reads =>
      unfold matchAt referentialAction
      rw [run_followed, run_followed, run_followed, run_followed, run_edge (bare.opens start _),
        run_words key spelled event_spelled, run_blanks start_text, run_named]
      apply run_action printed stop
      rw [run_edge (stops _)]
      rfl
  obtain ⟨span, here⟩ := here
  exact ⟨_, here, Match.text?_of_part _ rest rfl (by simp [clause])⟩

theorem matchAt_event_none (key : IsKeyword event) (other_key : IsKeyword other)
    (different : ¬event.toList <+: other.toList) (spelled : Spells "ON" on)
    (other_spelled : Spells other letters) (start : endsWord before = false) (stop : beginsWord rest = false) :
    (referentialAction event).matchAt (after before (on ++ ' ' :: (letters ++ rest))) = none := by
  have bare := bare_of_spells (by decide) spelled
  have other_bare := bare_of_spells other_key other_spelled
  unfold matchAt referentialAction Phrase.words
  rw [run_followed, run_followed, run_followed, run_followed, run_edge (bare.opens start _), run_followed,
    run_followed, run_word spelled, run_blanks (other_bare.start _),
    run_word_ne key other_key other_spelled stop different]

theorem spaced_action (spelled : Spelled action.lexemes text) : ∃ act, text = ' ' :: act := by
  have starts : startsWithKeyword action.lexemes = true := by cases action <;> rfl
  rcases spelled.start (allSound_action action) starts with rfl | ⟨c, act, _, rfl⟩
  · have unprinted := spelled.eq_nil
    cases action <;> cases unprinted
  · exact ⟨c :: act, rfl⟩

theorem endsWord_space (before : Text) : endsWord (before ++ [' ']) = false := by
  have space : isWordCharacter ' ' = false := by decide
  simp [endsWord, space]

theorem findAfter_event (key : IsKeyword event) (spelled : Spelled (eventLexemes event (some action)) text)
    (stop : beginsWord rest = false) (before : Text) :
    ∃ found act, (referentialAction event).findAfter before (text ++ rest) = some found ∧
      found.text? .action (before ++ (text ++ rest)) = some act ∧ Prints action.lexemes act := by
  obtain ⟨on, tail, on_spelled, behind, rfl⟩ := spelled_keyword.mp spelled
  obtain ⟨letters, last, event_spelled, finish, rfl⟩ := spelled_keyword.mp behind
  obtain ⟨act, rfl⟩ := spaced_action finish
  obtain ⟨found, here, part⟩ :=
    matchAt_event key on_spelled event_spelled finish (endsWord_space before) stop
  have whole : ' ' :: (on ++ ' ' :: (letters ++ ' ' :: act)) ++ rest =
      ' ' :: (on ++ ' ' :: (letters ++ ' ' :: (act ++ rest))) := by simp
  refine ⟨found, act, ?_, ?_, finish⟩
  · rw [whole, findAfter_cons_of_led (referentialAction_led event) (by decide), findAfter_of_matchAt here]
  · rw [whole]
    simpa using part

theorem findAfter_other_event (key : IsKeyword event) (other_key : IsKeyword other)
    (different : ¬event.toList <+: other.toList) (not_on : "ON" ≠ other) {action : Option Action}
    (spelled : Spelled (eventLexemes other action) text) (stop : beginsWord rest = false) :
    (referentialAction event).findAfter before (text ++ rest) =
      (referentialAction event).findAfter (before ++ text) rest := by
  cases action with
  | none =>
    obtain rfl := spelled_nil.mp spelled
    rw [List.nil_append, List.append_nil]
  | some action =>
    have led : LedBy (Keyed "ON") (referentialAction event) := referentialAction_led event
    obtain ⟨on, tail, on_spelled, behind, rfl⟩ := spelled_keyword.mp spelled
    have clear : ∀ word ∈ Text.words tail, ¬Keyed "ON" word :=
      behind.not_folds (allSound_cons.mpr ⟨other_key, allSound_action action⟩) (by decide)
        (lacks_keyword.mpr ⟨not_on, lacks_action action (by decide)⟩)
    obtain ⟨letters, last, other_spelled, finish, rfl⟩ := spelled_keyword.mp behind
    -- The keyword ON is there, so the match fails only at the word for the event.
    have none_here : (referentialAction event).matchAt (after (before ++ [' '])
        (on ++ (' ' :: (letters ++ last) ++ rest))) = none := by
      have outside : beginsWord (last ++ rest) = false := by
        cases last with
        | nil => exact stop
        | cons c last => exact finish.outside
      have here := matchAt_event_none key other_key different on_spelled other_spelled (endsWord_space before)
        outside
      simpa using here
    have bare := bare_of_spells (by decide) on_spelled
    rw [List.cons_append, List.append_assoc, findAfter_cons_of_led led (by decide),
      findAfter_word led bare none_here, findAfter_append_of_words led clear stop]
    simp

theorem findAfter_event_nil (event : String) (before : Text) :
    (referentialAction event).findAfter before [] = none := by
  have led : LedBy (Keyed "ON") (referentialAction event) := referentialAction_led event
  apply findAfter_eq_none_of_words led
  rw [words_nil]
  exact fun _ member => absurd member List.not_mem_nil

/-- What is read for an event, if nothing of it is left behind the place where it is printed. -/
theorem action_of_event (key : IsKeyword event) {action : Option Action} {whole : Text}
    (spelled : Spelled (eventLexemes event action) text) (stop : beginsWord rest = false)
    (same : whole = before ++ (text ++ rest))
    (reached : (referentialAction event).find? whole = (referentialAction event).findAfter before (text ++ rest))
    (nothing : (referentialAction event).findAfter before rest = none) :
    ForeignKeyClause.action (referentialAction event) whole = (action.map Action.label).getD "NO_ACTION" := by
  unfold ForeignKeyClause.action
  rw [reached]
  cases action with
  | none =>
    obtain rfl := spelled_nil.mp spelled
    rw [List.nil_append, nothing]
    rfl
  | some action =>
    obtain ⟨found, act, here, part, printed⟩ := findAfter_event key spelled stop before
    rw [here, Option.bind_some, same, part]
    exact label_action printed

theorem action_events {onDelete onUpdate : Option Action}
    (spelled : Spelled (eventLexemes "DELETE" onDelete ++ eventLexemes "UPDATE" onUpdate) text) :
    ForeignKeyClause.action Phrase.onDelete text = (onDelete.map Action.label).getD "NO_ACTION" ∧
      ForeignKeyClause.action Phrase.onUpdate text = (onUpdate.map Action.label).getD "NO_ACTION" := by
  obtain ⟨left, right, first, second, rfl⟩ := spelled_append.mp spelled
  have whole : right ++ [] = right := List.append_nil right
  -- Behind the first event nothing is left for it, and the search for the second one passes the first.
  constructor
  · have passed : (referentialAction "DELETE").findAfter [] (right ++ []) =
        (referentialAction "DELETE").findAfter ([] ++ right) [] :=
      findAfter_other_event (by decide) (by decide) (by decide) (by decide) second rfl
    rw [whole, findAfter_event_nil] at passed
    exact action_of_event (by decide) first second.outside rfl (find?_eq_findAfter _) passed
  · have passed : (referentialAction "UPDATE").findAfter [] (left ++ right) =
        (referentialAction "UPDATE").findAfter ([] ++ left) right :=
      findAfter_other_event (by decide) (by decide) (by decide) (by decide) first second.outside
    have nothing : (referentialAction "UPDATE").findAfter left [] = none := findAfter_event_nil "UPDATE" left
    have reached : (referentialAction "UPDATE").find? (left ++ right) =
        (referentialAction "UPDATE").findAfter left (right ++ []) := by
      rw [find?_eq_findAfter, passed, whole, List.nil_append]
    exact action_of_event (by decide) second rfl (by rw [whole]) reached nothing

end Event

section Match
variable {before word key rest : Text}

theorem words_pair (word_bare : IsBare word) (key_bare : IsBare key) :
    Text.words (word ++ ' ' :: (key ++ [' '])) = [word, key] := by
  have space : isWordCharacter ' ' = false := by decide
  rw [words_append_cons _ _ space, words_append_cons _ _ space, words_self word_bare.1 word_bare.fits,
    words_self key_bare.1 key_bare.fits, words_nil]
  rfl

/-- A match reads two words and blanks up to its first parenthesis. -/
theorem opening_of_foreignKey {found : Match}
    (here : foreignKeyConstraint.matchAt (after before rest) = some found) :
    ∃ opening tail, rest = opening ++ '(' :: tail ∧ '(' ∉ opening ∧ beginsWord opening = true ∧
      (Text.words opening).length = 2 := by
  unfold matchAt foreignKeyConstraint foreignKey Phrase.words at here
  rw [run_followed, run_followed, run_followed, run_followed, run_followed, run_followed, run_followed,
    run_followed, run_followed, run_followed] at here
  obtain ⟨first, _, rfl, _, filled, fits, here⟩ := wordy_word (by decide) here
  obtain ⟨gap, _, rfl, gap_filled, gap_blank, here⟩ := run_several_some here
  obtain ⟨second, _, rfl, _, second_filled, second_fits, here⟩ := wordy_word (by decide) here
  obtain ⟨last, _, rfl, last_blank, here⟩ := run_many_some here
  obtain ⟨inner, tail, rfl, _⟩ := run_parenthesized_some here
  have other : ∀ {text : Text}, (∀ c ∈ text, isWordCharacter c = true ∨ isBlank c = true) →
      '(' ∉ text := by
    intro text each member
    exact absurd (each _ member) (by decide)
  refine ⟨first ++ (gap ++ (second ++ last)), inner ++ ')' :: tail, by simp, ?_,
    beginsWord_of_fits filled fits _, ?_⟩
  · simp only [List.mem_append, not_or]
    exact ⟨other fun c member => Or.inl (fits c member), other fun c member => Or.inr (gap_blank c member),
      other fun c member => Or.inl (second_fits c member), other fun c member => Or.inr (last_blank c member)⟩
  · rw [words_append (beginsWord_of_isBlank gap_filled gap_blank _), words_self filled fits,
      words_of_blank gap_blank, words_append (beginsWord_of_blank last_blank), words_self second_filled second_fits,
      words_eq_nil_of_blank last_blank]
    rfl

/-- No match begins before the last two words in front of the parenthesis. -/
theorem matchAt_foreignKey_none (word_bare : IsBare word) (key_bare : IsBare key) {front : Text}
    (absent : '(' ∉ front) : foreignKeyConstraint.matchAt
      (after before (front ++ ' ' :: (word ++ ' ' :: (key ++ ' ' :: '(' :: rest)))) = none := by
  by_contra found
  obtain ⟨_, found⟩ := Option.ne_none_iff_exists'.mp found
  obtain ⟨opening, tail, same, opening_absent, begins, two⟩ := opening_of_foreignKey found
  have printed_absent : '(' ∉ front ++ ' ' :: (word ++ ' ' :: (key ++ [' '])) := by
    simp [absent, word_bare.not_mem (c := '(') (by decide), key_bare.not_mem (c := '(') (by decide)]
  have whole : (front ++ ' ' :: (word ++ ' ' :: (key ++ [' ']))) ++ '(' :: rest = opening ++ '(' :: tail := by
    simpa using same
  obtain ⟨rfl, _⟩ := split_unique printed_absent opening_absent whole
  -- Both words of the opening are behind the front, so the front has none, although the match begins with it.
  have none_before : Text.words front = [] := by
    rw [words_append_cons _ _ (by decide), words_pair word_bare key_bare, List.length_append] at two
    exact List.length_eq_zero_iff.mp (by simpa using two)
  cases front with
  | nil => cases begins
  | cons c front =>
    have here : beginsWord (c :: front) = true := begins
    exact words_ne_nil here none_before

theorem findAfter_foreignKey (word_bare : IsBare word) (key_bare : IsBare key) (absent : '(' ∉ before)
    (spaced : before = [] ∨ ∃ front, before = front ++ [' ']) :
    foreignKeyConstraint.findAfter [] (before ++ (word ++ ' ' :: (key ++ ' ' :: '(' :: rest))) =
      foreignKeyConstraint.findAfter before (word ++ ' ' :: (key ++ ' ' :: '(' :: rest)) := by
  apply findAfter_append
  rintro first second same filled
  rcases spaced with rfl | ⟨front, rfl⟩
  · exact absurd (List.append_eq_nil_iff.mp same.symm).2 filled
  · obtain ⟨inside, c, rfl⟩ := List.eq_nil_or_concat second |>.resolve_left filled
    rw [List.concat_eq_append, ← List.append_assoc] at same
    obtain ⟨rfl, last⟩ := List.append_inj' same rfl
    obtain rfl := (List.cons.inj last).1
    have inside_absent : '(' ∉ inside := fun member => absent (by simp [member])
    have none_here : foreignKeyConstraint.matchAt (after ([] ++ first)
        (inside ++ ' ' :: (word ++ ' ' :: (key ++ ' ' :: '(' :: rest)))) = none :=
      matchAt_foreignKey_none word_bare key_bare inside_absent
    simpa using none_here

/-- The parts of a foreign key are found where they stand, and the match ends behind the last of them. -/
theorem matchAt_foreignKey {letters : Text} (columns targets : List Identifier) (table : Identifier) {events : Text}
    (spelled : Spells "FOREIGN" word) (key_spelled : Spells "KEY" key) (reference : Spells "REFERENCES" letters)
    (dotless : '.' ∉ events) (before : Text) :
    let clause := word ++ ' ' :: (key ++ ' ' :: '(' :: (listing columns ++ ')' :: ' ' :: (letters ++ ' ' ::
      (table.text ++ ' ' :: '(' :: (listing targets ++ ')' :: events)))))
    ∃ found, foreignKeyConstraint.matchAt (after before clause) = some found ∧
      found.text? .columns (before ++ clause) = some (listing columns) ∧
      found.text? .table (before ++ clause) = some table.text ∧
      found.text? .targetColumns (before ++ clause) = some (listing targets) ∧
      (before ++ clause).drop found.span.stop = events := by
  intro clause
  have bare := bare_of_spells (by decide) reference
  have table_dotless : '.' ∉ ' ' :: '(' :: (listing targets ++ ')' :: events) := by
    simp [dotless, (tidy_listing targets).not_mem (c := '.') (by decide)]
  let opening := before ++ word ++ [' '] ++ key ++ [' ']
  let middle := opening ++ ['('] ++ listing columns ++ [')'] ++ [' '] ++ letters ++ [' ']
  let closing := middle ++ table.text ++ [' ']
  let whole := closing ++ ['('] ++ listing targets ++ [')']
  have here : foreignKeyConstraint.matchAt (after before clause) =
      some ⟨⟨before.length, whole.length⟩, [(.targetColumns, Span.behind (closing ++ ['(']) (listing targets)),
        (.table, Span.behind middle table.text),
        (.columns, Span.behind (opening ++ ['(']) (listing columns))]⟩ := by
    unfold matchAt foreignKeyConstraint foreignKey
    rw [run_followed, run_followed, run_followed, run_followed, run_followed, run_followed, run_followed,
      run_followed, run_words (by decide) spelled key_spelled]
    apply run_perhapsBlanks rfl
    apply run_parenthesized (flat_listing columns)
    apply run_perhapsBlanks (bare.start _)
    rw [run_word reference, run_blanks (table.bare.start _), run_named]
    apply run_qualified table.bare.word rfl (not_dotAhead_of_not_mem table_dotless)
    apply run_perhapsBlanks rfl
    apply run_parenthesized (flat_listing targets)
    rfl
  have split : before ++ clause = whole ++ events := by simp [clause, whole, closing, middle, opening]
  refine ⟨_, here, ?_, ?_, ?_, ?_⟩
  · exact Match.text?_of_part _ (')' :: ' ' :: (letters ++ ' ' ::
      (table.text ++ ' ' :: '(' :: (listing targets ++ ')' :: events)))) rfl (by simp [clause, opening])
  · exact Match.text?_of_part _ (' ' :: '(' :: (listing targets ++ ')' :: events)) rfl
      (by simp [clause, middle, opening])
  · exact Match.text?_of_part _ (')' :: events) rfl (by simp [clause, closing, middle, opening])
  · rw [split]
    exact List.drop_left

end Match

theorem read?_foreignKey {clause : ClauseDescription} {links : List (Identifier × Identifier)}
    {table : Identifier} {onDelete onUpdate : Option Action} {text : Text}
    (printed : Prints (clause.declarationLexemes ++ (ClauseBody.foreignKey links table onDelete onUpdate).lexemes)
      text) (filled : links ≠ []) :
    ForeignKeyClause.read? text = some ⟨links.map (·.1.name), table.name, links.map (·.2.name),
      (onDelete.map Action.label).getD "NO_ACTION", (onUpdate.map Action.label).getD "NO_ACTION"⟩ := by
  obtain ⟨before, word, tail, rfl, spelled, behind, start, absent, spaced⟩ :=
    ClauseDescription.split_declaration printed
  obtain ⟨key, rest, key_spelled, behind_key, rfl⟩ := spelled_keyword.mp behind
  obtain ⟨rest, behind_columns, rfl⟩ := spelled_group_spaced.mp behind_key
  obtain ⟨letters, rest, reference, behind_reference, rfl⟩ := spelled_keyword.mp behind_columns
  obtain ⟨rest, behind_table, rfl⟩ := spelled_name.mp behind_reference
  obtain ⟨events, finish, rfl⟩ := spelled_group_spaced.mp behind_table
  have sound : AllSound (eventLexemes "DELETE" onDelete ++ eventLexemes "UPDATE" onUpdate) :=
    allSound_append.mpr ⟨allSound_event (by decide) onDelete, allSound_event (by decide) onUpdate⟩
  have dotless : '.' ∉ events := (finish.tidy sound).not_mem (by decide)
  obtain ⟨found, here, columns_text, table_text, targets_text, tail_text⟩ :=
    matchAt_foreignKey (links.map Prod.fst) (links.map Prod.snd) table spelled key_spelled reference dotless before
  have bare := bare_of_spells (by decide) spelled
  have key_bare := bare_of_spells (by decide) key_spelled
  obtain ⟨on_delete, on_update⟩ := action_events finish
  have names : ∀ side : Identifier × Identifier → Identifier,
      ForeignKeyClause.names (listing (links.map side)) = links.map fun link => (side link).name := by
    intro side
    rw [names_listing _ (by simpa using filled), List.map_map]
    rfl
  unfold ForeignKeyClause.read?
  rw [find?_eq_findAfter, findAfter_foreignKey bare key_bare absent spaced, findAfter_of_matchAt here]
  simp only [Option.bind_eq_bind, Option.bind_some, columns_text, table_text, targets_text, tail_text, names,
    Name.cleanQualified_word table.bare.word, on_delete, on_update]
  rfl

end Printing
end SchemaAtlas
