import SchemaAtlas.Schema.Basic
import SchemaAtlas.Proofs.Script.Delimiters
import SchemaAtlas.Proofs.Script.Segmentation
/-!
Spellings of a name. A name may be written as a word or in delimiters, behind a qualifier and with blanks around it;
whichever of its spellings a script uses, the same name is read. A list of columns is read name by name, and the sort
orders behind the names are passed over.
-/
namespace SchemaAtlas
open Text Pattern Cursor

namespace Name

/-- A name as it is written: by itself if it is a word, or in delimiters that it does not close. -/
inductive IsSpelling (name : Text) : Text → Prop where
  | word (word : IsWord name) : IsSpelling name name
  | delimited {opening closing : Char}
    (pair : (opening, closing) ∈ [('[', ']'), ('"', '"'), ('\x60', '\x60'), ('\'', '\'')]) (filled : name ≠ [])
    (closed : closing ∉ name) : IsSpelling name (enclosed opening closing name)

/-- What may stand in front of a name: nothing, or a qualifier in any spelling and a dot. -/
inductive IsQualifier : Text → Prop where
  | absent : IsQualifier []
  | dotted {qualifier spelling gap behind : Text} (spelled : IsSpelling qualifier spelling)
    (blank : ∀ c ∈ gap, isBlank c = true) (behind_blank : ∀ c ∈ behind, isBlank c = true) :
    IsQualifier (spelling ++ (gap ++ '.' :: behind))

/-- A name where a script refers to it. -/
inductive Mentions (name : Text) : Text → Prop where
  | intro {lead front spelling tail : Text} (lead_blank : ∀ c ∈ lead, isBlank c = true) (qualified : IsQualifier front)
    (spelled : IsSpelling name spelling) (tail_blank : ∀ c ∈ tail, isBlank c = true) :
    Mentions name (lead ++ (front ++ spelling ++ tail))

/-- What may stand behind a name in a list: nothing, or ASC or DESC in any letter case. -/
inductive IsSortOrder : Text → Prop where
  | absent : IsSortOrder []
  | given {gap keyword : Text} (filled : gap ≠ []) (blank : ∀ c ∈ gap, isBlank c = true)
    (spelled : Spells "ASC" keyword ∨ Spells "DESC" keyword) : IsSortOrder (gap ++ keyword)

/-- A name where a list of columns has it. -/
inductive Lists (name : Text) : Text → Prop where
  | intro {lead spelling order tail : Text} (lead_blank : ∀ c ∈ lead, isBlank c = true)
    (spelled : IsSpelling name spelling) (sorted : IsSortOrder order) (tail_blank : ∀ c ∈ tail, isBlank c = true) :
    Lists name (lead ++ (spelling ++ order ++ tail))

section Spelling
variable {name spelling : Text}

theorem IsSpelling.identifier (spelled : IsSpelling name spelling) : Phrase.IsIdentifier spelling := by
  cases spelled with
  | word word => exact .plain word
  | delimited pair filled closed => exact .delimited pair filled closed

theorem IsSpelling.filled (spelled : IsSpelling name spelling) : name ≠ [] := by
  cases spelled with
  | word word => exact word.1
  | delimited _ filled _ => exact filled

theorem IsSpelling.ne_nil (spelled : IsSpelling name spelling) : spelling ≠ [] := by
  cases spelled with
  | word word => exact word.1
  | delimited _ _ _ => exact List.cons_ne_nil _ _

theorem IsSpelling.trim (spelled : IsSpelling name spelling) : Text.trim spelling = spelling := by
  cases spelled with
  | word word => exact trim_word word
  | delimited pair _ _ => exact trim_enclosed (areDelimiters_iff.mpr pair) name

theorem IsSpelling.start (spelled : IsSpelling name spelling) (rest : Text) :
    (spelling ++ rest).head?.any isBlank = false := by
  obtain ⟨c, tail, same, solid⟩ := spelled.identifier.start rest
  rw [same]
  exact solid

theorem IsSpelling.clean (spelled : IsSpelling name spelling) (trimmed : Text.trim name = name) :
    clean spelling = name := by
  cases spelled with
  | word word => exact clean_word word
  | delimited pair _ _ => exact clean_enclosed (areDelimiters_iff.mpr pair) trimmed

theorem clean_trim (text : Text) : clean (Text.trim text) = clean text := by
  rw [clean, clean, trim_trim]

theorem cleanQualified_trim (text : Text) : cleanQualified (Text.trim text) = cleanQualified text := by
  unfold cleanQualified
  rw [trim_trim, clean_trim]

/-- Blanks on both sides of a text are trimmed off. -/
theorem trim_padded {lead text tail : Text} (lead_blank : ∀ c ∈ lead, isBlank c = true)
    (tail_blank : ∀ c ∈ tail, isBlank c = true) : Text.trim (lead ++ (text ++ tail)) = Text.trim text := by
  rw [trim_gap lead_blank, trim_tail tail_blank]

end Spelling

section Qualifier
variable {name spelling front : Text}

theorem run_qualifier_spelled {α : Type} {before rest qualifier gap behind : Text} {parts : List (Part × Span)}
    {next : Cursor → List (Part × Span) → Option α} {result : α} (spelled : IsSpelling qualifier spelling)
    (blank : ∀ c ∈ gap, isBlank c = true) (behind_blank : ∀ c ∈ behind, isBlank c = true)
    (start : rest.head?.any isBlank = false)
    (goes : next (after (before ++ (spelling ++ (gap ++ '.' :: behind))) rest) parts = some result) :
    run Phrase.qualifier (after before (spelling ++ (gap ++ '.' :: behind) ++ rest)) parts next = some result := by
  have outside : beginsWord (gap ++ '.' :: (behind ++ rest)) = false := by
    cases gap with
    | nil => rfl
    | cons c gap => exact isWordCharacter_of_isBlank (blank c List.mem_cons_self)
  have parted : spelling ++ (gap ++ '.' :: behind) ++ rest = spelling ++ (gap ++ '.' :: (behind ++ rest)) := by simp
  rw [parted]
  unfold Phrase.qualifier
  rw [run_followed, run_followed, run_followed]
  apply Phrase.run_identifier_spelled spelled.identifier outside
  apply run_many blank rfl
  rw [run_exactly]
  apply run_many behind_blank start
  simpa using goes

/-- A spelling by itself is no qualifier, because no dot follows. -/
theorem run_qualifier_alone {α : Type} {parts : List (Part × Span)}
    {next : Cursor → List (Part × Span) → Option α} (spelled : IsSpelling name spelling) :
    run Phrase.qualifier (after [] (spelling ++ [])) parts next = none := by
  have dotless : ¬Phrase.DotAhead [] := Phrase.not_dotAhead_of_not_mem List.not_mem_nil
  cases spelled with
  | word word => exact Phrase.run_qualifier_none word rfl dotless
  | delimited pair _ closed => exact Phrase.run_qualifier_enclosed_none (areDelimiters_iff.mpr pair) closed dotless

/-- The whole text is matched, and the name is what stands behind the qualifier. -/
theorem wholeName_spelled (qualified : IsQualifier front) (spelled : IsSpelling name spelling) :
    Phrase.wholeName.match? (front ++ spelling) =
      some ⟨⟨0, (front ++ spelling).length⟩, [(.name, Span.behind front spelling)]⟩ := by
  have last : run (named .name Phrase.identifier ++ ending) (after front (spelling ++ [])) []
      (fun stop parts => some (Match.mk ⟨0, stop.offset⟩ parts)) =
        some ⟨⟨0, (front ++ spelling).length⟩, [(.name, Span.behind front spelling)]⟩ := by
    rw [run_followed, run_named]
    apply Phrase.run_identifier_spelled spelled.identifier rfl
    rw [run_ending]
    rfl
  rw [List.append_nil, run_followed] at last
  rw [match?_eq_matchAt]
  unfold matchAt Phrase.wholeName
  rw [run_followed, run_followed]
  cases qualified with
  | absent =>
    have alone {next : Cursor → List (Part × Span) → Option Match} :
        run Phrase.qualifier (after [] ([] ++ spelling)) [] next = none := by
      simpa using run_qualifier_alone spelled
    rw [run_optional_none alone]
    exact last
  | dotted qualifier blank behind_blank =>
    have start := spelled.start []
    rw [List.append_nil] at start
    exact run_optional_of_some (run_qualifier_spelled qualifier blank behind_blank start last)

/-- Without a qualifier the text is trimmed as the spelling is, and with one it begins as the qualifier does. -/
theorem trim_qualified (qualified : IsQualifier front) (spelled : IsSpelling name spelling) :
    Text.trim (front ++ spelling) = front ++ spelling := by
  have stop : (front ++ spelling).getLast?.any isBlank = false := by
    have ending := stop_trim spelling
    rw [spelled.trim] at ending
    rw [List.getLast?_append_of_ne_nil _ spelled.ne_nil]
    exact ending
  cases qualified with
  | absent => exact spelled.trim
  | dotted qualifier blank behind_blank =>
    refine trim_eq_self ?_ stop
    rw [List.append_assoc]
    exact qualifier.start _

/-- Whatever qualifier stands in front of it and whichever way it is spelled, the name is read. -/
theorem cleanQualified_mention {text : Text} (trimmed : Text.trim name = name) (mention : Mentions name text) :
    cleanQualified text = name := by
  obtain @⟨lead, front, spelling, tail, lead_blank, qualified, spelled, tail_blank⟩ := mention
  have whole := trim_qualified qualified spelled
  have named : (⟨⟨0, (front ++ spelling).length⟩, [(.name, Span.behind front spelling)]⟩ : Match).text? .name
      (front ++ spelling) = some spelling := Match.text?_of_part front [] rfl (by simp)
  rw [← cleanQualified_trim, trim_padded lead_blank tail_blank, whole]
  unfold cleanQualified
  simp only [whole, wholeName_spelled qualified spelled, Option.bind_some, named]
  exact spelled.clean trimmed

end Qualifier

section SortOrder
variable {name spelling order : Text}

/-- ASC or DESC, as patterns see them. -/
def IsOrderWord (word : Text) : Prop := Folds "ASC".toList word ∨ Folds "DESC".toList word

theorem IsOrderWord.isWord {word : Text} (ordered : IsOrderWord word) : IsWord word := by
  have key : IsKeyword "ASC" ∧ IsKeyword "DESC" := by decide
  rcases ordered with folds | folds
  · exact ⟨ne_nil_of_folds key.1 folds, wordCharacters_of_folds key.1 folds⟩
  · exact ⟨ne_nil_of_folds key.2 folds, wordCharacters_of_folds key.2 folds⟩

theorem isOrderWord_of_spells {keyword : Text} (spelled : Spells "ASC" keyword ∨ Spells "DESC" keyword) :
    IsOrderWord keyword := spelled.imp folds_of_spells folds_of_spells

theorem sortSuffix_some {before rest : Text} {found : Match}
    (here : Phrase.sortSuffix.matchAt (after before rest) = some found) :
    ∃ gap word tail, rest = gap ++ (word ++ tail) ∧ gap ≠ [] ∧ (∀ c ∈ gap, isBlank c = true) ∧ IsOrderWord word ∧
      (tail = [] ∨ tail = ['\n']) ∧ found.span.start = before.length := by
  unfold matchAt Phrase.sortSuffix at here
  rw [run_followed, run_followed] at here
  obtain ⟨gap, behind, rfl, filled, blank, worded⟩ := run_several_some here
  have read : ∃ word tail, behind = word ++ tail ∧ IsOrderWord word ∧
      run ending (after (before ++ gap ++ word) tail) []
        (fun stop parts => some (Match.mk ⟨before.length, stop.offset⟩ parts)) = some found := by
    rcases run_either_some worded with ascending | descending
    · obtain ⟨word, tail, same, folds, ends⟩ := run_word_some ascending
      exact ⟨word, tail, same, .inl folds, ends⟩
    · obtain ⟨word, tail, same, folds, ends⟩ := run_word_some descending
      exact ⟨word, tail, same, .inr folds, ends⟩
  obtain ⟨word, tail, rfl, ordered, ends⟩ := read
  simp only [run] at ends
  split at ends
  · next closed =>
    cases ends
    refine ⟨gap, word, tail, rfl, filled, blank, ordered, ?_, rfl⟩
    simpa [atEnd, after] using closed
  · cases ends

theorem isSome_sortSuffix {gap keyword : Text} (before : Text) (filled : gap ≠ []) (blank : ∀ c ∈ gap, isBlank c = true)
    (spelled : Spells "ASC" keyword ∨ Spells "DESC" keyword) :
    (Phrase.sortSuffix.matchAt (after before (gap ++ keyword))).isSome = true := by
  have word : IsWord keyword := (isOrderWord_of_spells spelled).isWord
  have start := word.start []
  rw [List.append_nil] at start
  have worded : (run (Pattern.word "ASC" <|> Pattern.word "DESC") (after (before ++ gap) (keyword ++ [])) []
      fun middle parts => run ending middle parts fun stop parts =>
        some (Match.mk ⟨before.length, stop.offset⟩ parts)).isSome = true := by
    rw [isSome_run_either]
    rcases spelled with ascending | descending
    · rw [run_word ascending, run_ending]
      rfl
    · rw [run_word descending, run_ending, Option.isSome_some, Bool.or_true]
  obtain ⟨found, goes⟩ := Option.isSome_iff_exists.mp worded
  rw [List.append_nil] at goes
  unfold matchAt Phrase.sortSuffix
  rw [run_followed, run_followed]
  exact Option.isSome_iff_exists.mpr ⟨found, run_several filled blank start goes⟩

/-- A text ends with one longest run of word characters only, so what stands before it is the same too. -/
theorem before_word_unique {front word other_front other : Text} (fits : ∀ c ∈ word, isWordCharacter c = true)
    (other_fits : ∀ c ∈ other, isWordCharacter c = true) (apart : endsWord front = false)
    (other_apart : endsWord other_front = false) (same : front ++ word = other_front ++ other) :
    front = other_front := by
  have turned := congrArg List.reverse same
  rw [List.reverse_append, List.reverse_append] at turned
  have begins (text : Text) (ends : endsWord text = false) : beginsWord text.reverse = false := by
    rwa [beginsWord, List.head?_reverse]
  obtain ⟨_, fronts⟩ := word_unique (by simpa using fits) (by simpa using other_fits) (begins _ apart)
    (begins _ other_apart) turned
  exact List.reverse_injective fronts

/-- No spelling ends as a sort order does: a word holds no blank, and a delimiter ends no word. -/
theorem find?_sortSuffix_spelling (spelled : IsSpelling name spelling) : Phrase.sortSuffix.find? spelling = none := by
  by_contra found
  obtain ⟨found, place⟩ := Option.ne_none_iff_exists'.mp found
  rw [find?_eq_findAfter] at place
  obtain ⟨passed, rest, same, here⟩ := findAfter_some place
  obtain ⟨gap, word, tail, rfl, filled, blank, ordered, ends, _⟩ := sortSuffix_some here
  cases spelled with
  | word plain =>
    obtain ⟨c, gap, rfl⟩ := List.exists_cons_of_ne_nil filled
    have fits : isWordCharacter c = true := plain.2 c (by simp [same])
    rw [isWordCharacter_of_isBlank (blank c List.mem_cons_self)] at fits
    cases fits
  | @delimited opening closing pair _ _ =>
    have last : (enclosed opening closing name).getLast? = some closing := List.getLast?_concat (l := opening :: name)
    have plain : isWordCharacter closing = false ∧ closing ≠ '\n' := by
      have each : ∀ pair ∈ [('[', ']'), ('"', '"'), ('\x60', '\x60'), ('\'', '\'')],
          isWordCharacter pair.2 = false ∧ pair.2 ≠ '\n' := by decide
      exact each (opening, closing) pair
    rw [same] at last
    rcases ends with rfl | rfl
    · have worded : endsWord (passed ++ gap ++ word) = true := endsWord_of_fits ordered.isWord.1 ordered.isWord.2
      rw [List.append_nil, ← List.append_assoc] at last
      rw [endsWord, last, Option.any_some, plain.1] at worded
      cases worded
    · have broken : closing = '\n' := by simpa using last.symm
      exact plain.2 broken

/-- What is left of a column without its sort order is its spelling, perhaps with blanks behind it. -/
theorem trim_withoutSortOrder (spelled : IsSpelling name spelling) (sorted : IsSortOrder order) :
    Text.trim (withoutSortOrder (spelling ++ order)) = spelling := by
  cases sorted with
  | absent => rw [List.append_nil, withoutSortOrder, find?_sortSuffix_spelling spelled, spelled.trim]
  | @given gap keyword filled blank keyed =>
    have some_found : (Phrase.sortSuffix.findAfter [] (spelling ++ (gap ++ keyword))).isSome = true :=
      isSome_findAfter [] spelling (isSome_sortSuffix _ filled blank keyed)
    obtain ⟨found, place⟩ := Option.isSome_iff_exists.mp some_found
    obtain ⟨passed, rest, same, here⟩ := findAfter_some place
    obtain ⟨read_gap, word, tail, rfl, read_filled, read_blank, ordered, ends, start⟩ := sortSuffix_some here
    have key : IsWord keyword := (isOrderWord_of_spells keyed).isWord
    -- The keyword ends the text, so no line break is left behind the word that is read.
    obtain rfl : tail = [] := by
      rcases ends with closed | broken
      · exact closed
      · have worded : endsWord (spelling ++ gap ++ keyword) = true := endsWord_of_fits key.1 key.2
        rw [List.append_assoc, same, broken] at worded
        exact absurd worded (by simp [endsWord]; decide)
    have apart {front gap : Text} (filled : gap ≠ []) (blank : ∀ c ∈ gap, isBlank c = true) :
        endsWord (front ++ gap) = false := by rw [endsWord_append filled, endsWord_of_blank blank]
    have parted : spelling ++ gap ++ keyword = passed ++ read_gap ++ word := by simpa using same
    have left : spelling ++ gap = passed ++ read_gap :=
      before_word_unique key.2 ordered.isWord.2 (apart filled blank) (apart read_filled read_blank) parted
    have taken : withoutSortOrder (spelling ++ (gap ++ keyword)) = passed := by
      rw [withoutSortOrder, find?_eq_findAfter, place]
      simp only [start, same, List.nil_append, List.take_left']
    rw [taken, ← trim_tail read_blank, ← left, trim_tail blank, spelled.trim]

end SortOrder

section List
variable {name text : Text} {names texts : List Text}

theorem fields_intercalate {separator : Char} (filled : texts ≠ []) (absent : ∀ text ∈ texts, separator ∉ text) :
    fields separator ([separator].intercalate texts) = texts := by
  induction texts with
  | nil => exact absurd rfl filled
  | cons first others ih =>
    obtain ⟨here, later⟩ := List.forall_mem_cons.mp absent
    cases others with
    | nil => rw [List.intercalate_singleton, fields_absent here]
    | cons second others =>
      rw [List.intercalate_cons_cons, List.append_assoc, List.singleton_append, fields_append here,
        ih (List.cons_ne_nil _ _) later]

theorem not_mem_spelling {spelling : Text} {c : Char} (spelled : IsSpelling name spelling) (absent : c ∉ name)
    (other : ∀ pair ∈ [('[', ']'), ('"', '"'), ('\x60', '\x60'), ('\'', '\'')], c ≠ pair.1 ∧ c ≠ pair.2) :
    c ∉ spelling := by
  cases spelled with
  | word _ => exact absent
  | @delimited opening closing pair _ _ =>
    obtain ⟨first, last⟩ := other (opening, closing) pair
    simp [enclosed, absent, first, last]

theorem not_mem_order {order : Text} {c : Char} (sorted : IsSortOrder order) (solid : isBlank c = false)
    (unworded : isWordCharacter c = false) : c ∉ order := by
  cases sorted with
  | absent => exact List.not_mem_nil
  | given _ blank spelled =>
    have word := (isOrderWord_of_spells spelled).isWord
    exact fun member => (List.mem_append.mp member).elim (not_mem_of_blank blank solid) (word.not_mem unworded)

/-- A name in a list brings no comma with it. -/
theorem Lists.not_mem_comma (listed : Lists name text) (absent : ',' ∉ name) : ',' ∉ text := by
  obtain ⟨lead_blank, spelled, sorted, tail_blank⟩ := listed
  have solid : isBlank ',' = false := by decide
  have spelling := not_mem_spelling spelled absent (by decide)
  have order := not_mem_order sorted solid (by decide)
  simp [spelling, order, not_mem_of_blank lead_blank solid, not_mem_of_blank tail_blank solid]

theorem trim_ordered {spelling order : Text} (spelled : IsSpelling name spelling) (sorted : IsSortOrder order) :
    Text.trim (spelling ++ order) = spelling ++ order := by
  cases sorted with
  | absent => rw [List.append_nil, spelled.trim]
  | given filled blank keyed =>
    have word := (isOrderWord_of_spells keyed).isWord
    refine trim_eq_self (spelled.start _) ?_
    rw [← List.append_assoc, List.getLast?_append_of_ne_nil _ word.1]
    exact word.stop

/-- A name of a list is read, and its sort order is not. -/
theorem clean_listed (trimmed : Text.trim name = name) (listed : Lists name text) :
    clean (withoutSortOrder (Text.trim text)) = name := by
  obtain ⟨lead_blank, spelled, sorted, tail_blank⟩ := listed
  rw [trim_padded lead_blank tail_blank, trim_ordered spelled sorted, ← clean_trim,
    trim_withoutSortOrder spelled sorted, spelled.clean trimmed]

theorem Lists.filled (listed : Lists name text) : name ≠ [] := by
  obtain ⟨_, spelled, _, _⟩ := listed
  exact spelled.filled

/-- A list of columns gives the names that it lists, in their order. -/
theorem list_listed (plain : ∀ name ∈ names, Text.trim name = name ∧ ',' ∉ name)
    (listed : List.Forall₂ Lists names texts) : list ([','].intercalate texts) = names := by
  by_cases filled : texts = []
  · subst filled
    cases listed
    rfl
  · have absent : ∀ text ∈ texts, ',' ∉ text := by
      intro text member
      obtain ⟨name, inside, one⟩ := forall₂_mem_right listed member
      exact one.not_mem_comma (plain name inside).2
    rw [list, fields_intercalate filled absent]
    clear filled absent
    induction listed with
    | nil => rfl
    | cons here later ih =>
      obtain ⟨⟨trimmed, _⟩, others⟩ := List.forall_mem_cons.mp plain
      have kept := here.filled
      rw [List.map_cons, clean_listed trimmed here, List.filter_cons_of_pos (by simpa using kept), ih others]

/-- Whichever spelling a name has, and whatever qualifier stands in front of it, the name is read and its table is
found; and a list of spelled names, with or without sort orders, gives the names. -/
theorem spellings_read_alike :
    (∀ {name first second : Text}, Text.trim name = name → Mentions name first → Mentions name second →
      cleanQualified first = name ∧
        ∀ schema : Schema, schema.table? (String.ofList (cleanQualified first)) =
          schema.table? (String.ofList (cleanQualified second))) ∧
    ∀ {names texts : List Text}, (∀ name ∈ names, Text.trim name = name ∧ ',' ∉ name) →
      List.Forall₂ Lists names texts → list ([','].intercalate texts) = names := by
  refine ⟨fun {name first second} trimmed mention other => ?_, list_listed⟩
  have named := cleanQualified_mention trimmed mention
  exact ⟨named, fun schema => by rw [named, cleanQualified_mention trimmed other]⟩

/-- A name that holds a dot and delimiters of other spellings, and names that hold or are the words of a sort order. -/
theorem spellings_read_alike_amid :
    let name := "it's a].b".toList
    let first := "\t[a\"] . \"it's a].b\"\n".toList
    let second := "q.\x60it's a].b\x60".toList
    let names := ["asc".toList, "a DESC".toList, "]".toList]
    let texts := ["asc".toList, " [a DESC]  desc".toList, "']' ASC\t".toList]
    (Text.trim name = name ∧ Mentions name first ∧ Mentions name second ∧ cleanQualified first = name ∧
        (default : Schema).table? (String.ofList (cleanQualified first)) =
          (default : Schema).table? (String.ofList (cleanQualified second))) ∧
      (∀ name ∈ names, Text.trim name = name ∧ ',' ∉ name) ∧ List.Forall₂ Lists names texts ∧
        list ([','].intercalate texts) = names := by
  intro name first second names texts
  have nothing : ∀ c ∈ ([] : Text), isBlank c = true := List.forall_mem_nil _
  have spaces : ∀ c ∈ [' ', ' '], isBlank c = true := List.all_eq_true.mp (by decide)
  have space : ∀ c ∈ [' '], isBlank c = true := List.all_eq_true.mp (by decide)
  have tab : ∀ c ∈ ['\t'], isBlank c = true := List.all_eq_true.mp (by decide)
  have line : ∀ c ∈ ['\n'], isBlank c = true := List.all_eq_true.mp (by decide)
  have trimmed : Text.trim name = name := by decide
  have bracketed : IsSpelling "a\"".toList (enclosed '[' ']' "a\"".toList) :=
    .delimited (by simp) (by decide) (by decide)
  have quoted : IsSpelling name (enclosed '"' '"' name) := .delimited (by simp) (by decide) (by decide)
  have ticked : IsSpelling name (enclosed '\x60' '\x60' name) := .delimited (by simp) (by decide) (by decide)
  have single : IsSpelling ['q'] ['q'] := .word ⟨by decide, List.all_eq_true.mp (by decide)⟩
  have mention : Mentions name first :=
    @Mentions.intro name ['\t'] (enclosed '[' ']' "a\"".toList ++ ([' '] ++ '.' :: [' '])) _ ['\n'] tab
      (.dotted bracketed space space) quoted line
  have other : Mentions name second :=
    @Mentions.intro name [] (['q'] ++ ([] ++ '.' :: [])) _ [] nothing (.dotted single nothing nothing) ticked nothing
  have plain : ∀ name ∈ names, Text.trim name = name ∧ ',' ∉ name := by decide
  have word : IsSpelling "asc".toList "asc".toList := .word ⟨by decide, List.all_eq_true.mp (by decide)⟩
  have ordered : IsSpelling "a DESC".toList (enclosed '[' ']' "a DESC".toList) :=
    .delimited (by simp) (by decide) (by decide)
  have bracket : IsSpelling [']'] (enclosed '\'' '\'' [']']) := .delimited (by simp) (by decide) (by decide)
  have listed : List.Forall₂ Lists names texts := by
    refine .cons ?_ (.cons ?_ (.cons ?_ .nil))
    · exact @Lists.intro _ [] "asc".toList [] [] nothing word .absent nothing
    · exact @Lists.intro _ [' '] (enclosed '[' ']' "a DESC".toList) ([' ', ' '] ++ "desc".toList) [] space ordered
        (.given (by decide) spaces (.inr (by decide))) nothing
    · exact @Lists.intro _ [] (enclosed '\'' '\'' [']']) ([' '] ++ "ASC".toList) ['\t'] nothing bracket
        (.given (by decide) space (.inl (by decide))) tab
  obtain ⟨mentioned, lists⟩ := spellings_read_alike
  obtain ⟨named, found⟩ := mentioned trimmed mention other
  exact ⟨⟨trimmed, mention, other, named, found default⟩, plain, listed, lists plain listed⟩

end List
end Name
end SchemaAtlas
