import SchemaAtlas.Proofs.Printing.Table
/-!
Reading a printed table definition. Its head leads to the parentheses around its body, whatever the name
of the table, and nothing in it is an index or an alteration.
-/
namespace SchemaAtlas
open Text Pattern Cursor

namespace Phrase
variable {α : Type} {before rest create letters name : Text} {parts : List (Part × Span)}
  {next : Cursor → List (Part × Span) → Option α} {result : α}

theorem run_createTable (spelled : Spells "CREATE" create) (table : Spells "TABLE" letters)
    (start : endsWord before = false) (stop : beginsWord rest = false) :
    run createTable (after before (create ++ ' ' :: (letters ++ rest))) parts next =
      next (after (before ++ create ++ [' '] ++ letters) rest) parts := by
  have bare := bare_of_spells (by decide) spelled
  have table_bare := bare_of_spells (by decide) table
  unfold createTable
  rw [run_followed, run_followed, run_followed, run_followed, run_followed, run_edge (bare.opens start _),
    run_word spelled, run_blanks (table_bare.start _),
    run_optional_none (by
      rw [run_followed, run_either, run_word_ne (by decide) (by decide) table stop (by decide),
        run_word_ne (by decide) (by decide) table stop (by decide)]
      rfl),
    run_optional_none (by
      rw [run_followed, run_either, run_word_ne (by decide) (by decide) table stop (by decide),
        run_word_ne (by decide) (by decide) table stop (by decide)]
      rfl),
    run_word table]

/-- A table may be named like the first word of the phrase that is left out here. -/
theorem run_ifNotExists_none (bare : IsBare name) :
    run ifNotExists (after before (name ++ ' ' :: '(' :: rest)) parts next =
      next (after before (name ++ ' ' :: '(' :: rest)) parts := by
  unfold ifNotExists
  apply run_optional_none
  by_contra found
  obtain ⟨_, found⟩ := Option.ne_none_iff_exists'.mp found
  rw [run_followed, run_followed, run_followed] at found
  obtain ⟨text, _, same, _, filled, fits, found⟩ := wordy_word (by decide) found
  obtain ⟨gap, _, rfl, gap_filled, blank, found⟩ := run_several_some found
  unfold words at found
  rw [run_followed, run_followed] at found
  obtain ⟨other, tail, rfl, _, other_filled, other_fits, _⟩ := wordy_word (by decide) found
  obtain ⟨_, behind⟩ := word_unique bare.fits fits rfl (beginsWord_of_isBlank gap_filled blank _) same
  -- A second word would have to begin at the parenthesis behind the name.
  obtain ⟨c, other, rfl⟩ := List.exists_cons_of_ne_nil other_filled
  have opens : isWordCharacter c = true := other_fits c List.mem_cons_self
  rcases gap with _ | ⟨_, _ | ⟨d, gap⟩⟩
  · exact gap_filled rfl
  · obtain ⟨rfl, _⟩ := List.cons.inj (List.cons.inj behind).2
    cases opens
  · obtain ⟨rfl, _⟩ := List.cons.inj (List.cons.inj behind).2
    have solid := blank '(' (List.mem_cons_of_mem _ List.mem_cons_self)
    cases solid

end Phrase

/-- A statement that begins with another word alters nothing. -/
theorem Alteration.read?_create {create rest : Text} (spelled : Spells "CREATE" create)
    (outside : beginsWord rest = false) : read? (create ++ rest) = none := by
  have none_found : Phrase.alterTableAdd.match? (create ++ rest) = none := by
    by_contra found
    have ahead := Phrase.alterTableAdd_ahead (Option.isSome_iff_ne_none.mpr found)
    have other : ¬Phrase.Keyed "ALTER" create := not_folds_of_spells (by decide) (by decide) spelled (by decide)
    exact not_wordAhead (bare_of_spells (by decide) spelled) outside other ahead
  unfold read?
  rw [none_found]
  rfl

namespace Printing
open Phrase

section Head
variable {create letters name body : Text}

theorem occurs_createTable (spelled : Spells "CREATE" create) (table : Spells "TABLE" letters) (rest : Text) :
    createTableKeyword.occurs (create ++ ' ' :: (letters ++ ' ' :: rest)) = true := by
  have table_bare := bare_of_spells (by decide) table
  have here : (createTableKeyword.matchAt
      (after [] (create ++ ' ' :: (letters ++ ' ' :: rest)))).isSome = true := by
    unfold matchAt createTableKeyword
    rw [run_followed, run_createTable spelled table rfl rfl, run_edge (table_bare.closes rfl _)]
    rfl
  have found := occurs_of_matchAt here
  rwa [List.nil_append] at found

/-- The head of a definition ends with the parenthesis before the body. -/
theorem find?_createTableHead (spelled : Spells "CREATE" create) (table : Spells "TABLE" letters)
    (name_bare : IsBare name) (dotless : '.' ∉ body) :
    let head := create ++ ' ' :: (letters ++ ' ' :: (name ++ [' ']))
    ∃ found, createTableHead.find? (head ++ '(' :: body) = some found ∧
      found.text? .table (head ++ '(' :: body) = some name ∧ found.span.stop = head.length + 1 := by
  intro head
  have absent : '.' ∉ ' ' :: '(' :: body := by simp [dotless]
  have whole : head ++ '(' :: body = create ++ ' ' :: (letters ++ ' ' :: (name ++ ' ' :: '(' :: body)) := by
    simp [head]
  have here : createTableHead.matchAt (after [] (head ++ '(' :: body)) =
      some ⟨⟨0, (create ++ [' '] ++ letters ++ [' '] ++ name ++ [' '] ++ ['(']).length⟩,
        [(.table, Span.behind (create ++ [' '] ++ letters ++ [' ']) name)]⟩ := by
    rw [whole]
    unfold matchAt createTableHead
    rw [run_followed, run_followed, run_followed, run_followed, run_followed,
      run_createTable spelled table rfl rfl, run_blanks (name_bare.start _), run_ifNotExists_none name_bare,
      run_named]
    apply run_qualified name_bare.word rfl (not_dotAhead_of_not_mem absent)
    apply run_perhapsBlanks rfl
    rw [run_exactly]
    rfl
  refine ⟨_, findAfter_of_matchAt here, ?_, ?_⟩
  · exact Match.text?_of_part _ (' ' :: '(' :: body) rfl (by simp [head])
  · simp only [head, List.length_append, List.length_cons, List.length_nil]
    omega

end Head

namespace TableDescription
variable {table : TableDescription} {text : Text}

theorem split_statement (printed : table.Prints text) : ∃ columns clauses create letters,
    List.Forall₂ (fun column => Printing.Prints column.lexemes) table.columns columns ∧
      List.Forall₂ (fun clause => Printing.Prints clause.lexemes) table.clauses clauses ∧
        Spells "CREATE" create ∧ Spells "TABLE" letters ∧
          text = (create ++ ' ' :: (letters ++ ' ' :: (table.name.text ++ [' ']))) ++ '(' ::
            ([',', ' '].intercalate (columns ++ clauses) ++ [')']) := by
  obtain ⟨columns, clauses, columns_printed, clauses_printed, whole⟩ := printed
  obtain ⟨create, tail, spelled, behind, same⟩ := spelled_keyword.mp whole
  obtain ⟨letters, rest, table_spelled, behind_table, rfl⟩ := spelled_keyword.mp behind
  obtain ⟨last, behind_name, rfl⟩ := spelled_name.mp behind_table
  obtain ⟨finish, finished, rfl⟩ := spelled_group_spaced.mp behind_name
  obtain rfl := spelled_nil.mp finished
  refine ⟨columns, clauses, create, letters, columns_printed, clauses_printed, spelled, table_spelled, ?_⟩
  rw [(List.cons.inj same).2]
  simp

theorem sound_body {columns clauses : List Text}
    (columns_printed : List.Forall₂ (fun column => Printing.Prints column.lexemes) table.columns columns)
    (clauses_printed : List.Forall₂ (fun clause => Printing.Prints clause.lexemes) table.clauses clauses) :
    (Lexeme.group true ([',', ' '].intercalate (columns ++ clauses))).IsSound := by
  constructor
  · by_cases empty : columns ++ clauses = []
    · rw [empty]
      exact .nil
    · refine (tidy_commas ?_ empty).of_space.1
      intro piece member
      obtain ⟨lexemes, printed, sound, _⟩ := mem_body columns_printed clauses_printed member
      exact printed.spaced sound
  · apply nested_commas
    intro piece member
    obtain ⟨lexemes, printed, sound, _⟩ := mem_body columns_printed clauses_printed member
    exact (printed.nested sound).leave_commas

/-- A printed table is the definition of its name by its body. -/
theorem read_statement (printed : table.Prints text) : ∃ columns clauses,
    List.Forall₂ (fun column => Printing.Prints column.lexemes) table.columns columns ∧
      List.Forall₂ (fun clause => Printing.Prints clause.lexemes) table.clauses clauses ∧
        TableStatement.read text =
          .definition table.name.name ([',', ' '].intercalate (columns ++ clauses)) := by
  obtain ⟨columns, clauses, create, letters, columns_printed, clauses_printed, spelled, table_spelled, rfl⟩ :=
    split_statement printed
  obtain ⟨tidy, nested⟩ := sound_body columns_printed clauses_printed
  refine ⟨columns, clauses, columns_printed, clauses_printed, ?_⟩
  have dotless : '.' ∉ [',', ' '].intercalate (columns ++ clauses) ++ [')'] := by
    simp [tidy.not_mem (c := '.') (by decide)]
  obtain ⟨found, here, name, stop⟩ := find?_createTableHead spelled table_spelled table.name.bare dotless
  have group := nested.group? (create ++ ' ' :: (letters ++ ' ' :: (table.name.text ++ [' ']))) []
  have occurs : createTableKeyword.occurs ((create ++ ' ' :: (letters ++ ' ' :: (table.name.text ++ [' ']))) ++
      '(' :: ([',', ' '].intercalate (columns ++ clauses) ++ [')'])) = true := by
    simpa using occurs_createTable spelled table_spelled
      (table.name.text ++ ' ' :: '(' :: ([',', ' '].intercalate (columns ++ clauses) ++ [')']))
  unfold TableStatement.read
  rw [occurs]
  simp only [here, name, stop, Option.bind_eq_bind, Option.bind_some, Nat.add_sub_cancel, group]
  change TableStatement.definition (String.ofList (Name.cleanQualified table.name.text)) _ = _
  rw [Name.cleanQualified_word table.name.bare.word]
  rfl

theorem words_body {columns clauses : List Text}
    (columns_printed : List.Forall₂ (fun column => Printing.Prints column.lexemes) table.columns columns)
    (clauses_printed : List.Forall₂ (fun clause => Printing.Prints clause.lexemes) table.clauses clauses) :
    "INDEX".toList ∉ (Lexeme.group true ([',', ' '].intercalate (columns ++ clauses))).capitals := by
  rw [Lexeme.capitals, words_commas]
  intro member
  obtain ⟨word, inside, same⟩ := List.mem_map.mp member
  obtain ⟨piece, among, here⟩ := List.mem_flatMap.mp inside
  obtain ⟨lexemes, printed, sound, lacks⟩ := mem_body columns_printed clauses_printed among
  have capitals := Spelled.capitals_words printed sound
  rw [words_cons _ (by decide)] at capitals
  exact lacks (capitals ▸ same ▸ List.mem_map_of_mem here)

theorem sound_statement {columns clauses : List Text}
    (columns_printed : List.Forall₂ (fun column => Printing.Prints column.lexemes) table.columns columns)
    (clauses_printed : List.Forall₂ (fun clause => Printing.Prints clause.lexemes) table.clauses clauses) :
    AllSound [.keyword "CREATE", .keyword "TABLE", .name table.name.text,
      .group true ([',', ' '].intercalate (columns ++ clauses))] := by
  have create : IsKeyword "CREATE" := by decide
  have letters : IsKeyword "TABLE" := by decide
  exact allSound_cons.mpr ⟨create, allSound_cons.mpr ⟨letters, allSound_cons.mpr ⟨table.name.bare,
    allSound_cons.mpr ⟨sound_body columns_printed clauses_printed, allSound_nil⟩⟩⟩⟩

/-- A printed table is one statement, and no index is defined in it. -/
theorem printed_statement (printed : table.Prints text) :
    ∃ lexemes, Printing.Prints (.keyword "CREATE" :: lexemes) text ∧
      AllSound (.keyword "CREATE" :: lexemes) ∧ Lacks "INDEX" (.keyword "CREATE" :: lexemes) := by
  obtain ⟨columns, clauses, columns_printed, clauses_printed, whole⟩ := printed
  refine ⟨_, whole, sound_statement columns_printed clauses_printed, ?_⟩
  exact lacks_keyword.mpr ⟨by decide, lacks_keyword.mpr ⟨by decide, (lacks_name (by decide)).mpr
    (lacks_cons.mpr ⟨words_body columns_printed clauses_printed, lacks_nil⟩)⟩⟩

theorem layout_statement (printed : table.Prints text) : Tidy text ∧ text.head?.any isBlank = false ∧
    Script.Nested true text ∧ text ≠ [] ∧ Text.trim text = text := by
  obtain ⟨lexemes, whole, sound, _⟩ := printed_statement printed
  exact ⟨whole.tidy sound, whole.start sound, (whole.nested sound).leave_commas, whole.filled sound,
    whole.trim sound⟩

theorem words_statement (printed : table.Prints text) : ∀ word ∈ words text, ¬Keyed "INDEX" word := by
  obtain ⟨lexemes, whole, sound, lacks⟩ := printed_statement printed
  have clear := Spelled.not_folds whole sound (by decide) lacks
  rwa [words_cons _ (by decide)] at clear

theorem alteration_statement (printed : table.Prints text) : Alteration.read? text = none := by
  obtain ⟨lexemes, whole, _, _⟩ := printed_statement printed
  obtain ⟨create, rest, spelled, behind, same⟩ := spelled_keyword.mp whole
  obtain rfl := (List.cons.inj same).2
  exact Alteration.read?_create spelled behind.outside

end TableDescription
end Printing
end SchemaAtlas
