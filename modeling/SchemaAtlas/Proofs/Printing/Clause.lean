import SchemaAtlas.Proofs.Clause.Amendment
import SchemaAtlas.Proofs.Printing.Attributes
/-!
Reading printed clauses: the kind of a clause, its own name, and the columns of a key are found again.
-/
namespace SchemaAtlas.Printing
open Text Pattern Cursor Phrase

section Listing
variable (names : List Identifier)

theorem tidy_listing : Tidy (listing names) := by
  have each : ∀ piece ∈ names.map Identifier.text, Tidy (' ' :: piece) := by
    intro piece member
    obtain ⟨name, _, rfl⟩ := List.mem_map.mp member
    have sound : (Lexeme.name name.text).IsSound := name.bare
    exact Lexeme.tidy sound rfl
  cases names with
  | nil => exact .nil
  | cons first others =>
    have spaced : Tidy (' ' :: listing (first :: others)) := tidy_commas each (List.cons_ne_nil _ _)
    exact spaced.of_space.1

theorem nested_listing : Script.Nested true (listing names) := by
  apply nested_commas
  intro piece member
  obtain ⟨name, _, rfl⟩ := List.mem_map.mp member
  exact .of_plain name.bare.2

theorem flat_listing : ∀ c ∈ listing names, c ≠ '(' ∧ c ≠ ')' := by
  intro c member
  rcases mem_commas member with rfl | rfl | ⟨piece, inside, here⟩
  · decide
  · decide
  · obtain ⟨name, _, rfl⟩ := List.mem_map.mp inside
    have plain := name.bare.2 c here
    constructor <;> (rintro rfl; cases plain)

theorem words_listing : words (listing names) = names.map Identifier.text := by
  have each : ∀ name : Identifier, words name.text = [name.text] :=
    fun name => words_self name.bare.1 name.bare.fits
  rw [listing, words_commas, List.flatMap_map, List.map_eq_flatMap]
  simp only [each]

theorem names_listing (filled : names ≠ []) :
    ForeignKeyClause.names (listing names) = names.map Identifier.name := by
  have bare : ∀ name ∈ names.map Identifier.text, IsBare name := by
    intro name member
    obtain ⟨identifier, _, rfl⟩ := List.mem_map.mp member
    exact identifier.bare
  have some_names : names.map Identifier.text ≠ [] := by simpa using filled
  rw [ForeignKeyClause.names, listing, Name.list_join some_names bare, List.map_map]
  rfl

theorem lacks_listing {keyword : String} (reserved : keyword ∈ keywords) (gap : Bool) {rest : List Lexeme} :
    Lacks keyword (.group gap (listing names) :: rest) ↔ Lacks keyword rest := by
  have absent : keyword.toList ∉ (Lexeme.group gap (listing names)).capitals := by
    rw [Lexeme.capitals, words_listing, List.map_map]
    intro member
    obtain ⟨identifier, _, same⟩ := List.mem_map.mp member
    exact identifier.free keyword reserved same
  rw [lacks_cons]
  exact and_iff_right absent

end Listing

section Sound

theorem sound_listing (gap : Bool) (names : List Identifier) : (Lexeme.group gap (listing names)).IsSound :=
  ⟨tidy_listing names, nested_listing names⟩

theorem allSound_action (action : Action) : AllSound action.lexemes := by
  have each : ∀ word ∈ ["CASCADE", "SET", "NULL", "DEFAULT", "NO", "ACTION", "RESTRICT"], IsKeyword word := by
    decide
  intro lexeme member
  cases action <;> simp only [Action.lexemes, List.mem_cons, List.not_mem_nil, or_false] at member
  all_goals rcases member with rfl | rfl
  all_goals exact each _ (by decide)

theorem allSound_event {event : String} (key : IsKeyword event) (action : Option Action) :
    AllSound (eventLexemes event action) := by
  have on : IsKeyword "ON" := by decide
  cases action with
  | none => exact allSound_nil
  | some action => exact allSound_cons.mpr ⟨on, allSound_cons.mpr ⟨key, allSound_action action⟩⟩

theorem allSound_declaration (clause : ClauseDescription) : AllSound clause.declarationLexemes := by
  have key : IsKeyword "CONSTRAINT" := by decide
  unfold ClauseDescription.declarationLexemes
  split
  · exact allSound_nil
  · next name _ => exact allSound_cons.mpr ⟨key, allSound_cons.mpr ⟨name.bare, allSound_nil⟩⟩

theorem allSound_body (body : ClauseBody) : AllSound body.lexemes := by
  have each : ∀ word ∈ ["PRIMARY", "KEY", "UNIQUE", "FOREIGN", "REFERENCES", "DELETE", "UPDATE"],
      IsKeyword word := by decide
  cases body with
  | primaryKey columns =>
    exact allSound_cons.mpr ⟨each "PRIMARY" (by decide), allSound_cons.mpr ⟨each "KEY" (by decide),
      allSound_cons.mpr ⟨sound_listing true columns, allSound_nil⟩⟩⟩
  | unique columns =>
    exact allSound_cons.mpr ⟨each "UNIQUE" (by decide),
      allSound_cons.mpr ⟨sound_listing true columns, allSound_nil⟩⟩
  | foreignKey links table onDelete onUpdate =>
    exact allSound_cons.mpr ⟨each "FOREIGN" (by decide), allSound_cons.mpr ⟨each "KEY" (by decide),
      allSound_cons.mpr ⟨sound_listing true _, allSound_cons.mpr ⟨each "REFERENCES" (by decide),
        allSound_cons.mpr ⟨table.bare, allSound_cons.mpr ⟨sound_listing true _,
          allSound_append.mpr ⟨allSound_event (each "DELETE" (by decide)) onDelete,
            allSound_event (each "UPDATE" (by decide)) onUpdate⟩⟩⟩⟩⟩⟩⟩

theorem ClauseDescription.allSound (clause : ClauseDescription) : AllSound clause.lexemes :=
  allSound_append.mpr ⟨allSound_declaration clause, allSound_body clause.body⟩

end Sound

/-- The keywords that a clause is printed with, apart from its declaration. -/
def ClauseBody.keywords : ClauseBody → List String
  | primaryKey _ => ["PRIMARY", "KEY"]
  | unique _ => ["UNIQUE"]
  | foreignKey .. => ["FOREIGN", "KEY", "REFERENCES", "ON", "DELETE", "UPDATE", "CASCADE", "SET", "NULL",
      "DEFAULT", "NO", "ACTION", "RESTRICT"]

section Lacks
variable {keyword : String}

theorem lacks_action (action : Action)
    (absent : keyword ∉ ["CASCADE", "SET", "NULL", "DEFAULT", "NO", "ACTION", "RESTRICT"]) :
    Lacks keyword action.lexemes := by
  simp only [List.mem_cons, List.not_mem_nil, or_false, not_or] at absent
  obtain ⟨cascade, set, null, default, no, action_word, restrict⟩ := absent
  cases action with
  | cascade => exact lacks_keyword.mpr ⟨cascade, lacks_nil⟩
  | setNull => exact lacks_keyword.mpr ⟨set, lacks_keyword.mpr ⟨null, lacks_nil⟩⟩
  | setDefault => exact lacks_keyword.mpr ⟨set, lacks_keyword.mpr ⟨default, lacks_nil⟩⟩
  | noAction => exact lacks_keyword.mpr ⟨no, lacks_keyword.mpr ⟨action_word, lacks_nil⟩⟩
  | restrict => exact lacks_keyword.mpr ⟨restrict, lacks_nil⟩

theorem lacks_event {event : String} (action : Option Action) (absent : keyword ∉
      ["ON", event, "CASCADE", "SET", "NULL", "DEFAULT", "NO", "ACTION", "RESTRICT"]) :
    Lacks keyword (eventLexemes event action) := by
  rw [List.mem_cons, not_or, List.mem_cons, not_or] at absent
  obtain ⟨on, named, absent⟩ := absent
  cases action with
  | none => exact lacks_nil
  | some action =>
    exact lacks_keyword.mpr ⟨on, lacks_keyword.mpr ⟨named, lacks_action action absent⟩⟩

variable (reserved : keyword ∈ keywords)
include reserved

theorem lacks_declaration (clause : ClauseDescription) (other : keyword ≠ "CONSTRAINT") :
    Lacks keyword clause.declarationLexemes := by
  unfold ClauseDescription.declarationLexemes
  split
  · exact lacks_nil
  · exact lacks_keyword.mpr ⟨other, (lacks_name reserved).mpr lacks_nil⟩

theorem lacks_body (body : ClauseBody) (absent : keyword ∉ body.keywords) : Lacks keyword body.lexemes := by
  cases body with
  | primaryKey columns =>
    simp only [ClauseBody.keywords, List.mem_cons, List.not_mem_nil, or_false, not_or] at absent
    exact lacks_keyword.mpr ⟨absent.1, lacks_keyword.mpr ⟨absent.2,
      (lacks_listing columns reserved true).mpr lacks_nil⟩⟩
  | unique columns =>
    simp only [ClauseBody.keywords, List.mem_cons, List.not_mem_nil, or_false] at absent
    exact lacks_keyword.mpr ⟨absent, (lacks_listing columns reserved true).mpr lacks_nil⟩
  | foreignKey links table onDelete onUpdate =>
    rw [ClauseBody.keywords, List.mem_cons, not_or, List.mem_cons, not_or, List.mem_cons, not_or] at absent
    obtain ⟨foreign, key, references, absent⟩ := absent
    have events : ∀ {event : String}, event ∈ ["DELETE", "UPDATE"] →
        keyword ∉ ["ON", event, "CASCADE", "SET", "NULL", "DEFAULT", "NO", "ACTION", "RESTRICT"] := by
      intro event either
      simp only [List.mem_cons, List.not_mem_nil, or_false, not_or] at either absent ⊢
      rcases either with rfl | rfl <;> simp only [absent, not_false_eq_true, and_self]
    exact lacks_keyword.mpr ⟨foreign, lacks_keyword.mpr ⟨key, (lacks_listing _ reserved true).mpr
      (lacks_keyword.mpr ⟨references, (lacks_name reserved).mpr ((lacks_listing _ reserved true).mpr
        (lacks_append.mpr ⟨lacks_event onDelete (events (by decide)),
          lacks_event onUpdate (events (by decide))⟩))⟩)⟩⟩

end Lacks

section Begin
variable {first second : String} {rest : List Lexeme} {text : Text}

theorem isSome_word (key : IsKeyword first) (printed : Prints (.keyword first :: rest) text) :
    ((word first ++ edge).matchAt (after [] text)).isSome = true := by
  obtain ⟨letters, tail, spelled, behind, same⟩ := spelled_keyword.mp printed
  obtain ⟨_, rfl⟩ := List.cons.inj same
  unfold matchAt
  rw [run_followed, run_word spelled, run_edge ((bare_of_spells key spelled).closes behind.outside _)]
  rfl

theorem isSome_words (key : IsKeyword second)
    (printed : Prints (.keyword first :: .keyword second :: rest) text) :
    ((Phrase.words first second ++ edge).matchAt (after [] text)).isSome = true := by
  obtain ⟨letters, tail, spelled, behind, same⟩ := spelled_keyword.mp printed
  obtain ⟨other, rest, other_spelled, last, rfl⟩ := spelled_keyword.mp behind
  obtain ⟨_, rfl⟩ := List.cons.inj same
  unfold matchAt
  rw [run_followed, run_words key spelled other_spelled,
    run_edge ((bare_of_spells key other_spelled).closes last.outside _)]
  rfl

theorem isSome_constraintClause (text : Text) : (constraintClause.match? text).isSome =
    (((word "CONSTRAINT" ++ edge).matchAt (after [] text)).isSome ||
      (((Phrase.words "FOREIGN" "KEY" ++ edge).matchAt (after [] text)).isSome ||
        (((Phrase.words "PRIMARY" "KEY" ++ edge).matchAt (after [] text)).isSome ||
          (((word "UNIQUE" ++ edge).matchAt (after [] text)).isSome ||
            ((word "CHECK" ++ edge).matchAt (after [] text)).isSome)))) := by
  rw [match?_eq_matchAt]
  unfold matchAt constraintClause
  rw [run_followed, isSome_run_either, isSome_run_either, isSome_run_either, isSome_run_either]
  rfl

end Begin

namespace ClauseDescription
variable {clause : ClauseDescription} {text : Text}

theorem isConstraintClause (printed : Prints clause.lexemes text) : Draft.isConstraintClause text = true := by
  unfold Draft.isConstraintClause
  rw [isSome_constraintClause]
  unfold lexemes declarationLexemes at printed
  cases given : clause.declared with
  | some name =>
    rw [given] at printed
    rw [isSome_word (by decide) printed, Bool.true_or]
  | none =>
    rw [given, List.nil_append] at printed
    cases body : clause.body with
    | primaryKey columns =>
      rw [body] at printed
      rw [isSome_words (by decide) printed, Bool.true_or, Bool.or_true, Bool.or_true]
    | unique columns =>
      rw [body] at printed
      rw [isSome_word (by decide) printed, Bool.true_or, Bool.or_true, Bool.or_true, Bool.or_true]
    | foreignKey links table onDelete onUpdate =>
      rw [body] at printed
      rw [isSome_words (by decide) printed, Bool.true_or, Bool.or_true]

theorem ofMasked?_clause (printed : Prints clause.lexemes text) :
    ConstraintFamily.ofMasked? (Script.mask text) = some clause.body.family := by
  rw [Script.mask_of_tidy (printed.tidy clause.allSound)]
  -- The families are tried in order, and the keywords of the earlier ones are not in the clause.
  have absent : ∀ {keyword : String} {pattern : Pattern}, LedBy (Keyed keyword) pattern → IsKeyword keyword →
      keyword ∈ keywords → keyword ≠ "CONSTRAINT" → keyword ∉ clause.body.keywords →
      pattern.occurs text = false := by
    intro keyword pattern led key reserved other missing
    apply occurs_eq_false
    exact printed.find?_eq_none led key clause.allSound
      (lacks_append.mpr ⟨lacks_declaration reserved clause other, lacks_body reserved clause.body missing⟩)
  unfold ConstraintFamily.ofMasked?
  unfold lexemes at printed
  cases given : clause.body with
  | primaryKey columns =>
    rw [given] at printed absent
    have here : primaryKeyKeyword.occurs text = true :=
      Spelled.occurs_words (Or.inr rfl) (by decide) (by decide) printed
    simp only [absent foreignKeyKeyword_led (by decide) (by decide) (by decide) (by simp [ClauseBody.keywords]),
      here]
    rfl
  | unique columns =>
    rw [given] at printed absent
    have here : uniqueKeyword.occurs text = true := Spelled.occurs_word (Or.inr rfl) (by decide) printed
    simp only [absent foreignKeyKeyword_led (by decide) (by decide) (by decide) (by simp [ClauseBody.keywords]),
      absent primaryKeyKeyword_led (by decide) (by decide) (by decide) (by simp [ClauseBody.keywords]), here]
    rfl
  | foreignKey links table onDelete onUpdate =>
    rw [given] at printed
    have here : foreignKeyKeyword.occurs text = true :=
      Spelled.occurs_words (Or.inr rfl) (by decide) (by decide) printed
    simp only [here]
    rfl

theorem lexemes_body (body : ClauseBody) : ∃ keyword rest, body.lexemes = .keyword keyword :: rest ∧
    IsKeyword keyword ∧ keyword ≠ "CONSTRAINT" := by
  cases body with
  | primaryKey columns => exact ⟨_, _, rfl, by decide, by decide⟩
  | unique columns => exact ⟨_, _, rfl, by decide, by decide⟩
  | foreignKey links table onDelete onUpdate => exact ⟨_, _, rfl, by decide, by decide⟩

/-- The name that a clause declares is found again, and none is found where none was declared. -/
theorem declaredName?_clause (printed : Prints clause.lexemes text) :
    Constraint.declaredName? text = clause.declared.map Identifier.name := by
  unfold Constraint.declaredName?
  rw [Script.mask_of_tidy (printed.tidy clause.allSound)]
  unfold lexemes declarationLexemes at printed
  cases given : clause.declared with
  | none =>
    obtain ⟨keyword, rest, first, key, other⟩ := lexemes_body clause.body
    rw [given, List.nil_append, first] at printed
    obtain ⟨word, tail, spelled, behind, same⟩ := spelled_keyword.mp printed
    obtain ⟨_, rfl⟩ := List.cons.inj same
    rw [match?_constraintName_none key other spelled behind.outside]
    rfl
  | some name =>
    rw [given] at printed
    obtain ⟨word, tail, spelled, behind, same⟩ := spelled_keyword.mp printed
    obtain ⟨rest, last, rfl⟩ := spelled_name.mp behind
    obtain ⟨_, rfl⟩ := List.cons.inj same
    obtain ⟨span, here⟩ : ∃ span, constraintName.match? (word ++ ' ' :: (name.text ++ rest)) =
        some ⟨span, [(.name, Span.behind (word ++ [' ']) name.text)]⟩ :=
      match?_constraintName spelled (List.cons_ne_nil _ _) isBlank_space name.bare.word last.outside
    have part : (⟨span, [(.name, Span.behind (word ++ [' ']) name.text)]⟩ : Match).text? .name
        (word ++ ' ' :: (name.text ++ rest)) = some name.text :=
      Match.text?_of_part _ rest rfl (by simp)
    rw [here, Option.bind_some, part]
    obtain ⟨c, others, same⟩ := List.exists_cons_of_ne_nil name.bare.1
    simp only [Name.clean_word name.bare.word]
    simp only [same, Option.map_some, Identifier.name]

/-- What stands before and behind the first keyword of a clause. -/
theorem split_declaration {keyword : String} {back : List Lexeme}
    (printed : Prints (clause.declarationLexemes ++ .keyword keyword :: back) text) :
    ∃ before word tail, text = before ++ (word ++ tail) ∧ Spells keyword word ∧ Spelled back tail ∧
      endsWord before = false ∧ '(' ∉ before ∧ (before = [] ∨ ∃ front, before = front ++ [' ']) := by
  obtain ⟨left, before, word, tail, declared, gap, rfl, spelled, behind, start⟩ :=
    Spelled.split_keyword (Or.inr rfl) printed
  have wordy : ∀ lexeme ∈ clause.declarationLexemes, lexeme.isGroup = false := by
    unfold declarationLexemes
    split
    · exact fun _ member => absurd member List.not_mem_nil
    · simp [Lexeme.isGroup]
  have absent : '(' ∉ left := declared.not_mem_opening (allSound_declaration clause) wordy
  refine ⟨before, word, tail, rfl, spelled, behind, start, ?_, ?_⟩
  · intro member
    have inside : '(' ∈ left ++ [' '] := gap ▸ List.mem_append_right [' '] member
    rcases List.mem_append.mp inside with here | there
    · exact absent here
    · cases List.mem_singleton.mp there
  · cases left with
    | nil => exact Or.inl (List.cons.inj gap).2
    | cons c left => exact Or.inr ⟨left, (List.cons.inj gap).2⟩

end ClauseDescription

section Key
variable {names : List Identifier}

/-- A list of columns is read from the only parentheses of a text, wherever the match begins. -/
theorem text?_columns {reading : Pattern} (unnamed : reading.isUnnamed = true) {opening inner : Text}
    (absent : '(' ∉ opening) (flat : ∀ c ∈ inner, c ≠ '(' ∧ c ≠ ')') {found : Match}
    (here : (reading ++ parenthesized .columns).find? (opening ++ '(' :: (inner ++ [')'])) = some found) :
    found.text? .columns (opening ++ '(' :: (inner ++ [')'])) = some inner := by
  rw [find?_eq_findAfter] at here
  obtain ⟨passed, tail, same, here⟩ := findAfter_some here
  unfold matchAt at here
  rw [run_followed] at here
  obtain ⟨read, rest, ends, rfl, kept, here⟩ := run_some here
  obtain rfl := kept unnamed
  obtain ⟨list, last, rfl, list_flat, here⟩ := run_parenthesized_some here
  have inner_absent : '(' ∉ inner ++ [')'] := by
    intro member
    rcases List.mem_append.mp member with inside | closing
    · exact (flat _ inside).1 rfl
    · cases List.mem_singleton.mp closing
  -- The printed text has one opening parenthesis, so the match has read up to that one.
  have split : opening ++ '(' :: (inner ++ [')']) = (passed ++ read) ++ '(' :: (list ++ ')' :: last) := by
    simpa using same
  obtain ⟨_, _, closed⟩ := (List.append_cons_inj_of_notMem absent inner_absent).mp split
  obtain ⟨rfl, _, _⟩ := (List.append_cons_inj_of_notMem (fun member => (flat _ member).2 rfl)
    List.not_mem_nil).mp closed
  obtain rfl := Option.some.inj here
  apply Match.text?_of_part _ (')' :: last) rfl
  rw [split]
  simp

theorem keyColumns_of_occurs {reading : Pattern} (unnamed : reading.isUnnamed = true) {opening : Text}
    (absent : '(' ∉ opening) (filled : names ≠ [])
    (occurs : (reading ++ parenthesized .columns).occurs (opening ++ '(' :: (listing names ++ [')'])) = true) :
    Draft.keyColumns (reading ++ parenthesized .columns) (opening ++ '(' :: (listing names ++ [')'])) =
      names.map Identifier.name := by
  obtain ⟨found, here⟩ := Option.isSome_iff_exists.mp occurs
  unfold Draft.keyColumns
  rw [here, Option.bind_some, text?_columns unnamed absent (flat_listing names) here, Option.map_some,
    names_listing names filled, Option.getD_some]

/-- Nothing can stand between the keyword and the columns of a key but what the pattern leaves out. -/
theorem run_clustering_none {α : Type} {before rest : Text} {parts : List (Part × Span)}
    {next : Cursor → List (Part × Span) → Option α} (outside : beginsWord rest = false) :
    run clustering (after before rest) parts next = none := by
  unfold clustering
  rw [run_either, run_word_none (by decide) outside, run_word_none (by decide) outside]
  rfl

theorem keyColumns_primaryKey {clause : ClauseDescription} {columns : List Identifier} {text : Text}
    (printed : Prints (clause.declarationLexemes ++ (ClauseBody.primaryKey columns).lexemes) text)
    (filled : columns ≠ []) :
    Draft.keyColumns primaryKeyConstraint text = columns.map Identifier.name := by
  obtain ⟨before, word, tail, rfl, spelled, behind, start, absent, _⟩ :=
    ClauseDescription.split_declaration printed
  obtain ⟨other, rest, other_spelled, last, rfl⟩ := spelled_keyword.mp behind
  obtain ⟨finish, finished, rfl⟩ := spelled_group_spaced.mp last
  obtain rfl := spelled_nil.mp finished
  have bare := bare_of_spells (by decide) spelled
  have other_bare := bare_of_spells (by decide) other_spelled
  have opening : '(' ∉ before ++ word ++ ' ' :: (other ++ [' ']) := by
    simp [absent, bare.not_mem (c := '(') (by decide), other_bare.not_mem (c := '(') (by decide)]
  have whole : before ++ (word ++ ' ' :: (other ++ ' ' :: '(' :: (listing columns ++ [')']))) =
      (before ++ word ++ ' ' :: (other ++ [' '])) ++ '(' :: (listing columns ++ [')']) := by simp
  have occurs : primaryKeyConstraint.occurs
      (before ++ (word ++ ' ' :: (other ++ ' ' :: '(' :: (listing columns ++ [')'])))) = true := by
    apply occurs_of_matchAt
    apply Option.isSome_iff_exists.mpr
    refine ⟨?found, ?reads⟩
    case reads =>
      unfold matchAt primaryKeyConstraint primaryKey
      rw [run_followed, run_followed, run_followed, run_words (by decide) spelled other_spelled,
        run_optional_none (by rw [run_followed, run_blanks rfl, run_clustering_none rfl])]
      apply run_perhapsBlanks rfl
      apply run_parenthesized (flat_listing columns)
      rfl
  rw [whole] at occurs ⊢
  exact keyColumns_of_occurs (by decide) opening filled occurs

theorem keyColumns_unique {clause : ClauseDescription} {columns : List Identifier} {text : Text}
    (printed : Prints (clause.declarationLexemes ++ (ClauseBody.unique columns).lexemes) text)
    (filled : columns ≠ []) : Draft.keyColumns uniqueConstraint text = columns.map Identifier.name := by
  obtain ⟨before, word, tail, rfl, spelled, behind, start, absent, _⟩ :=
    ClauseDescription.split_declaration printed
  obtain ⟨finish, finished, rfl⟩ := spelled_group_spaced.mp behind
  obtain rfl := spelled_nil.mp finished
  have bare := bare_of_spells (by decide) spelled
  have opening : '(' ∉ before ++ word ++ [' '] := by
    simp [absent, bare.not_mem (c := '(') (by decide)]
  have whole : before ++ (word ++ ' ' :: '(' :: (listing columns ++ [')'])) =
      (before ++ word ++ [' ']) ++ '(' :: (listing columns ++ [')']) := by simp
  have occurs : uniqueConstraint.occurs (before ++ (word ++ ' ' :: '(' :: (listing columns ++ [')']))) = true := by
    apply occurs_of_matchAt
    apply Option.isSome_iff_exists.mpr
    refine ⟨?found, ?reads⟩
    case reads =>
      unfold matchAt uniqueConstraint
      rw [run_followed, run_followed, run_followed, run_followed, run_followed, run_word spelled,
        run_optional_none (by rw [run_followed, run_blanks rfl, run_clustering_none rfl]),
        run_optional_none (by
          rw [run_followed, run_blanks rfl, run_either, run_word_none (by decide) rfl,
            run_word_none (by decide) rfl]
          rfl),
        run_optional_none (by rw [run_followed, run_blanks rfl, run_identifier_none])]
      apply run_perhapsBlanks rfl
      apply run_parenthesized (flat_listing columns)
      rfl
  rw [whole] at occurs ⊢
  exact keyColumns_of_occurs (by decide) opening filled occurs

end Key

end SchemaAtlas.Printing
