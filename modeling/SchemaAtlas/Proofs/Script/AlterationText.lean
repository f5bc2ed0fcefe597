import SchemaAtlas.Script.Reading
import SchemaAtlas.Proofs.Script.Enclosure
import SchemaAtlas.Proofs.Script.Keywords
/-!
Alterations as they are written for a list of constraint clauses, each behind a keyword of its own. They
are read back as these clauses for this table, whatever word its name is: even the word that may stand
before a name is the name where no other one follows.
-/
namespace SchemaAtlas
open Text Pattern Cursor

/-- The alteration that adds clauses to a table, with the keyword before each of them. -/
def Alteration.text (table : Text) (clauses : List Text) : Text :=
  "ALTER TABLE ".toList ++ (table ++ ' ' :: [',', ' '].intercalate (clauses.map ("ADD ".toList ++ ·)))

namespace Phrase
variable {α : Type} {before rest name : Text} {parts : List (Part × Span)}
  {next : Cursor → List (Part × Span) → Option α}

/-- A text that begins like a constraint clause. -/
def ConstraintAhead (rest : Text) : Prop :=
  ∃ keyword ∈ ["CONSTRAINT", "FOREIGN", "PRIMARY", "UNIQUE", "CHECK"], WordAhead (Keyed keyword) [] rest

theorem constraintAhead_append {clause more : Text} (constraint : Draft.isConstraintClause clause = true)
    (outside : beginsWord more = false) : ConstraintAhead (clause ++ more) := by
  obtain ⟨keyword, member, text, tail, rfl, keyed, filled, fits, start, stop⟩ := constraintClause_ahead constraint
  refine ⟨keyword, member, text, tail ++ more, List.append_assoc .., keyed, filled, fits, start, ?_⟩
  cases tail with
  | nil => exact outside
  | cons c tail => exact stop

theorem constraintAhead {clause : Text} (constraint : Draft.isConstraintClause clause = true) :
    ConstraintAhead clause := by
  have ahead := constraintAhead_append constraint (show beginsWord [] = false from rfl)
  rwa [List.append_nil] at ahead

theorem ConstraintAhead.begins (ahead : ConstraintAhead rest) : beginsWord rest = true := by
  obtain ⟨_, _, text, tail, rfl, _, filled, fits, _⟩ := ahead
  exact beginsWord_of_fits filled fits tail

/-- The keywords of constraint clauses are longer than those of alterations. -/
theorem run_word_none_of_constraint {keyword : String} (key : IsKeyword keyword) (short : keyword.toList.length < 5)
    (ahead : ConstraintAhead rest) :
    run (word keyword) (after before rest) parts (fun middle parts => run blanks middle parts next) = none := by
  by_contra found
  obtain ⟨_, found⟩ := Option.ne_none_iff_exists'.mp found
  obtain ⟨other, member, read, behind, rfl, keyed, _, fits, _, stop⟩ := ahead
  obtain ⟨text, tail, same, folds, found⟩ := run_word_some found
  obtain ⟨gap, tail, rfl, filled, blank, _⟩ := run_several_some found
  obtain ⟨rfl, _⟩ := word_unique fits (wordCharacters_of_folds key folds) stop
    (beginsWord_of_isBlank filled blank tail) same
  have long : ∀ keyword ∈ ["CONSTRAINT", "FOREIGN", "PRIMARY", "UNIQUE", "CHECK"],
      5 ≤ keyword.toList.length := by decide
  have lengths := keyed.length_eq.trans folds.length_eq.symm
  have enough := long other member
  omega

theorem ConstraintAhead.blankless (ahead : ConstraintAhead rest) : rest.head?.any isBlank = false := by
  have begins := ahead.begins
  cases rest with
  | nil => rfl
  | cons c rest => exact isBlank_of_isWordCharacter begins

theorem not_dotAhead_space (begins : beginsWord rest = true) : ¬DotAhead (' ' :: rest) := by
  cases rest with
  | nil => cases begins
  | cons c rest =>
    have letter : isWordCharacter c = true := begins
    refine not_dotAhead isBlank_space (isBlank_of_isWordCharacter letter) ?_
    rintro rfl
    cases letter

/-- The word that may stand before a name is the name itself where the keyword of a clause follows it. -/
theorem run_only_none {add : Text} (spelled : Spells "ADD" add) (word : IsWord name) (ahead : ConstraintAhead rest) :
    run (Pattern.word "ONLY" ++ blanks) (after before (name ++ ' ' :: (add ++ ' ' :: rest))) parts
      (fun middle parts => run (named .table qualified) middle parts fun middle parts =>
        run blanks middle parts fun middle parts =>
          run (optional (Pattern.word "WITH" ++ blanks ++ optional (Pattern.word "NO") ++ Pattern.word "CHECK" ++
            blanks)) middle parts fun middle parts =>
            run (Pattern.word "ADD") middle parts fun middle parts => run blanks middle parts next) = none := by
  by_contra found
  obtain ⟨_, found⟩ := Option.ne_none_iff_exists'.mp found
  have bare := bare_of_spells (by decide) spelled
  rw [run_followed] at found
  obtain ⟨text, _, same, folds, found⟩ := run_word_some found
  obtain ⟨gap, _, rfl, filled, blank, found⟩ := run_several_some found
  obtain ⟨_, behind⟩ := word_unique word.2 (wordCharacters_of_folds (by decide) folds) rfl
    (beginsWord_of_isBlank filled blank _) same
  obtain rfl := space_unique filled blank (bare.start _) behind
  -- What would be the name of the table is the keyword, and no other one stands behind it.
  have dotless : ¬DotAhead (' ' :: rest) := not_dotAhead_space ahead.begins
  rw [run_named] at found
  unfold qualified at found
  rw [run_followed, run_optional_none (run_qualifier_none bare.word rfl dotless)] at found
  obtain ⟨d, others, letters⟩ := List.exists_cons_of_ne_nil bare.1
  have fits : isWordCharacter d = true := bare.fits d (letters ▸ List.mem_cons_self)
  rw [letters, List.cons_append] at found
  obtain ⟨read, _, same, read_word, found⟩ := run_identifier_some fits found
  obtain ⟨gap, _, rfl, filled, blank, found⟩ := run_several_some found
  rw [← List.cons_append, ← letters] at same
  obtain ⟨_, behind⟩ := word_unique bare.fits read_word.2 rfl (beginsWord_of_isBlank filled blank _) same
  obtain rfl := space_unique filled blank ahead.blankless behind
  rcases run_optional_some found with found | found
  · rw [run_followed, run_followed, run_followed, run_followed,
      run_word_none_of_constraint (by decide) (by decide) ahead] at found
    cases found
  · rw [run_word_none_of_constraint (by decide) (by decide) ahead] at found
    cases found

theorem match?_alterTableAdd {alter letters add body : Text} (alter_spelled : Spells "ALTER" alter)
    (table_spelled : Spells "TABLE" letters) (add_spelled : Spells "ADD" add) (word : IsWord name)
    (ahead : ConstraintAhead body) :
    let whole := alter ++ ' ' :: (letters ++ ' ' :: (name ++ ' ' :: (add ++ ' ' :: body)))
    ∃ found, alterTableAdd.match? whole = some found ∧ found.text? .table whole = some name ∧
      found.text? .body whole = some body := by
  intro whole
  have add_bare := bare_of_spells (by decide) add_spelled
  have here : ∃ span, alterTableAdd.matchAt (after [] whole) =
      some ⟨span, [(.body, Span.behind (alter ++ [' '] ++ letters ++ [' '] ++ name ++ [' '] ++ add ++ [' ']) body),
        (.table, Span.behind (alter ++ [' '] ++ letters ++ [' ']) name)]⟩ := by
    refine ⟨?span, ?reads⟩
    case reads =>
      unfold matchAt alterTableAdd
      rw [run_followed, run_followed, run_followed, run_followed, run_followed, run_followed, run_followed,
        run_followed, run_words (by decide) alter_spelled table_spelled, run_blanks (word.start _),
        run_optional_none (run_only_none add_spelled word ahead), run_named]
      apply run_qualified word rfl (not_dotAhead_space (add_bare.beginsWord _))
      rw [run_blanks (add_bare.start _), run_optional_none (by
          rw [run_followed, run_followed, run_followed, run_followed,
            run_word_ne (by decide) (by decide) add_spelled rfl (by decide)]),
        run_word add_spelled, run_blanks ahead.blankless, run_named, run_remainder]
      rfl
  obtain ⟨span, here⟩ := here
  refine ⟨_, here, ?_, ?_⟩
  · exact Match.text?_of_part _ (' ' :: (add ++ ' ' :: body)) rfl (by simp [whole])
  · exact Match.text?_of_part _ [] rfl (by simp [whole])

end Phrase

namespace Alteration
open Phrase
variable {name clause : Text} {clauses : List Text}

/-- A clause that an alteration can carry: a single trimmed clause of one of the constraints. -/
structure Carries (clause : Text) : Prop where
  constraint : Draft.isConstraintClause clause = true
  enclosed : Script.IsEnclosed clause
  trimmed : Text.trim clause = clause

theorem Carries.filled (carries : Carries clause) : clause ≠ [] := by
  rintro rfl
  cases (constraintAhead carries.constraint).begins

theorem withoutAdd_constraint (constraint : Draft.isConstraintClause clause = true) : withoutAdd clause = clause := by
  have none_found : addKeyword.match? clause = none := by
    rw [match?_eq_matchAt, matchAt, addKeyword, run_followed,
      run_word_none_of_constraint (by decide) (by decide) (constraintAhead constraint)]
  unfold withoutAdd
  rw [none_found]

/-- The keyword goes with the space behind it. -/
theorem withoutAdd_add (carries : Carries clause) : withoutAdd ("ADD ".toList ++ clause) = clause := by
  have add : Spells "ADD" "ADD".toList := by decide
  have found : addKeyword.matchAt (after [] ("ADD".toList ++ ' ' :: clause)) = some ⟨⟨0, 4⟩, []⟩ := by
    rw [matchAt, addKeyword, run_followed, run_word add, run_blanks (constraintAhead carries.constraint).blankless]
    rfl
  have matched : addKeyword.match? ("ADD ".toList ++ clause) = some ⟨⟨0, 4⟩, []⟩ := found
  unfold withoutAdd
  rw [matched]
  rfl

theorem enclosed_add (carries : Carries clause) : Script.IsEnclosed ("ADD ".toList ++ clause) ∧
    "ADD ".toList ++ clause ≠ [] ∧ Text.trim ("ADD ".toList ++ clause) = "ADD ".toList ++ clause := by
  have enclosed : Script.IsEnclosed ('A' :: 'D' :: 'D' :: ' ' :: clause) := by
    iterate 4 rw [Script.isEnclosed_cons_of_level (by decide) (by decide) (by decide)]
    exact carries.enclosed
  have stop : ("ADD ".toList ++ clause).getLast?.any isBlank = false := by
    have last := stop_trim clause
    rwa [carries.trimmed, ← List.getLast?_append_of_ne_nil "ADD ".toList carries.filled] at last
  exact ⟨enclosed, List.cons_ne_nil _ _, trim_eq_self rfl stop⟩

/-- The clauses of an alteration are those that it was written for. -/
theorem read?_text (word : IsWord name) (filled : clauses ≠ []) (carries : ∀ clause ∈ clauses, Carries clause) :
    read? (text name clauses) = some ⟨String.ofList name, clauses⟩ := by
  obtain ⟨first, others, rfl⟩ := List.exists_cons_of_ne_nil filled
  let body := [',', ' '].intercalate (first :: others.map ("ADD ".toList ++ ·))
  have first_carries := carries first List.mem_cons_self
  have other_carries : ∀ clause ∈ others, Carries clause :=
    fun clause member => carries clause (List.mem_cons_of_mem first member)
  have ahead : ConstraintAhead body := by
    cases others with
    | nil => simpa [body] using constraintAhead first_carries.constraint
    | cons second others =>
      have spread : body = first ++ ',' :: ' ' :: _ := commas_cons _ _ _
      rw [spread]
      exact constraintAhead_append first_carries.constraint rfl
  have whole : text name (first :: others) =
      "ALTER".toList ++ ' ' :: ("TABLE".toList ++ ' ' :: (name ++ ' ' :: ("ADD".toList ++ ' ' :: body))) := by
    have alter : "ALTER TABLE ".toList = "ALTER".toList ++ ' ' :: ("TABLE".toList ++ [' ']) := by decide
    have add : "ADD ".toList = "ADD".toList ++ [' '] := by decide
    unfold text
    rw [List.map_cons, commas_append, alter]
    simp only [List.append_assoc, List.cons_append, List.nil_append, body, add]
  obtain ⟨found, here, table, added⟩ := match?_alterTableAdd (show Spells "ALTER" "ALTER".toList by decide)
    (show Spells "TABLE" "TABLE".toList by decide) (show Spells "ADD" "ADD".toList by decide) word ahead
  have split : Script.clauses body = first :: others.map ("ADD ".toList ++ ·) := by
    apply Script.clauses_commas
    intro clause member
    rcases List.mem_cons.mp member with rfl | later
    · exact ⟨first_carries.enclosed, first_carries.filled, first_carries.trimmed⟩
    · obtain ⟨other, inside, rfl⟩ := List.mem_map.mp later
      exact enclosed_add (other_carries other inside)
  have stripped : (others.map ("ADD ".toList ++ ·)).map withoutAdd = others := by
    rw [List.map_map]
    exact (List.map_congr_left fun clause member => withoutAdd_add (other_carries clause member)).trans
      (List.map_id _)
  unfold read?
  rw [whole, here]
  simp only [Option.bind_eq_bind, Option.bind_some, table, added, split, List.map_cons, stripped,
    withoutAdd_constraint first_carries.constraint, Name.cleanQualified_word word]
  rfl

end Alteration
end SchemaAtlas
