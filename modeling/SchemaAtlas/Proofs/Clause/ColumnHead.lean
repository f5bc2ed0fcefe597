import SchemaAtlas.Proofs.Clause.ColumnReading
import SchemaAtlas.Proofs.Script.Keywords
/-!
How a column clause begins: with a name in any spelling, a type and perhaps arguments of the type. What
stands behind them are the attributes, and the beginning is read alike in front of all of them.
-/
namespace SchemaAtlas
open Text Pattern Cursor

namespace Phrase
variable {α : Type} {before rest name : Text} {parts : List (Part × Span)}
  {next : Cursor → List (Part × Span) → Option α} {result : α}

/-- A name as it is spelled, in one of the four kinds of delimiters or without any. -/
inductive IsIdentifier : Text → Prop where
  | plain {text : Text} (word : IsWord text) : IsIdentifier text
  | delimited {opening closing : Char} {inner : Text}
    (pair : (opening, closing) ∈ [('[', ']'), ('"', '"'), ('\x60', '\x60'), ('\'', '\'')]) (filled : inner ≠ [])
    (closed : closing ∉ inner) : IsIdentifier (opening :: (inner ++ [closing]))

theorem run_delimited {opening closing : Char} {inner : Text} (filled : inner ≠ []) (closed : closing ∉ inner)
    (goes : next (after (before ++ opening :: (inner ++ [closing])) rest) parts = some result) :
    run (delimited opening closing) (after before (opening :: (inner ++ [closing]) ++ rest)) parts next =
      some result := by
  have fits : ∀ c ∈ inner, (c != closing) = true := by
    intro c member
    apply bne_iff_ne.mpr
    rintro rfl
    exact closed member
  have split : opening :: (inner ++ [closing]) ++ rest = opening :: (inner ++ closing :: rest) := by simp
  unfold delimited
  rw [split, run_followed, run_followed, run_exactly]
  apply run_several filled fits (by simp)
  rw [run_exactly]
  simpa using goes

theorem run_identifier_spelled (spelled : IsIdentifier name) (outside : beginsWord rest = false)
    (goes : next (after (before ++ name) rest) parts = some result) :
    run identifier (after before (name ++ rest)) parts next = some result := by
  cases spelled with
  | plain word => exact run_identifier word outside goes
  | @delimited opening closing inner pair filled closed =>
    have here : run (delimited opening closing) (after before (opening :: (inner ++ [closing]) ++ rest)) parts next =
        some result := run_delimited filled closed goes
    -- The first character tells which of the alternatives it is.
    unfold identifier
    rw [run_either, run_either, run_either, run_either]
    simp only [List.mem_cons, Prod.mk.injEq, List.not_mem_nil, or_false] at pair
    rcases pair with ⟨rfl, rfl⟩ | ⟨rfl, rfl⟩ | ⟨rfl, rfl⟩ | ⟨rfl, rfl⟩
    · rw [here, Option.some_or]
    · rw [here, List.cons_append, run_delimited_ne (by decide), Option.none_or, Option.some_or]
    · rw [here, List.cons_append, run_delimited_ne (by decide), run_delimited_ne (by decide), Option.none_or,
        Option.none_or, Option.some_or]
    · rw [here, List.cons_append, run_delimited_ne (by decide), run_delimited_ne (by decide),
        run_delimited_ne (by decide), Option.none_or, Option.none_or, Option.none_or, Option.some_or]

theorem IsIdentifier.start (spelled : IsIdentifier name) (rest : Text) :
    ∃ c tail, name ++ rest = c :: tail ∧ isBlank c = false := by
  cases spelled with
  | plain word =>
    obtain ⟨c, others, rfl⟩ := List.exists_cons_of_ne_nil word.1
    exact ⟨c, others ++ rest, rfl, isBlank_of_isWordCharacter (word.2 c List.mem_cons_self)⟩
  | @delimited opening closing inner pair filled closed =>
    have each : ∀ pair ∈ [('[', ']'), ('"', '"'), ('\x60', '\x60'), ('\'', '\'')], isBlank pair.1 = false := by
      decide
    exact ⟨opening, inner ++ [closing] ++ rest, rfl, each (opening, closing) pair⟩

section Begin
variable {first gap second : Text} {keyword other : String} (word : IsWord first) (second_word : IsWord second)
  (filled : gap ≠ []) (blank : ∀ c ∈ gap, isBlank c = true)
  (always : ∀ place parts, (next place parts).isSome = true)
include word always

theorem isSome_whole_word (key : IsKeyword keyword) (outside : beginsWord rest = false) :
    (run (Pattern.word keyword) (after before (first ++ rest)) parts
      (fun middle parts => run edge middle parts next)).isSome = true ↔ Keyed keyword first := by
  constructor
  · intro found
    obtain ⟨_, found⟩ := Option.isSome_iff_exists.mp found
    obtain ⟨text, tail, same, folds, filled, fits, found⟩ := wordy_word key found
    have stop := (run_edge_some found).1
    rw [endsWord_of_fits filled fits, ne_comm, ne_eq, Bool.not_eq_true] at stop
    obtain ⟨rfl, _⟩ := word_unique word.2 fits outside stop same
    exact folds
  · intro folds
    have closes : endsWord (before ++ first) ≠ beginsWord rest := by
      rw [endsWord_of_fits word.1 word.2, outside]
      decide
    unfold Pattern.word
    rw [run_letters folds, run_edge closes]
    exact always _ _

include second_word filled blank in
theorem isSome_whole_words (key : IsKeyword keyword) (other_key : IsKeyword other)
    (outside : beginsWord rest = false) :
    (run (Phrase.words keyword other) (after before (first ++ (gap ++ (second ++ rest)))) parts
      (fun middle parts => run edge middle parts next)).isSome = true ↔
        Keyed keyword first ∧ Keyed other second := by
  have gapped : ∀ rest, beginsWord (gap ++ rest) = false := beginsWord_of_isBlank filled blank
  unfold Phrase.words
  rw [run_followed, run_followed]
  constructor
  · intro found
    obtain ⟨_, found⟩ := Option.isSome_iff_exists.mp found
    obtain ⟨text, _, same, folds, _, fits, found⟩ := wordy_word key found
    obtain ⟨read_gap, last, rfl, read_filled, read_blank, found⟩ := run_several_some found
    obtain ⟨rfl, behind⟩ := word_unique word.2 fits (gapped _)
      (beginsWord_of_isBlank read_filled read_blank _) same
    have start : last.head?.any isBlank = false := by
      obtain ⟨read, tail, rfl, _, some_read, read_fits, _⟩ := wordy_word other_key found
      exact IsWord.start ⟨some_read, read_fits⟩ tail
    obtain rfl := gap_unique blank read_blank (second_word.start rest) start behind
    exact ⟨folds, (isSome_whole_word second_word always other_key outside).mp
      (Option.isSome_iff_exists.mpr ⟨_, found⟩)⟩
  · rintro ⟨folds, other_folds⟩
    have second_read : (run (Pattern.word other) (after (before ++ first ++ gap) (second ++ rest)) parts
        (fun middle parts => run edge middle parts next)).isSome = true :=
      (isSome_whole_word second_word always other_key outside).mpr other_folds
    obtain ⟨result, goes⟩ := Option.isSome_iff_exists.mp second_read
    refine Option.isSome_iff_exists.mpr ⟨result, (run_letters folds).trans ?_⟩
    exact run_several filled blank (second_word.start rest) goes

end Begin

/-- The keywords of constraint clauses that a clause with two words begins with. -/
def ConstraintWords (first second : Text) : Prop :=
  Keyed "CONSTRAINT" first ∨ (Keyed "FOREIGN" first ∧ Keyed "KEY" second) ∨
    (Keyed "PRIMARY" first ∧ Keyed "KEY" second) ∨ Keyed "UNIQUE" first ∨ Keyed "CHECK" first

theorem isConstraintClause_iff {first gap second rest : Text} (word : IsWord first) (second_word : IsWord second)
    (filled : gap ≠ []) (blank : ∀ c ∈ gap, isBlank c = true) (outside : beginsWord rest = false) :
    Draft.isConstraintClause (first ++ (gap ++ (second ++ rest))) = true ↔ ConstraintWords first second := by
  have always (place : Cursor) (parts : List (Part × Span)) :
      (some (⟨⟨0, place.offset⟩, parts⟩ : Match)).isSome = true := rfl
  have gapped : beginsWord (gap ++ (second ++ rest)) = false := beginsWord_of_isBlank filled blank _
  unfold Draft.isConstraintClause
  rw [match?_eq_matchAt]
  unfold matchAt constraintClause
  rw [run_followed, isSome_run_either, isSome_run_either, isSome_run_either, isSome_run_either]
  simp only [Bool.or_eq_true]
  unfold foreignKey primaryKey ConstraintWords
  exact or_congr (isSome_whole_word word always (by decide) gapped)
    (or_congr (isSome_whole_words word second_word filled blank always (by decide) (by decide) outside)
      (or_congr (isSome_whole_words word second_word filled blank always (by decide) (by decide) outside)
        (or_congr (isSome_whole_word word always (by decide) gapped)
          (isSome_whole_word word always (by decide) gapped))))

theorem isConstraintClause_of_foreignKeyClause {text : Text} (foreign : (foreignKeyClause.match? text).isSome = true) :
    Draft.isConstraintClause text = true := by
  rw [match?_eq_matchAt] at foreign
  unfold matchAt foreignKeyClause at foreign
  rw [run_followed] at foreign
  unfold Draft.isConstraintClause
  rw [match?_eq_matchAt]
  unfold matchAt constraintClause
  rw [run_followed, isSome_run_either, isSome_run_either, foreign, Bool.true_or, Bool.or_true]

/-- A clause that begins with no word character is about no constraint. -/
theorem not_isConstraintClause_of_outside {text : Text} (outside : beginsWord text = false) :
    Draft.isConstraintClause text = false := by
  rw [← Bool.not_eq_true]
  intro constraint
  obtain ⟨_, _, read, tail, rfl, _, filled, fits, _⟩ := constraintClause_ahead constraint
  rw [beginsWord_of_fits filled fits] at outside
  cases outside

end Phrase

/-- The arguments of a type in their parentheses, perhaps behind a gap. -/
structure ArgumentList where
  gap : Text
  blank : ∀ c ∈ gap, isBlank c = true
  inner : Text
  flat : ∀ c ∈ inner, c ≠ '(' ∧ c ≠ ')'

def ArgumentList.text (list : ArgumentList) : Text := list.gap ++ '(' :: (list.inner ++ [')'])

/-- What a column clause begins with: a name, a type that is a word, and perhaps arguments of it. -/
structure ColumnHead where
  name : Text
  spelled : Phrase.IsIdentifier name
  gap : Text
  filled : gap ≠ []
  blank : ∀ c ∈ gap, isBlank c = true
  type : Text
  word : IsWord type
  arguments : Option ArgumentList

namespace ColumnHead
open Phrase
variable {head : ColumnHead} {tail other : Text}

def argumentText (head : ColumnHead) : Text := (head.arguments.map ArgumentList.text).getD []

def text (head : ColumnHead) : Text := head.name ++ (head.gap ++ (head.type ++ head.argumentText))

def columnName (head : ColumnHead) : String := String.ofList (Name.clean head.name)

/-- A list of arguments comes next, perhaps behind blanks. -/
def ArgumentsAhead (rest : Text) : Prop := ∃ (list : ArgumentList) (tail : Text), rest = list.text ++ tail

theorem not_argumentsAhead_nil : ¬ArgumentsAhead [] := by
  rintro ⟨list, tail, same⟩
  simp [ArgumentList.text] at same

theorem not_argumentsAhead_of_gap {gap : Text} (blank : ∀ c ∈ gap, isBlank c = true) {c : Char} {rest : Text}
    (solid : isBlank c = false) (other : c ≠ '(') : ¬ArgumentsAhead (gap ++ c :: rest) := by
  rintro ⟨list, tail, same⟩
  have parted : list.gap ++ '(' :: (list.inner ++ ')' :: tail) = gap ++ c :: rest := by
    simpa [ArgumentList.text] using same.symm
  have opening : '(' :: (list.inner ++ ')' :: tail) = c :: rest :=
    gap_unique list.blank blank rfl solid parted
  exact other (List.cons.inj opening).1.symm

theorem not_argumentsAhead {c : Char} {rest : Text} (solid : isBlank c = false) (other : c ≠ '(') :
    ¬ArgumentsAhead (' ' :: c :: rest) := not_argumentsAhead_of_gap isBlank_space solid other

/-- The text leaves the head as it is: neither the type nor its arguments go on in it. -/
def Precedes (head : ColumnHead) (rest : Text) : Prop :=
  head.arguments = none → beginsWord rest = false ∧ ¬ArgumentsAhead rest

theorem Precedes.outside (precedes : head.Precedes tail) : beginsWord (head.argumentText ++ tail) = false := by
  unfold argumentText
  cases given : head.arguments with
  | none => exact (precedes given).1
  | some list =>
    change beginsWord (list.gap ++ '(' :: (list.inner ++ [')']) ++ tail) = false
    cases gap : list.gap with
    | nil => rfl
    | cons c gap => exact isWordCharacter_of_isBlank (list.blank c (gap ▸ List.mem_cons_self))

theorem text_filled (head : ColumnHead) : head.text ≠ [] := by
  obtain ⟨c, tail, start, _⟩ := head.spelled.start (head.gap ++ (head.type ++ head.argumentText))
  rw [text, start]
  exact List.cons_ne_nil c tail

theorem text_append (head : ColumnHead) (tail : Text) :
    head.text ++ tail = head.name ++ (head.gap ++ (head.type ++ (head.argumentText ++ tail))) := by
  simp only [text, List.append_assoc]

/-- Whether a clause is about a constraint shows in its head. -/
theorem isConstraintClause_eq (precedes : head.Precedes tail) (also_precedes : head.Precedes other) :
    Draft.isConstraintClause (head.text ++ tail) = Draft.isConstraintClause (head.text ++ other) := by
  have spelled := head.spelled
  rw [text_append, text_append]
  generalize head.name = name at spelled
  cases spelled with
  | plain word =>
    rw [Bool.eq_iff_iff, isConstraintClause_iff word head.word head.filled head.blank precedes.outside,
      isConstraintClause_iff word head.word head.filled head.blank also_precedes.outside]
  | @delimited opening closing inner pair filled closed =>
    have each : ∀ pair ∈ [('[', ']'), ('"', '"'), ('\x60', '\x60'), ('\'', '\'')],
        isWordCharacter pair.1 = false := by decide
    have outside (tail : Text) : beginsWord (opening :: (inner ++ [closing]) ++ tail) = false :=
      each (opening, closing) pair
    rw [not_isConstraintClause_of_outside (outside _), not_isConstraintClause_of_outside (outside _)]

theorem stop_text (head : ColumnHead) : head.text.getLast?.any isBlank = false := by
  unfold text argumentText
  cases head.arguments with
  | none =>
    rw [Option.map_none, Option.getD_none, List.append_nil, ← List.append_assoc,
      List.getLast?_append_of_ne_nil _ head.word.1]
    exact head.word.stop
  | some list =>
    have closing : head.name ++ (head.gap ++ (head.type ++ list.text)) =
        (head.name ++ head.gap ++ head.type ++ list.gap ++ '(' :: list.inner) ++ [')'] := by
      simp [ArgumentList.text]
    rw [Option.map_some, Option.getD_some, closing, List.getLast?_concat]
    decide

/-- The head begins with no blank, so a clause is trimmed if no blank ends it. -/
theorem trim_text (head : ColumnHead) (stop : tail.getLast?.any isBlank = false) :
    trim (head.text ++ tail) = head.text ++ tail := by
  apply trim_eq_self
  · obtain ⟨c, rest, start, solid⟩ := head.spelled.start (head.gap ++ (head.type ++ (head.argumentText ++ tail)))
    rw [text_append, start]
    exact solid
  · exact stop_append head.stop_text stop

/-- The spans of the arguments of the type, behind what stands before them. -/
def argumentSpans (head : ColumnHead) (before : Text) : List (Part × Span) :=
  match head.arguments with
  | none => []
  | some list => [(.arguments, Span.behind (before ++ list.gap ++ ['(']) list.inner)]

theorem run_arguments (precedes : head.Precedes tail) {α : Type} {before : Text} {parts : List (Part × Span)}
    {next : Cursor → List (Part × Span) → Option α} {result : α}
    (goes : next (after (before ++ head.argumentText) tail) (head.argumentSpans before ++ parts) = some result) :
    run (optional (perhapsBlanks ++ parenthesized .arguments)) (after before (head.argumentText ++ tail)) parts next =
      some result := by
  unfold argumentText argumentSpans at goes
  unfold argumentText
  cases given : head.arguments with
  | none =>
    rw [given] at goes
    have unopened : run (perhapsBlanks ++ parenthesized .arguments) (after before tail) parts next = none := by
      by_contra found
      obtain ⟨_, found⟩ := Option.ne_none_iff_exists'.mp found
      rw [run_followed] at found
      obtain ⟨gap, _, rfl, blank, found⟩ := run_many_some found
      obtain ⟨inner, rest, rfl, flat, _⟩ := run_parenthesized_some found
      refine (precedes given).2 ⟨⟨gap, blank, inner, flat⟩, rest, ?_⟩
      simp [ArgumentList.text]
    change run (optional _) (after before tail) parts next = some result
    rw [run_optional_none unopened]
    simpa using goes
  | some list =>
    rw [given] at goes
    have split : list.text ++ tail = list.gap ++ '(' :: (list.inner ++ ')' :: tail) := by simp [ArgumentList.text]
    change run (optional _) (after before (list.text ++ tail)) parts next = some result
    apply run_optional_of_some
    rw [split, run_followed]
    apply run_many list.blank rfl
    apply run_parenthesized list.flat
    simpa [ArgumentList.text] using goes

/-- The parts of the head are found where they stand, and the rest is the body. -/
theorem match?_head (precedes : head.Precedes tail) :
    ∃ found, columnDefinition.match? (head.text ++ tail) = some found ∧
      found.text? .column (head.text ++ tail) = some head.name ∧
      found.text? .type (head.text ++ tail) = some head.type ∧
      found.text? .arguments (head.text ++ tail) = head.arguments.map ArgumentList.inner ∧
      found.text? .body (head.text ++ tail) = some tail := by
  rw [text_append]
  let before := head.name ++ head.gap ++ head.type
  have here : ∃ span, columnDefinition.matchAt (after []
      (head.name ++ (head.gap ++ (head.type ++ (head.argumentText ++ tail))))) =
        some ⟨span, (.body, Span.behind (before ++ head.argumentText) tail) :: (head.argumentSpans before ++
          [(.type, Span.behind (head.name ++ head.gap) head.type), (.column, Span.behind [] head.name)])⟩ := by
    obtain ⟨c, rest, start, solid⟩ := head.spelled.start (head.gap ++ (head.type ++ (head.argumentText ++ tail)))
    refine ⟨?span, ?reads⟩
    case reads =>
      unfold matchAt columnDefinition
      rw [run_followed, run_followed, run_followed, run_followed, run_followed,
        run_perhapsBlanks_none (by rw [start]; exact solid), run_named]
      apply run_identifier_spelled head.spelled (beginsWord_of_isBlank head.filled head.blank _)
      apply run_several head.filled head.blank (head.word.start _)
      rw [run_named]
      apply run_typeName head.word precedes.outside
      apply run_arguments precedes
      rw [run_named, run_remainder]
      rfl
  obtain ⟨span, here⟩ := here
  refine ⟨_, here, ?_, ?_, ?_, ?_⟩
  · refine Match.text?_of_part [] (head.gap ++ (head.type ++ (head.argumentText ++ tail))) ?_ rfl
    unfold argumentSpans
    cases head.arguments <;> rfl
  · refine Match.text?_of_part (head.name ++ head.gap) (head.argumentText ++ tail) ?_ (by simp)
    unfold argumentSpans
    cases head.arguments <;> rfl
  · unfold argumentSpans argumentText
    cases given : head.arguments with
    | none => rfl
    | some list => exact Match.text?_of_part _ (')' :: tail) rfl (by simp [before, ArgumentList.text])
  · exact Match.text?_of_part _ [] rfl (by simp [before])

/-- A clause with a head is the column of its name, of its type and with the attributes behind. -/
theorem read_head (precedes : head.Precedes tail) (column : Draft.isConstraintClause (head.text ++ tail) = false)
    (trimmed : Text.trim (head.text ++ tail) = head.text ++ tail) (filled : head.columnName ≠ "")
    (taken : Roster Column) : Column.read taken (head.text ++ tail) =
      if taken.has head.columnName then .duplicate head.columnName
      else .ofReading (do
        let type ← DataType.read head.type (head.arguments.map ArgumentList.inner)
        Attributes.apply (.plain head.columnName type) tail) := by
  obtain ⟨found, matched, name, type, arguments, body⟩ := match?_head precedes
  have unlinked : (foreignKeyClause.match? (head.text ++ tail)).isSome = false := by
    rw [← Bool.not_eq_true]
    intro foreign
    rw [isConstraintClause_of_foreignKeyClause foreign] at column
    cases column
  have visible : isAllBlank (head.text ++ tail) = false := by
    obtain ⟨c, rest, start, solid⟩ := head.spelled.start (head.gap ++ (head.type ++ (head.argumentText ++ tail)))
    rw [text_append, start]
    simp [isAllBlank, solid]
  have named : String.ofList (Name.clean head.name) = head.columnName := rfl
  unfold Column.read
  simp only [trimmed, unlinked, visible, matched, name, type, arguments, body, Option.getD_some, named,
    beq_eq_false_iff_ne.mpr filled, Bool.false_eq_true, ↓reduceIte]

end ColumnHead
end SchemaAtlas
