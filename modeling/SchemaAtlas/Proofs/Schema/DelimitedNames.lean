import SchemaAtlas.Proofs.Pattern.Listing
import SchemaAtlas.Proofs.Printing.Statement
import SchemaAtlas.Proofs.Schema.IndexListing
import SchemaAtlas.Proofs.Script.Definition
import SchemaAtlas.Proofs.Script.Delimiters
import SchemaAtlas.Proofs.Script.Passage
/-!
Tables and columns with names in delimiters. A name that the scans pass in its delimiters comes out as it was written,
whatever else it holds, and what stands behind the definition is read as if it stood alone. To the scans brackets
are characters like any other, so in brackets a name is passed only if it would be passed without them.
-/
namespace SchemaAtlas
open Text Pattern Cursor

namespace Name
variable {opening closing : Char} {name : Text}

/-- A name that can be written in delimiters: it does not hold the closing one, and no layout is lost in it. -/
structure IsWritable (opening closing : Char) (name : Text) : Prop where
  pair : areDelimiters opening closing = true
  filled : name ≠ []
  closed : closing ∉ name
  spaced : IsSpaced name
  trimmed : Text.trim name = name

/-- Between quotation marks a backslash must not stand in front of the closing mark, and in brackets the scans must
pass the name. -/
structure IsSealed (opening closing : Char) (name : Text) : Prop extends IsWritable opening closing name where
  passed : (Script.isQuotationMark opening = true ∧ name.getLast? ≠ some '\\') ∨
    (opening = '[' ∧ Script.IsPassed name)

instance (opening closing : Char) (name : Text) : Decidable (IsWritable opening closing name) :=
  decidable_of_iff (areDelimiters opening closing = true ∧ name ≠ [] ∧ closing ∉ name ∧ IsSpaced name ∧
      Text.trim name = name)
    ⟨fun ⟨pair, filled, closed, spaced, trimmed⟩ => ⟨pair, filled, closed, spaced, trimmed⟩,
      fun ⟨pair, filled, closed, spaced, trimmed⟩ => ⟨pair, filled, closed, spaced, trimmed⟩⟩

instance (opening closing : Char) (name : Text) : Decidable (IsSealed opening closing name) :=
  decidable_of_iff (IsWritable opening closing name ∧ ((Script.isQuotationMark opening = true ∧
      name.getLast? ≠ some '\\') ∨ (opening = '[' ∧ Script.IsPassed name)))
    ⟨fun ⟨writable, passed⟩ => ⟨writable, passed⟩, fun ⟨writable, passed⟩ => ⟨writable, passed⟩⟩

theorem getLast?_enclosed (opening closing : Char) (name : Text) :
    (enclosed opening closing name).getLast? = some closing := List.getLast?_concat (l := opening :: name)

theorem areDelimiters_plain (pair : areDelimiters opening closing = true) :
    closing ≠ '-' ∧ closing ≠ '/' ∧ closing ≠ '\\' := by
  rcases areDelimiters_cases pair with ⟨_, rfl⟩ | ⟨marks, rfl⟩
  · exact ⟨by decide, by decide, by decide⟩
  · refine ⟨?_, ?_, ?_⟩ <;> (rintro rfl; cases marks)

theorem IsSealed.passed_enclosed (sealed : IsSealed opening closing name) :
    Script.IsPassed (enclosed opening closing name) := by
  have closed := sealed.closed
  rcases areDelimiters_cases sealed.pair with ⟨rfl, rfl⟩ | ⟨marks, rfl⟩
  · rcases sealed.passed with ⟨marks, _⟩ | ⟨_, passed⟩
    · cases marks
    · exact passed.bracketed
  · rcases sealed.passed with ⟨_, unescaped⟩ | ⟨rfl, _⟩
    · exact .quoted marks closed unescaped
    · cases marks

end Name

namespace Script
open Name
variable {opening closing : Char} {name : Text}

def definitionBody (opening closing : Char) (name : Text) : Text := enclosed opening closing name ++ " int".toList

/-- A table of the name with one column of the name. -/
def definition (opening closing : Char) (name : Text) : Text :=
  "CREATE TABLE ".toList ++ (enclosed opening closing name ++
    ' ' :: '(' :: (definitionBody opening closing name ++ [')']))

theorem definition_eq (opening closing : Char) (name : Text) : definition opening closing name =
    ("CREATE TABLE ".toList ++ (enclosed opening closing name ++ [' '])) ++
      '(' :: (definitionBody opening closing name ++ [')']) := by
  unfold definition
  generalize "CREATE TABLE ".toList = words
  rw [List.append_assoc, List.append_assoc]
  rfl

section Layout

theorem passed_body (sealed : IsSealed opening closing name) : IsPassed (definitionBody opening closing name) := by
  obtain ⟨line, block, plain⟩ := areDelimiters_plain sealed.pair
  exact sealed.passed_enclosed.append (.of_idle (by decide))
    (joins_of_last (getLast?_enclosed _ _ _) line block plain _)

theorem passed_definition (sealed : IsSealed opening closing name) : IsPassed (definition opening closing name) := by
  obtain ⟨line, block, plain⟩ := areDelimiters_plain sealed.pair
  have head : IsPassed ("CREATE TABLE ".toList ++ (enclosed opening closing name ++ [' '])) :=
    IsPassed.append (.of_idle (by decide))
      (sealed.passed_enclosed.append (.single rfl) (joins_of_last (getLast?_enclosed _ _ _) line block plain _))
      (joins_of_last (c := ' ') rfl (by decide) (by decide) (by decide) _)
  have last : ("CREATE TABLE ".toList ++ (enclosed opening closing name ++ [' '])).getLast? = some ' ' := by
    rw [← List.append_assoc, List.getLast?_concat]
  rw [definition_eq]
  exact head.append (passed_body sealed).group (joins_of_last last (by decide) (by decide) (by decide) _)

theorem trim_definition (opening closing : Char) (name : Text) :
    Text.trim (definition opening closing name) = definition opening closing name := by
  have last : (definition opening closing name).getLast? = some ')' := by
    rw [definition_eq, ← List.cons_append, ← List.append_assoc, List.getLast?_concat]
  exact trim_eq_self rfl (by rw [last]; rfl)

theorem collapse_definition (sealed : IsSealed opening closing name) :
    Text.collapse ' ' (definition opening closing name) = definition opening closing name := by
  obtain ⟨solid, closing_solid, _⟩ := areDelimiters_spec sealed.pair
  have words : Text.collapse ' ' "CREATE TABLE ".toList = "CREATE TABLE ".toList := by decide
  have type : Text.collapse ' ' (" int".toList ++ [')']) = " int".toList ++ [')'] := by decide
  have between : Text.collapse ' ' [' ', '('] = [' ', '('] := by decide
  have regrouped : definition opening closing name = "CREATE TABLE ".toList ++ opening :: (name ++ closing ::
      ([' ', '('] ++ opening :: (name ++ closing :: (" int".toList ++ [')'])))) := by
    unfold definition definitionBody
    generalize "CREATE TABLE ".toList = words
    generalize " int".toList = type
    rw [enclosed_append, List.append_assoc, enclosed_append]
    rfl
  rw [regrouped, collapse_append solid, collapse_append closing_solid, collapse_append solid,
    collapse_append closing_solid, sealed.spaced.collapse, words, between, type]

theorem definition_filled (opening closing : Char) (name : Text) : definition opening closing name ≠ [] :=
  List.cons_ne_nil _ _

/-- The definition is the first statement, and the others are those of the text behind it. -/
theorem statements_definition (sealed : IsSealed opening closing name) (further : Text) :
    statementsOf (String.ofList (definition opening closing name ++ ';' :: further)) =
      definition opening closing name :: statementsOf (String.ofList further) := by
  have passed := passed_definition sealed
  have top : (standing (Text.collapse ' ' (withoutComments (definition opening closing name)))).isTop = true := by
    rw [withoutComments, passed.bare.uncomment_eq, collapse_definition sealed]
    exact passed.isTop
  have solid : isBlank ';' = false := by decide
  have alone := passed.statements_eq (definition_filled _ _ _) (trim_definition opening closing name)
  unfold statementsOf
  rw [String.toList_ofList, String.toList_ofList]
  unfold normalized
  rw [statements_trim, statements_trim, withoutComments_semicolon passed.code, collapse_append solid,
    statements_semicolon top, withoutComments, passed.bare.uncomment_eq, collapse_definition sealed, alone]
  rfl

end Layout

section Head

theorem find?_head (sealed : IsSealed opening closing name) :
    ∃ found, Phrase.createTableHead.find? (definition opening closing name) = some found ∧
      found.text? .table (definition opening closing name) = some (enclosed opening closing name) ∧
      found.span.stop = ("CREATE TABLE ".toList ++ (enclosed opening closing name ++ [' '])).length + 1 := by
  obtain ⟨solid, _, unworded, _⟩ := areDelimiters_spec sealed.pair
  have whole : definition opening closing name = "CREATE".toList ++ ' ' :: ("TABLE".toList ++
      (' ' :: (enclosed opening closing name ++ ' ' :: '(' :: (definitionBody opening closing name ++ [')'])))) := by
    rw [definition_eq, List.append_assoc, List.append_assoc]
    rfl
  have start (rest : Text) : (enclosed opening closing name ++ rest).head?.any isBlank = false := solid
  have outside (rest : Text) : beginsWord (enclosed opening closing name ++ rest) = false := unworded
  have dotless (rest : Text) : ¬Phrase.DotAhead (' ' :: '(' :: rest) :=
    have blank : ∀ c ∈ [' '], isBlank c = true := isBlank_space
    Phrase.not_dotAhead blank (by decide) (by decide)
  have here : Phrase.createTableHead.matchAt (after [] (definition opening closing name)) =
      some ⟨⟨0, ("CREATE".toList ++ [' '] ++ "TABLE".toList ++ [' '] ++ enclosed opening closing name ++ [' '] ++
        ['(']).length⟩, [(.table, Span.behind ("CREATE".toList ++ [' '] ++ "TABLE".toList ++ [' '])
          (enclosed opening closing name))]⟩ := by
    rw [whole]
    unfold matchAt Phrase.createTableHead
    rw [run_followed, run_followed, run_followed, run_followed, run_followed,
      Phrase.run_createTable (by decide) (by decide) rfl rfl, Phrase.run_blanks (start _),
      Phrase.run_ifNotExists_of_outside (outside _), run_named]
    apply Phrase.run_qualified_enclosed sealed.pair sealed.filled sealed.closed rfl (dotless _)
    apply Phrase.run_perhapsBlanks rfl
    rw [run_exactly]
    rfl
  refine ⟨_, findAfter_of_matchAt here, Match.text?_of_part _ _ rfl (whole.trans rfl), ?_⟩
  simp only [List.length_append, List.length_singleton]
  rfl

/-- The definition is one of the name, by its body. -/
theorem read_definition (sealed : IsSealed opening closing name) :
    TableStatement.read (definition opening closing name) =
      .definition (String.ofList name) (definitionBody opening closing name) := by
  obtain ⟨found, here, named, stop⟩ := find?_head sealed
  have group := (passed_body sealed).group?_eq ("CREATE TABLE ".toList ++ (enclosed opening closing name ++ [' '])) []
  rw [← definition_eq] at group
  have read := TableStatement.read_of_head here named (by rw [stop, Nat.add_sub_cancel]; exact group)
  rwa [cleanQualified_enclosed sealed.pair sealed.filled sealed.closed sealed.trimmed] at read

end Head

section Column

theorem space_filled : [' '] ≠ [] := List.cons_ne_nil _ _

def columnHead (sealed : IsSealed opening closing name) : ColumnHead where
  name := enclosed opening closing name
  spelled := Phrase.spelled_enclosed sealed.pair sealed.filled sealed.closed
  gap := [' ']
  filled := space_filled
  blank := isBlank_space
  type := "int".toList
  word := by decide
  arguments := none

theorem text_columnHead (sealed : IsSealed opening closing name) :
    (columnHead sealed).text ++ [] = definitionBody opening closing name := List.append_nil _

theorem trim_body (sealed : IsSealed opening closing name) :
    Text.trim (definitionBody opening closing name) = definitionBody opening closing name := by
  have last : (definitionBody opening closing name).getLast? = some 't' := by
    unfold definitionBody
    exact List.getLast?_append_of_ne_nil _ (by decide)
  exact trim_eq_self (areDelimiters_spec sealed.pair).1 (by rw [last]; rfl)

theorem not_isConstraintClause_body (sealed : IsSealed opening closing name) :
    Draft.isConstraintClause (definitionBody opening closing name) = false :=
  Phrase.not_isConstraintClause_of_outside (areDelimiters_spec sealed.pair).2.2.1

theorem clauses_body (sealed : IsSealed opening closing name) :
    clauses (definitionBody opening closing name) = [definitionBody opening closing name] :=
  (passed_body sealed).clauses_eq (List.cons_ne_nil _ _) (trim_body sealed)

theorem read_column (sealed : IsSealed opening closing name) :
    Column.read .empty (definitionBody opening closing name) =
      .accepted (.plain (String.ofList name) (.plain "INT")) none := by
  have named : (columnHead sealed).columnName = String.ofList name :=
    congrArg String.ofList (clean_enclosed sealed.pair sealed.trimmed)
  have filled : (columnHead sealed).columnName ≠ "" := by
    rw [named]
    exact fun empty => sealed.filled (String.ofList_injective empty)
  have precedes : (columnHead sealed).Precedes [] := fun _ => ⟨rfl, ColumnHead.not_argumentsAhead_nil⟩
  have read := ColumnHead.read_head precedes (by rw [text_columnHead]; exact not_isConstraintClause_body sealed)
    (by rw [text_columnHead]; exact trim_body sealed) filled .empty
  have type : DataType.read "int".toList none = .ok (.plain "INT") := by decide +kernel
  rw [text_columnHead, named] at read
  rw [read]
  change ColumnOutcome.ofReading (do
    let type ← DataType.read "int".toList none
    Attributes.apply (.plain (String.ofList name) type) []) = _
  rw [type]
  rfl

theorem constraintClauses_body (sealed : IsSealed opening closing name) :
    Draft.constraintClauses (definitionBody opening closing name) = [] := by
  rw [Draft.constraintClauses, clauses_body sealed, List.filter_singleton, not_isConstraintClause_body sealed]
  rfl

/-- The table with the one column. -/
def singleColumn (name : String) : Table := (Table.empty name).putColumn (.plain name (.plain "INT"))

theorem readBody_definition (sealed : IsSealed opening closing name) :
    (Draft.ofTable (.empty (String.ofList name))).readBody (definitionBody opening closing name) =
      (Draft.ofTable (singleColumn (String.ofList name)), none) := by
  unfold Draft.readBody
  rw [clauses_body sealed]
  simp only [List.filter_cons, not_isConstraintClause_body sealed, Bool.not_false, ↓reduceIte, List.filter_nil,
    Bool.false_eq_true]
  have read : Column.read (Draft.ofTable (Table.empty (String.ofList name))).table.columns
      (definitionBody opening closing name) = _ := read_column sealed
  unfold Draft.readColumns
  rw [read]
  rfl

end Column

section Statements
variable {further : Text}

theorem readableBody?_definition (sealed : IsSealed opening closing name) (other : String) :
    readableBody? other (definition opening closing name) =
      if other = String.ofList name then some (definitionBody opening closing name) else none := by
  unfold readableBody?
  rw [read_definition sealed]
  by_cases same : other = String.ofList name
  · subst same
    simp [readBody_definition sealed]
  · simp [same, Ne.symm same]

theorem addedClauses_create {rest : Text} (outside : beginsWord rest = false) (name : String) :
    addedClauses name ("CREATE".toList ++ rest) = [] := by
  have created : Spells "CREATE" "CREATE".toList := by decide
  rw [addedClauses, Alteration.read?_create created outside]

theorem addedClauses_definition (opening closing : Char) (name : Text) (other : String) :
    addedClauses other (definition opening closing name) = [] := by
  obtain ⟨rest, whole, outside⟩ : ∃ rest, definition opening closing name = "CREATE".toList ++ rest ∧
    beginsWord rest = false := ⟨_, rfl, rfl⟩
  rw [whole, addedClauses_create outside]

/-- A definition of its own name counts before all others, and for other names it is not there. -/
theorem definingBody?_definition (sealed : IsSealed opening closing name) (statements : List Text) (other : String) :
    definingBody? other (definition opening closing name :: statements) =
      if other = String.ofList name then some (definitionBody opening closing name)
      else definingBody? other statements := by
  unfold definingBody?
  rw [List.findSome?_cons, readableBody?_definition sealed]
  by_cases same : other = String.ofList name
  · rw [if_pos same, if_pos same]
  · rw [if_neg same, if_neg same]

theorem constraintClauses_definition (sealed : IsSealed opening closing name) (statements : List Text) {other : String}
    (different : other ≠ String.ofList name) :
    constraintClauses other (definition opening closing name :: statements) = constraintClauses other statements := by
  unfold constraintClauses
  rw [definingBody?_definition sealed, if_neg different, List.flatMap_cons, addedClauses_definition, List.nil_append]

theorem constraintClauses_self (sealed : IsSealed opening closing name) {statements : List Text}
    (unaltered : ∀ statement ∈ statements, addedClauses (String.ofList name) statement = []) :
    constraintClauses (String.ofList name) (definition opening closing name :: statements) = [] := by
  have none_added : statements.flatMap (addedClauses (String.ofList name)) = [] := List.flatMap_eq_nil_iff.mpr unaltered
  unfold constraintClauses
  rw [definingBody?_definition sealed, if_pos rfl, List.flatMap_cons, addedClauses_definition, none_added,
    Option.map_some, constraintClauses_body sealed]
  rfl

theorem ofColumns_definition (sealed : IsSealed opening closing name) :
    Table.ofColumns (String.ofList name) (definitionBody opening closing name) = singleColumn (String.ofList name) := by
  have origin := Draft.readBody_table (String.ofList name) (definitionBody opening closing name)
  rw [readBody_definition sealed, constraintClauses_body sealed] at origin
  exact (origin rfl).symm

end Statements
end Script

namespace Schema
variable {first second : Schema} {name : String}

theorem indexes_unread (statements : List Text) :
    ((empty.readTables statements).readAlterations statements).indexes = .empty :=
  ((unindexed_empty.readTables statements).readAlterations statements).indexes

theorem table?_putIndex (schema : Schema) (index : Index) (name : String) : (schema.putIndex index).table? name =
    (schema.table? name).map (Table.relist (schema.indexes.find? index.name) index) := by
  have kept : (fun table : Table => Named.name table == name) ∘
      Table.relist (schema.indexes.find? index.name) index = fun table => Named.name table == name := by
    funext table
    exact congrArg (· == name) (Table.name_relist _ index table)
  rw [table?, Roster.find?, putIndex_tables, List.find?_map, kept]
  rfl

/-- What indexes do to a table depends only on the table and on the indexes so far. -/
theorem table?_foldl_putIndex (indexes : first.indexes = second.indexes) (same : first.table? name = second.table? name)
    (found : List Index) : (found.foldl putIndex first).table? name = (found.foldl putIndex second).table? name := by
  induction found generalizing first second with
  | nil => exact same
  | cons index found ih =>
    apply ih
    · rw [putIndex_indexes, putIndex_indexes, indexes]
    · rw [table?_putIndex, table?_putIndex, indexes, same]

end Schema

namespace Index
variable {before rest : Text}

/-- Indexes are read from the rest of a text alone, if the phrase of none begins in front of it. -/
theorem readAll_behind (far : ∀ found ∈ Phrase.createIndex.findAll (before ++ rest), before.length ≤ found.span.start)
    (outside : endsWord before = false) : readAll (before ++ rest) = readAll rest := by
  have passed : Phrase.createIndex.findAll (before ++ rest) =
      (Phrase.createIndex.findAll rest).map (Match.shift before.length) := by
    rw [findAll_eq_findAllAfter] at far ⊢
    rw [findAllAfter_skip far, List.nil_append, findAllAfter_of_outside outside]
  unfold readAll
  rw [passed, List.map_map]
  apply List.map_congr_left
  intro found _
  simp only [Function.comp_apply, Match.text?_shift, Match.part?_shift, Option.isSome_map]

/-- No index is read from what holds no word. -/
theorem readAll_wordless (wordless : ∀ c ∈ before, isWordCharacter c = false) (rest : Text) :
    readAll (before ++ rest) = readAll rest := by
  apply readAll_behind
  · intro found member
    rw [findAll_eq_findAllAfter] at member
    obtain ⟨passed, tail, same, here⟩ := mem_findAllAfter member
    obtain ⟨word, behind, begun, _, filled, fits, _⟩ := Phrase.createIndex_led here
    obtain ⟨text, _, _, span⟩ := matchAt_span here
    rw [span]
    rcases List.append_eq_append_iff.mp same with ⟨more, rfl, _⟩ | ⟨more, rfl, rfl⟩
    · simp [Span.behind]
    · cases more with
      | nil => simp [Span.behind]
      | cons c more =>
        -- The phrase would begin with a character that belongs to no word.
        obtain ⟨d, word, rfl⟩ := List.exists_cons_of_ne_nil filled
        obtain ⟨rfl, _⟩ := List.cons.inj begun
        have outside := wordless c (by simp)
        rw [fits c List.mem_cons_self] at outside
        cases outside
  · unfold endsWord
    cases last : before.getLast? with
    | none => rfl
    | some c => exact wordless c (List.mem_of_getLast? last)

end Index

namespace Script
open Name
variable {opening closing : Char} {name further : Text}

/-- A blank separator may be left between the definition and the normal form of what stands behind it. -/
theorem normalized_behind (sealed : IsSealed opening closing name) (further : Text) :
    ∃ gap, (∀ c ∈ gap, isBlank c = true) ∧ normalized (definition opening closing name ++ ';' :: further) =
      definition opening closing name ++ (';' :: gap ++ normalized further) := by
  have passed := passed_definition sealed
  have solid : isBlank ';' = false := by decide
  have front : Text.trimStart (definition opening closing name) = definition opening closing name :=
    List.dropWhile_cons_of_neg (by decide)
  obtain ⟨gap, blank, same⟩ := exists_trimEnd_eq (Text.collapse ' ' (withoutComments further))
  refine ⟨gap, blank, ?_⟩
  rw [normalized, withoutComments_semicolon passed.code, collapse_append solid, trim_append solid, same,
    withoutComments, passed.bare.uncomment_eq, collapse_definition sealed, front]
  rfl

theorem readAll_definition (sealed : IsSealed opening closing name)
    (far : ∀ found ∈ Phrase.createIndex.findAll (normalized (definition opening closing name ++ ';' :: further)),
      (definition opening closing name).length ≤ found.span.start) :
    Index.readAll (normalized (definition opening closing name ++ ';' :: further)) =
      Index.readAll (normalized further) := by
  obtain ⟨gap, blank, same⟩ := normalized_behind sealed further
  have outside : endsWord (definition opening closing name) = false := by
    rw [definition_eq, endsWord_append (List.cons_ne_nil _ _), endsWord, ← List.cons_append, List.getLast?_concat]
    rfl
  have wordless : ∀ c ∈ ';' :: gap, isWordCharacter c = false :=
    List.forall_mem_cons.mpr ⟨by decide, fun c member => isWordCharacter_of_isBlank (blank c member)⟩
  rw [same] at far ⊢
  rw [Index.readAll_behind far outside, Index.readAll_wordless wordless]

/-- A name that is sealed in its delimiters comes out as the name of its table and of the one column, and tables of
other names are those of the text behind, but for indexes. The indexes are the same too if the phrase of none
begins in the definition. -/
theorem delimited_name_kept (sealed : IsSealed opening closing name) (further : Text)
    (unaltered : ∀ statement ∈ statementsOf (String.ofList further),
      addedClauses (String.ofList name) statement = []) :
    let script := String.ofList (definition opening closing name ++ ';' :: further)
    ((read script).table? (String.ofList name)).map Table.bare = some (singleColumn (String.ofList name)) ∧
      ∀ other ≠ String.ofList name,
        ((read script).table? other).map Table.bare = ((read (String.ofList further)).table? other).map Table.bare ∧
          ((∀ found ∈ Phrase.createIndex.findAll (normalized script.toList),
              (definition opening closing name).length ≤ found.span.start) →
            (read script).table? other = (read (String.ofList further)).table? other) := by
  intro script
  have split : statementsOf script = definition opening closing name :: statementsOf (String.ofList further) :=
    statements_definition sealed further
  refine ⟨?_, fun other different => ⟨?_, fun far => ?_⟩⟩
  · rw [bare_read_table?, split, definingBody?_definition sealed, if_pos rfl, Option.map_some]
    rw [constraintClauses_self sealed unaltered, List.foldl_nil, ofColumns_definition sealed]
    rfl
  · rw [bare_read_table?, bare_read_table?, split, definingBody?_definition sealed, if_neg different,
      constraintClauses_definition sealed _ different]
  · rw [String.toList_ofList] at far
    have found := readAll_definition sealed far
    rw [read_eq, read_eq, Schema.table?_checked, Schema.table?_checked, readParts, readParts, String.toList_ofList,
      Schema.readIndexes, Schema.readIndexes, found, String.toList_ofList]
    apply Schema.table?_foldl_putIndex
    · rw [Schema.indexes_unread, Schema.indexes_unread]
    · have whole : statements (normalized (definition opening closing name ++ ';' :: further)) =
          definition opening closing name :: statements (normalized further) := by
        simpa only [statementsOf, String.toList_ofList] using statements_definition sealed further
      rw [whole, Schema.table?_readAlterations, Schema.table?_readAlterations, Schema.table?_readTables,
        Schema.table?_readTables, definingBody?_definition sealed, if_neg different, List.flatMap_cons,
        addedClauses_definition, List.nil_append]

/-- Marks, separators and a parenthesis in quotation marks; the same in brackets, where they have to match. -/
theorem delimited_name_kept_amid :
    let further := " CREATE TABLE t (a int UNIQUE) -- ;".toList
    let quoted := "it's; /*, \\(--".toList
    let bracketed := "a (b, ';--') \\".toList
    (IsSealed '"' '"' quoted ∧ ((read (String.ofList (definition '"' '"' quoted ++ ';' :: further))).table?
        (String.ofList quoted)).map Table.bare = some (singleColumn (String.ofList quoted))) ∧
      IsSealed '[' ']' bracketed ∧
      ((read (String.ofList (definition '[' ']' bracketed ++ ';' :: further))).table?
        (String.ofList bracketed)).map Table.bare = some (singleColumn (String.ofList bracketed)) ∧
      (read (String.ofList (definition '[' ']' bracketed ++ ';' :: further))).table? "t" =
        (read (String.ofList further)).table? "t" := by
  intro further quoted bracketed
  have quoted_sealed : IsSealed '"' '"' quoted := by decide +kernel
  have bracketed_sealed : IsSealed '[' ']' bracketed := by decide +kernel
  have unaltered (name : String) :
      ∀ statement ∈ statementsOf (String.ofList further), addedClauses name statement = [] := by
    have alone : statementsOf (String.ofList further) = ["CREATE".toList ++ " TABLE t (a int UNIQUE)".toList] := by
      decide +kernel
    intro statement member
    rw [alone, List.mem_singleton] at member
    rw [member, addedClauses_create rfl]
  obtain ⟨first, _⟩ := delimited_name_kept quoted_sealed further (unaltered _)
  obtain ⟨second, others⟩ := delimited_name_kept bracketed_sealed further (unaltered _)
  exact ⟨⟨quoted_sealed, first⟩, bracketed_sealed, second, (others "t" (by decide +kernel)).2 (by decide +kernel)⟩

/-- The promise that a name is kept in its delimiters whatever else it holds, and that another table is read as if
its text stood alone. -/
def KeepsName (opening closing : Char) (name further : Text) (other : String) : Prop :=
  IsWritable opening closing name →
    ((read (String.ofList (definition opening closing name ++ ';' :: further))).table?
        (String.ofList name)).map Table.bare = some (singleColumn (String.ofList name)) ∧
      ((read (String.ofList (definition opening closing name ++ ';' :: further))).table? other).map Table.bare =
        ((read (String.ofList further)).table? other).map Table.bare

instance (opening closing : Char) (name further : Text) (other : String) :
    Decidable (KeepsName opening closing name further other) := inferInstanceAs (Decidable (_ → _ ∧ _))

/-- It is not kept for a quotation mark, a comment mark, a separator or a parenthesis in brackets, nor for a backslash
in front of the closing quotation mark. -/
theorem delimited_name_lost :
    let further := " CREATE TABLE t (a int)".toList
    (∀ name ∈ ["it's", "a--b", "a;b", "a,b", "a(b"], ¬KeepsName '[' ']' name.toList further "t") ∧
      ¬KeepsName '"' '"' "a\\".toList further "t" := by
  decide +kernel

end Script
end SchemaAtlas
