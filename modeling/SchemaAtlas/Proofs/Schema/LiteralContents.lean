import SchemaAtlas.Proofs.Clause.LeadingText
import SchemaAtlas.Proofs.Pattern.Listing
import SchemaAtlas.Proofs.Script.Definition
import SchemaAtlas.Proofs.Script.Literals
/-!
Literals in statements that have nothing to do with tables. Heads of tables and phrases of indexes are sought in
the bare text, so a literal that holds one of them is read like a definition. Where no such head makes the
statement of the literal a definition, and no such phrase touches the literal, its contents are of no account.
-/
namespace SchemaAtlas
open Text Pattern Cursor Phrase Script

namespace Script
variable {front contents back : Text}

/-- The statement that a literal stands in. -/
def statementOf (front contents back : Text) : Text := statementAt front ('\'' :: (contents ++ '\'' :: back))

/-- The keyword stands in the statement, and not in one of its literals. -/
def Says (keyword : String) (statement : Text) : Prop := ∃ word ∈ words (mask statement), Keyed keyword word

instance (keyword : String) (statement : Text) : Decidable (Says keyword statement) :=
  inferInstanceAs (Decidable (∃ word ∈ words (mask statement),
    List.Forall₂ (fun letter c => isLetter letter c = true) keyword.toList word))

/-- A statement that begins with a keyword says it, and says it still with other contents of a literal. -/
theorem says_of_ahead {keyword : String} {start contents more : Text} (others : Text)
    (ahead : WordAhead (Keyed keyword) [] (withLiteral start contents more)) :
    Says keyword (withLiteral start others more) := by
  obtain ⟨word, tail, same, keyed, filled, fits, _, stop⟩ := ahead
  have absent : '\'' ∉ word := fun inside => absurd (fits _ inside) (by decide)
  -- The word ends in front of the literal.
  obtain ⟨gap, rfl, outside⟩ : ∃ gap, start = word ++ gap ∧ (∀ rest, beginsWord (gap ++ '\'' :: rest) = false) := by
    rcases List.append_eq_append_iff.mp same with ⟨gap, rfl, rest⟩ | ⟨gap, rfl, rest⟩
    · cases gap with
      | nil => exact ⟨[], by simp, fun _ => rfl⟩
      | cons c gap =>
        obtain ⟨rfl, _⟩ := List.cons.inj rest
        exact absurd (List.mem_append_right start List.mem_cons_self) absent
    · refine ⟨gap, rfl, fun other => ?_⟩
      cases gap with
      | nil => rfl
      | cons c gap =>
        rw [rest] at stop
        exact stop
  refine ⟨word, ?_, keyed⟩
  rw [withLiteral, List.append_assoc, mask_append absent, ← List.nil_append (word ++ _)]
  exact mem_words filled fits rfl (by rw [beginsWord_mask, outside])

theorem read?_withLiteral {start more : Text} (unsaid : ¬Says "ALTER" (withLiteral start contents more))
    (others : Text) : Alteration.read? (withLiteral start others more) = none := by
  by_contra reads
  obtain ⟨alteration, reads⟩ := Option.ne_none_iff_exists'.mp reads
  unfold Alteration.read? at reads
  obtain ⟨found, matched, _⟩ := Option.bind_eq_some_iff.mp reads
  exact unsaid (says_of_ahead contents (alterTableAdd_ahead (by rw [matched]; rfl)))

/-- No phrase of an index touches the literal. -/
def MissedByIndexes (front contents back : Text) : Prop :=
  ∀ found ∈ createIndex.findAll (withLiteral front contents back),
    found.span.stop ≤ front.length ∨ (withLiteral front contents []).length ≤ found.span.start

theorem findAll_withLiteral (missed : MissedByIndexes front contents back) :
    createIndex.findAll (withLiteral front contents back) = createIndex.findAll front ++
      (createIndex.findAll back).map (Match.shift (withLiteral front contents []).length) := by
  have stays : createIndex.isLocal true = true := by decide
  have whole (back : Text) : withLiteral front contents back = front ++ ('\'' :: (contents ++ ['\'']) ++ back) := by
    simp [withLiteral]
  unfold MissedByIndexes at missed
  rw [whole, whole, List.append_nil, findAll_eq_findAllAfter] at missed
  rw [whole, whole, List.append_nil, findAll_eq_findAllAfter]
  have split : createIndex.findAllAfter 0 [] (front ++ ('\'' :: (contents ++ ['\'']) ++ back)) =
      createIndex.findAllAfter 0 [] front ++
        createIndex.findAllAfter 0 front ('\'' :: (contents ++ ['\'']) ++ back) := by
    apply findAllAfter_append stays (Nat.zero_le _)
    intro found member
    refine (missed found member).imp_right fun far => ?_
    rw [List.length_append] at far
    exact Nat.le_of_add_right_le far
  -- A phrase begins with a word, so none begins at the mark in front, and none stops there either.
  have far : ∀ found ∈ createIndex.findAllAfter 0 front ('\'' :: (contents ++ ['\'']) ++ back),
      (front ++ '\'' :: (contents ++ ['\''])).length ≤ found.span.start := by
    intro found member
    rcases missed found (by rw [split]; exact List.mem_append_right _ member) with short | far
    · obtain ⟨passed, tail, same, here⟩ := mem_findAllAfter member
      obtain ⟨text, _, _, span⟩ := matchAt_span here
      have stop : (front ++ passed ++ text).length ≤ front.length := by rwa [span] at short
      obtain rfl : passed = [] := by
        rw [← List.length_eq_zero_iff]
        simp only [List.length_append] at stop
        omega
      obtain ⟨word, _, begun, _, filled, fits, _⟩ := createIndex_led here
      obtain ⟨c, word, rfl⟩ := List.exists_cons_of_ne_nil filled
      rw [List.nil_append] at same
      rw [← same] at begun
      obtain ⟨rfl, _⟩ := List.cons.inj begun
      exact absurd (fits _ List.mem_cons_self) (by decide)
    · exact far
  have outside : endsWord (front ++ '\'' :: (contents ++ ['\''])) = false := by
    rw [← List.cons_append, ← List.append_assoc, endsWord_append (List.cons_ne_nil _ _)]
    rfl
  rw [split, findAllAfter_skip far, findAllAfter_of_outside outside]
  rfl

/-- The indexes are those in front of the literal and those behind it. -/
theorem readAll_withLiteral (missed : MissedByIndexes front contents back) :
    Index.readAll (withLiteral front contents back) = Index.readAll front ++ Index.readAll back := by
  have before_literal : ∀ found ∈ createIndex.findAll front, ∀ part,
      found.text? part (withLiteral front contents back) = found.text? part front := by
    intro found member part
    rw [findAll_eq_findAllAfter] at member
    obtain ⟨_, _, short⟩ := span_of_mem member
    obtain ⟨passed, tail, _, here⟩ := mem_findAllAfter member
    exact text?_append here short part _
  have behind_literal (found : Match) (part : Part) :
      (found.shift (withLiteral front contents []).length).text? part (withLiteral front contents back) =
        found.text? part back := by
    have whole : withLiteral front contents back = withLiteral front contents [] ++ back := by simp [withLiteral]
    rw [whole, Match.text?_shift]
  unfold Index.readAll
  rw [findAll_withLiteral missed, List.map_append, List.map_map]
  refine congrArg₂ (· ++ ·) ?_ ?_
  · apply List.map_congr_left
    intro found member
    simp only [before_literal found member]
  · apply List.map_congr_left
    intro found _
    simp only [Function.comp_apply, behind_literal, Match.part?_shift, Option.isSome_map]

theorem readNormalized_withLiteral {others : Text} (unquoted : (front.foldl Nesting.step .outside).quote = none)
    (plain : (front.foldl Nesting.step .outside).last ≠ some '\\')
    (inside : isContents '\'' contents = true) (other_inside : isContents '\'' others = true)
    (unsaid : ¬Says "ALTER" (statementOf front contents back))
    (undefined : TableStatement.isDefinition (statementOf front contents back) = false)
    (other_undefined : TableStatement.isDefinition (statementOf front others back) = false)
    (missed : MissedByIndexes front contents back) (other_missed : MissedByIndexes front others back) :
    readNormalized (withLiteral front contents back) = readNormalized (withLiteral front others back) := by
  obtain ⟨earlier, more, later, around⟩ := statements_withLiteral unquoted plain back
  obtain ⟨split, here⟩ := around contents inside
  obtain ⟨other_split, other_here⟩ := around others other_inside
  have same : statementOf front contents back = withLiteral (trimStart (current front)) contents more := here
  have other_same : statementOf front others back = withLiteral (trimStart (current front)) others more := other_here
  rw [same] at undefined unsaid
  rw [other_same] at other_undefined
  have unaltered (text : Text) : Alteration.alters (withLiteral (trimStart (current front)) text more) = false := by
    rw [Alteration.alters, read?_withLiteral unsaid]
    rfl
  have definitions : (statements (withLiteral front contents back)).filter TableStatement.isDefinition =
      (statements (withLiteral front others back)).filter TableStatement.isDefinition := by
    rw [split, other_split, List.filter_append, List.filter_append, List.filter_cons_of_neg (by simp [undefined]),
      List.filter_cons_of_neg (by simp [other_undefined])]
  have alterations : (statements (withLiteral front contents back)).filter Alteration.alters =
      (statements (withLiteral front others back)).filter Alteration.alters := by
    rw [split, other_split, List.filter_append, List.filter_append, List.filter_cons_of_neg (by simp [unaltered]),
      List.filter_cons_of_neg (by simp [unaltered])]
  have indexes : Index.readAll (withLiteral front contents back) = Index.readAll (withLiteral front others back) := by
    rw [readAll_withLiteral missed, readAll_withLiteral other_missed]
  have tables : Schema.empty.readTables (statements (withLiteral front contents back)) =
      Schema.empty.readTables (statements (withLiteral front others back)) := by
    rw [← Schema.readTables_filter, definitions, Schema.readTables_filter]
  have altered (schema : Schema) : schema.readAlterations (statements (withLiteral front contents back)) =
      schema.readAlterations (statements (withLiteral front others back)) := by
    rw [← Schema.readAlterations_filter, alterations, Schema.readAlterations_filter]
  simp only [readNormalized, Schema.readIndexes, tables, altered, indexes]

/-- A place in a script where a literal can stand: its mark opens a literal for the reader of comments and for the
split into statements alike. -/
structure LiteralPlace where
  before : Text
  behind : Text
  code : Region.code.after before = .code
  unquoted : ((normalizedFront before).foldl Nesting.step .outside).quote = none
  plain : ((normalizedFront before).foldl Nesting.step .outside).last ≠ some '\\'

namespace LiteralPlace
variable (place : LiteralPlace) (contents : Text)

def script : String := String.ofList (withLiteral place.before contents place.behind)

/-- The statement of the literal, in normal form. -/
def statement : Text :=
  statementOf (normalizedFront place.before) (collapse ' ' contents) (normalizedBack place.behind)

/-- What is sought in the bare text, quoted or not, is not found in the literal. -/
structure Unsought : Prop where
  heads : TableStatement.isDefinition (place.statement contents) = false
  phrases : MissedByIndexes (normalizedFront place.before) (collapse ' ' contents) (normalizedBack place.behind)

end LiteralPlace

/-- In a statement that is no definition and no alteration, a literal that no index touches may hold anything. -/
theorem contents_unread (place : LiteralPlace) {contents others : Text} (inside : isContents '\'' contents = true)
    (other_inside : isContents '\'' others = true) (unsaid : ¬Says "ALTER" (place.statement contents))
    (unsought : place.Unsought contents) (other_unsought : place.Unsought others) :
    read (place.script contents) = read (place.script others) := by
  unfold read LiteralPlace.script
  rw [String.toList_ofList, String.toList_ofList, normalized_withLiteral place.code inside,
    normalized_withLiteral place.code other_inside]
  exact readNormalized_withLiteral place.unquoted place.plain (isContents_collapse inside)
    (isContents_collapse other_inside) unsaid unsought.heads other_unsought.heads unsought.phrases
    other_unsought.phrases

/-- Neither a keyword, nor a comment mark, nor a semicolon in the literal is read. -/
theorem contents_unread_insert :
    ∃ place : LiteralPlace,
      place.script "it''s".toList =
          "/* 1 */ INSERT INTO n VALUES ('it''s'); CREATE TABLE t (a int); CREATE INDEX i ON t (a)" ∧
        isContents '\'' "it''s".toList = true ∧ isContents '\'' "CREATE TABLE t; --".toList = true ∧
        ¬Says "ALTER" (place.statement "it''s".toList) ∧ place.Unsought "it''s".toList ∧
        place.Unsought "CREATE TABLE t; --".toList ∧
        read (place.script "it''s".toList) = read (place.script "CREATE TABLE t; --".toList) := by
  let place : LiteralPlace :=
    ⟨"/* 1 */ INSERT INTO n VALUES (".toList, "); CREATE TABLE t (a int); CREATE INDEX i ON t (a)".toList,
      by decide +kernel, by decide +kernel, by decide +kernel⟩
  have inside : isContents '\'' "it''s".toList = true := by decide +kernel
  have other_inside : isContents '\'' "CREATE TABLE t; --".toList = true := by decide +kernel
  have unsaid : ¬Says "ALTER" (place.statement "it''s".toList) := by decide +kernel
  have unsought : place.Unsought "it''s".toList :=
    ⟨by decide +kernel, by unfold MissedByIndexes; decide +kernel⟩
  have other_unsought : place.Unsought "CREATE TABLE t; --".toList :=
    ⟨by decide +kernel, by unfold MissedByIndexes; decide +kernel⟩
  exact ⟨place, by decide +kernel, inside, other_inside, unsaid, unsought, other_unsought,
    contents_unread place inside other_inside unsaid unsought other_unsought⟩

/-- The text has neither quotation marks nor backslashes. -/
def isUnmarked (text : Text) : Bool := text.all fun c => !isQuotationMark c && c != '\\'

/-- The promise that a literal does not matter in a statement where no keyword of a definition or an alteration
stands outside the literals. -/
def KeepsFindings (place : LiteralPlace) (contents others : Text) : Prop :=
  isContents '\'' contents = true → isUnmarked others = true →
    ¬Says "CREATE" (place.statement contents) → ¬Says "ALTER" (place.statement contents) →
      (read (place.script contents)).tables = (read (place.script others)).tables ∧
        (read (place.script contents)).indexes = (read (place.script others)).indexes ∧
        (read (place.script contents)).relationships = (read (place.script others)).relationships ∧
        (read (place.script contents)).errors = (read (place.script others)).errors ∧
        (read (place.script contents)).warnings = (read (place.script others)).warnings

/-- It is not kept for a literal that holds a definition: the table or the index is taken as defined. -/
theorem literal_defines : ∃ place : LiteralPlace, place.script "y".toList = "INSERT INTO t VALUES ('y')" ∧
    ¬KeepsFindings place "y".toList "CREATE TABLE x (a int)".toList ∧
      ¬KeepsFindings place "y".toList "CREATE INDEX i ON t (a)".toList := by
  let place : LiteralPlace :=
    ⟨"INSERT INTO t VALUES (".toList, ")".toList, by decide +kernel, by decide +kernel, by decide +kernel⟩
  refine ⟨place, by decide +kernel, fun kept => ?_, fun kept => ?_⟩
  · obtain ⟨tables, _⟩ := kept (by decide +kernel) (by decide +kernel) (by decide +kernel) (by decide +kernel)
    exact absurd tables (by decide +kernel)
  · obtain ⟨_, indexes, _⟩ := kept (by decide +kernel) (by decide +kernel) (by decide +kernel) (by decide +kernel)
    exact absurd indexes (by decide +kernel)

end Script
end SchemaAtlas
