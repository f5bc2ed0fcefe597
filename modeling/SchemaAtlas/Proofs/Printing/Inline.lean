import SchemaAtlas.Proofs.Clause.ColumnHead
import SchemaAtlas.Proofs.Clause.Columns
import SchemaAtlas.Proofs.Printing.Rule
import SchemaAtlas.Proofs.Schema.Likeness
import SchemaAtlas.Proofs.Script.Enclosure
/-!
Rules in their columns. A rule behind the type of the first column of a name marks the column while it is
read, and the clause of the rule in front of all others marks it right after the last column.
-/
namespace SchemaAtlas.Printing
open Text Pattern

/-- A column clause with a rule right behind the type. -/
structure InlineRule (rule : Rule) (column : Identifier) where
  head : ColumnHead
  named : head.columnName = column.name
  written : Text
  spelled : Spelled rule.attributeLexemes written
  gap : Text
  blank : ∀ c ∈ gap, isBlank c = true
  rest : Text
  precedes : head.Precedes rest
  stop : beginsWord (gap ++ rest) = false

namespace InlineRule
variable {rule : Rule} {column : Identifier} (inline : InlineRule rule column)

def text : Text := inline.head.text ++ (inline.written ++ (inline.gap ++ inline.rest))

/-- The clause without the rule. -/
def plain : Text := inline.head.text ++ inline.rest

theorem precedes_written (tail : Text) : inline.head.Precedes (inline.written ++ tail) := by
  have spelled := inline.spelled
  rcases spelled.start rule.allSound_attribute (by cases rule <;> rfl) with empty | ⟨c, more, plain, whole⟩
  · rw [empty] at spelled
    have unprinted := spelled.eq_nil
    cases rule <;> cases unprinted
  · rw [whole]
    refine fun _ => ⟨rfl, ColumnHead.not_argumentsAhead (isBlank_of_isPlain plain) ?_⟩
    rintro rfl
    cases plain

section Read
variable {inline : InlineRule rule column} (about : Draft.isConstraintClause inline.plain = false)
include about

theorem isConstraintClause_text : Draft.isConstraintClause inline.text = false :=
  (ColumnHead.isConstraintClause_eq (inline.precedes_written _) inline.precedes).trans about

variable (trimmed : Text.trim inline.text = inline.text) (plain_trimmed : Text.trim inline.plain = inline.plain)
include trimmed plain_trimmed

/-- The rule marks the column that is read without it. -/
theorem readings : ∃ reading : Except NumeralError (Column × Option Text),
    (∀ result, reading = .ok result → result.1.name = column.name) ∧
      ∀ taken : Roster Column, taken.has column.name = false →
        Column.read taken inline.text = .ofReading (reading.map (Prod.map rule.mark id)) ∧
          Column.read taken inline.plain = .ofReading reading := by
  have filled : inline.head.columnName ≠ "" := inline.named ▸ column.filled
  refine ⟨do
    let type ← DataType.read inline.head.type (inline.head.arguments.map ArgumentList.inner)
    Attributes.apply (.plain column.name type) inline.rest, ?names, fun taken fresh => ⟨?marked, ?plain⟩⟩
  case names =>
    rintro ⟨result, check⟩ read
    cases typed : DataType.read inline.head.type (inline.head.arguments.map ArgumentList.inner) with
    | error error =>
      rw [typed] at read
      cases read
    | ok type =>
      rw [typed] at read
      exact (Attributes.apply_coherent (Column.coherent_plain column.filled type) read).2
  case marked =>
    have read := ColumnHead.read_head (inline.precedes_written _) (isConstraintClause_text about) trimmed filled taken
    rw [inline.named, fresh] at read
    refine read.trans (congrArg ColumnOutcome.ofReading ?_)
    cases DataType.read inline.head.type (inline.head.arguments.map ArgumentList.inner) with
    | error error => rfl
    | ok type => exact Rule.apply_front inline.spelled inline.blank inline.stop _
  case plain =>
    have read := ColumnHead.read_head inline.precedes about plain_trimmed filled taken
    rw [inline.named, fresh] at read
    exact read

/-- Behind clauses that do not give the column, the rule marks it and makes no difference to others. -/
theorem readColumns_agree {front : List Text}
    (unused : ∀ clause ∈ front, Column.givenName? clause ≠ some column.name) {draft : Draft}
    (absent : column.name ∉ draft.table.columns.names) (back : List Text) :
    Draft.Agree (Draft.Marked column.name rule.mark rule.name_mark)
      (draft.readColumns (front ++ inline.text :: back)) (draft.readColumns (front ++ inline.plain :: back)) := by
  cases before : draft.readColumns front with
  | mk middle failure =>
    cases failure with
    | some error =>
      rw [Draft.readColumns_append_error before, Draft.readColumns_append_error before]
      exact .of_error rfl rfl error
    | none =>
      have fresh : column.name ∉ middle.table.columns.names := by
        intro member
        have origin : column.name ∈ (draft.readColumns front).1.table.columns.names := by rwa [before]
        rcases Draft.names_readColumns origin with old | ⟨clause, inside, given⟩
        · exact absent old
        · exact unused clause inside given
      have unknown : middle.table.columns.has column.name = false := by
        rw [← Bool.not_eq_true, Roster.has_iff]
        exact fresh
      obtain ⟨reading, names, reads⟩ := readings about trimmed plain_trimmed
      obtain ⟨marked_read, plain_read⟩ := reads middle.table.columns unknown
      rw [Draft.readColumns_append before, Draft.readColumns_append before, Draft.readColumns, Draft.readColumns,
        marked_read, plain_read]
      cases reading with
      | error error => exact .of_error rfl rfl error
      | ok result =>
        obtain ⟨entry, check⟩ := result
        have named : entry.name = column.name := names _ rfl
        have start := Draft.marked_accepted rule.name_mark (named ▸ fresh) (check.map String.ofList) inline.text
          inline.plain
        rw [named] at start
        obtain ⟨failure, marked⟩ := start.readColumns back
        exact ⟨failure, marked.errors, marked.warnings, fun _ => marked⟩

end Read

/-- Clauses with the rule in its column, and the same with the clause of the rule in front of the other
constraint clauses. The column is the first one of its name. -/
structure Placement (inline : InlineRule rule column) where
  front : List Text
  back : List Text
  early : List Text
  late : List Text
  key : Text
  printed : Prints (rule.clause column).lexemes key
  about : Draft.isConstraintClause inline.plain = false
  first : ∀ clause ∈ front, Draft.isConstraintClause clause = false →
    Column.givenName? clause ≠ some column.name
  leading : ∀ clause ∈ early, Draft.isConstraintClause clause = false
  same : early ++ late = front ++ inline.plain :: back

namespace Placement
variable {inline : InlineRule rule column} (placement : inline.Placement)

def within : List Text := placement.front ++ inline.text :: placement.back

def apart : List Text := placement.early ++ placement.key :: placement.late

theorem within_filled : ∃ clause ∈ placement.within, clause ≠ [] :=
  ⟨inline.text, List.mem_append_right _ List.mem_cons_self,
    List.append_ne_nil_of_left_ne_nil inline.head.text_filled _⟩

theorem apart_filled : ∃ clause ∈ placement.apart, clause ≠ [] :=
  ⟨placement.key, List.mem_append_right _ List.mem_cons_self,
    placement.printed.filled (rule.clause column).allSound⟩

theorem columns_within : placement.within.filter (!Draft.isConstraintClause ·) =
    placement.front.filter (!Draft.isConstraintClause ·) ++
      inline.text :: placement.back.filter (!Draft.isConstraintClause ·) := by
  simp [within, isConstraintClause_text placement.about]

theorem columns_apart : placement.apart.filter (!Draft.isConstraintClause ·) =
    placement.front.filter (!Draft.isConstraintClause ·) ++
      inline.plain :: placement.back.filter (!Draft.isConstraintClause ·) := by
  have others : placement.apart.filter (!Draft.isConstraintClause ·) =
      (placement.early ++ placement.late).filter (!Draft.isConstraintClause ·) := by
    simp [apart, ClauseDescription.isConstraintClause placement.printed]
  rw [others, placement.same]
  simp [placement.about]

/-- The clause of the rule is read before the other constraint clauses. -/
theorem constraints_apart : placement.apart.filter Draft.isConstraintClause =
    placement.key :: placement.within.filter Draft.isConstraintClause := by
  have none_early : placement.early.filter Draft.isConstraintClause = [] :=
    List.filter_eq_nil_iff.mpr fun clause member => by simp [placement.leading clause member]
  have late : placement.late.filter Draft.isConstraintClause =
      (placement.early ++ placement.late).filter Draft.isConstraintClause := by
    rw [List.filter_append, none_early, List.nil_append]
  have key_first : placement.apart.filter Draft.isConstraintClause =
      placement.key :: placement.late.filter Draft.isConstraintClause := by
    simp [apart, none_early, ClauseDescription.isConstraintClause placement.printed]
  rw [key_first, late, placement.same]
  simp [within, placement.about, isConstraintClause_text placement.about]

/-- The clause of the rule does to its column what the rule does to it when it is read. -/
theorem alike_key {left right : Draft} (marked : Draft.Marked column.name rule.mark rule.name_mark left right) :
    Draft.Alike [] [] left (right.readConstraint placement.key) := by
  obtain ⟨errors, warnings⟩ := Rule.issues_clause placement.printed marked.present
  refine ⟨?name, ?columns, marked.errors.trans errors.symm, marked.warnings.trans warnings.symm⟩
  case name =>
    rw [marked.title, Draft.readConstraint_table]
    exact (Table.foldl_amend_amended [placement.key] right.table).name_eq.symm
  case columns =>
    rw [marked.columns, Draft.readConstraint_table]
    apply Roster.ext
    rw [Roster.entries_modify, Table.columns_amend]
    exact List.map_congr_left fun entry _ => (Rule.touched_clause placement.printed entry).symm

variable {placement} in
/-- Either way the body comes to the same columns with the same issues. -/
theorem readBody_agree {whole other : Text} (clauses : Script.clauses whole = placement.within)
    (other_clauses : Script.clauses other = placement.apart) (name : String) :
    Draft.Agree (Draft.Alike [] []) ((Draft.ofTable (.empty name)).readBody whole)
      ((Draft.ofTable (.empty name)).readBody other) := by
  have trimmed : Text.trim inline.text = inline.text := by
    apply Script.trim_of_mem_clauses
    rw [clauses]
    exact List.mem_append_right _ List.mem_cons_self
  have plain_trimmed : Text.trim inline.plain = inline.plain := by
    have member : inline.plain ∈ placement.early ++ placement.late := by
      rw [placement.same]
      exact List.mem_append_right _ List.mem_cons_self
    apply Script.trim_of_mem_clauses
    rw [other_clauses]
    exact ((List.sublist_cons_self placement.key placement.late).append_left placement.early).subset member
  have unused : ∀ clause ∈ placement.front.filter (!Draft.isConstraintClause ·),
      Column.givenName? clause ≠ some column.name := by
    intro clause member
    obtain ⟨inside, about⟩ := List.mem_filter.mp member
    exact placement.first clause inside (by simpa using about)
  have columns := readColumns_agree placement.about trimmed plain_trimmed unused
    (show column.name ∉ (Draft.ofTable (.empty name)).table.columns.names from List.not_mem_nil)
    (placement.back.filter (!Draft.isConstraintClause ·))
  unfold Draft.readBody
  simp only [clauses, other_clauses, columns_within, columns_apart, constraints_apart]
  obtain ⟨failure, errors, warnings, drafts⟩ := columns
  generalize Draft.readColumns _ _ = left at failure errors warnings drafts ⊢
  generalize Draft.readColumns _ _ = right at failure errors warnings drafts ⊢
  obtain ⟨left, failed⟩ := left
  obtain ⟨right, also_failed⟩ := right
  obtain rfl : failed = also_failed := failure
  cases failed with
  | some error => exact .of_error errors warnings error
  | none =>
    have alike := Draft.Alike.foldl (fun _ _ clause alike => alike.readConstraint clause)
      (placement.within.filter Draft.isConstraintClause) (placement.alike_key (drafts rfl))
    exact ⟨rfl, alike.errors, alike.warnings, fun _ => alike⟩

end Placement
end InlineRule
end SchemaAtlas.Printing
