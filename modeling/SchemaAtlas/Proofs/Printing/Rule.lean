import SchemaAtlas.Proofs.Clause.LeadingText
import SchemaAtlas.Proofs.Printing.Table
/-!
Constraints on a single column. Such a rule can be printed as an attribute of its column, right behind
the type, or as a clause of the table, and it marks the column in the same way.
-/
namespace SchemaAtlas.Printing
open Text Pattern Phrase

inductive Rule where
  | primaryKey
  | unique
  | references (table target : Identifier)

namespace Rule

/-- The rule as an attribute of its column. -/
def attributeLexemes : Rule → List Lexeme
  | primaryKey => [.keyword "PRIMARY", .keyword "KEY"]
  | unique => [.keyword "UNIQUE"]
  | references table target => [.keyword "REFERENCES", .name table.text, .group false target.text]

def body (column : Identifier) : Rule → ClauseBody
  | primaryKey => .primaryKey [column]
  | unique => .unique [column]
  | references table target => .foreignKey [(column, target)] table none none

/-- The rule as a clause of its own, about one column. -/
def clause (rule : Rule) (column : Identifier) : ClauseDescription where
  declared := none
  body := rule.body column
  filled := by cases rule <;> exact List.cons_ne_nil _ _

/-- What the rule makes of its column. -/
def mark : Rule → Column → Column
  | primaryKey => Column.markPrimaryKey
  | unique => Column.markUnique
  | references table target => (·.markForeignKey ⟨table.name, target.name⟩)

theorem name_mark (rule : Rule) (column : Column) : (rule.mark column).name = column.name := by
  cases rule <;> rfl

section Attribute
variable (rule : Rule) {keyword : String}

theorem allSound_attribute : AllSound rule.attributeLexemes := by
  have each : ∀ word ∈ ["PRIMARY", "KEY", "UNIQUE", "REFERENCES"], IsKeyword word := by decide
  cases rule with
  | primaryKey =>
    have behind : AllSound [.keyword "KEY"] := allSound_cons.mpr ⟨each "KEY" (by decide), allSound_nil⟩
    exact allSound_cons.mpr ⟨each "PRIMARY" (by decide), behind⟩
  | unique => exact allSound_cons.mpr ⟨each "UNIQUE" (by decide), allSound_nil⟩
  | references table target =>
    exact allSound_cons.mpr ⟨each "REFERENCES" (by decide), allSound_cons.mpr ⟨table.bare, allSound_cons.mpr
      ⟨⟨.of_plain target.bare.2, .of_plain target.bare.2⟩, allSound_nil⟩⟩⟩

/-- The keywords that the rule is printed with as an attribute. -/
def keywords : Rule → List String
  | primaryKey => ["PRIMARY", "KEY"]
  | unique => ["UNIQUE"]
  | references _ _ => ["REFERENCES"]

theorem lacks_attribute (reserved : keyword ∈ Printing.keywords) (other : keyword ∉ rule.keywords) :
    Lacks keyword rule.attributeLexemes := by
  cases rule with
  | primaryKey =>
    simp only [keywords, List.mem_cons, List.not_mem_nil, or_false, not_or] at other
    exact lacks_keyword.mpr ⟨other.1, lacks_keyword.mpr ⟨other.2, lacks_nil⟩⟩
  | unique => exact lacks_keyword.mpr ⟨by simpa [keywords] using other, lacks_nil⟩
  | references table target =>
    have grouped : keyword.toList ∉ (Lexeme.group false target.text).capitals := by
      rw [Lexeme.capitals, words_self target.bare.1 target.bare.fits]
      intro member
      exact target.free keyword reserved (List.mem_singleton.mp member).symm
    exact lacks_keyword.mpr ⟨by simpa [keywords] using other, (lacks_name reserved).mpr
      (lacks_cons.mpr ⟨grouped, lacks_nil⟩)⟩

end Attribute
section Found
variable {text tail : Text}

theorem occurs_primaryKey (spelled : Spelled primaryKey.attributeLexemes text) (outside : beginsWord tail = false) :
    primaryKeyKeyword.occurs (text ++ tail) = true := by
  obtain ⟨word, _, letters, behind, rfl⟩ := spelled_keyword.mp spelled
  obtain ⟨other, _, other_letters, finish, rfl⟩ := spelled_keyword.mp behind
  obtain rfl := spelled_nil.mp finish
  have space : endsWord [' '] = false := by decide
  have here := occurs_of_matchAt
    (matchAt_standalone_words (by decide) (by decide) letters other_letters space outside)
  rw [primaryKeyKeyword, Phrase.primaryKey]
  simpa using here

theorem occurs_unique (spelled : Spelled unique.attributeLexemes text) (outside : beginsWord tail = false) :
    uniqueKeyword.occurs (text ++ tail) = true := by
  obtain ⟨word, _, letters, finish, rfl⟩ := spelled_keyword.mp spelled
  obtain rfl := spelled_nil.mp finish
  have space : endsWord [' '] = false := by decide
  have here := occurs_of_matchAt (matchAt_standalone_word (by decide) letters space outside)
  rw [uniqueKeyword]
  simpa using here

/-- The first reference of a scope is the one that stands in front. -/
theorem reference?_front {table target : Identifier} (spelled : Spelled (references table target).attributeLexemes text)
    (gap : Text) (scope : Attributes.Scope) :
    (scope.behind (text ++ gap)).reference? = some ⟨table.name, target.name⟩ := by
  obtain ⟨word, _, letters, behind, rfl⟩ := spelled_keyword.mp spelled
  obtain ⟨_, grouped, rfl⟩ := spelled_name.mp behind
  obtain ⟨_, finish, rfl⟩ := spelled_group.mp grouped
  obtain rfl := spelled_nil.mp finish
  obtain ⟨found, here, names⟩ :=
    matchAt_references letters (show endsWord [' '] = false by decide) table.bare target.bare (gap ++ scope.masked)
  have whole (tail : Text) : ' ' :: (word ++ ' ' :: (table.text ++ '(' :: (target.text ++ [')']))) ++ gap ++ tail =
      [' '] ++ (word ++ ' ' :: (table.text ++ '(' :: (target.text ++ ')' :: (gap ++ tail)))) := by simp
  obtain ⟨table_text, target_text⟩ := names (gap ++ scope.text)
  unfold Attributes.Scope.reference? Attributes.Scope.behind
  dsimp only
  rw [whole, whole, find?_eq_findAfter, List.singleton_append, findAfter_cons_of_led references_led (by decide),
    List.nil_append, here]
  simp only [Option.bind_eq_bind, Option.bind_some, table_text, target_text,
    Name.cleanQualified_word table.bare.word, Name.clean_word target.bare.word]
  rfl

end Found
section Apply
variable {rule : Rule} {text gap rest : Text} (spelled : Spelled rule.attributeLexemes text)
  (blank : ∀ c ∈ gap, isBlank c = true) (stop : beginsWord (gap ++ rest) = false)

include spelled blank in
theorem silent {keyword : String} (key : IsKeyword keyword) (reserved : keyword ∈ Printing.keywords)
    (other : keyword ∉ rule.keywords) : ∀ word ∈ words (text ++ gap), ¬Keyed keyword word := by
  rw [words_append_of_blank text blank]
  exact spelled.not_folds rule.allSound_attribute key (rule.lacks_attribute reserved other)

include spelled blank stop

theorem leads : Attributes.Leads (text ++ gap) rest where
  unquoted := by
    intro member
    rcases List.mem_append.mp member with here | there
    · exact (spelled.tidy rule.allSound_attribute).not_mem (by decide) here
    · exact not_mem_of_blank blank (by decide) there
  apart := by
    cases gap with
    | nil => exact Or.inr stop
    | cons c gap =>
      left
      rw [endsWord_append (List.cons_ne_nil c gap), endsWord, List.getLast?_eq_some_getLast (List.cons_ne_nil c gap)]
      exact isWordCharacter_of_isBlank (blank _ (List.getLast_mem _))
  silent := by
    intro keyword member
    have each : ∀ keyword ∈ ["CHECK", "NOT", "IDENTITY", "DEFAULT"], IsKeyword keyword ∧
        keyword ∈ Printing.keywords ∧ keyword ∉ ["PRIMARY", "KEY"] ∧ keyword ∉ ["UNIQUE"] ∧
          keyword ∉ ["REFERENCES"] := by decide
    obtain ⟨key, reserved, primary, unique, reference⟩ := each keyword member
    exact silent spelled blank key reserved (by cases rule <;> assumption)
  uncounted := by
    rw [words_append_of_blank text blank]
    apply spelled.not_autoIncrement rule.allSound_attribute
    · exact rule.lacks_attribute (by decide) (by cases rule <;> simp [keywords])
    · exact rule.lacks_attribute (by decide) (by cases rule <;> simp [keywords])

/-- A rule is read in front of other attributes as if it were applied after them. -/
theorem apply_front (column : Column) : Attributes.apply column (text ++ (gap ++ rest)) =
    (Attributes.apply column rest).map (Prod.map rule.mark id) := by
  have ahead := (leads spelled blank stop).masked
  have outside : beginsWord (gap ++ (Attributes.scope rest).masked) = false := by
    cases gap with
    | nil => exact (Attributes.beginsWord_masked rest).trans stop
    | cons c gap => exact stop
  rw [Attributes.apply_eq, Attributes.apply_eq, ← List.append_assoc, (leads spelled blank stop).scope]
  generalize Attributes.scope rest = scope at ahead outside
  have passes {keyword : String} {pattern : Pattern} (led : LedBy (Keyed keyword) pattern) (key : IsKeyword keyword)
      (reserved : keyword ∈ Printing.keywords) (other : keyword ∉ rule.keywords) :
      pattern.occurs (text ++ gap ++ scope.masked) = pattern.occurs scope.masked :=
    occurs_append_of_led led (silent spelled blank key reserved other) ahead.apart
  have not_null := ahead.occurs_notNull
  cases rule with
  | primaryKey =>
    have unique := passes uniqueKeyword_led (by decide) (by decide) (by decide)
    have primary : primaryKeyKeyword.occurs (text ++ gap ++ scope.masked) = true := by
      rw [List.append_assoc]
      exact occurs_primaryKey spelled outside
    apply ahead.apply_of_flags (fun _ _ _ => rfl) (silent spelled blank (by decide) (by decide) (by decide))
      (fun _ _ => rfl) (fun _ _ => rfl)
    unfold Attributes.Scope.applyFlags
    rw [not_null]
    simp only [Attributes.Scope.behind, primary, unique, ↓reduceIte]
    cases primaryKeyKeyword.occurs scope.masked <;> cases uniqueKeyword.occurs scope.masked <;> rfl
  | unique =>
    have primary := passes primaryKeyKeyword_led (by decide) (by decide) (by decide)
    have unique : uniqueKeyword.occurs (text ++ gap ++ scope.masked) = true := by
      rw [List.append_assoc]
      exact occurs_unique spelled outside
    apply ahead.apply_of_flags (fun _ _ _ => rfl) (silent spelled blank (by decide) (by decide) (by decide))
      (fun _ _ => rfl) (fun _ _ => rfl)
    unfold Attributes.Scope.applyFlags
    rw [not_null]
    simp only [Attributes.Scope.behind, primary, unique, ↓reduceIte]
    cases uniqueKeyword.occurs scope.masked <;> rfl
  | references table target =>
    have primary := passes primaryKeyKeyword_led (by decide) (by decide) (by simp [keywords])
    have unique := passes uniqueKeyword_led (by decide) (by decide) (by simp [keywords])
    apply ahead.apply_of_reference (reference?_front spelled gap scope)
    unfold Attributes.Scope.applyFlags
    rw [not_null]
    simp only [Attributes.Scope.behind, primary, unique]

end Apply

section Clause
variable {rule : Rule} {column : Identifier} {text : Text} (printed : Prints (rule.clause column).lexemes text)
include printed

/-- What a printed clause of the rule is read as, by the kind of the rule. -/
theorem read_clause : match rule with
    | primaryKey => Draft.keyColumns primaryKeyConstraint text = [column.name]
    | unique => Draft.keyColumns uniqueConstraint text = [column.name]
    | references table target =>
      ∃ key, ForeignKeyClause.read? text = some key ∧ key.isPaired = true ∧
        key.pairs = [(column.name, ⟨table.name, target.name⟩)] := by
  unfold ClauseDescription.lexemes at printed
  cases rule with
  | primaryKey => exact keyColumns_primaryKey printed (List.cons_ne_nil _ _)
  | unique => exact keyColumns_unique printed (List.cons_ne_nil _ _)
  | references table target => exact ⟨_, read?_foreignKey printed (List.cons_ne_nil _ _), rfl, rfl⟩

/-- As a clause the rule marks its column and no other one. -/
theorem touched_clause (entry : Column) :
    entry.touched text = if entry.name = column.name then rule.mark entry else entry := by
  have family := ClauseDescription.ofMasked?_clause printed
  have reading := read_clause printed
  unfold Column.touched
  rw [family]
  cases rule with
  | primaryKey => simp only [clause, body, ClauseBody.family, reading, List.mem_singleton]; rfl
  | unique => simp only [clause, body, ClauseBody.family, reading, List.mem_singleton]; rfl
  | references table target =>
    obtain ⟨key, found, paired, pairs⟩ := reading
    simp only [clause, body, ClauseBody.family, found, paired, pairs, ↓reduceIte]
    rw [← Table.linked_cons]
    rfl

/-- No issue is found in the clause, if the table has the column. -/
theorem issues_clause {draft : Draft} (present : column.name ∈ draft.table.columns.names) :
    (draft.readConstraint text).errors = draft.errors ∧ (draft.readConstraint text).warnings = draft.warnings := by
  have family := ClauseDescription.ofMasked?_clause printed
  have reading := read_clause printed
  obtain ⟨entry, found⟩ := Roster.mem_names_iff.mp present
  have known : draft.table.column? column.name = some entry := found
  unfold Draft.readConstraint
  rw [family]
  cases rule with
  | primaryKey =>
    unfold Draft.keyColumns at reading
    simp only [clause, body, ClauseBody.family, Draft.readPrimaryKey, Draft.readKey, reading, List.foldl_cons,
      List.foldl_nil, Draft.markKeyColumn, known, Draft.addConstraint, and_self]
  | unique =>
    unfold Draft.keyColumns at reading
    simp only [clause, body, ClauseBody.family, Draft.readUnique, Draft.readKey, reading, List.foldl_cons,
      List.foldl_nil, Draft.markKeyColumn, known, Draft.addConstraint, and_self]
  | references table target =>
    obtain ⟨key, read, paired, pairs⟩ := reading
    simp only [clause, body, ClauseBody.family, Draft.readForeignKey, read, paired, pairs, ↓reduceIte,
      List.foldl_cons, List.foldl_nil, Draft.link, known, and_self]

end Clause
end Rule
end SchemaAtlas.Printing
