import SchemaAtlas.Proofs.Clause.Amendment
import SchemaAtlas.Proofs.Clause.LeadingText
import SchemaAtlas.Proofs.Script.Passage
/-!
Checks of a table, with or without a name. The keywords of the other families are sought in the whole clause, so a
check is recorded as it is written just if its parentheses show none of them. Literals in single quotation marks are
masked for the search; names in brackets, texts in double quotation marks and bare words of the condition are not.
-/
namespace SchemaAtlas
open Text Pattern Cursor Phrase

/-- A clause that is taken for another family leaves no check. -/
theorem Table.checkCount_amend {table : Table} {text : Text}
    (other : ConstraintFamily.ofMasked? (Script.mask text) ≠ some .check) :
    (table.amend text).checkCount = table.checkCount := by
  have amended := amend_amended table text
  generalize table.amend text = after at amended
  induction amended with
  | refl => rfl
  | tail _ amendment ih =>
    rw [← ih]
    cases amendment with
    | check _ _ family => exact absurd family other
    | foreignKey | primaryKey | unique =>
      simp [checkCount, record, List.countP_append, Constraint.isCheck]

/-- CONSTRAINT and the name behind it, in front of what the name is given to. -/
structure NamePrefix where
  keyword : Text
  gap : Text
  name : Text
  tail : Text

namespace NamePrefix

def text (front : NamePrefix) : Text := front.keyword ++ (front.gap ++ (front.name ++ front.tail))

/-- The name is a word that begins no phrase of a constraint. -/
structure IsPlain (front : NamePrefix) : Prop where
  spelled : Spells "CONSTRAINT" front.keyword
  gap : front.gap ≠ [] ∧ ∀ c ∈ front.gap, isBlank c = true
  word : IsWord front.name
  free : ∀ keyword ∈ ["FOREIGN", "PRIMARY", "UNIQUE", "CHECK"], ¬Keyed keyword front.name
  tail : front.tail ≠ [] ∧ ∀ c ∈ front.tail, isBlank c = true

end NamePrefix

structure CheckClause where
  named : Option NamePrefix
  keyword : Text
  gap : Text
  condition : Text

namespace CheckClause

def lead (clause : CheckClause) : Text := (clause.named.map NamePrefix.text).getD []

/-- All that stands in front of the parentheses. -/
def front (clause : CheckClause) : Text := clause.lead ++ (clause.keyword ++ clause.gap)

def group (clause : CheckClause) : Text := '(' :: (clause.condition ++ [')'])

def text (clause : CheckClause) : Text := clause.front ++ clause.group

def declared? (clause : CheckClause) : Option String := clause.named.map (String.ofList ·.name)

/-- The condition closes its quotation marks and parentheses and is not blank. -/
structure IsPlain (clause : CheckClause) : Prop where
  named : ∀ name ∈ clause.named, name.IsPlain
  spelled : Spells "CHECK" clause.keyword
  gap : ∀ c ∈ clause.gap, isBlank c = true
  balances : Script.Nesting.outside.Balances clause.condition
  visible : Text.trim clause.condition ≠ []

/-- The family that the clause is taken for: that of the first keyword which its parentheses show. -/
def family (clause : CheckClause) : ConstraintFamily :=
  (ConstraintFamily.ofMasked? (Script.mask clause.group)).getD .check

section Front
variable {clause : CheckClause} {keyword : String}

theorem words_word_gap {word gap : Text} (spelled : IsWord word) (filled : gap ≠ [])
    (blank : ∀ c ∈ gap, isBlank c = true) (rest : Text) : words (word ++ (gap ++ rest)) = word :: words rest := by
  rw [words_append (beginsWord_of_isBlank filled blank rest), words_self spelled.1 spelled.2, words_of_blank blank,
    List.singleton_append]

theorem endsWord_lead (plain : clause.IsPlain) : endsWord clause.lead = false := by
  unfold lead
  cases given : clause.named with
  | none => rfl
  | some name =>
    obtain ⟨_, _, _, _, filled, blank⟩ := plain.named name given
    rw [Option.map_some, Option.getD_some, NamePrefix.text, ← List.append_assoc, ← List.append_assoc,
      endsWord_append filled, endsWord_of_blank blank]

/-- Neither CONSTRAINT nor the name begins a phrase of a constraint. -/
theorem words_lead (plain : clause.IsPlain) (reserved : keyword ∈ ["FOREIGN", "PRIMARY", "UNIQUE", "CHECK"]) :
    ∀ word ∈ words clause.lead, ¬Keyed keyword word := by
  have key : IsKeyword keyword ∧ keyword ≠ "CONSTRAINT" := by
    simp only [List.mem_cons, List.not_mem_nil, or_false] at reserved
    rcases reserved with rfl | rfl | rfl | rfl <;> decide
  unfold lead
  cases given : clause.named with
  | none =>
    rw [Option.map_none, Option.getD_none, words_nil]
    exact List.forall_mem_nil _
  | some name =>
    obtain ⟨spelled, gap, word, free, tail⟩ := plain.named name given
    have first := (bare_of_spells (by decide) spelled).word
    have whole : name.text = name.keyword ++ (name.gap ++ (name.name ++ (name.tail ++ []))) := by
      rw [NamePrefix.text, List.append_nil]
    rw [Option.map_some, Option.getD_some, whole, words_word_gap first gap.1 gap.2, words_word_gap word tail.1 tail.2,
      words_nil]
    exact List.forall_mem_cons.mpr ⟨not_folds_of_spells key.1 (by decide) spelled key.2,
      List.forall_mem_singleton.mpr (free keyword reserved)⟩

/-- None of the words in front of the parentheses is a keyword of another family. -/
theorem words_front (plain : clause.IsPlain) (other : keyword ∈ ["FOREIGN", "PRIMARY", "UNIQUE"]) :
    ∀ word ∈ words clause.front, ¬Keyed keyword word := by
  have key : IsKeyword keyword ∧ keyword ≠ "CHECK" := by
    simp only [List.mem_cons, List.not_mem_nil, or_false] at other
    rcases other with rfl | rfl | rfl <;> decide
  have check := (bare_of_spells (by decide) plain.spelled).word
  rw [front, words_append_of_endsWord (endsWord_lead plain), words_append_of_blank _ plain.gap,
    words_self check.1 check.2]
  intro word member
  rcases List.mem_append.mp member with ahead | here
  · exact words_lead plain (List.mem_append_left ["CHECK"] other) word ahead
  · rw [List.mem_singleton.mp here]
    exact not_folds_of_spells key.1 (by decide) plain.spelled key.2

theorem unquoted_front (plain : clause.IsPlain) : '\'' ∉ clause.front := by
  have unmarked {gap : Text} (blank : ∀ c ∈ gap, isBlank c = true) : '\'' ∉ gap :=
    not_mem_of_blank blank (by decide)
  have check := (bare_of_spells (by decide) plain.spelled).not_mem (c := '\'') (by decide)
  unfold front lead
  cases given : clause.named with
  | none => simp [check, unmarked plain.gap]
  | some name =>
    obtain ⟨spelled, gap, word, _, tail⟩ := plain.named name given
    have first := (bare_of_spells (by decide) spelled).not_mem (c := '\'') (by decide)
    simp [NamePrefix.text, check, first, word.not_mem (c := '\'') (by decide), unmarked plain.gap, unmarked gap.2,
      unmarked tail.2]

theorem mask_text (plain : clause.IsPlain) :
    Script.mask clause.text = clause.front ++ Script.mask clause.group :=
  Script.mask_append (unquoted_front plain) _

/-- What stands in front of the parentheses makes no difference to the search for another family. -/
theorem occurs_text (plain : clause.IsPlain) (other : keyword ∈ ["FOREIGN", "PRIMARY", "UNIQUE"]) {pattern : Pattern}
    (led : LedBy (Keyed keyword) pattern) :
    pattern.occurs (Script.mask clause.text) = pattern.occurs (Script.mask clause.group) := by
  rw [mask_text plain]
  exact occurs_append_of_led led (words_front plain other) (.inr ((Script.beginsWord_mask clause.group).trans rfl))

end Front

section Reading
variable {clause : CheckClause}

theorem beginsWord_gap (plain : clause.IsPlain) : beginsWord (clause.gap ++ Script.mask clause.group) = false := by
  by_cases filled : clause.gap = []
  · rw [filled]
    exact (Script.beginsWord_mask clause.group).trans rfl
  · exact beginsWord_of_isBlank filled plain.gap _

theorem occurs_checkKeyword (plain : clause.IsPlain) : checkKeyword.occurs (Script.mask clause.text) = true := by
  have here := occurs_of_matchAt (matchAt_standalone_word (by decide) plain.spelled (endsWord_lead plain)
    (beginsWord_gap plain))
  rw [mask_text plain, front, List.append_assoc, List.append_assoc]
  exact here

/-- The clause is taken for what its parentheses show, and else for the check that it is. -/
theorem ofMasked?_text (plain : clause.IsPlain) :
    ConstraintFamily.ofMasked? (Script.mask clause.text) = some clause.family := by
  unfold family ConstraintFamily.ofMasked?
  rw [occurs_text plain (by decide) foreignKeyKeyword_led, occurs_text plain (by decide) primaryKeyKeyword_led,
    occurs_text plain (by decide) uniqueKeyword_led, occurs_checkKeyword plain, if_pos rfl]
  cases foreignKeyKeyword.occurs (Script.mask clause.group) with
  | true => rfl
  | false => cases primaryKeyKeyword.occurs (Script.mask clause.group) with
    | true => rfl
    | false => cases uniqueKeyword.occurs (Script.mask clause.group) with
      | true => rfl
      | false => cases checkKeyword.occurs (Script.mask clause.group) <;> rfl

theorem family_eq_check_iff : clause.family = .check ↔
    ∀ pattern ∈ [foreignKeyKeyword, primaryKeyKeyword, uniqueKeyword],
      pattern.occurs (Script.mask clause.group) = false := by
  simp only [family, ConstraintFamily.ofMasked?, List.forall_mem_cons]
  cases foreignKeyKeyword.occurs (Script.mask clause.group) with
  | true => simp
  | false => cases primaryKeyKeyword.occurs (Script.mask clause.group) with
    | true => simp
    | false => cases uniqueKeyword.occurs (Script.mask clause.group) with
      | true => simp
      | false => cases checkKeyword.occurs (Script.mask clause.group) <;> simp

/-- The parentheses of the check are those in which its condition stands. -/
theorem readCheck_text (plain : clause.IsPlain) (draft : Draft) (declared : Option String) :
    draft.readCheck clause.text declared = draft.addConstraint
      (.check (declared.getD draft.table.nextCheckName) (String.ofList (Text.trim clause.condition))) := by
  have shown : Script.mask clause.group = '(' :: (Script.mask clause.group).tail := rfl
  have passes : checkOpening.Passes clause.lead (clause.keyword ++ clause.gap ++ Script.mask clause.group) :=
    find?_append_of_led checkOpening_led (words_lead plain (by decide)) (.inl (endsWord_lead plain))
  have opening : ∃ found, checkOpening.find? (Script.mask clause.text) = some found ∧
      found.span.stop = clause.front.length + 1 := by
    rw [mask_text plain, front, List.append_assoc, passes, shown, find?_checkOpening plain.spelled plain.gap]
    refine ⟨_, rfl, ?_⟩
    simp only [Match.shift, Span.shift, List.length_append]
    omega
  obtain ⟨found, here, stop⟩ := opening
  have group : Script.group? clause.text clause.front.length =
      some (clause.condition, clause.front.length + 1 + clause.condition.length) := by
    rw [text, CheckClause.group, Script.group?_of_opening, plain.balances.closing? [], Option.map_some, List.take_left]
  unfold Draft.readCheck
  simp only [here, Option.bind_eq_bind, Option.bind_some, stop, Nat.add_sub_cancel, group, Option.map_some,
    Option.getD_some]
  split
  · next blank => exact absurd blank plain.visible
  · rfl

/-- The name of the clause is found, and none is found where none is given. -/
theorem declaredName?_text (plain : clause.IsPlain) : Constraint.declaredName? clause.text = clause.declared? := by
  unfold Constraint.declaredName? declared?
  rw [mask_text plain]
  cases given : clause.named with
  | none =>
    rw [front, lead, given, Option.map_none, Option.getD_none, List.nil_append, List.append_assoc,
      match?_constraintName_none (by decide) (by decide) plain.spelled (beginsWord_gap plain)]
    rfl
  | some name =>
    obtain ⟨spelled, gap, word, _, tail⟩ := plain.named name given
    have whole (rest : Text) : clause.front ++ rest =
        name.keyword ++ (name.gap ++ (name.name ++ (name.tail ++ (clause.keyword ++ (clause.gap ++ rest))))) := by
      simp [front, lead, given, NamePrefix.text]
    obtain ⟨span, here⟩ := match?_constraintName spelled gap.1 gap.2 word (beginsWord_of_isBlank tail.1 tail.2 _)
    have part : (⟨span, [(.name, Span.behind (name.keyword ++ name.gap) name.name)]⟩ : Match).text? .name
        clause.text = some name.name :=
      Match.text?_of_part _ (name.tail ++ (clause.keyword ++ (clause.gap ++ clause.group))) rfl (by
        rw [text, whole, List.append_assoc])
    rw [whole, here, Option.bind_some, part]
    obtain ⟨c, others, same⟩ := List.exists_cons_of_ne_nil word.1
    simp only [Name.clean_word word]
    simp only [same, Option.map_some]

/-- A check is recorded, with its own name or the next ordinal and its condition as it is written, exactly if its
parentheses show no keyword of another family. Else the clause is read as if it were of that family. -/
theorem recorded_iff (plain : clause.IsPlain) (draft : Draft) :
    (clause.family = .check ↔ ∀ pattern ∈ [foreignKeyKeyword, primaryKeyKeyword, uniqueKeyword],
      pattern.occurs (Script.mask clause.group) = false) ∧
    (draft.readConstraint clause.text = match clause.family with
      | .foreignKey => draft.readForeignKey clause.text clause.declared?
      | .primaryKey => draft.readPrimaryKey clause.text clause.declared?
      | .unique => draft.readUnique clause.text clause.declared?
      | .check => draft.addConstraint (.check (clause.declared?.getD draft.table.nextCheckName)
          (String.ofList (Text.trim clause.condition)))) ∧
    (clause.family ≠ .check → (draft.readConstraint clause.text).table.checkCount = draft.table.checkCount) := by
  have taken := ofMasked?_text plain
  refine ⟨family_eq_check_iff, ?_, fun other => ?_⟩
  · unfold Draft.readConstraint
    rw [taken, declaredName?_text plain]
    cases clause.family with
    | check => exact readCheck_text plain draft clause.declared?
    | foreignKey | primaryKey | unique => rfl
  · rw [Draft.readConstraint_table]
    refine Table.checkCount_amend ?_
    rw [taken]
    exact fun same => other (Option.some.inj same)

/-- A keyword in a literal is masked, and the condition is kept with it. -/
theorem recorded_iff_literal :
    let name : NamePrefix := ⟨"constraint".toList, [' '], "ck".toList, [' ']⟩
    let clause : CheckClause := ⟨some name, "Check".toList, [' '], " kind <> 'UNIQUE (' ".toList⟩
    let draft := Draft.ofTable (.empty "T")
    clause.IsPlain ∧ clause.family = .check ∧
      draft.readConstraint clause.text = draft.addConstraint (.check "ck" "kind <> 'UNIQUE ('") := by
  intro name clause draft
  have space : [' '] ≠ [] ∧ ∀ c ∈ [' '], isBlank c = true := ⟨List.cons_ne_nil _ _, isBlank_space⟩
  have named : name.IsPlain := ⟨by decide, space, by decide, by decide, space⟩
  have plain : clause.IsPlain :=
    ⟨fun other given => Option.some.inj given ▸ named, by decide, isBlank_space, by decide, by decide⟩
  have family : clause.family = .check := by decide +kernel
  refine ⟨plain, family, ?_⟩
  rw [(recorded_iff plain draft).2.1, family]
  rfl

/-- A name in brackets is not masked: the check on a column of that name is taken for a key without columns. -/
theorem check_taken_for_key :
    let clause : CheckClause := ⟨none, "CHECK".toList, [' '], "[unique] > 0".toList⟩
    let draft := Draft.ofTable ((Table.empty "T").putColumn (.plain "unique" (.plain "INT")))
    clause.IsPlain ∧ clause.text = "CHECK ([unique] > 0)".toList ∧
      draft.readConstraint clause.text =
        draft.addError (.invalidConstraint "T" "UNIQUE" "CHECK ([unique] > 0)") ∧
      draft.readConstraint clause.text ≠ draft.addConstraint (.check "CK_T_1" "[unique] > 0") := by
  intro clause draft
  have plain : clause.IsPlain := ⟨by rintro _ ⟨⟩, by decide, isBlank_space, by decide, by decide⟩
  exact ⟨plain, by decide +kernel, by decide +kernel, by decide +kernel⟩

end Reading
end CheckClause
end SchemaAtlas
