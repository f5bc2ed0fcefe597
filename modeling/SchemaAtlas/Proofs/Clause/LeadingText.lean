import SchemaAtlas.Clause.Attributes
import SchemaAtlas.Proofs.Pattern.Shift
import SchemaAtlas.Proofs.Script.Keywords
import SchemaAtlas.Proofs.Script.Quotation
/-!
Attributes behind a text that is put in front of them. What the text does not speak of is read as it is
without the text, because keywords are sought from left to right and all that is read of an attribute
stands behind its keyword.
-/
namespace SchemaAtlas
open Text Pattern Cursor Phrase

namespace Script
variable {before : Text}

theorem mask_append (unquoted : '\'' ∉ before) (rest : Text) : mask (before ++ rest) = before ++ mask rest := by
  induction before with
  | nil => rfl
  | cons c before ih =>
    have other : (c == '\'') = false := by
      apply beq_eq_false_iff_ne.mpr
      rintro rfl
      exact unquoted List.mem_cons_self
    have later := ih fun member => unquoted (List.mem_cons_of_mem c member)
    unfold mask at later ⊢
    rw [List.cons_append, maskFrom]
    simp only [other, Bool.false_eq_true, ↓reduceIte, later, List.cons_append]

theorem mask_of_unquoted (unquoted : '\'' ∉ before) : mask before = before := by
  have same := mask_append unquoted []
  have nil : mask [] = [] := rfl
  rwa [List.append_nil, nil, List.append_nil] at same

theorem inLiteral_of_unquoted (unquoted : '\'' ∉ before) : inLiteral before = false := by
  unfold inLiteral
  induction before with
  | nil => rfl
  | cons c before ih =>
    have other : flipAtMark false c = false := by
      apply if_neg
      rw [beq_iff_eq]
      rintro rfl
      exact unquoted List.mem_cons_self
    rw [List.foldl_cons, other]
    exact ih fun member => unquoted (List.mem_cons_of_mem c member)

theorem beginsWord_mask (text : Text) : beginsWord (mask text) = beginsWord text := by
  cases text with
  | nil => rfl
  | cons c text =>
    unfold mask maskFrom
    split <;> rfl

theorem group?_append (before text : Text) (start : Nat) : group? (before ++ text) (start + before.length) =
    (group? text start).map fun group => (group.1, group.2 + before.length) := by
  have behind : (before ++ text).drop (start + before.length) = text.drop start := by
    rw [Nat.add_comm, List.drop_length_add_append]
  unfold group?
  rw [behind]
  split
  · next rest _ =>
    rw [Option.map_map]
    congr 1
    funext length
    have moved : start + before.length + 1 + length = start + 1 + length + before.length := by omega
    exact congrArg (rest.take length, ·) moved
  · rfl

end Script

namespace Attributes
variable {before text : Text}

/-- The opening of a check ends with a parenthesis. -/
theorem opening_split {found : Match} (here : checkOpening.find? text = some found) :
    ∃ before rest, text = before ++ '(' :: rest ∧ found.span.stop = before.length + 1 := by
  rw [find?_eq_findAfter] at here
  obtain ⟨passed, tail, rfl, place⟩ := findAfter_some here
  clear here
  unfold matchAt checkOpening at place
  rw [run_followed] at place
  obtain ⟨read, rest, _, rfl, _, place⟩ := run_some place
  obtain ⟨tail, rfl, place⟩ := run_exactly_some place
  obtain rfl := Option.some.inj place
  exact ⟨passed ++ read, tail, by simp, List.length_append⟩

theorem scope_text (text : Text) : (scope text).text = text := by
  simp only [scope]
  repeat' split
  all_goals rfl

/-- The same scope, with more text in front of it. -/
def Scope.behind (before : Text) (scope : Scope) : Scope :=
  ⟨before ++ scope.text, before ++ scope.masked, scope.condition⟩

/-- A text of which no check and no other attribute begins, but perhaps a key or a reference. -/
structure Leads (before rest : Text) : Prop where
  unquoted : '\'' ∉ before
  apart : Apart before rest
  silent : ∀ keyword ∈ ["CHECK", "NOT", "IDENTITY", "DEFAULT"], ∀ word ∈ words before, ¬Keyed keyword word
  uncounted : ∀ word ∈ words before, ¬IsAutoIncrement word

/-- A text that closes its literals and shows no check leaves the scope of what stands behind it. -/
theorem scope_append (closed : Script.inLiteral before = false)
    (passes : checkOpening.Passes (Script.mask before) (Script.mask text)) : scope (before ++ text) =
      ⟨before ++ (scope text).text, Script.mask before ++ (scope text).masked, (scope text).condition⟩ := by
  have masked : Script.mask (before ++ text) = Script.mask before ++ Script.mask text := by
    rw [Script.mask_append_inLiteral, closed]
    rfl
  have opening : checkOpening.find? (Script.mask before ++ Script.mask text) = _ := passes
  rw [Script.length_mask] at opening
  unfold scope
  simp only [masked, opening]
  cases here : checkOpening.find? (Script.mask text) with
  | none => rfl
  | some found =>
    obtain ⟨_, _, _, stop⟩ := opening_split here
    have moved : found.span.stop + before.length - 1 = found.span.stop - 1 + before.length := by omega
    simp only [Option.map_some, Match.shift, Span.shift, moved, Script.group?_append]
    cases Script.group? text (found.span.stop - 1) with
    | none => rfl
    | some group =>
      obtain ⟨condition, closing⟩ := group
      simp only [Option.map_some, Nat.add_sub_add_right]
      rw [Nat.add_comm found.span.stop, Nat.add_comm closing, ← Script.length_mask before, List.take_length_add_append,
        List.drop_length_add_append, List.append_assoc, List.append_assoc, List.append_assoc]

theorem Leads.scope (leads : Leads before text) : Attributes.scope (before ++ text) =
    (Attributes.scope text).behind before := by
  have same : Script.mask before = before := Script.mask_of_unquoted leads.unquoted
  have apart : Apart (Script.mask before) (Script.mask text) := by
    rw [same]
    exact leads.apart.imp_right fun outside => (Script.beginsWord_mask text).trans outside
  have silent : ∀ word ∈ words (Script.mask before), ¬Keyed "CHECK" word := by
    rw [same]
    exact leads.silent "CHECK" (by decide)
  rw [scope_append (Script.inLiteral_of_unquoted leads.unquoted) (find?_append_of_led checkOpening_led silent apart),
    same]
  rfl

theorem beginsWord_masked (text : Text) : beginsWord (scope text).masked = beginsWord text := by
  rw [← Script.beginsWord_mask text]
  unfold scope
  dsimp only
  cases here : checkOpening.find? (Script.mask text) with
  | none => rfl
  | some found =>
    dsimp only
    cases Script.group? text (found.span.stop - 1) with
    | none => rfl
    | some group =>
      -- The first character of a check is not among those that are blanked out.
      obtain ⟨before, _, _, stop⟩ := opening_split here
      obtain ⟨c, rest, masked⟩ : ∃ c rest, Script.mask text = c :: rest := by
        apply List.exists_cons_of_ne_nil
        intro empty
        rw [empty] at here
        cases here
      simp only [stop, masked]
      rfl

theorem Leads.masked (leads : Leads before text) : Leads before (Attributes.scope text).masked :=
  { leads with apart := leads.apart.imp_right fun outside => (beginsWord_masked text).trans outside }

/-- What is made of a column by the attributes in a scope. -/
def Scope.apply (scope : Scope) (column : Column) : Except NumeralError (Column × Option Text) :=
  (scope.applyIdentity (scope.applyFlags column)).map fun column =>
    (scope.applyReference (scope.applyDefault column), scope.condition.map Text.trim)

/-- The same scope with more text in front of it, for which something of equal length is shown. -/
def Scope.past (before shown : Text) (scope : Scope) : Scope :=
  ⟨before ++ scope.text, shown ++ scope.masked, scope.condition⟩

section Past
variable {shown : Text} {scope : Scope}

theorem Scope.applyFlags_past (checked : notNull.Passes shown scope.masked)
    (keyed : primaryKeyKeyword.Passes shown scope.masked) (unique : uniqueKeyword.Passes shown scope.masked)
    (column : Column) : (scope.past before shown).applyFlags column = scope.applyFlags column := by
  unfold Scope.applyFlags
  simp only [Scope.past, checked.occurs, keyed.occurs, unique.occurs]

theorem Scope.applyIdentity_past (found : identity.Passes shown scope.masked)
    (counted : autoIncrement.Passes shown scope.masked) (column : Column) :
    (scope.past before shown).applyIdentity column = scope.applyIdentity column := by
  have found : identity.find? (shown ++ scope.masked) = _ := found
  unfold Scope.applyIdentity
  simp only [Scope.past, found, counted.occurs]
  cases Phrase.identity.find? scope.masked with
  | none => rfl
  | some found => simp only [Option.map_some, Scope.identityNumber, Match.text?_shift]

theorem Scope.applyDefault_past (length : shown.length = before.length)
    (found : Phrase.default.Passes shown scope.masked) (column : Column) :
    (scope.past before shown).applyDefault column = scope.applyDefault column := by
  have found : Phrase.default.find? (shown ++ scope.masked) = _ := found
  have value (start : Nat) : DefaultValue.read (before ++ scope.text) (start + before.length) =
      DefaultValue.read scope.text start := by
    rw [DefaultValue.read, Nat.add_comm, List.drop_length_add_append, DefaultValue.read]
  unfold Scope.applyDefault
  simp only [Scope.past, found, length]
  cases Phrase.default.find? scope.masked with
  | none => rfl
  | some found => simp only [Option.map_some, Match.shift, Span.shift, value]

theorem Scope.applyReference_past (length : shown.length = before.length)
    (found : references.Passes shown scope.masked) (column : Column) :
    (scope.past before shown).applyReference column = scope.applyReference column := by
  have found : references.find? (shown ++ scope.masked) = _ := found
  have same : (scope.past before shown).reference? = scope.reference? := by
    unfold Scope.reference?
    simp only [Scope.past, found, length]
    cases references.find? scope.masked with
    | none => rfl
    | some found =>
      simp only [Option.map_some, Option.bind_eq_bind, Option.bind_some, Match.text?_shift]
  rw [Scope.applyReference, same, Scope.applyReference]

end Past

section Behind
variable {scope : Scope} (leads : Leads before scope.masked)
include leads

theorem Leads.passes {keyword : String} (member : keyword ∈ ["CHECK", "NOT", "IDENTITY", "DEFAULT"]) {pattern : Pattern}
    (led : LedBy (Keyed keyword) pattern) : pattern.Passes before scope.masked :=
  find?_append_of_led led (leads.silent keyword member) leads.apart

theorem Leads.occurs_notNull : notNull.occurs (scope.behind before).masked = notNull.occurs scope.masked :=
  (leads.passes (by decide) notNull_led).occurs

theorem Leads.applyIdentity (column : Column) :
    (scope.behind before).applyIdentity column = scope.applyIdentity column :=
  Scope.applyIdentity_past (leads.passes (by decide) identity_led)
    (find?_append_of_led autoIncrement_led leads.uncounted leads.apart) column

theorem Leads.applyDefault (column : Column) :
    (scope.behind before).applyDefault column = scope.applyDefault column :=
  Scope.applyDefault_past rfl (leads.passes (by decide) default_led) column

theorem Leads.applyReference (silent : ∀ word ∈ words before, ¬Keyed "REFERENCES" word) (column : Column) :
    (scope.behind before).applyReference column = scope.applyReference column :=
  Scope.applyReference_past rfl (find?_append_of_led references_led silent leads.apart) column

section Flag
variable {mark : Column → Column}
  (identity : ∀ column seed increment,
    (mark column).markIdentity seed increment = mark (column.markIdentity seed increment))

omit leads in
include identity in
theorem Scope.applyIdentity_mark (scope : Scope) (column : Column) :
    scope.applyIdentity (mark column) = (scope.applyIdentity column).map mark := by
  unfold Scope.applyIdentity
  cases Phrase.identity.find? scope.masked with
  | none =>
    cases autoIncrement.occurs scope.masked with
    | false => rfl
    | true => exact congrArg Except.ok (identity column _ _)
  | some found =>
    dsimp only
    cases scope.identityNumber found .seed with
    | error cause => rfl
    | ok seed =>
      cases scope.identityNumber found .increment with
      | error cause => rfl
      | ok increment => exact congrArg Except.ok (identity column _ _)

include identity in
/-- A text that does no more than to raise a flag raises it in what the attributes give. -/
theorem Leads.apply_of_flags (silent : ∀ word ∈ words before, ¬Keyed "REFERENCES" word)
    (default : ∀ (column : Column) value,
      { mark column with defaultValue := value } = mark { column with defaultValue := value })
    (foreign : ∀ column target, (mark column).markForeignKey target = mark (column.markForeignKey target))
    {column : Column} (flags : (scope.behind before).applyFlags column = mark (scope.applyFlags column)) :
    (scope.behind before).apply column = (scope.apply column).map (Prod.map mark id) := by
  have value (column : Column) : scope.applyDefault (mark column) = mark (scope.applyDefault column) := by
    unfold Scope.applyDefault
    split
    · rfl
    · exact default column _
  have target (column : Column) : scope.applyReference (mark column) = mark (scope.applyReference column) := by
    unfold Scope.applyReference
    split
    · rfl
    · exact foreign column _
  unfold Scope.apply
  rw [flags, leads.applyIdentity, Scope.applyIdentity_mark identity]
  cases scope.applyIdentity (scope.applyFlags column) with
  | error cause => rfl
  | ok given =>
    simp only [Except.map, leads.applyDefault, leads.applyReference silent, value, target]
    rfl

/-- A text with a reference of its own takes the place of any other one. -/
theorem Leads.apply_of_reference {reference : Reference} (given : (scope.behind before).reference? = some reference)
    {column : Column} (flags : (scope.behind before).applyFlags column = scope.applyFlags column) :
    (scope.behind before).apply column = (scope.apply column).map (Prod.map (·.markForeignKey reference) id) := by
  have target (column : Column) : (scope.behind before).applyReference column =
      (scope.applyReference column).markForeignKey reference := by
    rw [Scope.applyReference, given, Scope.applyReference]
    cases scope.reference? <;> rfl
  unfold Scope.apply
  rw [flags, leads.applyIdentity]
  cases scope.applyIdentity (scope.applyFlags column) with
  | error cause => rfl
  | ok given =>
    simp only [Except.map, leads.applyDefault, target]
    rfl

end Flag
end Behind

/-- Blanks are read like any other attributes, and nothing is found in them. -/
theorem apply_eq (column : Column) (text : Text) : apply column text = (scope text).apply column := by
  cases blank : isAllBlank text with
  | true =>
    have all := List.all_eq_true.mp blank
    have unquoted : '\'' ∉ text := fun member => absurd (all '\'' member) (by decide)
    have masked : Script.mask text = text := Script.mask_of_unquoted unquoted
    have nothing {leads : Text → Prop} {pattern : Pattern} (led : LedBy leads pattern) :
        pattern.find? text = none := by
      apply find?_eq_none_of_words led
      rw [words_eq_nil_of_blank all]
      exact List.forall_mem_nil _
    have alone : scope text = ⟨text, text, none⟩ := by
      simp only [scope, masked, nothing checkOpening_led]
    unfold apply Scope.apply Scope.applyIdentity Scope.applyFlags Scope.applyDefault Scope.applyReference
      Scope.reference?
    simp only [blank, alone, occurs, nothing notNull_led, nothing primaryKeyKeyword_led, nothing uniqueKeyword_led,
      nothing identity_led, nothing autoIncrement_led, nothing default_led, nothing references_led]
    rfl
  | false =>
    unfold apply Scope.apply
    simp only [blank, Bool.false_eq_true, ↓reduceIte]
    cases (scope text).applyIdentity ((scope text).applyFlags column) <;> rfl

end Attributes
end SchemaAtlas
