import SchemaAtlas.Proofs.Clause.LeadingText
import SchemaAtlas.Proofs.Script.Splitting
/-!
Attributes with literals in them. Keywords are sought in the masked text, and the condition of a check is cut out of
the bare text at the places found in the masked one. With single marks only, the two scans stay in step whatever the
literals hold, so two texts that differ in literals alone mark a column alike.
-/
namespace SchemaAtlas
open Text Pattern Cursor Phrase

namespace Script

/-- The texts have one length, and differ only inside literals, by characters other than the mark. -/
structure DifferInLiterals (text other : Text) : Prop where
  length : text.length = other.length
  differ : ∀ (offset : Nat) (c d : Char), text[offset]? = some c → other[offset]? = some d → c ≠ d →
    inLiteral (text.take offset) = true ∧ c ≠ '\'' ∧ d ≠ '\''

/-- The same read from left to right: behind each character the scan stands inside a literal or outside. -/
def AlikeOutside (inside : Bool) : Text → Text → Prop
  | [], [] => True
  | c :: text, d :: other =>
    (c = d ∨ inside = true ∧ c ≠ '\'' ∧ d ≠ '\'') ∧ AlikeOutside (flipAtMark inside c) text other
  | _, _ => False

instance decidableAlikeOutside (inside : Bool) : (text other : Text) → Decidable (AlikeOutside inside text other)
  | [], [] => .isTrue trivial
  | c :: text, _ :: other =>
    have := decidableAlikeOutside (flipAtMark inside c) text other
    inferInstanceAs (Decidable (_ ∧ _))
  | [], _ :: _ => .isFalse id
  | _ :: _, [] => .isFalse id

theorem alikeOutside_iff {inside : Bool} {text other : Text} : AlikeOutside inside text other ↔
    text.length = other.length ∧
      ∀ (offset : Nat) (c d : Char), text[offset]? = some c → other[offset]? = some d → c ≠ d →
        (text.take offset).foldl flipAtMark inside = true ∧ c ≠ '\'' ∧ d ≠ '\'' := by
  induction text generalizing inside other with
  | nil => cases other <;> simp [AlikeOutside]
  | cons first text ih =>
    cases other with
    | nil => simp [AlikeOutside]
    | cons second other =>
      rw [AlikeOutside, ih, List.length_cons, List.length_cons]
      constructor
      · rintro ⟨here, length, later⟩
        refine ⟨congrArg (· + 1) length, fun offset c d at_text at_other different => ?_⟩
        cases offset with
        | zero =>
          obtain rfl := Option.some.inj at_text
          obtain rfl := Option.some.inj at_other
          exact here.resolve_left different
        | succ offset => exact later offset c d at_text at_other different
      · rintro ⟨length, differ⟩
        refine ⟨?_, Nat.succ.inj length, fun offset => differ (offset + 1)⟩
        exact (em (first = second)).imp_right fun different => differ 0 first second rfl rfl different

theorem differInLiterals_iff {text other : Text} : DifferInLiterals text other ↔ AlikeOutside false text other :=
  ⟨fun apart => alikeOutside_iff.mpr ⟨apart.length, apart.differ⟩, fun alike =>
    ⟨(alikeOutside_iff.mp alike).1, (alikeOutside_iff.mp alike).2⟩⟩

/-- Neither another quotation mark nor a backslash, so that each single mark opens or closes a literal. -/
def isSinglyQuoted (text : Text) : Bool := text.all fun c => c != '"' && c != '\x60' && c != '\\'

theorem AlikeOutside.mask_eq {inside : Bool} {text other : Text} (alike : AlikeOutside inside text other) :
    maskFrom inside text = maskFrom inside other := by
  induction text generalizing inside other with
  | nil =>
    cases other with
    | nil => rfl
    | cons => exact alike.elim
  | cons c text ih =>
    cases other with
    | nil => exact alike.elim
    | cons d other =>
      obtain ⟨here, later⟩ := alike
      have behind := ih later
      unfold flipAtMark at behind
      rcases here with rfl | ⟨rfl, plain, other_plain⟩
      · unfold maskFrom
        split
        · next mark => rw [if_pos mark] at behind; rw [behind]
        · next mark => rw [if_neg mark] at behind; rw [behind]
      · simp only [beq_iff_eq, plain, ↓reduceIte] at behind
        simp [maskFrom, plain, other_plain, behind]

theorem AlikeOutside.drop {inside : Bool} {text other : Text} (alike : AlikeOutside inside text other) (count : Nat) :
    AlikeOutside ((text.take count).foldl flipAtMark inside) (text.drop count) (other.drop count) := by
  induction count generalizing inside text other with
  | zero => exact alike
  | succ count ih =>
    cases text with
    | nil =>
      cases other with
      | nil => trivial
      | cons => exact alike.elim
    | cons c text =>
      cases other with
      | nil => exact alike.elim
      | cons d other => exact ih alike.2

/-- The mark that is open inside a literal. -/
def literalMark (inside : Bool) : Option Char := if inside then some '\'' else none

section Step
variable {inside : Bool} {state other_state : Nesting} {c d : Char} {text other : Text}

theorem isSinglyQuoted_cons : isSinglyQuoted (c :: text) = true ↔
    (c ≠ '"' ∧ c ≠ '\x60' ∧ c ≠ '\\') ∧ isSinglyQuoted text = true := by
  simp [isSinglyQuoted, and_assoc]

/-- Where no other mark and no backslash stands, the open mark is that of the literal. -/
theorem nextQuote_single (quote : state.quote = literalMark inside) (unescaped : state.last ≠ some '\\')
    (single : c ≠ '"' ∧ c ≠ '\x60' ∧ c ≠ '\\') : state.nextQuote c = literalMark (flipAtMark inside c) := by
  obtain ⟨no_double, no_back, _⟩ := single
  unfold Nesting.nextQuote
  rw [quote]
  by_cases mark : c = '\''
  · subst mark
    have marks : isQuotationMark '\'' = true := rfl
    simp only [marks, bne_iff_ne.mpr unescaped, Bool.and_self, ↓reduceIte]
    cases inside <;> rfl
  · have plain : isQuotationMark c = false := by simp [isQuotationMark, mark, no_double, no_back]
    simp [plain, flipAtMark, mark]

theorem quote_foldl_single (single : isSinglyQuoted text = true) (quote : state.quote = literalMark inside)
    (unescaped : state.last ≠ some '\\') :
    (text.foldl Nesting.step state).quote = literalMark (text.foldl flipAtMark inside) := by
  induction text generalizing inside state with
  | nil => exact quote
  | cons c text ih =>
    obtain ⟨here, later⟩ := isSinglyQuoted_cons.mp single
    exact ih later (nextQuote_single quote unescaped here) (by simpa [Nesting.step] using here.2.2)

/-- The group ends at the same place in both texts. -/
theorem closing?_eq_of_alike (alike : AlikeOutside inside text other) (single : isSinglyQuoted text = true)
    (other_single : isSinglyQuoted other = true) (quote : state.quote = literalMark inside)
    (other_quote : other_state.quote = literalMark inside) (depth : state.depth = other_state.depth)
    (unescaped : state.last ≠ some '\\') (other_unescaped : other_state.last ≠ some '\\') :
    closing? state text = closing? other_state other := by
  induction text generalizing inside other state other_state with
  | nil =>
    cases other with
    | nil => rfl
    | cons => exact alike.elim
  | cons c text ih =>
    cases other with
    | nil => exact alike.elim
    | cons d other =>
      obtain ⟨here, later⟩ := alike
      obtain ⟨c_single, single⟩ := isSinglyQuoted_cons.mp single
      obtain ⟨d_single, other_single⟩ := isSinglyQuoted_cons.mp other_single
      have flips : flipAtMark inside c = flipAtMark inside d := by
        rcases here with rfl | ⟨_, plain, other_plain⟩
        · rfl
        · simp [flipAtMark, plain, other_plain]
      have next := nextQuote_single quote unescaped c_single
      have other_next := nextQuote_single other_quote other_unescaped d_single
      rw [← flips] at other_next
      -- Characters that differ stand inside a literal, where parentheses do not count.
      have depths : (state.step c).depth = (other_state.step d).depth := by
        simp only [Nesting.step, next, other_next, depth]
        rcases here with rfl | ⟨rfl, plain, _⟩
        · rfl
        · simp [flipAtMark, plain, literalMark]
      rw [closing?, closing?, depths, ih later single other_single next other_next depths
        (by simpa [Nesting.step] using c_single.2.2) (by simpa [Nesting.step] using d_single.2.2)]

end Step

/-- A character of the masked text that the mask does not write stands there in the text, outside literals. -/
theorem exists_of_mask_eq {text before rest : Text} {c : Char} (masked : mask text = before ++ c :: rest)
    (no_mark : c ≠ '\'') (no_blank : c ≠ ' ') :
    ∃ front back, text = front ++ c :: back ∧ front.length = before.length ∧ inLiteral front = false := by
  have length : text.length = before.length + (rest.length + 1) := by
    rw [← length_mask, masked, List.length_append, List.length_cons]
  obtain ⟨d, back, behind⟩ : ∃ d back, text.drop before.length = d :: back := by
    apply List.exists_cons_of_ne_nil
    rw [ne_eq, List.drop_eq_nil_iff]
    omega
  have front_length : (text.take before.length).length = before.length := by
    rw [List.length_take]
    omega
  have split : text = text.take before.length ++ d :: back := by rw [← behind, List.take_append_drop]
  rw [split, mask_append_inLiteral] at masked
  obtain ⟨_, here⟩ := List.append_inj masked (by rw [length_mask, front_length])
  cases inside : inLiteral (text.take before.length) with
  | true =>
    rw [inside, maskFrom] at here
    split at here
    · next mark =>
      obtain ⟨rfl, _⟩ := List.cons.inj here
      exact absurd (beq_iff_eq.mp mark) no_mark
    · exact absurd (List.cons.inj here).1.symm no_blank
  | false =>
    refine ⟨_, back, ?_, front_length, inside⟩
    rw [inside, maskFrom] at here
    split at here
    · rw [← (List.cons.inj here).1]; exact split
    · rw [← (List.cons.inj here).1]; exact split

/-- A parenthesis that the mask shows opens a group in both texts, and the groups close at the same offset. -/
theorem AlikeOutside.group?_stop {text other before rest : Text} (alike : AlikeOutside false text other)
    (single : isSinglyQuoted text = true) (other_single : isSinglyQuoted other = true)
    (opened : mask text = before ++ '(' :: rest) :
    (group? text before.length).map Prod.snd = (group? other before.length).map Prod.snd := by
  have masked : mask text = mask other := alike.mask_eq
  obtain ⟨front, back, rfl, length, outside⟩ := exists_of_mask_eq opened (by decide) (by decide)
  obtain ⟨other_front, other_back, rfl, other_length, _⟩ :=
    exists_of_mask_eq (masked ▸ opened) (by decide) (by decide)
  have behind : AlikeOutside false back other_back := by
    have dropped := alike.drop (front.length + 1)
    have taken : (front ++ '(' :: back).take (front.length + 1) = front ++ ['('] := by
      rw [List.take_length_add_append]
      rfl
    have still_outside : (front ++ ['(']).foldl flipAtMark false = false := by
      rw [List.foldl_append, show front.foldl flipAtMark false = false from outside]
      rfl
    have rest_behind (front back : Text) : (front ++ '(' :: back).drop (front.length + 1) = back := by
      rw [List.drop_length_add_append]
      rfl
    rwa [taken, still_outside, rest_behind, length, ← other_length, rest_behind] at dropped
  have singly_behind (front back : Text) (single : isSinglyQuoted (front ++ '(' :: back) = true) :
      isSinglyQuoted back = true := by
    rw [isSinglyQuoted, List.all_append, List.all_cons, Bool.and_eq_true, Bool.and_eq_true] at single
    exact single.2.2
  have closes : closing? .opened back = closing? .opened other_back :=
    closing?_eq_of_alike behind (singly_behind front back single) (singly_behind other_front other_back other_single)
      rfl rfl rfl (by decide) (by decide)
  rw [← length, group?_of_opening, length, ← other_length, group?_of_opening, closes, Option.map_map, Option.map_map]
  rfl

end Script

namespace Attributes

/-- The scopes show the same keywords, and a check in both or in neither. -/
structure Scope.Alike (left right : Scope) : Prop where
  masked : left.masked = right.masked
  condition : left.condition.isSome = right.condition.isSome

/-- An attribute text has marked the columns alike. Values and names may be taken from literals. -/
structure MarkedAlike (left right : Column) : Prop where
  isNullable : left.isNullable = right.isNullable
  isPrimaryKey : left.isPrimaryKey = right.isPrimaryKey
  isUnique : left.isUnique = right.isUnique
  isForeignKey : left.isForeignKey = right.isForeignKey
  isIdentity : left.isIdentity = right.isIdentity
  identitySeed : left.identitySeed = right.identitySeed
  identityIncrement : left.identityIncrement = right.identityIncrement

section Contents
variable {text other : Text}

theorem scope_alike (single : Script.isSinglyQuoted text = true) (other_single : Script.isSinglyQuoted other = true)
    (alike : Script.AlikeOutside false text other) : (scope text).Alike (scope other) := by
  have masked : Script.mask text = Script.mask other := alike.mask_eq
  unfold scope
  simp only [← masked]
  cases here : checkOpening.find? (Script.mask text) with
  | none => exact ⟨rfl, rfl⟩
  | some found =>
    obtain ⟨before, rest, opened, stop⟩ := opening_split here
    have closes := alike.group?_stop single other_single opened
    simp only [stop, Nat.add_sub_cancel]
    cases group : Script.group? text before.length with
    | none =>
      rw [group] at closes
      rw [Option.map_eq_none_iff.mp closes.symm]
      exact ⟨rfl, rfl⟩
    | some found =>
      obtain ⟨condition, stop⟩ := found
      rw [group] at closes
      obtain ⟨⟨other_condition, other_stop⟩, other_group, rfl⟩ := Option.map_eq_some_iff.mp closes.symm
      rw [other_group]
      exact ⟨rfl, rfl⟩

section Scope
variable {left right : Scope} (alike : left.Alike right)
include alike

theorem Scope.Alike.applyFlags (column : Column) : left.applyFlags column = right.applyFlags column := by
  unfold Scope.applyFlags
  rw [alike.masked]

theorem Scope.Alike.applyIdentity (column : Column) : left.applyIdentity column = right.applyIdentity column := by
  unfold Scope.applyIdentity Scope.identityNumber
  rw [alike.masked]

/-- The names of a reference may stand in literals, but whether there is one is seen in the masked text. -/
theorem Scope.Alike.isSome_reference? : left.reference?.isSome = right.reference?.isSome := by
  unfold Scope.reference?
  rw [alike.masked]
  cases references.find? right.masked with
  | none => rfl
  | some found =>
    simp only [Option.bind_eq_bind, Option.bind_some, Match.text?]
    cases found.part? .table <;> cases found.part? .column <;> rfl

theorem Scope.Alike.marked (column : Column) :
    MarkedAlike (left.applyReference (left.applyDefault column))
      (right.applyReference (right.applyDefault column)) := by
  have default (scope : Scope) : ∃ value, scope.applyDefault column = { column with defaultValue := value } := by
    unfold Scope.applyDefault
    split
    · exact ⟨_, rfl⟩
    · exact ⟨_, rfl⟩
  obtain ⟨value, left_default⟩ := default left
  obtain ⟨other_value, right_default⟩ := default right
  have both := alike.isSome_reference?
  rw [left_default, right_default]
  unfold Scope.applyReference
  cases given : left.reference? with
  | none =>
    rw [given] at both
    rw [Option.isSome_eq_false_iff.mp both.symm |> Option.isNone_iff_eq_none.mp]
    exact ⟨rfl, rfl, rfl, rfl, rfl, rfl, rfl⟩
  | some target =>
    rw [given] at both
    obtain ⟨other_target, other_given⟩ := Option.isSome_iff_exists.mp both.symm
    rw [other_given]
    exact ⟨rfl, rfl, rfl, rfl, rfl, rfl, rfl⟩

end Scope

/-- What stands in literals neither marks a column, nor makes a check, nor makes a number unreadable. -/
theorem apply_of_differInLiterals (single : Script.isSinglyQuoted text = true)
    (other_single : Script.isSinglyQuoted other = true) (differ : Script.DifferInLiterals text other)
    (column : Column) :
    (∃ error, apply column text = .error error ∧ apply column other = .error error) ∨
      ∃ left right check other_check, apply column text = .ok (left, check) ∧
        apply column other = .ok (right, other_check) ∧ MarkedAlike left right ∧
        check.isSome = other_check.isSome := by
  have alike := scope_alike single other_single (Script.differInLiterals_iff.mp differ)
  rw [apply_eq, apply_eq, Scope.apply, Scope.apply, alike.applyFlags, alike.applyIdentity]
  cases (scope other).applyIdentity ((scope other).applyFlags column) with
  | error error => exact Or.inl ⟨error, rfl, rfl⟩
  | ok numbered =>
    refine Or.inr ⟨_, _, _, _, rfl, rfl, alike.marked numbered, ?_⟩
    rw [Option.isSome_map, Option.isSome_map, alike.condition]

/-- Keywords and parentheses in a default value and in the condition of a check. -/
theorem apply_of_differInLiterals_keywords :
    let text := "DEFAULT 'NOT NULL' CHECK (a <> ') UNIQUE')".toList
    let other := "DEFAULT 'anything' CHECK (a <> '((((((((')".toList
    let column : Column := .plain "a" (.plain "int")
    Script.isSinglyQuoted text = true ∧ Script.isSinglyQuoted other = true ∧ Script.DifferInLiterals text other ∧
      ((∃ error, apply column text = .error error ∧ apply column other = .error error) ∨
        ∃ left right check other_check, apply column text = .ok (left, check) ∧
          apply column other = .ok (right, other_check) ∧ MarkedAlike left right ∧
          check.isSome = other_check.isSome) := by
  intro text other column
  have single : Script.isSinglyQuoted text = true := by decide
  have other_single : Script.isSinglyQuoted other = true := by decide
  have differ : Script.DifferInLiterals text other := Script.differInLiterals_iff.mpr (by decide)
  exact ⟨single, other_single, differ, apply_of_differInLiterals single other_single differ column⟩

end Contents
end Attributes
end SchemaAtlas
