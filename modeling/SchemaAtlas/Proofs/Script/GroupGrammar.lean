import SchemaAtlas.Proofs.Script.Passage
/-!
A grammar of what stands in parentheses. In a text without backslashes the search for the end of a group finds exactly
the groups of the grammar: the scan that counts parentheses outside quotation marks is in balance behind each text of
the grammar, and every text that it is in balance behind can be taken apart as the grammar says.
-/
namespace SchemaAtlas.Script
open Text

/-- What can stand in parentheses: characters that neither quote nor nest, quotations, groups, and such texts one behind
the other. -/
inductive IsInner : Text → Prop where
  | nil : IsInner []
  | level {c : Char} (here : isLevel c = true) (plain : c ≠ '\\') : IsInner [c]
  | quotation {mark : Char} {text : Text} (marks : isQuotationMark mark = true) (closed : mark ∉ text)
    (plain : '\\' ∉ text) : IsInner (mark :: (text ++ [mark]))
  | group {text : Text} (inner : IsInner text) : IsInner ('(' :: (text ++ [')']))
  | append {front rest : Text} (first : IsInner front) (second : IsInner rest) : IsInner (front ++ rest)

/-- A group of the text, from the parenthesis that opens it to the one that closes it. -/
structure IsGroup (text : Text) (start : Nat) (inner : Text) (stop : Nat) : Prop where
  opening : text[start]? = some '('
  ahead : start < stop
  between : Span.of ⟨start + 1, stop⟩ text = inner
  inner : IsInner inner
  closing : text[stop]? = some ')'

section Grammar
variable {text front rest : Text} {mark : Char}

theorem joins_plainly (plain : '\\' ∉ front) (ends : front.getLast? = some '\\') :
    rest.head?.any isQuotationMark = false := absurd (List.mem_of_getLast? ends) plain

theorem IsInner.plain (inner : IsInner text) : '\\' ∉ text := by
  induction inner with
  | nil => exact List.not_mem_nil
  | level _ plain => exact fun member => plain (List.mem_singleton.mp member).symm
  | @quotation mark _ marks _ plain =>
    have other : '\\' ≠ mark := by
      rintro rfl
      exact absurd marks (by decide)
    simp [other, plain]
  | group _ ih => simp [ih]
  | append _ _ first second => simp [first, second]

/-- The scan is in balance behind every text of the grammar. -/
theorem IsInner.balances (inner : IsInner text) : Nesting.outside.Balances text := by
  induction inner with
  | nil => exact Nesting.balances_nil_iff.mpr rfl
  | level here _ =>
    obtain ⟨next, weightless⟩ := Nesting.step_of_isLevel here .outside
    rw [Nesting.balances_cons_iff, weightless, next, Nesting.balances_nil_iff]
    exact ⟨Int.le_refl 0, rfl⟩
  | quotation marks closed plain =>
    exact (IsPassed.quoted marks closed fun ends => plain (List.mem_of_getLast? ends)).balanced
  | group _ ih => exact ih.group
  | append first _ before behind => exact (before.append_iff (joins_plainly first.plain)).mpr behind

theorem quote_foldl_within (absent : mark ∉ text) (depth : Nat) (last : Option Char) :
    (text.foldl Nesting.step ⟨some mark, depth, last⟩).quote = some mark := by
  induction text generalizing last with
  | nil => rfl
  | cons c text ih =>
    rw [List.foldl_cons, (step_within (List.ne_of_not_mem_cons absent).symm depth last).1]
    exact ih (List.not_mem_of_not_mem_cons absent) _

/-- A quotation that begins a text in balance closes in it. -/
theorem exists_quotation (marks : isQuotationMark mark = true) (balances : Nesting.outside.Balances (mark :: rest)) :
    ∃ inside behind, rest = inside ++ mark :: behind ∧ mark ∉ inside := by
  refine List.eq_append_cons_of_mem ?_
  by_contra absent
  have entered : Nesting.outside.step mark = ⟨some mark, 0, some mark⟩ := by
    simp [Nesting.step, Nesting.nextQuote, Nesting.outside, marks]
  have unquoted := balances.unquoted
  rw [List.foldl_cons, entered, quote_foldl_within absent] at unquoted
  cases unquoted

/-- A group that begins a text in balance closes in it, and what stands in the group is in balance too. -/
theorem exists_inner_group (balances : Nesting.outside.Balances ('(' :: rest)) :
    ∃ inner behind, rest = inner ++ ')' :: behind ∧ Nesting.outside.Balances inner := by
  have falls : (rest.foldl Nesting.step (Nesting.outside.step '(')).depth ≤ Nesting.outside.depth := by
    have level := congrArg Nesting.depth balances.foldl_eq
    rw [List.foldl_cons] at level
    exact Nat.le_of_eq level
  obtain ⟨inner, behind, same, _, _, _, inside⟩ := exists_group_of_falls rfl falls
  exact ⟨inner, behind, same, inside⟩

theorem not_balances_closing : ¬Nesting.outside.Balances (')' :: rest) := fun balances =>
  absurd (Nesting.balances_cons_iff.mp balances).1 (by decide)

/-- A text in balance is taken apart from its beginning: its first character stands by itself, or opens a quotation or a
group that closes. -/
theorem isInner_of_balances {text : Text} (plain : '\\' ∉ text) (balances : Nesting.outside.Balances text) :
    IsInner text := by
  match text with
  | [] => exact .nil
  | c :: rest =>
    have other := List.ne_of_not_mem_cons plain
    have rest_plain := List.not_mem_of_not_mem_cons plain
    -- What stands behind the first part of the text is in balance as well.
    have behind (front back : Text) (whole : c :: rest = front ++ back) (first : IsInner front)
        (shorter : back.length ≤ rest.length) : IsInner (c :: rest) := by
      rw [whole] at plain balances ⊢
      have back_plain : '\\' ∉ back := fun member => plain (List.mem_append_right front member)
      exact .append first
        (isInner_of_balances back_plain ((first.balances.append_iff (joins_plainly first.plain)).mp balances))
    by_cases level : isLevel c = true
    · exact behind [c] rest rfl (.level level other.symm) (Nat.le_refl _)
    · by_cases marks : isQuotationMark c = true
      · obtain ⟨inside, back, rfl, closed⟩ := exists_quotation marks balances
        have inside_plain : '\\' ∉ inside := fun member => rest_plain (List.mem_append_left _ member)
        have quotation := IsInner.quotation marks closed inside_plain
        exact behind _ back (by simp) quotation (by simp; omega)
      · have parenthesis : c = '(' ∨ c = ')' := by
          simp only [isLevel, Bool.and_eq_true, bne_iff_ne, Bool.not_eq_true'] at level
          simp only [Bool.not_eq_true] at marks
          by_contra neither
          exact level ⟨⟨marks, fun same => neither (.inl same)⟩, fun same => neither (.inr same)⟩
        rcases parenthesis with rfl | rfl
        · obtain ⟨inner, back, rfl, inside⟩ := exists_inner_group balances
          have inner_plain : '\\' ∉ inner := fun member => rest_plain (List.mem_append_left _ member)
          have group := IsInner.group (isInner_of_balances inner_plain inside)
          exact behind _ back (by simp) group (by simp; omega)
        · exact absurd balances not_balances_closing
termination_by text.length

theorem exists_of_getElem? {c : Char} {place : Nat} (found : text[place]? = some c) :
    ∃ before behind, text = before ++ c :: behind ∧ before.length = place := by
  obtain ⟨inside, rfl⟩ := List.getElem?_eq_some_iff.mp found
  refine ⟨text.take place, text.drop (place + 1), ?_, List.length_take_of_le (Nat.le_of_lt inside)⟩
  rw [← List.drop_eq_getElem_cons inside, List.take_append_drop]

theorem span_of_opening {before content rest : Text} {opening : Char} {stop : Nat}
    (ends : stop = before.length + 1 + content.length) :
    Span.of ⟨before.length + 1, stop⟩ (before ++ opening :: (content ++ rest)) = content := by
  have behind : (before ++ opening :: (content ++ rest)).drop (before.length + 1) = content ++ rest := by
    rw [← List.drop_drop, List.drop_left, List.drop_one, List.tail_cons]
  rw [Span.of, behind, ends, Nat.add_sub_cancel_left, List.take_left]

/-- A group stands between what is in front of it and what is behind it. -/
theorem isGroup_iff {start stop : Nat} {inner : Text} : IsGroup text start inner stop ↔
    ∃ before behind, text = before ++ '(' :: (inner ++ ')' :: behind) ∧ before.length = start ∧
      stop = start + 1 + inner.length ∧ IsInner inner := by
  constructor
  · rintro ⟨opening, ahead, between, inside, closing⟩
    obtain ⟨before, tail, rfl, rfl⟩ := exists_of_getElem? opening
    obtain ⟨length, rfl⟩ := Nat.exists_eq_add_of_le (Nat.succ_le_of_lt ahead)
    have at_tail : tail[length]? = some ')' := by
      rw [← closing, List.getElem?_append_right (by omega)]
      simp [Nat.add_assoc, Nat.add_comm 1]
    obtain ⟨content, behind, rfl, rfl⟩ := exists_of_getElem? at_tail
    have same : content = inner := (span_of_opening rfl).symm.trans between
    exact ⟨before, behind, by rw [same], rfl, by rw [same], inside⟩
  · rintro ⟨before, behind, rfl, rfl, rfl, inside⟩
    refine ⟨by simp, by omega, span_of_opening rfl, inside, ?_⟩
    rw [List.getElem?_append_right (by omega)]
    simp [Nat.add_assoc, Nat.add_comm 1]

/-- The search finds a group where the scan is in balance between two parentheses. -/
theorem group?_eq_some_iff {start stop : Nat} {inner : Text} : group? text start = some (inner, stop) ↔
    ∃ before behind, text = before ++ '(' :: (inner ++ ')' :: behind) ∧ before.length = start ∧
      stop = start + 1 + inner.length ∧ Nesting.outside.Balances inner := by
  constructor
  · intro found
    unfold group? at found
    split at found
    · next tail opens =>
      obtain ⟨length, closes, same⟩ := Option.map_eq_some_iff.mp found
      obtain ⟨content, behind, rfl, rfl, unquoted, floor, level⟩ := exists_inner (by decide) closes
      obtain ⟨rfl, rfl⟩ := Prod.mk.inj same
      have within : start < text.length := by
        by_contra past
        rw [List.drop_eq_nil_of_le (Nat.le_of_not_lt past)] at opens
        cases opens
      rw [List.take_left]
      refine ⟨text.take start, behind, ?_, List.length_take_of_le (Nat.le_of_lt within), rfl,
        balances_of_opened unquoted floor level⟩
      rw [← opens, List.take_append_drop]
    · cases found
  · rintro ⟨before, behind, rfl, rfl, rfl, balances⟩
    rw [group?_of_opening, balances.closing? behind, Option.map_some, List.take_left]

/-- The search for the end of a group finds the groups of the grammar. -/
theorem group?_iff_isGroup (plain : '\\' ∉ text) {start stop : Nat} {inner : Text} :
    group? text start = some (inner, stop) ↔ IsGroup text start inner stop := by
  rw [group?_eq_some_iff, isGroup_iff]
  refine exists_congr fun before => exists_congr fun behind => and_congr_right fun whole =>
    and_congr_right fun _ => and_congr_right fun _ => ?_
  have inner_plain : '\\' ∉ inner := fun member => plain (by rw [whole]; simp [member])
  exact ⟨isInner_of_balances inner_plain, IsInner.balances⟩

/-- In a text without backslashes the search finds a group where the grammar has one, with what stands in it and where
it closes. There is one such group at most, and the search finds nothing only if there is none. -/
theorem group?_accepts_grammar (plain : '\\' ∉ text) (start : Nat) :
    (∀ inner stop, group? text start = some (inner, stop) ↔ IsGroup text start inner stop) ∧
    (∀ inner stop other later, IsGroup text start inner stop → IsGroup text start other later →
      inner = other ∧ stop = later) ∧
    (group? text start = none ↔ ¬∃ inner stop, IsGroup text start inner stop) := by
  refine ⟨fun _ _ => group?_iff_isGroup plain, fun inner stop other later first second => ?_, ?_⟩
  · have found := ((group?_iff_isGroup plain).mpr first).symm.trans ((group?_iff_isGroup plain).mpr second)
    exact Prod.mk.inj (Option.some.inj found)
  · rw [← not_iff_not, not_not, ← ne_eq, Option.ne_none_iff_exists']
    exact ⟨fun ⟨⟨inner, stop⟩, found⟩ => ⟨inner, stop, (group?_iff_isGroup plain).mp found⟩,
      fun ⟨inner, stop, grouped⟩ => ⟨(inner, stop), (group?_iff_isGroup plain).mpr grouped⟩⟩

/-- A group with a group in it, and with a parenthesis and marks of another kind in its quotations. -/
theorem group?_accepts_grammar_nested :
    '\\' ∉ "CHECK (f('a)\"') <> \"b'(\")".toList ∧
    IsGroup "CHECK (f('a)\"') <> \"b'(\")".toList 6 "f('a)\"') <> \"b'(\"".toList 24 := by
  have plain : '\\' ∉ "CHECK (f('a)\"') <> \"b'(\")".toList := by decide
  exact ⟨plain, ((group?_accepts_grammar plain 6).1 _ _).mp (by decide)⟩

end Grammar
end SchemaAtlas.Script
