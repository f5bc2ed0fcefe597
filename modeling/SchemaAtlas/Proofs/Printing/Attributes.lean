import SchemaAtlas.Proofs.Clause.Numbers
import SchemaAtlas.Proofs.Printing.Search
/-!
Reading printed attributes. Each attribute is found where it was printed and nowhere else, whatever
other attributes there are, because its keyword is no other lexeme.
-/
namespace SchemaAtlas
open Text Pattern Cursor

namespace Printing
open Phrase

section Number

theorem not_spells_digits {keyword : String} (reserved : keyword ∈ keywords) (number : Nat) :
    ¬Spells keyword (Numeral.digits number) := by
  intro spelled
  have lettered : ∀ keyword ∈ keywords, keyword.toList.any (!·.isDigit) = true := by decide
  obtain ⟨letter, member, other⟩ := List.any_eq_true.mp (lettered keyword reserved)
  rw [← spelled] at member
  obtain ⟨c, inside, rfl⟩ := List.mem_map.mp member
  have digit : c.toUpper.isDigit = true :=
    Numeral.digit_induction (Numeral.isDigit_of_mem inside) (fun c => c.toUpper.isDigit = true) (by decide)
  simp [digit] at other

theorem tidy_written (value : Int) : Tidy (Numeral.written value) := by
  cases value with
  | ofNat number => exact .of_plain (Numeral.bare_digits number).2
  | negSucc number =>
    have bare := Numeral.bare_digits (number + 1)
    obtain ⟨c, others, same⟩ := List.exists_cons_of_ne_nil bare.1
    have plain := same ▸ bare.2
    rw [Numeral.written, same]
    exact .signed (isOrdinary_of_isPlain (plain c List.mem_cons_self))
      (.of_plain fun d member => plain d (List.mem_cons_of_mem c member))

theorem nested_written (value : Int) : Script.Nested true (Numeral.written value) := by
  cases value with
  | ofNat number => exact .of_plain (Numeral.bare_digits number).2
  | negSucc number =>
    exact .flat (by decide) (by decide) (.of_plain (Numeral.bare_digits (number + 1)).2)

theorem words_digits (number : Nat) : words (Numeral.digits number) = [Numeral.digits number] :=
  words_self (Numeral.bare_digits number).1 (Numeral.bare_digits number).fits

theorem words_written (value : Int) : words (Numeral.written value) = [Numeral.digits value.natAbs] := by
  have sign : isWordCharacter '-' = false := by decide
  cases value with
  | ofNat number => exact words_digits number
  | negSucc number => rw [Numeral.written, words_cons _ sign, words_digits]; rfl

theorem sound_pair {first second : Text} (tidy : Tidy first) (other_tidy : Tidy second)
    (nested : Script.Nested true first) (other_nested : Script.Nested true second) (gap : Bool) :
    (Lexeme.group gap (first ++ ',' :: second)).IsSound :=
  ⟨tidy.append (.ordinary (by decide) other_tidy),
    nested.append (.flat (by decide) (fun _ => rfl) other_nested)⟩

theorem lacks_numbers {keyword : String} (reserved : keyword ∈ keywords) {inner : Text} {numbers : List Nat}
    (numeric : words inner = numbers.map Numeral.digits) : Lacks keyword [.group false inner] := by
  refine lacks_cons.mpr ⟨?_, lacks_nil⟩
  rw [Lexeme.capitals, numeric]
  intro member
  obtain ⟨word, number, same⟩ := List.mem_map.mp member
  obtain ⟨value, _, rfl⟩ := List.mem_map.mp number
  exact not_spells_digits reserved value same

end Number

namespace ColumnDescription
variable (column : ColumnDescription)

section Sound

theorem allSound_pair {first second : String} (key : IsKeyword first) (other_key : IsKeyword second) :
    AllSound [.keyword first, .keyword second] :=
  allSound_cons.mpr ⟨key, allSound_cons.mpr ⟨other_key, allSound_nil⟩⟩

theorem sound_arguments (numbers : Size × Option Size) : (Lexeme.group false (argumentText numbers)).IsSound := by
  obtain ⟨size, scale⟩ := numbers
  have bare := Numeral.bare_digits size.number
  cases scale with
  | none => exact ⟨.of_plain bare.2, .of_plain bare.2⟩
  | some scale =>
    have other := Numeral.bare_digits scale.number
    exact sound_pair (.of_plain bare.2) (.of_plain other.2) (.of_plain bare.2) (.of_plain other.2) false

theorem allSound_arguments : AllSound column.argumentLexemes := by
  unfold argumentLexemes
  split
  · exact allSound_nil
  · next numbers _ => exact allSound_cons.mpr ⟨sound_arguments numbers, allSound_nil⟩

theorem allSound_flags : AllSound column.flagLexemes := by
  have unique : IsKeyword "UNIQUE" := by decide
  exact allSound_append.mpr ⟨allSound_when (allSound_pair (by decide) (by decide)),
    allSound_append.mpr ⟨allSound_when (allSound_pair (by decide) (by decide)),
      allSound_when (allSound_cons.mpr ⟨unique, allSound_nil⟩)⟩⟩

theorem allSound_identity : AllSound column.identityLexemes := by
  unfold identityLexemes
  split
  · exact allSound_nil
  · next seed increment _ =>
    have key : IsKeyword "IDENTITY" := by decide
    exact allSound_cons.mpr ⟨key, allSound_cons.mpr ⟨sound_pair (tidy_written _) (tidy_written _)
      (nested_written _) (nested_written _) false, allSound_nil⟩⟩

theorem allSound_reference : AllSound column.referenceLexemes := by
  unfold referenceLexemes
  split
  · exact allSound_nil
  · next table target _ =>
    have key : IsKeyword "REFERENCES" := by decide
    exact allSound_cons.mpr ⟨key, allSound_cons.mpr ⟨table.bare, allSound_cons.mpr
      ⟨⟨.of_plain target.bare.2, .of_plain target.bare.2⟩, allSound_nil⟩⟩⟩

theorem allSound_attributes : AllSound column.attributeLexemes :=
  allSound_append.mpr ⟨column.allSound_flags,
    allSound_append.mpr ⟨column.allSound_identity, column.allSound_reference⟩⟩

theorem allSound_lexemes : AllSound column.lexemes :=
  allSound_cons.mpr ⟨column.name.bare, allSound_cons.mpr ⟨column.type.bare,
    allSound_append.mpr ⟨column.allSound_arguments, column.allSound_attributes⟩⟩⟩

end Sound

section Lacks
variable {keyword : String} (reserved : keyword ∈ keywords)

/-- A keyword is among the flags only for the flag that it belongs to. -/
theorem lacks_flags (notNull : column.notNull = true → keyword ∉ ["NOT", "NULL"])
    (primaryKey : column.primaryKey = true → keyword ∉ ["PRIMARY", "KEY"])
    (unique : column.unique = true → keyword ≠ "UNIQUE") : Lacks keyword column.flagLexemes := by
  have pair : ∀ {first second : String}, keyword ∉ [first, second] →
      Lacks keyword [.keyword first, .keyword second] := by
    intro first second absent
    simp only [List.mem_cons, List.not_mem_nil, or_false, not_or] at absent
    exact lacks_keyword.mpr ⟨absent.1, lacks_keyword.mpr ⟨absent.2, lacks_nil⟩⟩
  exact lacks_append.mpr ⟨lacks_when fun present => pair (notNull present),
    lacks_append.mpr ⟨lacks_when fun present => pair (primaryKey present),
      lacks_when fun present => lacks_keyword.mpr ⟨unique present, lacks_nil⟩⟩⟩

include reserved

theorem lacks_arguments : Lacks keyword column.argumentLexemes := by
  unfold argumentLexemes
  rcases column.arguments with _ | ⟨size, _ | scale⟩
  · exact lacks_nil
  · have numeric : words (Numeral.digits size.number) = [size.number].map Numeral.digits :=
      words_digits size.number
    exact lacks_numbers reserved numeric
  · have numeric : words (argumentText (size, some scale)) = [size.number, scale.number].map Numeral.digits := by
      rw [argumentText, words_append_cons _ _ (by decide), words_digits, words_digits]
      rfl
    exact lacks_numbers reserved numeric

theorem lacks_identity (other : column.identity.isSome = true → keyword ≠ "IDENTITY") :
    Lacks keyword column.identityLexemes := by
  unfold identityLexemes
  split
  · exact lacks_nil
  · next seed increment given =>
    have numeric : words (Numeral.written seed.number ++ ',' :: Numeral.written increment.number) =
        [seed.number.natAbs, increment.number.natAbs].map Numeral.digits := by
      rw [words_append_cons _ _ (by decide), words_written, words_written]
      rfl
    exact lacks_keyword.mpr ⟨other (by rw [given]; rfl), lacks_numbers reserved numeric⟩

theorem lacks_reference (other : column.references.isSome = true → keyword ≠ "REFERENCES") :
    Lacks keyword column.referenceLexemes := by
  unfold referenceLexemes
  split
  · exact lacks_nil
  · next table target given =>
    have name : keyword.toList ∉ (Lexeme.group false target.text).capitals := by
      rw [Lexeme.capitals, words_self target.bare.1 target.bare.fits]
      intro member
      exact target.free keyword reserved (List.mem_singleton.mp member).symm
    exact lacks_keyword.mpr ⟨other (by rw [given]; rfl), (lacks_name reserved).mpr
      (lacks_cons.mpr ⟨name, lacks_nil⟩)⟩

theorem lacks_attributes (notNull : column.notNull = true → keyword ∉ ["NOT", "NULL"])
    (primaryKey : column.primaryKey = true → keyword ∉ ["PRIMARY", "KEY"])
    (unique : column.unique = true → keyword ≠ "UNIQUE")
    (identity : column.identity.isSome = true → keyword ≠ "IDENTITY")
    (references : column.references.isSome = true → keyword ≠ "REFERENCES") :
    Lacks keyword column.attributeLexemes :=
  lacks_append.mpr ⟨column.lacks_flags notNull primaryKey unique,
    lacks_append.mpr ⟨column.lacks_identity reserved identity, column.lacks_reference reserved references⟩⟩

/-- The keyword of no attribute is not among them. -/
theorem lacks_attributes_of_foreign (foreign : keyword ∉
      ["NOT", "NULL", "PRIMARY", "KEY", "UNIQUE", "IDENTITY", "REFERENCES"]) :
    Lacks keyword column.attributeLexemes := by
  simp only [List.mem_cons, List.not_mem_nil, or_false, not_or] at foreign
  obtain ⟨not, null, primary, key, unique, identity, references⟩ := foreign
  exact column.lacks_attributes reserved (fun _ => by simp [not, null]) (fun _ => by simp [primary, key])
    (fun _ => unique) (fun _ => identity) (fun _ => references)

end Lacks
end ColumnDescription

namespace ColumnDescription
variable {column : ColumnDescription} {body : Text} (spelled : Spelled column.attributeLexemes body)
include spelled

theorem tidy_attributes : Tidy body := spelled.tidy column.allSound_attributes

theorem find?_foreign {pattern : Pattern} {keyword : String} (led : LedBy (Keyed keyword) pattern)
    (key : IsKeyword keyword) (reserved : keyword ∈ keywords)
    (foreign : keyword ∉ ["NOT", "NULL", "PRIMARY", "KEY", "UNIQUE", "IDENTITY", "REFERENCES"]) :
    pattern.find? body = none :=
  spelled.find?_eq_none led key column.allSound_attributes
    (column.lacks_attributes_of_foreign reserved foreign)

theorem scope_attributes : Attributes.scope body = ⟨body, body, none⟩ := by
  have unchecked : checkOpening.find? body = none :=
    find?_foreign spelled checkOpening_led (by decide) (by decide) (by decide)
  have masked : Script.mask body = body := Script.mask_of_tidy (tidy_attributes spelled)
  unfold Attributes.scope
  simp only [masked, unchecked]

theorem occurs_notNull : Phrase.notNull.occurs body = column.notNull := by
  cases present : column.notNull with
  | true =>
    unfold attributeLexemes flagLexemes at spelled
    rw [present] at spelled
    have first : Spelled ([] ++ .keyword "NOT" :: .keyword "NULL" :: _) ([] ++ body) := spelled
    exact first.occurs_words (Or.inl rfl) (by decide) (by decide)
  | false =>
    apply occurs_eq_false
    apply spelled.find?_eq_none notNull_led (by decide) column.allSound_attributes
    apply column.lacks_attributes (by decide) <;> simp [present]

theorem occurs_primaryKey : primaryKeyKeyword.occurs body = column.primaryKey := by
  cases present : column.primaryKey with
  | true =>
    unfold attributeLexemes flagLexemes at spelled
    rw [present, List.append_assoc] at spelled
    exact spelled.occurs_words (Or.inl rfl) (by decide) (by decide)
  | false =>
    apply occurs_eq_false
    apply spelled.find?_eq_none primaryKeyKeyword_led (by decide) column.allSound_attributes
    apply column.lacks_attributes (by decide) <;> simp [present]

theorem occurs_unique : uniqueKeyword.occurs body = column.unique := by
  cases present : column.unique with
  | true =>
    unfold attributeLexemes flagLexemes at spelled
    rw [present, ← List.append_assoc (when column.notNull _), List.append_assoc] at spelled
    exact spelled.occurs_word (Or.inl rfl) (by decide)
  | false =>
    apply occurs_eq_false
    apply spelled.find?_eq_none uniqueKeyword_led (by decide) column.allSound_attributes
    apply column.lacks_attributes (by decide) <;> simp [present]

theorem occurs_autoIncrement : autoIncrement.occurs body = false := by
  apply occurs_eq_false
  apply find?_eq_none_of_words autoIncrement_led
  exact spelled.not_autoIncrement column.allSound_attributes
    (column.lacks_attributes_of_foreign (by decide) (by decide))
    (column.lacks_attributes_of_foreign (by decide) (by decide))

theorem applyFlags_attributes (name : String) (type : DataType) :
    (⟨body, body, none⟩ : Attributes.Scope).applyFlags (.plain name type) =
      { Column.plain name type with
        isNullable := !(column.notNull || column.primaryKey)
        isPrimaryKey := column.primaryKey
        isUnique := column.unique } := by
  unfold Attributes.Scope.applyFlags
  rw [occurs_notNull spelled, occurs_primaryKey spelled, occurs_unique spelled]
  cases column.notNull <;> cases column.primaryKey <;> cases column.unique <;> rfl

theorem applyIdentity_attributes (plain : Column) :
    (⟨body, body, none⟩ : Attributes.Scope).applyIdentity plain =
      .ok (match column.identity with
        | none => plain
        | some (seed, increment) => plain.markIdentity (some seed.number) (some increment.number)) := by
  unfold Attributes.Scope.applyIdentity
  cases given : column.identity with
  | none =>
    have absent : Phrase.identity.find? body = none := by
      apply spelled.find?_eq_none identity_led (by decide) column.allSound_attributes
      apply column.lacks_attributes (by decide) <;> simp [given]
    simp only [absent, occurs_autoIncrement spelled]
    rfl
  | some numbers =>
    obtain ⟨seed, increment⟩ := numbers
    have lexemes : Spelled (column.flagLexemes ++ .keyword "IDENTITY" ::
        (.group false (Numeral.written seed.number ++ ',' :: Numeral.written increment.number) ::
          column.referenceLexemes)) body := by
      unfold attributeLexemes identityLexemes at spelled
      rwa [given] at spelled
    obtain ⟨before, letters, tail, rfl, keyword, behind, start, found⟩ := lexemes.find?_at_keyword identity_led
      (by decide) column.allSound_flags (column.lacks_flags (by simp) (by simp) (by simp))
    obtain ⟨last, _, rfl⟩ := spelled_group.mp behind
    obtain ⟨hit, here, seed_text, increment_text⟩ :=
      matchAt_identity (Numeral.isSigned_written seed.number)
        (Numeral.isSigned_written increment.number) last keyword start
    simp only [found, here, Attributes.Scope.identityNumber, seed_text, increment_text,
      Numeral.read_written seed.short, Numeral.read_written increment.short]
    rfl

theorem applyDefault_attributes (plain : Column) :
    (⟨body, body, none⟩ : Attributes.Scope).applyDefault plain = plain := by
  have absent : Phrase.default.find? body = none :=
    find?_foreign spelled default_led (by decide) (by decide) (by decide)
  simp only [Attributes.Scope.applyDefault, absent]

theorem reference?_attributes : (⟨body, body, none⟩ : Attributes.Scope).reference? =
    column.references.map fun target => ⟨target.1.name, target.2.name⟩ := by
  unfold Attributes.Scope.reference?
  cases given : column.references with
  | none =>
    have absent : Phrase.references.find? body = none := by
      apply spelled.find?_eq_none references_led (by decide) column.allSound_attributes
      apply column.lacks_attributes (by decide) <;> simp [given]
    simp only [absent]
    rfl
  | some target =>
    obtain ⟨table, target⟩ := target
    have lexemes : Spelled ((column.flagLexemes ++ column.identityLexemes) ++ .keyword "REFERENCES" ::
        .name table.text :: [.group false target.text]) body := by
      unfold attributeLexemes referenceLexemes at spelled
      rwa [given, ← List.append_assoc] at spelled
    have passed : Lacks "REFERENCES" (column.flagLexemes ++ column.identityLexemes) :=
      lacks_append.mpr ⟨column.lacks_flags (by simp) (by simp) (by simp),
        column.lacks_identity (by decide) (by simp)⟩
    obtain ⟨before, letters, tail, rfl, keyword, behind, start, found⟩ := lexemes.find?_at_keyword
      references_led (by decide) (allSound_append.mpr ⟨column.allSound_flags, column.allSound_identity⟩) passed
    obtain ⟨after_name, grouped, rfl⟩ := spelled_name.mp behind
    obtain ⟨last, finished, rfl⟩ := spelled_group.mp grouped
    obtain rfl := spelled_nil.mp finished
    obtain ⟨hit, here, names⟩ := matchAt_references keyword start table.bare target.bare []
    obtain ⟨table_text, target_text⟩ := names []
    simp only [found, here, table_text, target_text, Name.cleanQualified_word table.bare.word,
      Name.clean_word target.bare.word, Option.bind_eq_bind, Option.bind_some]
    rfl

omit spelled in
theorem plainColumn_of_bare (unprinted : column.attributeLexemes = []) :
    column.plainColumn = .plain column.name.name column.dataType := by
  unfold attributeLexemes flagLexemes at unprinted
  simp only [List.append_eq_nil_iff] at unprinted
  obtain ⟨⟨no_null, no_primary, no_unique⟩, no_identity, no_target⟩ := unprinted
  have absent : ∀ {present : Bool} {lexeme : Lexeme} {others : List Lexeme},
      when present (lexeme :: others) = [] → present = false := by
    intro present lexeme others none_printed
    cases present with
    | false => rfl
    | true => cases none_printed
  have identity_absent : column.identity = none := by
    unfold identityLexemes at no_identity
    split at no_identity
    · assumption
    · cases no_identity
  have target_absent : column.references = none := by
    unfold referenceLexemes at no_target
    split at no_target
    · assumption
    · cases no_target
  simp [plainColumn, Column.plain, absent no_null, absent no_primary, absent no_unique, identity_absent,
    target_absent]

theorem apply_attributes : Attributes.apply (.plain column.name.name column.dataType) body =
    .ok (column.plainColumn, none) := by
  unfold Attributes.apply
  -- Nothing is applied to a column without attributes, which is then plain as it is.
  cases blank : isAllBlank body with
  | true =>
    obtain rfl := (tidy_attributes spelled).eq_nil_of_blank blank
    rw [plainColumn_of_bare spelled.eq_nil]
    rfl
  | false =>
    simp only [scope_attributes spelled, applyFlags_attributes spelled, applyIdentity_attributes spelled,
      Bool.false_eq_true, ↓reduceIte]
    change Except.ok (Attributes.Scope.applyReference _ (Attributes.Scope.applyDefault _ _), none) = _
    rw [applyDefault_attributes spelled]
    unfold Attributes.Scope.applyReference plainColumn
    rw [reference?_attributes spelled]
    cases column.identity <;> cases column.references <;> rfl

end ColumnDescription

end Printing
end SchemaAtlas
