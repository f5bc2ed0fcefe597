import SchemaAtlas.Proofs.Clause.AttributeText
import SchemaAtlas.Proofs.Clause.QuotedContents
/-!
Attributes in any order. What a list of attributes makes of a column is told by which attributes there are, because
each phrase finds its own attribute only and the condition of the check is out of sight. Where an identity, a reference
and a check come at most once, the order of the list is of no account.
-/
namespace SchemaAtlas
open Text Pattern Cursor Phrase

namespace ColumnAttribute

def numbers? : ColumnAttribute → Option (Option (Text × Text))
  | identity numbers => some numbers
  | _ => none

def target? : ColumnAttribute → Option Reference
  | references table column => some ⟨String.ofList table, String.ofList column⟩
  | _ => none

def condition? : ColumnAttribute → Option Text
  | check _ condition => some condition
  | _ => none

section Kind
variable {item : ColumnAttribute}

theorem numbers?_eq_some_iff {numbers : Option (Text × Text)} :
    item.numbers? = some numbers ↔ item = .identity numbers := by
  cases item <;> simp [numbers?]

theorem target?_eq_some_iff {target : Reference} : item.target? = some target ↔
    ∃ table column, item = .references table column ∧ target = ⟨String.ofList table, String.ofList column⟩ := by
  cases item <;> simp [target?, eq_comm]

theorem condition?_eq_some_iff {condition : Text} :
    item.condition? = some condition ↔ ∃ gap, item = .check gap condition := by
  cases item <;> simp [condition?]

theorem keyword_ne_identity (absent : item.numbers? = none) : item.keyword ≠ "IDENTITY" := by
  cases item with
  | identity => cases absent
  | _ => simp [keyword]

theorem keyword_ne_references (absent : item.target? = none) : item.keyword ≠ "REFERENCES" := by
  cases item with
  | references => cases absent
  | _ => simp [keyword]

theorem keyword_ne_check (absent : item.condition? = none) : item.keyword ≠ "CHECK" := by
  cases item with
  | check => cases absent
  | _ => simp [keyword]

end Kind

/-- A column with the flags among the attributes. -/
def flagged (items : List ColumnAttribute) (column : Column) : Column :=
  let column := if notNull ∈ items then { column with isNullable := false } else column
  let column := if primaryKey ∈ items then column.markPrimaryKey else column
  if unique ∈ items then column.markUnique else column

/-- A column with its identity, whose numbers must be readable. -/
def numbered (items : List ColumnAttribute) (column : Column) : Except NumeralError Column :=
  match items.findSome? numbers? with
  | some (some (seed, increment)) => do
    let seed ← Numeral.read seed
    let increment ← Numeral.read increment
    return column.markIdentity (some seed) (some increment)
  | some none => .ok (column.markIdentity (some 1) (some 1))
  | none => .ok (if autoIncrement ∈ items then column.markIdentity (some 1) (some 1) else column)

def linked (items : List ColumnAttribute) (column : Column) : Column :=
  match items.findSome? target? with
  | none => column
  | some target => column.markForeignKey target

section Found
variable {before tail : Text} (start : endsWord before = false) (stop : beginsWord tail = false)
include start stop

theorem matchAt_notNull : (Phrase.notNull.matchAt (after before (notNull.masked ++ tail))).isSome = true :=
  matchAt_standalone_words (by decide) (by decide) (show Spells "NOT" "NOT".toList from rfl)
    (show Spells "NULL" "NULL".toList from rfl) start stop

theorem matchAt_primaryKey :
    (primaryKeyKeyword.matchAt (after before (primaryKey.masked ++ tail))).isSome = true :=
  matchAt_standalone_words (by decide) (by decide) (show Spells "PRIMARY" "PRIMARY".toList from rfl)
    (show Spells "KEY" "KEY".toList from rfl) start stop

theorem matchAt_unique : (uniqueKeyword.matchAt (after before (unique.masked ++ tail))).isSome = true :=
  matchAt_standalone_word (by decide) (show Spells "UNIQUE" "UNIQUE".toList from rfl) start stop

theorem matchAt_autoIncrement :
    (Phrase.autoIncrement.matchAt (after before (autoIncrement.masked ++ tail))).isSome = true := by
  have split : autoIncrement.masked ++ tail = "AUTO".toList ++ '_' :: ("INCREMENT".toList ++ tail) := rfl
  have whole : IsBare autoIncrement.masked := by decide
  have last : IsBare "INCREMENT".toList := by decide
  have auto : Spells "AUTO" "AUTO".toList := rfl
  have increment : Spells "INCREMENT" "INCREMENT".toList := rfl
  have opens := whole.opens start tail
  rw [split] at opens ⊢
  unfold matchAt Phrase.autoIncrement standalone
  rw [run_followed, run_followed, run_edge opens, run_followed, run_followed, run_word auto]
  refine Option.isSome_iff_exists.mpr ⟨?result, run_optional_of_some ?reads⟩
  case reads =>
    rw [run_exactly, run_word increment, run_edge (last.closes stop _)]

omit start in
/-- An identity without numbers, if no parenthesis opens behind it. -/
theorem find?_identity_bare
    (unopened : ∀ gap rest, (∀ c ∈ gap, isBlank c = true) → tail ≠ gap ++ '(' :: rest) :
    ∃ span, Phrase.identity.find? ((identity none).masked ++ tail) = some ⟨span, []⟩ := by
  have whole : IsBare "IDENTITY".toList := by decide
  have letters : Spells "IDENTITY" "IDENTITY".toList := rfl
  have here : ∃ span, Phrase.identity.matchAt (after [] ("IDENTITY".toList ++ tail)) = some ⟨span, []⟩ := by
    refine ⟨?span, ?reads⟩
    case reads =>
      unfold matchAt Phrase.identity standalone
      rw [run_followed, run_followed, run_followed, run_edge (whole.opens rfl tail), run_word letters,
        run_edge (whole.closes stop []), run_optional_none]
      by_contra found
      obtain ⟨_, found⟩ := Option.ne_none_iff_exists'.mp found
      iterate 9 rw [run_followed] at found
      obtain ⟨gap, rest, same, blank, found⟩ := run_many_some found
      obtain ⟨rest, rfl, _⟩ := run_exactly_some found
      exact unopened gap rest blank same
  obtain ⟨span, here⟩ := here
  exact ⟨span, findAfter_of_matchAt here⟩

end Found

theorem find?_identity_numbers {seed increment : Text} (seed_signed : Numeral.IsSigned seed)
    (increment_signed : Numeral.IsSigned increment) (tail : Text) :
    let text := (identity (some (seed, increment))).masked ++ tail
    ∃ found, Phrase.identity.find? text = some found ∧ found.text? .seed text = some seed ∧
      found.text? .increment text = some increment := by
  intro text
  have same : text = [] ++ ("IDENTITY".toList ++ '(' :: ((seed ++ ',' :: increment) ++ ')' :: tail)) := by
    simp [text, masked, operands, keyword]
  rw [find?_eq_findAfter, same]
  exact matchAt_identity seed_signed increment_signed tail rfl rfl

/-- The names are those in any text with the reference in front. -/
theorem find?_references {table column : Text} (table_bare : IsBare table) (column_bare : IsBare column) (tail : Text) :
    ∃ found, Phrase.references.find? ((references table column).masked ++ tail) = some found ∧
      ∀ other, found.text? .table ((references table column).text ++ other) = some table ∧
        found.text? .column ((references table column).text ++ other) = some column := by
  have same (shown : Text → Text) (tail : Text) :
      "REFERENCES".toList ++ (references table column).operands shown ++ tail =
        "REFERENCES".toList ++ ' ' :: (table ++ '(' :: (column ++ ')' :: tail)) := by
    simp [operands]
  have letters : Spells "REFERENCES" "REFERENCES".toList := rfl
  have start : endsWord [] = false := rfl
  obtain ⟨found, here, names⟩ := matchAt_references letters start table_bare column_bare tail
  refine ⟨found, ?_, fun other => ?_⟩
  · rw [find?_eq_findAfter, masked, keyword, same]
    exact here
  · rw [text, keyword, same]
    exact names other

section Unchecked
variable {closed : Text → Prop} {item : ColumnAttribute}

/-- There is nothing to blank out but the condition of a check. -/
theorem masked_of_unchecked (unchecked : item.condition? = none) : item.masked = item.text := by
  cases item with
  | check => cases unchecked
  | identity numbers => cases numbers <;> rfl
  | _ => rfl

theorem unquoted_of_unchecked (sound : item.IsSound closed) (unchecked : item.condition? = none) :
    '\'' ∉ item.text := by
  have plain : isPlain '\'' = false := by decide
  have signed {text : Text} (signed : Numeral.IsSigned text) : '\'' ∉ text := by
    obtain ⟨sign, digits, rfl, sign_only, _, all⟩ := signed
    intro member
    rcases List.mem_append.mp member with here | there
    · rcases sign_only with rfl | rfl <;> exact absurd here (by decide)
    · exact absurd (all _ there) (by decide)
  have keyword := item.bare_keyword.not_mem plain
  rw [text, List.mem_append, not_or]
  refine ⟨keyword, ?_⟩
  cases item with
  | notNull | primaryKey => decide
  | unique | autoIncrement => exact List.not_mem_nil
  | identity numbers =>
    cases numbers with
    | none => exact List.not_mem_nil
    | some numbers => simp [operands, signed sound.1, signed sound.2]
  | references table column => simp [operands, sound.1.1.not_mem plain, sound.2.1.not_mem plain]
  | check => cases unchecked

end Unchecked
end ColumnAttribute

namespace Attributes

/-- The only quotation marks of the condition are single ones and closed, there are no backslashes, and the
parentheses balance. -/
structure IsClosed (condition : Text) : Prop where
  single : Script.isSinglyQuoted condition = true
  balances : Script.Nesting.outside.Balances condition

instance (condition : Text) : Decidable (IsClosed condition) :=
  decidable_of_iff (Script.isSinglyQuoted condition = true ∧ Script.Nesting.outside.Balances condition)
    ⟨fun ⟨single, balances⟩ => ⟨single, balances⟩, fun ⟨single, balances⟩ => ⟨single, balances⟩⟩

theorem IsClosed.inLiteral {condition : Text} (closed : IsClosed condition) : Script.inLiteral condition = false := by
  have quote : (condition.foldl Script.Nesting.step .outside).quote = Script.literalMark (Script.inLiteral condition) :=
    Script.quote_foldl_single closed.single rfl (by decide)
  rw [closed.balances.unquoted] at quote
  cases inside : Script.inLiteral condition with
  | false => rfl
  | true => rw [inside] at quote; cases quote

/-- A check in front: its condition is found, and as many blanks stand for it. -/
theorem scope_check {gap condition : Text} (blank : ∀ c ∈ gap, isBlank c = true) (closed : IsClosed condition)
    (tail : Text) : scope ((ColumnAttribute.check gap condition).text ++ tail) =
      ⟨(ColumnAttribute.check gap condition).text ++ tail,
        (ColumnAttribute.check gap condition).masked ++ Script.mask tail, some condition⟩ := by
  let front := "CHECK".toList ++ gap
  have text : (ColumnAttribute.check gap condition).text ++ tail = front ++ '(' :: (condition ++ ')' :: tail) := by
    simp [ColumnAttribute.text, ColumnAttribute.operands, ColumnAttribute.keyword, front]
  have shown : (ColumnAttribute.check gap condition).masked ++ Script.mask tail =
      front ++ '(' :: (ColumnAttribute.blanked condition ++ ')' :: Script.mask tail) := by
    simp [ColumnAttribute.masked, ColumnAttribute.operands, ColumnAttribute.keyword, front]
  have unquoted : '\'' ∉ front ++ ['('] := by
    intro member
    rcases List.mem_append.mp member with here | there
    · rcases List.mem_append.mp here with letter | there
      · exact absurd letter (by decide)
      · exact not_mem_of_blank blank (by decide) there
    · exact absurd there (by decide)
  have masked : Script.mask (front ++ '(' :: (condition ++ ')' :: tail)) =
      front ++ '(' :: (Script.mask condition ++ ')' :: Script.mask tail) := by
    have split : front ++ '(' :: (condition ++ ')' :: tail) = (front ++ ['(']) ++ (condition ++ ([')'] ++ tail)) := by
      simp
    rw [split, Script.mask_append unquoted, Script.mask_append_inLiteral, closed.inLiteral]
    change _ ++ (_ ++ Script.mask ([')'] ++ tail)) = _
    rw [Script.mask_append (by decide)]
    simp
  have opening : checkOpening.find? (front ++ '(' :: (Script.mask condition ++ ')' :: Script.mask tail)) =
      some ⟨⟨0, front.length + 1⟩, []⟩ :=
    find?_checkOpening (show Spells "CHECK" "CHECK".toList from rfl) blank _
  have taken : (front ++ '(' :: (Script.mask condition ++ ')' :: Script.mask tail)).take (front.length + 1) =
      front ++ ['('] := by
    rw [List.take_length_add_append]
    rfl
  have dropped : (front ++ '(' :: (Script.mask condition ++ ')' :: Script.mask tail)).drop
      (front.length + 1 + condition.length) = ')' :: Script.mask tail := by
    have inner :
        (Script.mask condition ++ ')' :: Script.mask tail).drop condition.length = ')' :: Script.mask tail := by
      rw [← Script.length_mask condition, List.drop_left]
    rw [Nat.add_assoc, Nat.add_comm 1, List.drop_length_add_append, List.drop_succ_cons, inner]
  unfold scope
  simp only [text, shown, masked, opening, Nat.add_sub_cancel, Script.group?_of_opening, closed.balances.closing?,
    Option.map_some, taken, dropped, Nat.add_sub_cancel_left, List.take_left]
  simp [ColumnAttribute.blanked]

section Written
variable {pieces : AttributeList}

/-- The first attribute that has a value of some kind. -/
theorem split_of_findSome? {β : Type} {give : ColumnAttribute → Option β} {value : β}
    (found : (pieces.map Prod.snd).findSome? give = some value) : ∃ front piece back,
      pieces = front ++ piece :: back ∧ give piece.2 = some value ∧ ∀ piece ∈ front, give piece.2 = none := by
  rw [List.findSome?_map] at found
  obtain ⟨front, piece, back, rfl, given, passed⟩ := List.findSome?_eq_some_iff.mp found
  exact ⟨front, piece, back, rfl, given, passed⟩

theorem eq_none_of_findSome? {β : Type} {give : ColumnAttribute → Option β}
    (absent : (pieces.map Prod.snd).findSome? give = none) : ∀ piece ∈ pieces, give piece.2 = none := by
  intro piece member
  exact List.findSome?_eq_none_iff.mp absent piece.2 (List.mem_map_of_mem member)

theorem length_shown (pieces : AttributeList) : (shown pieces).length = (written pieces).length := by
  have same (item : ColumnAttribute) : item.masked.length = item.text.length := by
    cases item with
    | identity numbers => cases numbers <;> rfl
    | check gap condition =>
      simp [ColumnAttribute.masked, ColumnAttribute.text, ColumnAttribute.operands, ColumnAttribute.blanked]
    | _ => rfl
  unfold shown written joined
  rw [List.length_flatMap, List.length_flatMap]
  congr 2
  funext piece
  rw [List.length_append, List.length_append, same]

section Unchecked
variable {closed : Text → Prop} (unchecked : ∀ piece ∈ pieces, piece.2.condition? = none)
include unchecked

theorem shown_of_unchecked : shown pieces = written pieces :=
  List.flatMap_congr fun piece member => by rw [ColumnAttribute.masked_of_unchecked (unchecked piece member)]

theorem unquoted_of_unchecked (all : Joined closed pieces) : '\'' ∉ written pieces := by
  intro member
  obtain ⟨piece, inside, here⟩ := List.mem_flatMap.mp member
  rcases List.mem_append.mp here with gap | text
  · exact absurd (all.blank piece inside _ gap) (by decide)
  · exact ColumnAttribute.unquoted_of_unchecked (all.sound piece inside) (unchecked piece inside) text

theorem mask_of_unchecked (all : Joined closed pieces) : Script.mask (written pieces) = shown pieces := by
  rw [Script.mask_of_unquoted (unquoted_of_unchecked unchecked all), shown_of_unchecked unchecked]

theorem absent_of_unchecked : ∀ piece ∈ pieces, piece.2.keyword ≠ "CHECK" :=
  fun piece member => ColumnAttribute.keyword_ne_check (unchecked piece member)

end Unchecked
end Written

section Read
variable {pieces : AttributeList} (all : Joined IsClosed pieces)
include all

/-- The condition of the only check is out of sight, and nothing else is. -/
theorem scope_written (once : ((pieces.map Prod.snd).filterMap ColumnAttribute.condition?).length ≤ 1) :
    scope (written pieces) =
      ⟨written pieces, shown pieces, (pieces.map Prod.snd).findSome? ColumnAttribute.condition?⟩ := by
  have picks : ColumnAttribute.Picks (Keyed "CHECK") "CHECK" := ColumnAttribute.picks_keyed (by decide)
  cases found : (pieces.map Prod.snd).findSome? ColumnAttribute.condition? with
  | none =>
    have unchecked := eq_none_of_findSome? found
    have nowhere := find?_shown_eq_none picks checkOpening_led all (absent_of_unchecked unchecked)
    unfold scope
    simp only [mask_of_unchecked unchecked all, nowhere]
  | some condition =>
    obtain ⟨front, ⟨leading, item⟩, back, rfl, given, unchecked⟩ := split_of_findSome? found
    obtain ⟨gap, rfl⟩ := ColumnAttribute.condition?_eq_some_iff.mp given
    obtain ⟨blank, closed⟩ := all.sound _ (List.mem_append_right front List.mem_cons_self)
    have leading_blank := all.blank _ (List.mem_append_right front List.mem_cons_self)
    -- Behind the only check there is none.
    have back_all := all.of_append_right.of_cons
    have back_unchecked : ∀ piece ∈ back, piece.2.condition? = none := by
      simp only [List.map_append, List.map_cons, List.filterMap_append, List.filterMap_cons, given,
        List.length_append, List.length_cons] at once
      have none_there : ((back.map Prod.snd).filterMap ColumnAttribute.condition?).length = 0 := by omega
      intro piece member
      exact List.filterMap_eq_nil_iff.mp (List.length_eq_zero_iff.mp none_there) _ (List.mem_map_of_mem member)
    have unquoted : '\'' ∉ written front ++ leading := by
      rw [List.mem_append, not_or]
      exact ⟨unquoted_of_unchecked unchecked all.of_append, not_mem_of_blank leading_blank (by decide)⟩
    have same : Script.mask (written front ++ leading) = shown front ++ leading := by
      rw [Script.mask_of_unquoted unquoted, shown_of_unchecked unchecked]
    have apart : Apart (Script.mask (written front ++ leading))
        (Script.mask ((ColumnAttribute.check gap condition).text ++ written back)) := by
      rw [same]
      exact Or.inl (all.start ColumnAttribute.masked)
    have silent : ∀ word ∈ words (Script.mask (written front ++ leading)), ¬Keyed "CHECK" word := by
      rw [same, words_append_of_blank _ leading_blank]
      exact not_leads_shown picks all.of_append (absent_of_unchecked unchecked)
    unfold written shown
    rw [joined_split, joined_split]
    change scope ((written front ++ leading) ++ (_ ++ written back)) = _
    rw [scope_append (Script.inLiteral_of_unquoted unquoted) (find?_append_of_led checkOpening_led silent apart),
      scope_check blank closed, same, mask_of_unchecked back_unchecked back_all]
    rfl

variable (text : Text) (condition : Option Text) (column : Column)

theorem applyFlags_written : Scope.applyFlags ⟨text, shown pieces, condition⟩ column =
    ColumnAttribute.flagged (pieces.map Prod.snd) column := by
  have not_null : Phrase.notNull.occurs (shown pieces) = true ↔ .notNull ∈ pieces.map Prod.snd :=
    occurs_shown_iff (by decide) (ColumnAttribute.picks_keyed (by decide)) notNull_led all
      fun _ _ => ColumnAttribute.matchAt_notNull
  have primary_key : primaryKeyKeyword.occurs (shown pieces) = true ↔ .primaryKey ∈ pieces.map Prod.snd :=
    occurs_shown_iff (by decide) (ColumnAttribute.picks_keyed (by decide)) primaryKeyKeyword_led all
      fun _ _ => ColumnAttribute.matchAt_primaryKey
  have unique : uniqueKeyword.occurs (shown pieces) = true ↔ .unique ∈ pieces.map Prod.snd :=
    occurs_shown_iff (by decide) (ColumnAttribute.picks_keyed (by decide)) uniqueKeyword_led all
      fun _ _ => ColumnAttribute.matchAt_unique
  unfold Scope.applyFlags ColumnAttribute.flagged
  simp only [not_null, primary_key, unique]

theorem applyIdentity_written : Scope.applyIdentity ⟨text, shown pieces, condition⟩ column =
    ColumnAttribute.numbered (pieces.map Prod.snd) column := by
  have picks : ColumnAttribute.Picks (Keyed "IDENTITY") "IDENTITY" := ColumnAttribute.picks_keyed (by decide)
  have auto : Phrase.autoIncrement.occurs (shown pieces) = true ↔ .autoIncrement ∈ pieces.map Prod.snd :=
    occurs_shown_iff (by decide) ColumnAttribute.picks_autoIncrement autoIncrement_led all
      fun _ _ => ColumnAttribute.matchAt_autoIncrement
  unfold ColumnAttribute.numbered Scope.applyIdentity
  cases found : (pieces.map Prod.snd).findSome? ColumnAttribute.numbers? with
  | none =>
    have absent := fun piece member =>
      ColumnAttribute.keyword_ne_identity (eq_none_of_findSome? found piece member)
    simp only [find?_shown_eq_none picks identity_led all absent, auto]
    rfl
  | some numbers =>
    obtain ⟨front, ⟨gap, item⟩, back, rfl, given, passed⟩ := split_of_findSome? found
    obtain rfl := ColumnAttribute.numbers?_eq_some_iff.mp given
    have sound := all.sound _ (List.mem_append_right front List.mem_cons_self)
    have place := find?_shown_append picks identity_led all fun piece member =>
      ColumnAttribute.keyword_ne_identity (passed piece member)
    have split : shown (front ++ (gap, .identity numbers) :: back) = (shown front ++ gap) ++ (_ ++ shown back) :=
      joined_split ColumnAttribute.masked front _ back
    simp only [place]
    cases numbers with
    | none =>
      obtain ⟨span, here⟩ :=
        ColumnAttribute.find?_identity_bare (all.stop_behind ColumnAttribute.masked) fun _ _ blank =>
          all.of_append_right.of_cons.unopened ColumnAttribute.masked (fun item => ⟨_, rfl⟩) blank
      change Phrase.identity.find? ((ColumnAttribute.identity none).masked ++ shown back) = _ at here
      rw [here]
      rfl
    | some numbers =>
      obtain ⟨seed, increment⟩ := numbers
      obtain ⟨hit, here, seed_text, increment_text⟩ :=
        ColumnAttribute.find?_identity_numbers sound.1 sound.2 (shown back)
      simp only [here, Option.map_some, Scope.identityNumber, split, Match.text?_shift, seed_text, increment_text]

theorem applyDefault_written : Scope.applyDefault ⟨text, shown pieces, condition⟩ column = column := by
  have absent : ∀ piece ∈ pieces, piece.2.keyword ≠ "DEFAULT" := by
    intro piece _
    cases piece.2 <;> simp [ColumnAttribute.keyword]
  have nowhere := find?_shown_eq_none (ColumnAttribute.picks_keyed (by decide)) default_led all absent
  unfold Scope.applyDefault
  simp only [nowhere]

/-- The reference is found in the text that is shown, and read from the text that is written. -/
theorem reference?_written : Scope.reference? ⟨written pieces, shown pieces, condition⟩ =
    (pieces.map Prod.snd).findSome? ColumnAttribute.target? := by
  have picks : ColumnAttribute.Picks (Keyed "REFERENCES") "REFERENCES" := ColumnAttribute.picks_keyed (by decide)
  unfold Scope.reference?
  cases found : (pieces.map Prod.snd).findSome? ColumnAttribute.target? with
  | none =>
    have absent := fun piece member =>
      ColumnAttribute.keyword_ne_references (eq_none_of_findSome? found piece member)
    simp only [find?_shown_eq_none picks references_led all absent]
    rfl
  | some target =>
    obtain ⟨front, ⟨gap, item⟩, back, rfl, given, passed⟩ := split_of_findSome? found
    obtain ⟨table, name, rfl, rfl⟩ := ColumnAttribute.target?_eq_some_iff.mp given
    obtain ⟨⟨table_bare, _⟩, name_bare, _⟩ := all.sound _ (List.mem_append_right front List.mem_cons_self)
    have place := find?_shown_append picks references_led all fun piece member =>
      ColumnAttribute.keyword_ne_references (passed piece member)
    obtain ⟨hit, here, names⟩ := ColumnAttribute.find?_references table_bare name_bare (shown back)
    obtain ⟨table_text, name_text⟩ := names (written back)
    have split : written (front ++ (gap, .references table name) :: back) =
        (written front ++ gap) ++ (_ ++ written back) := joined_split ColumnAttribute.text front _ back
    have length : (shown front ++ gap).length = (written front ++ gap).length := by
      rw [List.length_append, List.length_append, length_shown]
    simp only [place, here, Option.map_some, split, length, Option.bind_eq_bind, Option.bind_some,
      Match.text?_shift, table_text, name_text, Name.cleanQualified_word table_bare.word,
      Name.clean_word name_bare.word]
    rfl

omit text condition in
/-- What is made of a column is told by the attributes alone. -/
theorem apply_written (once : ((pieces.map Prod.snd).filterMap ColumnAttribute.condition?).length ≤ 1) :
    apply column (written pieces) =
      (ColumnAttribute.numbered (pieces.map Prod.snd)
        (ColumnAttribute.flagged (pieces.map Prod.snd) column)).map fun column =>
          (ColumnAttribute.linked (pieces.map Prod.snd) column,
            ((pieces.map Prod.snd).findSome? ColumnAttribute.condition?).map trim) := by
  rw [apply_eq, scope_written all once, Scope.apply]
  simp only [applyFlags_written all, applyIdentity_written all, applyDefault_written all, Scope.applyReference,
    reference?_written all]
  rfl

end Read

/-- Numbers that are short enough can be read. -/
theorem exists_numbered {closed : Text → Prop} {items : List ColumnAttribute}
    (sound : ∀ item ∈ items, item.IsSound closed)
    (short : ∀ seed increment, .identity (some (seed, increment)) ∈ items →
      seed.countP isDecimalDigit ≤ Numeral.mostDigits ∧ increment.countP isDecimalDigit ≤ Numeral.mostDigits)
    (column : Column) : ∃ given, ColumnAttribute.numbered items column = .ok given := by
  unfold ColumnAttribute.numbered
  cases found : items.findSome? ColumnAttribute.numbers? with
  | none => exact ⟨_, rfl⟩
  | some numbers =>
    cases numbers with
    | none => exact ⟨_, rfl⟩
    | some numbers =>
      obtain ⟨seed, increment⟩ := numbers
      obtain ⟨front, item, back, rfl, given, _⟩ := List.findSome?_eq_some_iff.mp found
      obtain rfl := ColumnAttribute.numbers?_eq_some_iff.mp given
      have member : .identity (some (seed, increment)) ∈ front ++ .identity (some (seed, increment)) :: back :=
        List.mem_append_right front List.mem_cons_self
      obtain ⟨seed_short, increment_short⟩ := short seed increment member
      obtain ⟨seed_signed, increment_signed⟩ := sound _ member
      obtain ⟨seed_value, seed_read⟩ := Numeral.exists_read_of_signed seed_signed seed_short
      obtain ⟨value, read⟩ := Numeral.exists_read_of_signed increment_signed increment_short
      refine ⟨column.markIdentity (some seed_value) (some value), ?_⟩
      simp only [seed_read, read]
      rfl

/-- The same attributes in another order make the same column and the same check. -/
theorem apply_of_perm {pieces others : AttributeList} (all : Joined IsClosed pieces)
    (also : Joined IsClosed others) (permuted : (pieces.map Prod.snd).Perm (others.map Prod.snd))
    (one_identity : ((pieces.map Prod.snd).filterMap ColumnAttribute.numbers?).length ≤ 1)
    (one_reference : ((pieces.map Prod.snd).filterMap ColumnAttribute.target?).length ≤ 1)
    (one_check : ((pieces.map Prod.snd).filterMap ColumnAttribute.condition?).length ≤ 1)
    (short : ∀ seed increment, .identity (some (seed, increment)) ∈ pieces.map Prod.snd →
      seed.countP isDecimalDigit ≤ Numeral.mostDigits ∧ increment.countP isDecimalDigit ≤ Numeral.mostDigits)
    (column : Column) :
    ∃ result, apply column (written pieces) = .ok result ∧ apply column (written others) = .ok result := by
  have sound : ∀ item ∈ pieces.map Prod.snd, item.IsSound IsClosed := by
    intro item member
    obtain ⟨piece, inside, rfl⟩ := List.mem_map.mp member
    exact all.sound piece inside
  have also_one_check : ((others.map Prod.snd).filterMap ColumnAttribute.condition?).length ≤ 1 := by
    rwa [← (permuted.filterMap ColumnAttribute.condition?).length_eq]
  have flagged : ColumnAttribute.flagged (others.map Prod.snd) = ColumnAttribute.flagged (pieces.map Prod.snd) := by
    funext column
    simp only [ColumnAttribute.flagged, permuted.mem_iff]
  have numbered : ColumnAttribute.numbered (others.map Prod.snd) = ColumnAttribute.numbered (pieces.map Prod.snd) := by
    funext column
    simp only [ColumnAttribute.numbered, permuted.mem_iff, findSome?_of_perm permuted one_identity]
  have linked : ColumnAttribute.linked (others.map Prod.snd) = ColumnAttribute.linked (pieces.map Prod.snd) := by
    funext column
    simp only [ColumnAttribute.linked, findSome?_of_perm permuted one_reference]
  obtain ⟨given, read⟩ := exists_numbered sound short (ColumnAttribute.flagged (pieces.map Prod.snd) column)
  rw [apply_written all column one_check, apply_written also column also_one_check, flagged, numbered, linked, read,
    findSome?_of_perm permuted one_check]
  exact ⟨_, rfl, rfl⟩

/-- Every kind of attribute, and a condition that speaks of some of them. -/
theorem apply_of_perm_reversed :
    let items : List ColumnAttribute := [.check [' '] "a <> 'NOT NULL' AND (a <> ') UNIQUE')".toList,
      .identity (some ("7".toList, "-2".toList)), .notNull, .autoIncrement, .references "t".toList "c".toList]
    let pieces := items.map fun item => ([' '], item)
    let others := items.reverse.map fun item => ("\t ".toList, item)
    let column : Column := .plain "a" (.plain "int")
    (Joined IsClosed pieces ∧ Joined IsClosed others ∧ (pieces.map Prod.snd).Perm (others.map Prod.snd) ∧
      ((pieces.map Prod.snd).filterMap ColumnAttribute.numbers?).length ≤ 1 ∧
      ((pieces.map Prod.snd).filterMap ColumnAttribute.target?).length ≤ 1 ∧
      ((pieces.map Prod.snd).filterMap ColumnAttribute.condition?).length ≤ 1 ∧
      ∀ seed increment, .identity (some (seed, increment)) ∈ pieces.map Prod.snd →
        seed.countP isDecimalDigit ≤ Numeral.mostDigits ∧ increment.countP isDecimalDigit ≤ Numeral.mostDigits) ∧
      ∃ result, apply column (written pieces) = .ok result ∧ apply column (written others) = .ok result := by
  intro items pieces others column
  have signed : Numeral.IsSigned "7".toList ∧ Numeral.IsSigned "-2".toList :=
    ⟨⟨[], ['7'], rfl, Or.inl rfl, by decide, List.forall_mem_singleton.mpr rfl⟩,
      ⟨['-'], ['2'], rfl, Or.inr rfl, by decide, List.forall_mem_singleton.mpr rfl⟩⟩
  have closed : IsClosed "a <> 'NOT NULL' AND (a <> ') UNIQUE')".toList := by decide
  have target : ColumnAttribute.IsName "t".toList ∧ ColumnAttribute.IsName "c".toList := by decide
  have sound : ∀ item ∈ items, item.IsSound IsClosed := by
    simp only [items, List.forall_mem_cons, ColumnAttribute.IsSound]
    exact ⟨⟨⟨by decide, List.forall_mem_nil _⟩, closed⟩, signed, trivial, trivial, target, List.forall_mem_nil _⟩
  have gap : ∀ c ∈ "\t ".toList, isBlank c = true := List.forall_mem_cons.mpr ⟨by decide, isBlank_space⟩
  have all : Joined IsClosed pieces :=
    ⟨List.forall_mem_map.mpr fun _ _ => isBlank_space, by simp [pieces, items], by simpa [pieces] using sound⟩
  have also : Joined IsClosed others :=
    ⟨List.forall_mem_map.mpr fun _ _ => gap, by simp [others, items], by simpa [others] using sound⟩
  have permuted : (pieces.map Prod.snd).Perm (others.map Prod.snd) := by decide
  have short : ∀ seed increment, .identity (some (seed, increment)) ∈ pieces.map Prod.snd →
      seed.countP isDecimalDigit ≤ Numeral.mostDigits ∧ increment.countP isDecimalDigit ≤ Numeral.mostDigits := by
    intro seed increment member
    simp only [pieces, items, List.map_cons, List.map_nil, List.mem_cons, reduceCtorEq,
      ColumnAttribute.identity.injEq, Option.some.injEq, Prod.mk.injEq, List.not_mem_nil, or_false, false_or] at member
    obtain ⟨rfl, rfl⟩ := member
    decide
  have one_identity : ((pieces.map Prod.snd).filterMap ColumnAttribute.numbers?).length ≤ 1 := by decide
  have one_reference : ((pieces.map Prod.snd).filterMap ColumnAttribute.target?).length ≤ 1 := by decide
  have one_check : ((pieces.map Prod.snd).filterMap ColumnAttribute.condition?).length ≤ 1 := by decide
  exact ⟨⟨all, also, permuted, one_identity, one_reference, one_check, short⟩,
    apply_of_perm all also permuted one_identity one_reference one_check short column⟩

end Attributes
end SchemaAtlas
