import SchemaAtlas.Proofs.Clause.AttributeText
import SchemaAtlas.Proofs.Clause.ColumnHead
import SchemaAtlas.Proofs.Clause.ValueTokens
/-!
The value after DEFAULT among the attributes of a column. The reader of values goes from token to token and stops at
one that is a keyword, while attributes are found by their phrases. So an attribute that is one token together with
its keyword is taken for a part of the value, and a value right behind the keyword is not found.
-/
namespace SchemaAtlas
open Text Pattern Cursor Phrase

def Column.withDefault (value : Text) (column : Column) : Column :=
  { column with defaultValue := some (String.ofList value) }

/-- The column that a clause gives, with another default value. -/
def ColumnOutcome.withDefault (value : Text) : ColumnOutcome → ColumnOutcome
  | accepted column check => accepted (column.withDefault value) check
  | outcome => outcome

theorem ColumnOutcome.ofReading_map (value : Text) (reading : Except NumeralError (Column × Option Text)) :
    ofReading (reading.map (Prod.map (Column.withDefault value) id)) = (ofReading reading).withDefault value := by
  cases reading <;> rfl

namespace ColumnAttribute
open DefaultValue

/-- The attribute is one token, in which its keyword is no token by itself. -/
def isAttached : ColumnAttribute → Bool
  | identity (some _) => true
  | check [] _ => true
  | _ => false

section Token
variable {item : ColumnAttribute}

theorem isStopWord_keyword (item : ColumnAttribute) : isStopWord item.keyword.toList = true := by
  have each : ∀ keyword ∈ ["NOT", "PRIMARY", "UNIQUE", "AUTO_INCREMENT", "IDENTITY", "REFERENCES", "CHECK"],
      isStopWord keyword.toList = true := by decide
  cases item <;> exact each _ (by simp [keyword])

theorem not_isStopWord_of_isAttached (attached : item.isAttached = true) : isStopWord item.text = false := by
  apply not_isStopWord_of_mem
  cases item with
  | identity numbers =>
    cases numbers with
    | none => cases attached
    | some numbers => simp [text, operands]
  | check gap condition => simp [text, operands]
  | _ => cases attached

theorem isNeutral_of_signed {number : Text} (signed : Numeral.IsSigned number) : ∀ c ∈ number, IsNeutral c := by
  obtain ⟨sign, digits, rfl, sign_only, _, all⟩ := signed
  intro c member
  rcases List.mem_append.mp member with here | there
  · rcases sign_only with rfl | rfl
    · cases here
    · rw [List.mem_singleton.mp here]
      decide
  · have other {mark : Char} (unlike : isDecimalDigit mark = false) : c ≠ mark :=
      Numeral.ne_of_decimal (all c there) unlike
    have unmarked : Script.isQuotationMark c = false := by
      simp [Script.isQuotationMark, other (show isDecimalDigit '\'' = false by decide),
        other (show isDecimalDigit '"' = false by decide), other (show isDecimalDigit '\x60' = false by decide)]
    exact ⟨unmarked, other (by decide), other (by decide)⟩

variable (sound : item.IsSound IsGrouped)
include sound

theorem isExpression_of_isAttached (attached : item.isAttached = true) : IsExpression item.text := by
  have keyword := isExpression_of_bare item.bare_keyword
  cases item with
  | identity numbers =>
    cases numbers with
    | none => cases attached
    | some numbers =>
      obtain ⟨seed, increment⟩ := numbers
      have grouped : IsGrouped (seed ++ ',' :: increment) := by
        refine isGrouped_of_isNeutral (List.forall_mem_append.mpr ⟨isNeutral_of_signed sound.1, ?_⟩)
        exact List.forall_mem_cons.mpr ⟨by decide, isNeutral_of_signed sound.2⟩
      unfold IsGrouped at grouped
      rw [List.append_assoc] at grouped
      exact keyword.append grouped
  | check gap condition =>
    cases gap with
    | nil => exact keyword.append sound.2
    | cons => cases attached
  | _ => cases attached

/-- The keyword of any other attribute is a token. -/
theorem tokens_of_not_isAttached (detached : item.isAttached = false) {rest : Text} (stops : Stops rest) :
    ∃ others, tokens none (item.text ++ rest) = item.keyword.toList :: others := by
  have behind : Stops (item.operands id ++ rest) := by
    cases item with
    | notNull | primaryKey | references =>
      rintro c first
      obtain rfl := Option.some.inj first
      decide
    | unique | autoIncrement => exact stops
    | identity numbers =>
      cases numbers with
      | none => exact stops
      | some => cases detached
    | check gap condition =>
      cases gap with
      | nil => cases detached
      | cons c gap =>
        rintro d first
        obtain rfl := Option.some.inj first
        exact sound.1 _ List.mem_cons_self
  rw [text, List.append_assoc, (isExpression_of_bare item.bare_keyword).tokens behind]
  exact ⟨_, rfl⟩

end Token
end ColumnAttribute

namespace Attributes
open DefaultValue

section Captured
variable {pieces : AttributeList}

theorem stops_written {closed : Text → Prop} (all : Joined closed pieces) (spaced : ∀ piece ∈ pieces, piece.1 ≠ []) :
    Stops (written pieces) := by
  cases pieces with
  | nil => rintro c ⟨⟩
  | cons piece pieces =>
    obtain ⟨c, gap, same⟩ := List.exists_cons_of_ne_nil (spaced piece List.mem_cons_self)
    have blank := all.blank piece List.mem_cons_self
    rw [written, joined, List.flatMap_cons, same]
    rintro d first
    obtain rfl := Option.some.inj first
    exact blank _ (same ▸ List.mem_cons_self)

/-- What the reader of values takes for the value: the expression, and the attributes behind it that are tokens. -/
def captured (expression : Text) (pieces : AttributeList) : Text :=
  [' '].intercalate (expression :: (pieces.takeWhile (·.2.isAttached)).map (·.2.text))

theorem takeWhile_tokens (all : Joined IsGrouped pieces) (spaced : ∀ piece ∈ pieces, piece.1 ≠ []) :
    (tokens none (written pieces)).takeWhile (!isStopWord ·) =
      (pieces.takeWhile (·.2.isAttached)).map (·.2.text) := by
  induction pieces with
  | nil => rfl
  | cons piece pieces ih =>
    have sound := all.sound piece List.mem_cons_self
    have later : ∀ piece ∈ pieces, piece.1 ≠ [] := fun other member => spaced other (List.mem_cons_of_mem piece member)
    have stops := stops_written all.of_cons later
    have split : written (piece :: pieces) = piece.1 ++ (piece.2.text ++ written pieces) := List.append_assoc ..
    rw [split, tokens_gap (all.blank piece List.mem_cons_self)]
    cases attached : piece.2.isAttached with
    | true =>
      have goes_on := ColumnAttribute.not_isStopWord_of_isAttached attached
      have expression := ColumnAttribute.isExpression_of_isAttached sound attached
      rw [expression.tokens stops, List.takeWhile_cons_of_pos (by simp [goes_on]), ih all.of_cons later]
      simp only [List.takeWhile_cons, attached, ↓reduceIte, List.map_cons]
    | false =>
      obtain ⟨others, same⟩ := ColumnAttribute.tokens_of_not_isAttached sound attached stops
      rw [same, List.takeWhile_cons_of_neg, List.takeWhile_cons_of_neg, List.map_nil]
      · simp [attached]
      · simp [ColumnAttribute.isStopWord_keyword]

theorem ofTokens_written (expression : Text) (all : Joined IsGrouped pieces) (spaced : ∀ piece ∈ pieces, piece.1 ≠ []) :
    ofTokens (expression :: tokens none (written pieces)) = some (captured expression pieces) := by
  rw [ofTokens, takeWhile_tokens all spaced]
  rfl

/-- The value is the expression itself unless an attribute in one token comes next. -/
theorem captured_eq_iff (expression : Text) :
    captured expression pieces = expression ↔ ∀ piece ∈ pieces.head?, piece.2.isAttached = false := by
  unfold captured
  cases pieces with
  | nil => simp
  | cons piece pieces =>
    cases attached : piece.2.isAttached with
    | false => simp [attached]
    | true => simp [attached]

end Captured

/-- The phrases of attributes other than a check. -/
def phrases : List Pattern := [notNull, primaryKeyKeyword, uniqueKeyword, identity, autoIncrement, references]

/-- The expression closes its literals, and no phrase of an attribute is found that begins in it. -/
structure IsSilent (expression tail : Text) : Prop where
  closed : Script.inLiteral expression = false
  unchecked : (checkOpening.find? (Script.mask expression ++ Script.mask tail)).all
    (expression.length ≤ ·.span.start) = true
  unfound : ∀ phrase ∈ phrases, (phrase.find? (Script.mask expression ++ (scope tail).masked)).all
    (expression.length ≤ ·.span.start) = true

instance (expression tail : Text) : Decidable (IsSilent expression tail) :=
  decidable_of_iff (Script.inLiteral expression = false ∧
      (checkOpening.find? (Script.mask expression ++ Script.mask tail)).all
        (expression.length ≤ ·.span.start) = true ∧
      ∀ phrase ∈ phrases, (phrase.find? (Script.mask expression ++ (scope tail).masked)).all
        (expression.length ≤ ·.span.start) = true)
    ⟨fun ⟨closed, unchecked, unfound⟩ => ⟨closed, unchecked, unfound⟩,
      fun ⟨closed, unchecked, unfound⟩ => ⟨closed, unchecked, unfound⟩⟩

section Front
variable {gap between expression tail : Text}

/-- The keyword between two gaps. -/
def defaultFront (gap between : Text) : Text := gap ++ ("DEFAULT".toList ++ between)

theorem length_front (gap between expression : Text) :
    (defaultFront gap between ++ Script.mask expression).length = (defaultFront gap between ++ expression).length := by
  rw [List.length_append, List.length_append, Script.length_mask]

variable (blank : ∀ c ∈ gap, isBlank c = true) (between_blank : ∀ c ∈ between, isBlank c = true)
include blank between_blank

theorem words_front : words (defaultFront gap between) = ["DEFAULT".toList] := by
  have bare : IsBare "DEFAULT".toList := by decide
  rw [defaultFront, words_of_blank blank, words_append_of_blank _ between_blank, words_self bare.1 bare.fits]

theorem unquoted_front : '\'' ∉ defaultFront gap between := by
  have unmarked {text : Text} (blank : ∀ c ∈ text, isBlank c = true) : '\'' ∉ text :=
    not_mem_of_blank blank (by decide)
  simp [defaultFront, unmarked blank, unmarked between_blank]

theorem mask_front (expression : Text) :
    Script.mask (defaultFront gap between ++ expression) = defaultFront gap between ++ Script.mask expression :=
  Script.mask_append (unquoted_front blank between_blank) expression

theorem inLiteral_front (expression : Text) :
    Script.inLiteral (defaultFront gap between ++ expression) = Script.inLiteral expression := by
  have closed := Script.inLiteral_of_unquoted (unquoted_front blank between_blank)
  unfold Script.inLiteral at closed ⊢
  rw [List.foldl_append, closed]

omit blank in
/-- The keyword is a whole word, because of the gap behind it or because of the parenthesis. -/
theorem apart_front (parted : between ≠ [] ∨ expression.head? = some '(') (rest : Text) :
    Apart (defaultFront gap between) (Script.mask expression ++ rest) := by
  rcases parted with filled | opening
  · refine Or.inl ?_
    rw [defaultFront, ← List.append_assoc, endsWord_append filled]
    exact endsWord_of_blank between_blank
  · obtain ⟨more, rfl⟩ := List.head?_eq_some_iff.mp opening
    exact Or.inr rfl

variable (parted : between ≠ [] ∨ expression.head? = some '(') (silent : IsSilent expression tail)
  (stops : DefaultValue.Stops tail)
include parted

/-- A phrase that is found behind the expression only is found there without it. -/
theorem passes_front {leads : Text → Prop} {phrase : Pattern} (led : LedBy leads phrase)
    (other : ¬leads "DEFAULT".toList) {rest : Text} (outside : beginsWord rest = false)
    (behind : (phrase.find? (Script.mask expression ++ rest)).all (expression.length ≤ ·.span.start) = true) :
    phrase.Passes (defaultFront gap between ++ Script.mask expression) rest := by
  have clear : ∀ word ∈ words (defaultFront gap between), ¬leads word := by
    rw [words_front blank between_blank]
    exact List.forall_mem_singleton.mpr other
  have passes := find?_append_of_led led clear (apart_front between_blank parted rest)
  rw [← Script.length_mask] at behind
  exact passes.append (passes_of_behind led outside behind)

include silent stops

theorem scope_front : scope ((defaultFront gap between ++ expression) ++ tail) =
    (scope tail).past (defaultFront gap between ++ expression)
      (defaultFront gap between ++ Script.mask expression) := by
  have masked := mask_front blank between_blank expression
  have closed : Script.inLiteral (defaultFront gap between ++ expression) = false :=
    (inLiteral_front blank between_blank expression).trans silent.closed
  have outside : beginsWord (Script.mask tail) = false := (Script.beginsWord_mask tail).trans stops.outside
  have unchecked : checkOpening.Passes (defaultFront gap between ++ Script.mask expression) (Script.mask tail) :=
    passes_front blank between_blank parted checkOpening_led (by decide) outside silent.unchecked
  rw [scope_append closed (by rw [masked]; exact unchecked), masked]
  rfl

theorem passes_phrase {phrase : Pattern} (member : phrase ∈ phrases) :
    phrase.Passes (defaultFront gap between ++ Script.mask expression) (scope tail).masked := by
  have outside : beginsWord (scope tail).masked = false := (beginsWord_masked tail).trans stops.outside
  have behind := silent.unfound phrase member
  have uncounted : ¬IsAutoIncrement "DEFAULT".toList := fun counted =>
    absurd (ColumnAttribute.head_of_isAutoIncrement counted) (by decide)
  simp only [phrases, List.mem_cons, List.not_mem_nil, or_false] at member
  rcases member with rfl | rfl | rfl | rfl | rfl | rfl
  · exact passes_front blank between_blank parted notNull_led (by decide) outside behind
  · exact passes_front blank between_blank parted primaryKeyKeyword_led (by decide) outside behind
  · exact passes_front blank between_blank parted uniqueKeyword_led (by decide) outside behind
  · exact passes_front blank between_blank parted identity_led (by decide) outside behind
  · exact passes_front blank between_blank parted autoIncrement_led uncounted outside behind
  · exact passes_front blank between_blank parted references_led (by decide) outside behind

/-- Nothing but the value is read of the front. -/
theorem apply_front (column : Column) : apply column ((defaultFront gap between ++ expression) ++ tail) =
    ((scope tail).applyIdentity ((scope tail).applyFlags column)).map fun column =>
      ((scope tail).applyReference (((scope tail).past (defaultFront gap between ++ expression)
        (defaultFront gap between ++ Script.mask expression)).applyDefault column),
        (scope tail).condition.map trim) := by
  have passes {phrase : Pattern} (member : phrase ∈ phrases) :=
    passes_phrase blank between_blank parted silent stops member
  have length := length_front gap between expression
  have referenced : references.Passes (defaultFront gap between ++ Script.mask expression) (scope tail).masked :=
    passes (by simp [phrases])
  rw [apply_eq, scope_front blank between_blank parted silent stops, Scope.apply,
    Scope.applyFlags_past (passes (by simp [phrases])) (passes (by simp [phrases])) (passes (by simp [phrases])),
    Scope.applyIdentity_past (passes (by simp [phrases])) (passes (by simp [phrases]))]
  simp only [Scope.applyReference_past length referenced]
  rfl

end Front

section Value
variable {gap between expression tail : Text}

theorem find?_front (blank : ∀ c ∈ gap, isBlank c = true) (between_blank : ∀ c ∈ between, isBlank c = true)
    (filled : between ≠ []) {rest : Text} (start : rest.head?.any isBlank = false) :
    Phrase.default.find? (defaultFront gap between ++ rest) =
      some ⟨⟨gap.length, (defaultFront gap between).length⟩, []⟩ := by
  have letters : Spells "DEFAULT" "DEFAULT".toList := rfl
  have bare : IsBare "DEFAULT".toList := by decide
  have here : Phrase.default.matchAt (after [] ("DEFAULT".toList ++ (between ++ rest))) =
      some ⟨⟨0, ("DEFAULT".toList ++ between).length⟩, []⟩ := by
    unfold matchAt Phrase.default
    rw [run_followed, run_followed, run_edge (bare.opens rfl _), run_word letters]
    apply run_several filled between_blank start
    rfl
  have passes : Phrase.default.Passes gap ("DEFAULT".toList ++ (between ++ rest)) :=
    passes_of_blank default_led blank
  have whole : defaultFront gap between ++ rest = gap ++ ("DEFAULT".toList ++ (between ++ rest)) := by
    simp [defaultFront]
  rw [whole, passes, find?_eq_findAfter, findAfter_of_matchAt here]
  simp [Match.shift, Span.shift, defaultFront]
  omega

theorem start_mask (text rest : Text) (start : (text ++ rest).head?.any isBlank = false) :
    (Script.mask text ++ rest).head?.any isBlank = false := by
  cases text with
  | nil => exact start
  | cons c text =>
    unfold Script.mask Script.maskFrom
    split <;> exact start

variable (blank : ∀ c ∈ gap, isBlank c = true) (silent : IsSilent expression tail) (stops : DefaultValue.Stops tail)
include blank silent stops

/-- Behind a gap the value is read, and everything else is what it is without the value. -/
theorem apply_spaced (between_blank : ∀ c ∈ between, isBlank c = true) (filled : between ≠ [])
    (whole : DefaultValue.IsExpression expression) {value : Text}
    (read : DefaultValue.ofTokens (expression :: DefaultValue.tokens none tail) = some value) (column : Column) :
    apply column ((defaultFront gap between ++ expression) ++ tail) =
      (apply column tail).map (Prod.map (Column.withDefault value) id) := by
  have place := find?_front blank between_blank filled (start_mask expression (scope tail).masked (whole.start _))
  have given (column : Column) : ((scope tail).past (defaultFront gap between ++ expression)
      (defaultFront gap between ++ Script.mask expression)).applyDefault column = column.withDefault value := by
    have behind : DefaultValue.read (defaultFront gap between ++ (expression ++ tail))
        (defaultFront gap between).length = some value := by
      rw [DefaultValue.read, List.drop_left, whole.tokens stops, read]
    unfold Scope.applyDefault
    simp only [Scope.past, List.append_assoc, place, scope_text, behind]
    rfl
  have default (column : Column) : (scope tail).applyReference (column.withDefault value) =
      ((scope tail).applyReference ((scope tail).applyDefault column)).withDefault value := by
    unfold Scope.applyReference Scope.applyDefault
    split <;> split <;> rfl
  rw [apply_front blank between_blank (Or.inl filled) silent stops, apply_eq, Scope.apply]
  simp only [given, default]
  cases (scope tail).applyIdentity ((scope tail).applyFlags column) <;> rfl

/-- Right behind the keyword there is no value. -/
theorem apply_unspaced (opening : expression.head? = some '(')
    (undefaulted : (Phrase.default.find? (Script.mask expression ++ (scope tail).masked)).all
      (expression.length ≤ ·.span.start) = true) (column : Column) :
    apply column ((defaultFront gap [] ++ expression) ++ tail) = apply column tail := by
  have passes : Phrase.default.Passes (defaultFront gap [] ++ Script.mask expression) (scope tail).masked := by
    obtain ⟨more, rfl⟩ := List.head?_eq_some_iff.mp opening
    have outside : beginsWord (scope tail).masked = false := (beginsWord_masked tail).trans stops.outside
    rw [← Script.length_mask] at undefaulted
    have behind := passes_of_behind default_led outside undefaulted
    have keyword : Phrase.default.Passes "DEFAULT".toList (Script.mask ('(' :: more) ++ (scope tail).masked) := by
      have bare : IsBare "DEFAULT".toList := by decide
      refine passes_of_word default_led bare.fits rfl ?_
      by_contra found
      obtain ⟨_, found⟩ := Option.ne_none_iff_exists'.mp found
      have letters : Spells "DEFAULT" "DEFAULT".toList := rfl
      unfold matchAt Phrase.default at found
      rw [run_followed, run_followed, run_edge (bare.opens rfl _), run_word letters] at found
      obtain ⟨between, _, same, filled, between_blank, _⟩ := run_several_some found
      obtain ⟨c, between, rfl⟩ := List.exists_cons_of_ne_nil filled
      have opening : '(' = c := (List.cons.inj same).1
      exact absurd (between_blank c List.mem_cons_self) (by rw [← opening]; decide)
    have passed : Phrase.default.Passes gap ("DEFAULT".toList ++ (Script.mask ('(' :: more) ++ (scope tail).masked)) :=
      passes_of_blank default_led blank
    have whole := (passed.append keyword).append behind
    rwa [defaultFront, List.append_nil]
  have length := length_front gap [] expression
  rw [apply_front blank (fun _ member => absurd member List.not_mem_nil) (Or.inr opening) silent stops, apply_eq,
    Scope.apply]
  simp only [Scope.applyDefault_past length passes]

end Value

end Attributes

namespace ColumnHead
open DefaultValue Attributes
variable {head : ColumnHead} {pieces : AttributeList} {gap between expression : Text}

theorem precedes_written {closed : Text → Prop} (all : Joined closed pieces) (spaced : ∀ piece ∈ pieces, piece.1 ≠ []) :
    head.Precedes (written pieces) := by
  refine fun _ => ⟨(stops_written all spaced).outside, ?_⟩
  rintro ⟨list, tail, same⟩
  have opened : written pieces = list.gap ++ '(' :: (list.inner ++ ')' :: tail) := by
    rw [same]
    simp [ArgumentList.text]
  exact all.unopened ColumnAttribute.text (fun item => ⟨_, rfl⟩) list.blank opened

theorem precedes_front (blank : ∀ c ∈ gap, isBlank c = true) (filled : gap ≠ []) (rest : Text) :
    head.Precedes ((defaultFront gap between ++ expression) ++ rest) := by
  have whole : (defaultFront gap between ++ expression) ++ rest =
      gap ++ 'D' :: ("EFAULT".toList ++ (between ++ (expression ++ rest))) := by simp [defaultFront]
  rw [whole]
  exact fun _ => ⟨beginsWord_of_isBlank filled blank _, not_argumentsAhead_of_gap blank (by decide) (by decide)⟩

/-- Behind the keyword and a gap, an expression is the value together with the attributes behind it that are tokens,
and everything else is read as it is without the value. Right behind the keyword it is no value. -/
theorem read_default (all : Joined IsGrouped pieces) (spaced : ∀ piece ∈ pieces, piece.1 ≠ [])
    (blank : ∀ c ∈ gap, isBlank c = true) (filled : gap ≠ []) (between_blank : ∀ c ∈ between, isBlank c = true)
    (whole : IsExpression expression) (silent : IsSilent expression (written pieces))
    (about : Draft.isConstraintClause (head.text ++ written pieces) = false) (named : head.columnName ≠ "")
    (taken : Roster Column) :
    let plain := Column.read taken (head.text ++ written pieces)
    let full := Column.read taken (head.text ++ ((defaultFront gap between ++ expression) ++ written pieces))
    (between ≠ [] → full = plain.withDefault (captured expression pieces) ∧
      (captured expression pieces = expression ↔ ∀ piece ∈ pieces.head?, piece.2.isAttached = false)) ∧
    (between = [] → expression.head? = some '(' →
      (Phrase.default.find? (Script.mask expression ++ (scope (written pieces)).masked)).all
        (expression.length ≤ ·.span.start) = true → full = plain) := by
  intro plain full
  have stops := stops_written all spaced
  have precedes : head.Precedes (written pieces) := precedes_written all spaced
  have also_precedes : head.Precedes ((defaultFront gap between ++ expression) ++ written pieces) :=
    precedes_front blank filled _
  have also_about := (isConstraintClause_eq also_precedes precedes).trans about
  have stop : ((defaultFront gap between ++ expression) ++ written pieces).getLast?.any isBlank = false := by
    refine stop_append ?_ (stop_written pieces)
    rw [List.getLast?_append_of_ne_nil _ whole.filled]
    exact whole.stop
  have plain_read := read_head precedes about (head.trim_text (stop_written pieces)) named taken
  have full_read := read_head also_precedes also_about (head.trim_text stop) named taken
  refine ⟨fun parted => ⟨?_, captured_eq_iff expression⟩, fun unparted opening undefaulted => ?_⟩
  · have read := ofTokens_written expression all spaced
    simp only [full, plain, full_read, plain_read, apply_spaced blank silent stops between_blank parted whole read]
    split
    · rfl
    · cases DataType.read head.type (head.arguments.map ArgumentList.inner) with
      | error error => rfl
      | ok type => exact ColumnOutcome.ofReading_map _ _
  · subst unparted
    simp only [full, plain, full_read, plain_read, apply_unspaced blank silent stops opening undefaulted]

/-- A keyword in the expression, and a check that goes to the value. -/
theorem read_default_negation :
    let head : ColumnHead :=
      ⟨"a".toList, .plain (by decide), [' '], by decide, isBlank_space, "int".toList, by decide, none⟩
    let pieces : AttributeList := [([' '], .check [] "a > 0".toList), ([' '], .notNull)]
    let expression := "(1 IS NOT TRUE)".toList
    let plain := Column.read .empty (head.text ++ written pieces)
    let full := Column.read .empty (head.text ++ ((defaultFront [' '] [' '] ++ expression) ++ written pieces))
    (Joined IsGrouped pieces ∧ (∀ piece ∈ pieces, piece.1 ≠ []) ∧ IsExpression expression ∧
      IsSilent expression (written pieces) ∧ Draft.isConstraintClause (head.text ++ written pieces) = false ∧
      head.columnName ≠ "") ∧
      ([' '] ≠ [] → full = plain.withDefault (captured expression pieces) ∧
        (captured expression pieces = expression ↔ ∀ piece ∈ pieces.head?, piece.2.isAttached = false)) ∧
      ([' '] = [] → expression.head? = some '(' →
        (Phrase.default.find? (Script.mask expression ++ (scope (written pieces)).masked)).all
          (expression.length ≤ ·.span.start) = true → full = plain) := by
  intro head pieces expression plain full
  have sound : ∀ piece ∈ pieces, piece.2.IsSound IsGrouped := by
    simp only [pieces, List.forall_mem_cons, ColumnAttribute.IsSound]
    exact ⟨⟨List.forall_mem_nil _, by decide⟩, trivial, List.forall_mem_nil _⟩
  have blank : ∀ piece ∈ pieces, ∀ c ∈ piece.1, isBlank c = true :=
    List.forall_mem_cons.mpr ⟨isBlank_space, List.forall_mem_singleton.mpr isBlank_space⟩
  have all : Joined IsGrouped pieces := ⟨blank, by simp [pieces], sound⟩
  have spaced : ∀ piece ∈ pieces, piece.1 ≠ [] := by simp [pieces]
  have whole : IsExpression expression := by decide
  have silent : IsSilent expression (written pieces) := by decide +kernel
  have about : Draft.isConstraintClause (head.text ++ written pieces) = false := by decide
  have named : head.columnName ≠ "" := by decide
  exact ⟨⟨all, spaced, whole, silent, about, named⟩,
    read_default all spaced isBlank_space (by decide) isBlank_space whole silent about named .empty⟩

/-- The value does not stop at a check without a gap, and an expression without a gap is no value. -/
theorem default_takes_check : IsExpression "5".toList ∧ IsExpression "(5)".toList ∧
    Column.read .empty "a int CHECK(a > 0)".toList = .accepted (.plain "a" (.plain "INT")) (some "a > 0") ∧
    Column.read .empty "a int DEFAULT 5 CHECK(a > 0)".toList =
      .accepted ((Column.plain "a" (.plain "INT")).withDefault "5 CHECK(a > 0)".toList) (some "a > 0") ∧
    Column.read .empty "a int DEFAULT(5)".toList = .accepted (.plain "a" (.plain "INT")) none := by
  refine ⟨by decide, by decide, ?_, ?_, ?_⟩
  all_goals decide +kernel

end ColumnHead
end SchemaAtlas
