import Mathlib.Data.List.Induction
import SchemaAtlas.Clause.DefaultValue
import SchemaAtlas.Proofs.Script.Comments
import SchemaAtlas.Script.Nesting
/-!
The scanners that know quotation marks, side by side: the reader of comments, the split into statements and
clauses, the search for the end of a group, the reader of values and the mask. They are told apart by what a
backslash in front of a mark means to them, and by nothing else.
-/
namespace SchemaAtlas.Script
open Text DefaultValue

/-- The quotation mark that is open behind a text, for the reader of comments. -/
def commentQuote (text : Text) : Option Char := (Region.code.after text).mark?

/-- The one that is open for the split into statements or clauses. -/
def splitQuote (text : Text) : Option Char := (text.foldl Nesting.step .outside).quote

/-- The one that is open for the search for the end of a group that begins where the text does. -/
def groupQuote (text : Text) : Option Char := (text.tail.foldl Nesting.step .opened).quote

/-- The one that is open for the reader of values. -/
def valueQuote (text : Text) : Option Char := (text.foldl TokenState.step .fresh).quote

def flipAtMark (inside : Bool) (c : Char) : Bool := if c == '\'' then !inside else inside

/-- The mask takes what follows a text for the inside of a literal. -/
def inLiteral (text : Text) : Bool := text.foldl flipAtMark false

theorem maskFrom_append (inside : Bool) (front rest : Text) :
    maskFrom inside (front ++ rest) = maskFrom inside front ++ maskFrom (front.foldl flipAtMark inside) rest := by
  induction front generalizing inside with
  | nil => rfl
  | cons c front ih =>
    rw [List.cons_append, maskFrom, maskFrom, List.foldl_cons, flipAtMark]
    split
    · rw [ih, List.cons_append]
    · rw [ih, List.cons_append]

theorem mask_append_inLiteral (front rest : Text) :
    mask (front ++ rest) = mask front ++ maskFrom (inLiteral front) rest :=
  maskFrom_append false front rest

/-- A token that is not over within a text goes on behind it. -/
theorem tokenLength_append {front rest : Text} {state : TokenState}
    (goes_on : front.length ≤ tokenLength state (front ++ rest)) :
    tokenLength state (front ++ rest) = front.length + tokenLength (front.foldl TokenState.step state) rest := by
  induction front generalizing state with
  | nil => simp
  | cons c front ih =>
    rw [List.cons_append, tokenLength] at goes_on ⊢
    rw [List.length_cons] at goes_on ⊢
    split
    · next ends =>
      rw [if_pos ends] at goes_on
      omega
    · next stays =>
      rw [if_neg stays] at goes_on
      rw [ih (by omega), List.foldl_cons]
      omega

section Concat
variable {front : Text} {c : Char}

theorem last_foldl_step (front : Text) : (front.foldl Nesting.step .outside).last = front.getLast? := by
  induction front using List.reverseRecOn with
  | nil => rfl
  | append_singleton front c _ => rw [List.foldl_append, List.getLast?_concat]; rfl

theorem splitQuote_concat (front : Text) (c : Char) : splitQuote (front ++ [c]) =
    if isQuotationMark c && front.getLast? != some '\\' then
      match splitQuote front with
      | none => some c
      | some mark => if c == mark then none else some mark
    else splitQuote front := by
  rw [← last_foldl_step, splitQuote, List.foldl_append]
  rfl

theorem quote_step (state : TokenState) (c : Char) : (state.step c).quote =
    match state.quote with
    | none => if isQuotationMark c then some c else none
    | some mark => if c == mark then none else some mark := by
  obtain ⟨quote, depth⟩ := state
  cases quote with
  | none =>
    simp only [TokenState.step]
    split
    · rfl
    · split
      · rfl
      · split <;> rfl
  | some mark =>
    simp only [TokenState.step]
    split <;> rfl

theorem valueQuote_concat (front : Text) (c : Char) : valueQuote (front ++ [c]) =
    match valueQuote front with
    | none => if isQuotationMark c then some c else none
    | some mark => if c == mark then none else some mark := by
  rw [valueQuote, List.foldl_append, List.foldl_cons, List.foldl_nil, quote_step]
  rfl

/-- Between quotation marks the reader of comments remembers the last character. -/
theorem getLast?_of_quoted {mark last : Char} (quoted : front.foldl Region.step .code = .quoted mark last) :
    front.getLast? = some last := by
  induction front using List.reverseRecOn with
  | nil => cases quoted
  | append_singleton front c ih =>
    rw [List.foldl_append, List.foldl_cons, List.foldl_nil] at quoted
    rw [List.getLast?_concat]
    cases before : front.foldl Region.step .code with
    | code =>
      rw [before] at quoted
      simp only [Region.step] at quoted
      split at quoted
      · rw [(Region.quoted.inj quoted).2]
      · cases quoted
    | quoted open_mark latest =>
      rw [before] at quoted
      simp only [Region.step] at quoted
      split at quoted
      · cases quoted
      · rw [(Region.quoted.inj quoted).2]
    | lineComment => rw [before] at quoted; cases quoted
    | blockComment => rw [before] at quoted; cases quoted

theorem commentQuote_concat (commentless : Commentless .code (front ++ [c])) : commentQuote (front ++ [c]) =
    match commentQuote front with
    | none => if isQuotationMark c then some c else none
    | some mark => if c == mark && front.getLast? != some '\\' then none else some mark := by
  have outside := commentless.behind.outside
  rw [commentQuote, commentQuote, commentless.after_eq, commentless.of_append.after_eq, List.foldl_append,
    List.foldl_cons, List.foldl_nil]
  cases region : front.foldl Region.step .code with
  | code =>
    rw [Region.step, apply_ite Region.mark?]
    rfl
  | quoted mark last =>
    have escapes : (front.getLast? != some '\\') = (last != '\\') := by
      rw [getLast?_of_quoted region, bne, bne, Option.some_beq_some]
    rw [Region.step, apply_ite Region.mark?, ← escapes]
    rfl
  | lineComment => rw [region] at outside; cases outside
  | blockComment => rw [region] at outside; cases outside

end Concat

section Agreement
variable {text : Text}

/-- Two scanners agree at every place if they agree at the beginning and each character keeps them so. -/
theorem agree_of_steps {first second : Text → Option Char} (start : first [] = second [])
    (step : ∀ front c, front ++ [c] <+: text → first front = second front →
      first (front ++ [c]) = second (front ++ [c])) : ∀ front, front <+: text → first front = second front := by
  intro front ahead
  induction front using List.reverseRecOn with
  | nil => exact start
  | append_singleton front c ih => exact step front c ahead (ih ((List.prefix_append front [c]).trans ahead))

/-- A mark behind a backslash, where no quotation is open. -/
def EscapesOpening (text : Text) : Prop :=
  ∃ front c, front ++ ['\\'] ++ [c] <+: text ∧ isQuotationMark c = true ∧ splitQuote (front ++ ['\\']) = none

/-- The mark that is open, behind a backslash. -/
def EscapesClosing (text : Text) : Prop :=
  ∃ front c, front ++ ['\\'] ++ [c] <+: text ∧ valueQuote (front ++ ['\\']) = some c

theorem isQuotationMark_of_valueQuote {mark : Char} (quoted : valueQuote text = some mark) :
    isQuotationMark mark = true := by
  induction text using List.reverseRecOn with
  | nil => cases quoted
  | append_singleton front c ih =>
    rw [valueQuote_concat] at quoted
    cases before : valueQuote front with
    | none =>
      rw [before] at quoted
      dsimp only at quoted
      split at quoted
      · next marks => rwa [← Option.some.inj quoted]
      · cases quoted
    | some opened =>
      rw [before] at quoted
      dsimp only at quoted
      split at quoted
      · cases quoted
      · exact ih (before.trans quoted)

/-- What ends in a backslash is a text with a backslash behind it. -/
theorem exists_backslash {front : Text} (escapes : (front.getLast? != some '\\') = false) :
    ∃ others, front = others ++ ['\\'] := by
  rw [bne_eq_false_iff_eq] at escapes
  exact List.getLast?_eq_some_iff.mp escapes

theorem escaped (front : Text) : ((front ++ ['\\']).getLast? != some '\\') = false := by
  rw [List.getLast?_concat]
  rfl

theorem quoted_of_plain {front : Text} {c : Char} (plain : ¬EscapesOpening text) (ahead : front ++ [c] <+: text)
    (escapes : (front.getLast? != some '\\') = false) (marks : isQuotationMark c = true) :
    splitQuote front ≠ none := by
  obtain ⟨others, rfl⟩ := exists_backslash escapes
  exact fun outside => plain ⟨others, c, ahead, marks, outside⟩

theorem other_of_plain {front : Text} {c mark : Char} (plain : ¬EscapesClosing text) (ahead : front ++ [c] <+: text)
    (escapes : (front.getLast? != some '\\') = false) (opened : valueQuote front = some mark) :
    (c == mark) = false := by
  obtain ⟨others, rfl⟩ := exists_backslash escapes
  rw [beq_eq_false_iff_ne]
  rintro rfl
  exact plain ⟨others, c, ahead, opened⟩

/-- The reader of comments and the split differ over marks that open. -/
theorem comment_split_iff (commentless : Commentless .code text) :
    (∀ front, front <+: text → commentQuote front = splitQuote front) ↔ ¬EscapesOpening text := by
  constructor
  · rintro agree ⟨front, c, ahead, marks, outside⟩
    obtain ⟨rest, rfl⟩ := id ahead
    have before := agree _ ((List.prefix_append _ [c]).trans ahead)
    have behind := agree _ ahead
    rw [commentQuote_concat commentless.of_append, splitQuote_concat, escaped, before, outside, marks] at behind
    cases behind
  · intro plain
    refine agree_of_steps rfl fun front c ahead same => ?_
    obtain ⟨rest, rfl⟩ := id ahead
    rw [commentQuote_concat commentless.of_append, splitQuote_concat, same]
    cases opened : splitQuote front with
    | none =>
      cases marks : isQuotationMark c with
      | false => rfl
      | true =>
        cases escapes : (front.getLast? != some '\\') with
        | true => rfl
        | false => exact absurd opened (quoted_of_plain plain ahead escapes marks)
    | some mark =>
      by_cases closes : c = mark
      · have marks : isQuotationMark c = true :=
          isQuotationMark_after .code front (by simp [Region.mark?]) c
            (same.trans (closes ▸ opened))
        simp [closes, closes ▸ marks]
      · simp [closes]

theorem comment_value_iff (commentless : Commentless .code text) :
    (∀ front, front <+: text → commentQuote front = valueQuote front) ↔ ¬EscapesClosing text := by
  constructor
  · rintro agree ⟨front, c, ahead, opened⟩
    obtain ⟨rest, rfl⟩ := id ahead
    have before := agree _ ((List.prefix_append _ [c]).trans ahead)
    have behind := agree _ ahead
    rw [commentQuote_concat commentless.of_append, valueQuote_concat, escaped, before, opened] at behind
    simp at behind
  · intro plain
    refine agree_of_steps rfl fun front c ahead same => ?_
    obtain ⟨rest, rfl⟩ := id ahead
    rw [commentQuote_concat commentless.of_append, valueQuote_concat, same]
    cases opened : valueQuote front with
    | none => rfl
    | some mark =>
      cases escapes : (front.getLast? != some '\\') with
      | true => simp only [Bool.and_true]
      | false => simp [other_of_plain plain ahead escapes opened]

/-- The split and the reader of values differ over both. -/
theorem split_value_iff :
    (∀ front, front <+: text → splitQuote front = valueQuote front) ↔
      ¬EscapesOpening text ∧ ¬EscapesClosing text := by
  constructor
  · intro agree
    constructor
    · rintro ⟨front, c, ahead, marks, outside⟩
      have before := agree _ ((List.prefix_append _ [c]).trans ahead)
      have behind := agree _ ahead
      rw [splitQuote_concat, valueQuote_concat, escaped, ← before, outside, marks] at behind
      cases behind
    · rintro ⟨front, c, ahead, opened⟩
      have before := agree _ ((List.prefix_append _ [c]).trans ahead)
      have behind := agree _ ahead
      rw [splitQuote_concat, valueQuote_concat, escaped, before, opened] at behind
      simp at behind
  · rintro ⟨opening, closing⟩
    refine agree_of_steps rfl fun front c ahead same => ?_
    rw [splitQuote_concat, valueQuote_concat, same]
    cases marks : isQuotationMark c with
    | false =>
      cases opened : valueQuote front with
      | none => rfl
      | some mark =>
        have other : (c == mark) = false := by
          rw [beq_eq_false_iff_ne]
          rintro rfl
          rw [isQuotationMark_of_valueQuote opened] at marks
          cases marks
        simp [other]
    | true =>
      cases escapes : (front.getLast? != some '\\') with
      | true => cases valueQuote front <;> rfl
      | false =>
        cases opened : valueQuote front with
        | none => exact absurd (same.trans opened) (quoted_of_plain opening ahead escapes marks)
        | some mark => simp [other_of_plain closing ahead escapes opened]

/-- With single marks only, the mask takes for literals what the reader of values does. -/
theorem valueQuote_of_single (single : ∀ c ∈ text, isQuotationMark c = true → c = '\'') :
    valueQuote text = if inLiteral text then some '\'' else none := by
  induction text using List.reverseRecOn with
  | nil => rfl
  | append_singleton front c ih =>
    have here := single c (List.mem_append_right front List.mem_cons_self)
    have flips : inLiteral (front ++ [c]) = flipAtMark (inLiteral front) c := by
      rw [inLiteral, List.foldl_append]
      rfl
    rw [valueQuote_concat, flips, flipAtMark, ih fun d member => single d (List.mem_append_left [c] member)]
    by_cases mark : c = '\''
    · subst mark
      cases inLiteral front <;> rfl
    · have plain : isQuotationMark c = false := Bool.eq_false_iff.mpr fun marks => mark (here marks)
      cases inLiteral front <;> simp [mark, plain]

theorem groupQuote_eq (opens : text.head? = some '(') : groupQuote text = splitQuote text := by
  obtain ⟨rest, rfl⟩ := List.head?_eq_some_iff.mp opens
  rfl

/-- In a text without comments, two scanners agree at every place exactly if the text does not hold a backslash that
they differ over. Groups are sought as statements are split, and the mask goes with the reader of values. -/
theorem quotations_agree_iff (commentless : withoutComments text = text) :
    ((∀ front, front <+: text → commentQuote front = splitQuote front) ↔ ¬EscapesOpening text) ∧
    ((∀ front, front <+: text → commentQuote front = valueQuote front) ↔ ¬EscapesClosing text) ∧
    ((∀ front, front <+: text → splitQuote front = valueQuote front) ↔
      ¬EscapesOpening text ∧ ¬EscapesClosing text) ∧
    (∀ front, front.head? = some '(' → groupQuote front = splitQuote front) ∧
    ((∀ c ∈ text, isQuotationMark c = true → c = '\'') →
      ∀ front, front <+: text → inLiteral front = (valueQuote front).isSome) := by
  have bare : Commentless .code text := commentless_of_uncomment_eq rfl commentless
  refine ⟨comment_split_iff bare, comment_value_iff bare, split_value_iff, fun _ => groupQuote_eq, ?_⟩
  intro single front ahead
  rw [valueQuote_of_single fun c member => single c (ahead.subset member)]
  cases inLiteral front <;> rfl

/-- A mark behind a backslash ends the value, and not the literal that comments are kept in. -/
theorem quotations_agree_iff_escaped :
    let text := "'it\\'s'".toList
    withoutComments text = text ∧ EscapesClosing text ∧
      ¬∀ front, front <+: text → commentQuote front = valueQuote front := by
  intro text
  have commentless : withoutComments text = text := by decide
  have escapes : EscapesClosing text := ⟨"'it".toList, '\'', by decide, by decide⟩
  exact ⟨commentless, escapes, fun agree => (quotations_agree_iff commentless).2.1.mp agree escapes⟩

/-- The promise that all scanners see the same quotations. -/
def QuotationsAgree (text : Text) : Prop :=
  withoutComments text = text → ∀ front, front <+: text →
    (commentQuote front = splitQuote front ∧ valueQuote front = splitQuote front ∧
      (front.head? = some '(' → groupQuote front = splitQuote front)) ∧
    ((∀ c ∈ text, isQuotationMark c = true → c = '\'') → inLiteral front = (splitQuote front).isSome)

/-- It is broken by a backslash in front of a mark that would close, and in front of one that would open. -/
theorem quotations_disagree : ¬QuotationsAgree "'it\\'s'".toList ∧ ¬QuotationsAgree "\\'".toList := by
  constructor
  · intro promised
    have value := (promised (by decide) "'it\\'".toList (by decide)).1.2.1
    exact absurd value (by decide)
  · intro promised
    have comment := (promised (by decide) "\\'".toList (by decide)).1.1
    exact absurd comment (by decide)

end Agreement
end SchemaAtlas.Script
