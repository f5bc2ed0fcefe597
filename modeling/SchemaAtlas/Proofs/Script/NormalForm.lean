import SchemaAtlas.Proofs.Script.Comments
import SchemaAtlas.Proofs.Script.Splitting
import SchemaAtlas.Proofs.Text.Spacing
import SchemaAtlas.Script.Reading
/-!
The normal form of a script: comments removed, runs of blanks collapsed, ends trimmed. It does not depend on
what comments say nor on how wide the gaps are, and a script in normal form is its own normal form.
-/
namespace SchemaAtlas
open Text

namespace Text
variable {text : Text}

theorem IsSpaced.trim (spaced : IsSpaced text) : IsSpaced (Text.trim text) := by
  obtain ⟨gap, tail, _, _, same⟩ := exists_trim text
  rw [same] at spaced
  exact spaced.of_append.2.of_append.1

end Text

namespace Script
variable {region other : Region} {before inner gap behind text : Text}

section Blank
variable {c mark : Char}

theorem step_code_of_isBlank (blank : isBlank c = true) : Region.code.step c = .code := by
  simp [Region.step, isQuotationMark_of_isBlank blank]

theorem foldl_step_of_isBlank (blank : ∀ c ∈ gap, isBlank c = true) : gap.foldl Region.step .code = .code := by
  induction gap with
  | nil => rfl
  | cons c gap ih =>
    obtain ⟨here, later⟩ := List.forall_mem_cons.mp blank
    rw [List.foldl_cons, step_code_of_isBlank here, ih later]

theorem step_quoted_of_isBlank (last : Char) (marks : isQuotationMark mark = true) (blank : isBlank c = true) :
    (Region.quoted mark last).step c = .quoted mark c := by
  have other : (c == mark) = false := by
    rw [beq_eq_false_iff_ne]
    rintro rfl
    rw [isQuotationMark_of_isBlank blank] at marks
    cases marks
  simp [Region.step, other]

theorem opensComment_of_isBlank (blank : isBlank c = true) (rest : Text) : opensComment c rest = false :=
  opensComment_of_ne (by rintro rfl; exact absurd blank (by decide))
    (by rintro rfl; exact absurd blank (by decide)) rest

theorem not_backslash_of_isBlank (blank : isBlank c = true) : (c == '\\') = false :=
  beq_eq_false_iff_ne.mpr (by rintro rfl; exact absurd blank (by decide))

end Blank

section Layout

/-- Behind a gap it does not matter which blank was its last character. -/
def Region.spaced : Region → Region
  | .quoted mark _ => .quoted mark ' '
  | region => region

theorem uncomment_last {mark last latest : Char} (alike : (last == '\\') = (latest == '\\')) (text : Text) :
    uncomment (.quoted mark last) text = uncomment (.quoted mark latest) text := by
  cases text with
  | nil => rfl
  | cons c text => rw [uncomment, uncomment, bne, bne, alike]

/-- A blank is never part of a comment mark and closes no quotation. -/
theorem uncomment_blank {c : Char} (outside : region.isComment = false)
    (marked : ∀ mark ∈ region.mark?, isQuotationMark mark = true) (blank : isBlank c = true) (rest : Text) :
    uncomment region (c :: rest) = c :: uncomment (region.step c) rest ∧ (region.step c).mark? = region.mark? ∧
      (region.step c).spaced = region.spaced ∧ uncomment (region.step c) rest = uncomment region.spaced rest := by
  cases region with
  | code =>
    rw [uncomment_code (opensComment_of_isBlank blank rest), step_code_of_isBlank blank]
    exact ⟨rfl, rfl, rfl, rfl⟩
  | quoted mark last =>
    have stays := step_quoted_of_isBlank last (marked mark rfl) blank
    have split : uncomment (.quoted mark last) (c :: rest) =
        c :: uncomment ((Region.quoted mark last).step c) rest := by
      rw [uncomment]
      rfl
    rw [split, stays]
    exact ⟨rfl, rfl, rfl, uncomment_last (not_backslash_of_isBlank blank) rest⟩
  | lineComment => cases outside
  | blockComment => cases outside

/-- A gap is read as it is, and what follows it as behind a single space. -/
theorem uncomment_gap (outside : region.isComment = false)
    (marked : ∀ mark ∈ region.mark?, isQuotationMark mark = true) (filled : gap ≠ [])
    (blank : ∀ c ∈ gap, isBlank c = true) (behind : Text) :
    uncomment region (gap ++ behind) = gap ++ uncomment region.spaced behind := by
  induction gap generalizing region with
  | nil => exact absurd rfl filled
  | cons c gap ih =>
    obtain ⟨here, later⟩ := List.forall_mem_cons.mp blank
    obtain ⟨read, same_mark, same, goes_on⟩ := uncomment_blank outside marked here (gap ++ behind)
    rw [List.cons_append, read, List.cons_append]
    cases gap with
    | nil => exact congrArg _ goes_on
    | cons d gap =>
      rw [ih ((isComment_step region c).trans outside) (by rwa [same_mark]) (List.cons_ne_nil _ _) later, same]

/-- Two scripts that differ in one comment or in one gap. -/
inductive Relaid : Text → Text → Prop where
  | block {before inner : Text} (code : Region.code.after before = .code) (unclosed : ¬['*', '/'] <:+: inner)
    (behind : Text) : Relaid (before ++ '/' :: '*' :: (inner ++ '*' :: '/' :: behind)) (before ++ ' ' :: behind)
  | line {before inner : Text} (code : Region.code.after before = .code) (apart : before.getLast? ≠ some '-')
    (unbroken : '\n' ∉ inner) (behind : Text) :
    Relaid (before ++ '-' :: '-' :: (inner ++ '\n' :: behind)) (before ++ '\n' :: behind)
  | gap {before gap other : Text} (outside : (Region.code.after before).isComment = false) (filled : gap ≠ [])
    (blank : ∀ c ∈ gap, isBlank c = true) (other_filled : other ≠ []) (other_blank : ∀ c ∈ other, isBlank c = true)
    (behind : Text) : Relaid (before ++ (gap ++ behind)) (before ++ (other ++ behind))

theorem withoutComments_block (code : Region.code.after before = .code) (unclosed : ¬['*', '/'] <:+: inner)
    (behind : Text) : withoutComments (before ++ '/' :: '*' :: (inner ++ '*' :: '/' :: behind)) =
      withoutComments (before ++ ' ' :: behind) := by
  have apart : Apart .code before ('/' :: '*' :: (inner ++ '*' :: '/' :: behind)) :=
    ⟨fun _ => by simp, fun _ => by simp, fun _ _ => by rw [code]; simp⟩
  have clear : IsClear (' ' :: behind) := by
    intro c first
    obtain rfl := Option.some.inj first
    decide
  rw [withoutComments, withoutComments, uncomment_append_of_apart apart, uncomment_append clear, code, uncomment,
    uncomment_block unclosed, uncomment_code (c := ' ') rfl]
  rfl

theorem withoutComments_line (code : Region.code.after before = .code) (apart : before.getLast? ≠ some '-')
    (unbroken : '\n' ∉ inner) (behind : Text) :
    withoutComments (before ++ '-' :: '-' :: (inner ++ '\n' :: behind)) =
      withoutComments (before ++ '\n' :: behind) := by
  have apart : Apart .code before ('-' :: '-' :: (inner ++ '\n' :: behind)) :=
    ⟨fun last => absurd last apart, fun _ => by simp, fun _ => by simp⟩
  have clear : IsClear ('\n' :: behind) := by
    intro c first
    obtain rfl := Option.some.inj first
    decide
  rw [withoutComments, withoutComments, uncomment_append_of_apart apart, uncomment_append clear, code, uncomment,
    uncomment_line unbroken, uncomment_code (c := '\n') rfl]
  rfl

theorem normalized_gap {other : Text} (outside : (Region.code.after before).isComment = false) (filled : gap ≠ [])
    (blank : ∀ c ∈ gap, isBlank c = true) (other_filled : other ≠ []) (other_blank : ∀ c ∈ other, isBlank c = true)
    (behind : Text) : normalized (before ++ (gap ++ behind)) = normalized (before ++ (other ++ behind)) := by
  have marked := isQuotationMark_after .code before (by simp [Region.mark?])
  have whole {gap : Text} (filled : gap ≠ []) (blank : ∀ c ∈ gap, isBlank c = true) :
      withoutComments (before ++ (gap ++ behind)) =
        uncomment .code before ++ (gap ++ uncomment (Region.code.after before).spaced behind) := by
    have clear : IsClear (gap ++ behind) := by
      obtain ⟨c, others, rfl⟩ := List.exists_cons_of_ne_nil filled
      intro d first
      obtain rfl := Option.some.inj first
      have here := blank c List.mem_cons_self
      refine ⟨?_, ?_, ?_⟩ <;> (rintro rfl; exact absurd here (by decide))
    rw [withoutComments, uncomment_append clear, uncomment_gap outside marked filled blank]
  rw [normalized, normalized, whole filled blank, whole other_filled other_blank,
    collapse_gap ' ' filled blank other_filled other_blank]

/-- Comments and the width of gaps are no matter for the normal form, and so not for the schema. -/
theorem layout_immaterial {first second : Text} (relaid : Relaid first second) :
    normalized first = normalized second ∧ read (String.ofList first) = read (String.ofList second) := by
  have same : normalized first = normalized second := by
    cases relaid with
    | block code unclosed behind => rw [normalized, normalized, withoutComments_block code unclosed]
    | line code apart unbroken behind => rw [normalized, normalized, withoutComments_line code apart unbroken]
    | gap outside filled blank other_filled other_blank behind =>
      exact normalized_gap outside filled blank other_filled other_blank behind
  refine ⟨same, ?_⟩
  rw [read, read, String.toList_ofList, String.toList_ofList, same]

/-- A quotation mark in a block comment, the mark of one in a line comment, and a gap in a literal that stays open. -/
theorem layout_immaterial_amid :
    let front := "CREATE TABLE t (a int".toList
    let back := ", b int)".toList
    let literal := "CREATE TABLE t (a text DEFAULT 'x".toList
    (Relaid (front ++ '/' :: '*' :: ("it's/".toList ++ '*' :: '/' :: back)) (front ++ ' ' :: back) ∧
      read (String.ofList (front ++ '/' :: '*' :: ("it's/".toList ++ '*' :: '/' :: back))) =
        read (String.ofList (front ++ ' ' :: back))) ∧
    (Relaid (front ++ '-' :: '-' :: ("/*".toList ++ '\n' :: back)) (front ++ '\n' :: back) ∧
      read (String.ofList (front ++ '-' :: '-' :: ("/*".toList ++ '\n' :: back))) =
        read (String.ofList (front ++ '\n' :: back))) ∧
    Relaid (literal ++ (['\t', '\n'] ++ back)) (literal ++ ([' '] ++ back)) ∧
      read (String.ofList (literal ++ (['\t', '\n'] ++ back))) =
        read (String.ofList (literal ++ ([' '] ++ back))) := by
  intro front back literal
  have block : Relaid (front ++ '/' :: '*' :: ("it's/".toList ++ '*' :: '/' :: back)) (front ++ ' ' :: back) :=
    .block (by decide) (by decide) back
  have line : Relaid (front ++ '-' :: '-' :: ("/*".toList ++ '\n' :: back)) (front ++ '\n' :: back) :=
    .line (by decide) (by decide) (by decide) back
  have gap : Relaid (literal ++ (['\t', '\n'] ++ back)) (literal ++ ([' '] ++ back)) :=
    .gap (by decide) (by decide) (List.all_eq_true.mp (by decide)) (by decide) (List.all_eq_true.mp (by decide)) back
  exact ⟨⟨block, (layout_immaterial block).2⟩, ⟨line, (layout_immaterial line).2⟩, gap, (layout_immaterial gap).2⟩

end Layout

section Settled

/-- Regions that go on alike: the last character counts only if it is a backslash. -/
inductive Region.Alike : Region → Region → Prop where
  | code : Alike .code .code
  | quoted {mark last latest : Char} (marks : isQuotationMark mark = true)
    (escapes : (last == '\\') = (latest == '\\')) : Alike (.quoted mark last) (.quoted mark latest)

theorem Region.Alike.step (alike : region.Alike other) (c : Char) : (region.step c).Alike (other.step c) := by
  cases alike with
  | code =>
    unfold Region.step
    dsimp only
    split
    · next marks => exact .quoted marks rfl
    · exact .code
  | @quoted mark last latest marks escapes =>
    have same : (last != '\\') = (latest != '\\') := by rw [bne, bne, escapes]
    unfold Region.step
    dsimp only
    rw [same]
    split
    · exact .code
    · exact .quoted marks rfl

theorem head_collapseFrom (d : Char) (second : d = '-' ∨ d = '*')
    (first : (Text.collapseFrom ' ' false text).head? = some d) : text.head? = some d := by
  have solid : d ≠ ' ' := by rcases second with rfl | rfl <;> decide
  cases text with
  | nil => cases first
  | cons c text =>
    rw [Text.collapseFrom] at first
    split at first
    · exact absurd (Option.some.inj first).symm solid
    · exact first

/-- A space may stand for a whole gap without a comment mark coming about. -/
theorem Commentless.collapseFrom (commentless : Commentless region text) (alike : region.Alike other) {within : Bool}
    (spaced : within = true → other.spaced = other) : Commentless other (Text.collapseFrom ' ' within text) := by
  induction commentless generalizing other within with
  | nil => exact .nil (by cases alike <;> rfl)
  | @code c text here later ih =>
    have same := alike
    cases alike with
    | code =>
    rw [Text.collapseFrom]
    by_cases blank : isBlank c = true
    · rw [step_code_of_isBlank blank] at ih
      rw [if_pos blank]
      split
      · exact ih .code fun _ => rfl
      · exact .code rfl (ih .code fun _ => rfl)
    · rw [if_neg blank]
      exact .code (opensComment_of_head here head_collapseFrom) (ih (same.step c) (by simp))
  | @quoted mark last c text later ih =>
    have same := alike
    cases alike with
    | @quoted _ _ latest marks escapes =>
    rw [Text.collapseFrom]
    by_cases blank : isBlank c = true
    · have no_escape : (c == '\\') = (' ' == '\\') := not_backslash_of_isBlank blank
      rw [step_quoted_of_isBlank last marks blank] at ih
      rw [if_pos blank]
      split
      · next again =>
        obtain ⟨_, rfl⟩ := Region.quoted.inj (spaced again)
        exact ih (.quoted marks no_escape) fun _ => rfl
      · have space := step_quoted_of_isBlank latest marks (show isBlank ' ' = true by decide)
        refine .quoted ?_
        rw [space]
        exact ih (.quoted marks no_escape) fun _ => rfl
    · rw [if_neg blank]
      exact .quoted (ih (same.step c) (by simp))

theorem Commentless.trim (commentless : Commentless .code text) : Commentless .code (Text.trim text) := by
  obtain ⟨gap, tail, blank, _, same⟩ := exists_trim text
  rw [same] at commentless
  have started := commentless.behind
  rw [foldl_step_of_isBlank blank] at started
  exact started.of_append

theorem commentless_normalized (text : Text) : Commentless .code (normalized text) :=
  ((commentless_uncomment .code text).collapseFrom .code (by simp)).trim

theorem normalized_eq_of_commentless (commentless : Commentless .code text) (spaced : IsSpaced text)
    (trimmed : Text.trim text = text) : normalized text = text := by
  rw [normalized, withoutComments, commentless.uncomment_eq, spaced.collapse, trimmed]

theorem not_comment_ahead (commentless : Commentless .code (before ++ behind))
    (unquoted : (Region.code.after before).mark? = none) : ¬['-', '-'] <+: behind ∧ ¬['/', '*'] <+: behind := by
  have code : Region.code.after before = .code := by
    have outside := commentless.behind.outside
    rw [← commentless.of_append.after_eq] at outside
    cases region : Region.code.after before with
    | code => rfl
    | quoted mark last => rw [region] at unquoted; cases unquoted
    | lineComment => rw [region] at outside; cases outside
    | blockComment => rw [region] at outside; cases outside
  constructor
  · rintro ⟨more, rfl⟩
    cases commentless.opens_nowhere code
  · rintro ⟨more, rfl⟩
    cases commentless.opens_nowhere code

/-- Removing comments and bringing into normal form settle a script. No mark of a comment is left in it outside
quotation marks, doing either again changes nothing, and its schema is that of the script. -/
theorem normal_form_settled (text : Text) : withoutComments (withoutComments text) = withoutComments text ∧
    (∀ front rest, withoutComments text = front ++ rest → (Region.code.after front).mark? = none →
      ¬['-', '-'] <+: rest ∧ ¬['/', '*'] <+: rest) ∧
    withoutComments (normalized text) = normalized text ∧ normalized (normalized text) = normalized text ∧
    read (String.ofList (normalized text)) = read (String.ofList text) := by
  have bare : Commentless .code (withoutComments text) := commentless_uncomment .code text
  have settled : normalized (normalized text) = normalized text :=
    normalized_eq_of_commentless (commentless_normalized text) (isSpaced_collapse _).trim (trim_trim _)
  refine ⟨bare.uncomment_eq, fun front rest same => ?_, (commentless_normalized text).uncomment_eq, settled, ?_⟩
  · rw [same] at bare
    exact not_comment_ahead bare
  · rw [read, read, String.toList_ofList, String.toList_ofList, settled]

/-- What stands around a comment does not come together to the mark of another one. -/
theorem normal_form_settled_between :
    let text := "a -/* x */- b /--y\n* 'c  -- d".toList
    withoutComments text = "a - - b ".toList ++ "/\n* 'c  -- d".toList ∧
      (Region.code.after "a - - b ".toList).mark? = none ∧ ¬['/', '*'] <+: "/\n* 'c  -- d".toList ∧
      normalized text = "a - - b / * 'c -- d".toList ∧ normalized (normalized text) = normalized text := by
  intro text
  obtain ⟨_, unmarked, _, settled, _⟩ := normal_form_settled text
  have stripped : withoutComments text = "a - - b ".toList ++ "/\n* 'c  -- d".toList := by decide
  have outside : (Region.code.after "a - - b ".toList).mark? = none := by decide
  exact ⟨stripped, outside, (unmarked _ _ stripped outside).2, by decide +kernel, settled⟩

end Settled
end Script
end SchemaAtlas
