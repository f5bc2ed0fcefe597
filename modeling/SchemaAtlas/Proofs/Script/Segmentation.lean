import SchemaAtlas.Proofs.Script.Comments
import SchemaAtlas.Proofs.Script.Groups
import SchemaAtlas.Proofs.Text.Spacing
/-!
Two scripts with a semicolon between them. If the first one leaves no comment, quotation mark or parenthesis open,
every stage begins anew behind the semicolon, so the statements are those of the first script and then those of
the second one.
-/
namespace SchemaAtlas
open Text

namespace Text
variable {gap : Text}

theorem trim_gap (blank : ∀ c ∈ gap, isBlank c = true) (text : Text) : trim (gap ++ text) = trim text := by
  unfold trim trimStart
  rw [List.dropWhile_append_of_pos blank]

theorem trim_tail (blank : ∀ c ∈ gap, isBlank c = true) (text : Text) : trim (text ++ gap) = trim text := by
  have turned : ∀ c ∈ gap.reverse, isBlank c = true := fun c member => blank c (List.mem_reverse.mp member)
  have gone : gap.dropWhile isBlank = [] := List.dropWhile_eq_nil_iff.mpr blank
  unfold trim trimStart trimEnd
  rw [List.dropWhile_append, gone]
  split
  · next empty => rw [List.isEmpty_iff.mp empty]
  · rw [List.reverse_append, List.dropWhile_append_of_pos turned]

end Text

namespace Script
variable {separator : Char} {last : Option Char} {text gap first : Text}

section Anew

/-- A split goes on as at the beginning of a text, unless a backslash stands in front of a quotation mark. -/
theorem pieces_joined (joint : last = some '\\' → text.head?.any isQuotationMark = false) :
    pieces separator ⟨none, 0, last⟩ text = pieces separator .outside text := by
  cases text with
  | nil => rfl
  | cons c text => rw [pieces, pieces, Nesting.step_joined fun escapes => joint escapes]

theorem isTop_foldl_last (plain : last ≠ some '\\') (text : Text) :
    (text.foldl Nesting.step ⟨none, 0, last⟩).isTop = (standing text).isTop := by
  cases text with
  | nil => rfl
  | cons c text =>
    rw [standing, List.foldl_cons, List.foldl_cons, Nesting.step_joined fun escapes => absurd escapes plain]

theorem exists_foldl_gap (blank : ∀ c ∈ gap, isBlank c = true) (plain : last ≠ some '\\') :
    ∃ latest, latest ≠ some '\\' ∧ gap.foldl Nesting.step ⟨none, 0, last⟩ = ⟨none, 0, latest⟩ := by
  induction gap generalizing last with
  | nil => exact ⟨last, plain, rfl⟩
  | cons c gap ih =>
    obtain ⟨here, later⟩ := List.forall_mem_cons.mp blank
    rw [List.foldl_cons, step_level (isLevel_of_isBlank here)]
    refine ih later fun same => ?_
    rw [Option.some.inj same] at here
    exact absurd here (by decide)

end Anew

section Margins

theorem isTop_standing_gap (blank : ∀ c ∈ gap, isBlank c = true) (text : Text) :
    (standing (gap ++ text)).isTop = (standing text).isTop := by
  obtain ⟨latest, plain, same⟩ := exists_foldl_gap blank (show none ≠ some '\\' by decide)
  have begun : gap.foldl Nesting.step .outside = ⟨none, 0, latest⟩ := same
  rw [standing, List.foldl_append, begun, isTop_foldl_last plain]

theorem isTop_standing_tail (blank : ∀ c ∈ gap, isBlank c = true) (text : Text) :
    (standing (text ++ gap)).isTop = (standing text).isTop := by
  rw [standing, List.foldl_append, isTop_foldl_of_isLevel fun c member => isLevel_of_isBlank (blank c member)]
  rfl

theorem isTop_standing_trim (text : Text) : (standing (Text.trim text)).isTop = (standing text).isTop := by
  obtain ⟨gap, tail, blank, tail_blank, same⟩ := exists_trim text
  nth_rewrite 2 [same]
  rw [isTop_standing_gap blank, isTop_standing_tail tail_blank]

theorem splitTop_gap (solid : isBlank separator = false) (blank : ∀ c ∈ gap, isBlank c = true) (text : Text) :
    splitTop separator (gap ++ text) = splitTop separator text := by
  obtain ⟨latest, plain, same⟩ := exists_foldl_gap blank (show none ≠ some '\\' by decide)
  have begun : gap.foldl Nesting.step .outside = ⟨none, 0, latest⟩ := same
  have single : pieces separator .outside gap = [] ++ [gap] := pieces_gap blank solid _
  obtain ⟨first, others, split, _⟩ := exists_pieces_cons separator .outside text
  have whole := pieces_of_append single (by rw [begun, pieces_joined fun escapes => absurd escapes plain, split])
  rw [splitTop, splitTop, whole, split, List.nil_append, List.map_cons, List.map_cons, trim_gap blank]

theorem splitTop_tail (solid : isBlank separator = false) (blank : ∀ c ∈ gap, isBlank c = true) (text : Text) :
    splitTop separator (text ++ gap) = splitTop separator text := by
  obtain ⟨earlier, front, split⟩ := exists_pieces separator .outside text
  have whole := pieces_of_append split (pieces_gap blank solid _)
  rw [splitTop, splitTop, whole, split, List.map_append, List.map_append, List.map_cons, List.map_cons,
    trim_tail blank]

theorem splitTop_trim (solid : isBlank separator = false) (text : Text) :
    splitTop separator (Text.trim text) = splitTop separator text := by
  obtain ⟨gap, tail, blank, tail_blank, same⟩ := exists_trim text
  nth_rewrite 2 [same]
  rw [splitTop_gap solid blank, splitTop_tail solid tail_blank]

theorem statements_trim (text : Text) : statements (Text.trim text) = statements text := by
  rw [statements, statements, splitTop_trim (by decide)]

end Margins

section Joint

/-- A separator outside quotation marks and parentheses takes a split back to its beginning. -/
theorem splitTop_separator (level : isLevel separator = true) (plain : separator ≠ '\\')
    (top : (standing text).isTop = true) (rest : Text) :
    splitTop separator (text ++ separator :: rest) = splitTop separator text ++ splitTop separator rest := by
  have cut : (standing text).step separator = ⟨none, 0, some separator⟩ := by
    rw [Nesting.eq_of_isTop top, step_level level]
  obtain ⟨earlier, front, split⟩ := exists_pieces separator .outside text
  have whole := pieces_of_append split (pieces_of_cut cut rest)
  rw [pieces_joined fun escapes => absurd (Option.some.inj escapes) plain, List.append_nil] at whole
  have regrouped : earlier ++ front :: pieces separator .outside rest =
      earlier ++ [front] ++ pieces separator .outside rest := by simp
  simp only [splitTop]
  rw [whole, regrouped, split, List.map_append]

theorem statements_semicolon (top : (standing text).isTop = true) (rest : Text) :
    statements (text ++ ';' :: rest) = statements text ++ statements rest := by
  rw [statements, splitTop_separator (by decide) (by decide) top, List.filter_append]
  rfl

theorem withoutComments_semicolon (code : Region.code.after first = .code) (second : Text) :
    withoutComments (first ++ ';' :: second) = withoutComments first ++ ';' :: withoutComments second := by
  have clear : IsClear (';' :: second) := by
    intro c mark
    obtain rfl := Option.some.inj mark
    decide
  rw [withoutComments, uncomment_append clear, code, uncomment_code (c := ';') rfl]
  rfl

/-- The statements of two scripts with a semicolon between them, of which the first leaves nothing open. -/
theorem statements_joined (code : Region.code.after first = .code) (top : (standing (normalized first)).isTop = true)
    (second : Text) : statements (normalized (first ++ ';' :: second)) =
      statements (normalized first) ++ statements (normalized second) := by
  rw [normalized, isTop_standing_trim] at top
  have solid : isBlank ';' = false := by decide
  simp only [normalized, statements_trim]
  rw [withoutComments_semicolon code, collapse_append solid, statements_semicolon top]

/-- A comment and a semicolon in quotation marks in the first script, and one that stays open in the second. -/
theorem statements_joined_amid :
    let first := "SELECT ';' -- (\n; x) ".toList
    let second := " /* ; */ ; a (;".toList
    Region.code.after first = .code ∧ (standing (normalized first)).isTop = true ∧
      statements (normalized first) = ["SELECT ';'".toList, "x)".toList] ∧
      statements (normalized second) = ["a (;".toList] ∧
      statements (normalized (first ++ ';' :: second)) =
        statements (normalized first) ++ statements (normalized second) := by
  intro first second
  have code : Region.code.after first = .code := by decide
  have top : (standing (normalized first)).isTop = true := by decide +kernel
  exact ⟨code, top, by decide +kernel, by decide +kernel, statements_joined code top second⟩

end Joint
end Script
end SchemaAtlas
