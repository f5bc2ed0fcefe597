import Mathlib.Data.List.Infix
import SchemaAtlas.Proofs.Script.Literals
import SchemaAtlas.Proofs.Script.NormalForm
/-!
What stands between quotation marks, from the script to its normal form. The reader of comments leaves it alone,
but the collapse of blanks knows no quotation marks, so it comes out with a single space for each run of blanks.
It is kept as it is exactly if it has no other blanks than single spaces.
-/
namespace SchemaAtlas
open Text

namespace Script
variable {region other : Region} {mark last : Char} {text contents before behind : Text}

section Reading

/-- Behind what has been read, the reader of comments stands where it stood behind the text. -/
theorem foldl_uncomment (region : Region) (text : Text) :
    (uncomment region text).foldl Region.step region.resumed = (region.after text).resumed := by
  have next (region : Region) (outside : region.isComment = false) (c : Char) :
      (region.step c).resumed = region.step c := by
    rw [Region.resumed, isComment_step, outside]
    rfl
  fun_induction uncomment region text with
  | case1 region => rw [Region.after]; rfl
  | case2 text ih => rw [Region.after]; exact ih
  | case3 text ih => rw [Region.after]; exact ih
  | case4 c text line block ih =>
    rw [Region.after]
    · rw [← ih]
      exact congrArg (List.foldl _ · _) (next .code rfl c).symm
    · exact line
    · exact block
  | case5 mark last c text ih =>
    rw [Region.after, ← ih]
    exact congrArg (List.foldl _ · _) (next (.quoted mark last) rfl c).symm
  | case6 c text ends ih =>
    obtain rfl := beq_iff_eq.mp ends
    rw [Region.after, if_pos ends]
    exact ih
  | case7 c text stays ih =>
    rw [Region.after, if_neg stays]
    exact ih
  | case8 text ih => rw [Region.after]; exact ih
  | case9 c text stays ih =>
    rw [Region.after]
    · exact ih
    · exact stays

/-- A space that stands for a gap is read like the gap. -/
theorem Region.Alike.foldl_collapseFrom (alike : region.Alike other) {within : Bool}
    (spaced : within = true → other.spaced = other) (text : Text) :
    (text.foldl Region.step region).Alike ((Text.collapseFrom ' ' within text).foldl Region.step other) := by
  induction text generalizing region other within with
  | nil => exact alike
  | cons c text ih =>
    rw [List.foldl_cons, Text.collapseFrom]
    by_cases blank : isBlank c = true
    · rw [if_pos blank]
      have space : isBlank ' ' = true := by decide
      cases alike with
      | code =>
        rw [step_code_of_isBlank blank]
        split
        · exact ih .code fun _ => rfl
        · rw [List.foldl_cons, step_code_of_isBlank space]
          exact ih .code fun _ => rfl
      | @quoted mark last latest marks escapes =>
        have no_escape : (c == '\\') = (' ' == '\\') := not_backslash_of_isBlank blank
        rw [step_quoted_of_isBlank last marks blank]
        split
        · next again =>
          obtain ⟨_, rfl⟩ := Region.quoted.inj (spaced again)
          exact ih (.quoted marks no_escape) fun _ => rfl
        · rw [List.foldl_cons, step_quoted_of_isBlank latest marks space]
          exact ih (.quoted marks no_escape) fun _ => rfl
    · rw [if_neg blank, List.foldl_cons]
      exact ih (alike.step c) (by simp)

end Reading

section Quoted

/-- What can stand between two quotation marks, for the reader of comments: the first mark stays open all through
it, and the second one closes. -/
structure IsQuoted (mark : Char) (contents : Text) : Prop where
  inside : ∀ part ∈ contents.inits, ((Region.quoted mark mark).after part).mark? = some mark
  closes : (Region.quoted mark mark).after (contents ++ [mark]) = .code

/-- A quotation in a text: a literal, or a quoted name. -/
structure Quotation (text : Text) where
  before : Text
  mark : Char
  contents : Text
  behind : Text
  whole : text = before ++ mark :: (contents ++ mark :: behind)
  code : Region.code.after before = .code
  marks : isQuotationMark mark = true
  quoted : IsQuoted mark contents

theorem step_of_inside {c : Char} (inside : ((Region.quoted mark last).step c).mark? = some mark) :
    (Region.quoted mark last).step c = .quoted mark c := by
  unfold Region.step at inside ⊢
  dsimp only at inside ⊢
  split at inside
  · cases inside
  · next stays => rw [if_neg stays]

/-- No comment begins in a quotation, nor at its end. -/
theorem commentless_of_inside
    (inside : ∀ part, part <+: contents → ((Region.quoted mark last).after part).mark? = some mark) (c : Char) :
    Commentless (.quoted mark last) (contents ++ [c]) := by
  induction contents generalizing last with
  | nil => exact .quoted (.nil (isComment_step _ c))
  | cons d contents ih =>
    have after (part : Text) : (Region.quoted mark last).after (d :: part) =
        ((Region.quoted mark last).step d).after part := by
      rw [Region.after]
      rfl
    have here : ((Region.quoted mark last).step d).mark? = some mark := by
      have first := inside [d] (by simp)
      rwa [after, Region.after] at first
    have stays := step_of_inside here
    refine .quoted (stays ▸ ih fun part ahead => ?_)
    have longer := inside (d :: part) (List.cons_prefix_cons.mpr ⟨rfl, ahead⟩)
    rwa [after, stays] at longer

theorem Region.Alike.mark?_eq (alike : region.Alike other) : region.mark? = other.mark? := by
  cases alike <;> rfl

theorem Commentless.alike_collapse (commentless : Commentless region text) (alike : region.Alike region) :
    (region.after text).Alike (region.after (Text.collapse ' ' text)) := by
  unfold Text.collapse
  rw [commentless.after_eq, (commentless.collapseFrom alike (by simp)).after_eq]
  exact alike.foldl_collapseFrom (by simp) text

/-- What a collapsed text begins with is what a part of the text collapses to. -/
theorem exists_prefix_collapseFrom {within : Bool} {part : Text} (ahead : part <+: collapseFrom ' ' within text) :
    ∃ front, front <+: text ∧ part = collapseFrom ' ' within front := by
  induction text generalizing within part with
  | nil => exact ⟨[], List.prefix_rfl, List.prefix_nil.mp ahead⟩
  | cons c text ih =>
    have behind {d : Char} {here : Bool} (ahead : part <+: d :: collapseFrom ' ' here text)
        (kept : ∀ front, collapseFrom ' ' within (c :: front) = d :: collapseFrom ' ' here front) :
        ∃ front, front <+: c :: text ∧ part = collapseFrom ' ' within front := by
      cases part with
      | nil => exact ⟨[], List.nil_prefix, rfl⟩
      | cons e part =>
        obtain ⟨rfl, shorter⟩ := List.cons_prefix_cons.mp ahead
        obtain ⟨front, inside, rfl⟩ := ih shorter
        exact ⟨c :: front, List.cons_prefix_cons.mpr ⟨rfl, inside⟩, (kept front).symm⟩
    by_cases blank : isBlank c = true
    · cases within with
      | true =>
        have dropped (front : Text) : collapseFrom ' ' true (c :: front) = collapseFrom ' ' true front := by
          rw [collapseFrom, if_pos blank, if_pos rfl]
        rw [dropped] at ahead
        obtain ⟨front, inside, rfl⟩ := ih ahead
        exact ⟨c :: front, List.cons_prefix_cons.mpr ⟨rfl, inside⟩, (dropped front).symm⟩
      | false =>
        have kept (front : Text) : collapseFrom ' ' false (c :: front) = ' ' :: collapseFrom ' ' true front := by
          rw [collapseFrom, if_pos blank, if_neg (by decide)]
        exact behind (kept text ▸ ahead) kept
    · have kept (front : Text) : collapseFrom ' ' within (c :: front) = c :: collapseFrom ' ' false front := by
        rw [collapseFrom, if_neg blank]
      exact behind (kept text ▸ ahead) kept

theorem quotation_solid (marks : isQuotationMark mark = true) : isBlank mark = false :=
  Bool.eq_false_iff.mpr fun blank => by
    rw [isQuotationMark_of_isBlank blank] at marks
    cases marks

/-- A quotation stays one, with the same mark, when the blanks in it are collapsed. -/
theorem IsQuoted.collapse (marks : isQuotationMark mark = true) (quoted : IsQuoted mark contents) :
    IsQuoted mark (Text.collapse ' ' contents) := by
  have inside (part : Text) (ahead : part <+: contents) := quoted.inside part ((List.mem_inits _ _).mpr ahead)
  have alike : (Region.quoted mark mark).Alike (.quoted mark mark) := .quoted marks rfl
  have bare : Commentless (.quoted mark mark) (contents ++ [mark]) := commentless_of_inside inside mark
  refine ⟨fun part member => ?_, ?_⟩
  · obtain ⟨front, ahead, rfl⟩ := exists_prefix_collapseFrom ((List.mem_inits _ _).mp member)
    obtain ⟨back, rfl⟩ := id ahead
    exact (bare.of_append.of_append.alike_collapse alike).mark?_eq.symm.trans (inside front ahead)
  · have solid := quotation_solid marks
    have same := bare.alike_collapse alike
    rw [quoted.closes, collapse_append solid] at same
    cases closed : (Region.quoted mark mark).after (Text.collapse ' ' contents ++ [mark]) with
    | code => rfl
    | quoted | lineComment | blockComment =>
      have there := closed ▸ same
      cases there

theorem isClear_quotation (marks : isQuotationMark mark = true) (rest : Text) : IsClear (mark :: rest) := by
  intro c first
  obtain rfl := Option.some.inj first
  refine ⟨?_, ?_, ?_⟩ <;> (rintro rfl; cases marks)

/-- Comments are read from what stands around a quotation. -/
theorem uncomment_quotation (marks : isQuotationMark mark = true) (quoted : IsQuoted mark contents) (behind : Text) :
    uncomment .code (mark :: (contents ++ mark :: behind)) = mark :: (contents ++ mark :: uncomment .code behind) := by
  have opens : opensComment mark (contents ++ mark :: behind) = false :=
    opensComment_of_ne (by rintro rfl; cases marks) (by rintro rfl; cases marks) _
  have inside : Region.code.step mark = .quoted mark mark := by simp [Region.step, marks]
  have bare := commentless_of_inside (fun part ahead => quoted.inside part ((List.mem_inits _ _).mpr ahead)) mark
  have last : (contents ++ [mark]).getLast? = some mark := by simp
  have apart : Apart (.quoted mark mark) (contents ++ [mark]) behind := by
    refine ⟨fun ends => ?_, fun ends => ?_, fun ends => ?_⟩ <;>
      (obtain rfl := Option.some.inj (last.symm.trans ends); cases marks)
  have joined := uncomment_append_of_apart apart
  rw [bare.uncomment_eq, quoted.closes, List.append_assoc, List.append_assoc] at joined
  rw [uncomment_code opens, inside]
  exact congrArg _ joined

theorem normalized_quotation (code : Region.code.after before = .code) (marks : isQuotationMark mark = true)
    (quoted : IsQuoted mark contents) (behind : Text) : normalized (before ++ mark :: (contents ++ mark :: behind)) =
      normalizedFront before ++ mark :: (collapse ' ' contents ++ mark :: normalizedBack behind) := by
  have solid := quotation_solid marks
  unfold normalized withoutComments
  rw [uncomment_append (isClear_quotation marks _), code, uncomment_quotation marks quoted, collapse_append solid,
    collapse_append solid, trim_append solid, trimEnd_append solid]
  rfl

/-- What stands in front of a quotation is code in the normal form too. -/
theorem code_normalizedFront (code : Region.code.after before = .code) :
    Region.code.after (normalizedFront before) = .code := by
  have bare : Commentless .code (uncomment .code before) := commentless_uncomment .code before
  have stripped : Region.code.after (uncomment .code before) = .code := by
    rw [bare.after_eq]
    exact (foldl_uncomment .code before).trans (congrArg Region.resumed code)
  have collapsed : Region.code.after (Text.collapse ' ' (uncomment .code before)) = .code := by
    have same := bare.alike_collapse .code
    rw [stripped] at same
    cases there : Region.code.after (Text.collapse ' ' (uncomment .code before)) with
    | code => rfl
    | quoted | lineComment | blockComment => cases there ▸ same
  obtain ⟨gap, blank, split⟩ := exists_trimStart (Text.collapse ' ' (uncomment .code before))
  have spaced : Commentless .code (Text.collapse ' ' (uncomment .code before)) := bare.collapseFrom .code (by simp)
  have front : Text.collapse ' ' (uncomment .code before) = gap ++ normalizedFront before := split
  rw [front] at spaced collapsed
  have begun := spaced.behind
  rw [spaced.after_eq, List.foldl_append, foldl_step_of_isBlank blank] at collapsed
  rw [foldl_step_of_isBlank blank] at begun
  rw [begun.after_eq, collapsed]

/-- A quotation is found again in the normal form, with the same mark and a single space for each run of blanks in
it. So it is kept as it is exactly if it has no other blanks than single spaces, and it might as well have been
written so. -/
theorem quotation_squeezed (quotation : Quotation text) : ∃ squeezed : Quotation (normalized text),
    squeezed.before = normalizedFront quotation.before ∧ squeezed.mark = quotation.mark ∧
      squeezed.contents = Text.collapse ' ' quotation.contents ∧ squeezed.behind = normalizedBack quotation.behind ∧
      (squeezed.contents = quotation.contents ↔ IsSpaced quotation.contents) ∧
      read (String.ofList text) = read (String.ofList (quotation.before ++
        quotation.mark :: (squeezed.contents ++ quotation.mark :: quotation.behind))) := by
  obtain ⟨before, mark, contents, behind, rfl, code, marks, quoted⟩ := quotation
  have squeezed := quoted.collapse marks
  have settled : Text.collapse ' ' (Text.collapse ' ' contents) = Text.collapse ' ' contents :=
    (isSpaced_collapse contents).collapse
  have rewritten : normalized (before ++ mark :: (contents ++ mark :: behind)) =
      normalized (before ++ mark :: (Text.collapse ' ' contents ++ mark :: behind)) := by
    rw [normalized_quotation code marks quoted, normalized_quotation code marks squeezed, settled]
  refine ⟨⟨normalizedFront before, mark, Text.collapse ' ' contents, normalizedBack behind,
    normalized_quotation code marks quoted behind, code_normalizedFront code, marks, squeezed⟩,
    rfl, rfl, rfl, rfl, ⟨fun same => ?_, fun spaced => spaced.collapse⟩, ?_⟩
  · have spaced := isSpaced_collapse contents
    rwa [show Text.collapse ' ' contents = contents from same] at spaced
  · unfold read
    rw [String.toList_ofList, String.toList_ofList]
    exact congrArg readNormalized rewritten

/-- The contents begin with the mark itself, behind a backslash, and a tab and a line break stand in them. -/
theorem quotation_squeezed_escaped :
    ∃ quotation : Quotation "/* it's */ CREATE TABLE \"\\\"\t\na\" (b int)".toList,
      quotation.contents = "\\\"\t\na".toList ∧ ¬IsSpaced quotation.contents ∧
        ∃ squeezed : Quotation (normalized "/* it's */ CREATE TABLE \"\\\"\t\na\" (b int)".toList),
          squeezed.before = "CREATE TABLE ".toList ∧ squeezed.contents = "\\\" a".toList ∧
            squeezed.behind = " (b int)".toList := by
  let quotation : Quotation "/* it's */ CREATE TABLE \"\\\"\t\na\" (b int)".toList :=
    ⟨"/* it's */ CREATE TABLE ".toList, '"', "\\\"\t\na".toList, " (b int)".toList, by decide, by decide, rfl,
      ⟨by decide, by decide⟩⟩
  obtain ⟨squeezed, front, _, inside, back, kept, _⟩ := quotation_squeezed quotation
  have contents : squeezed.contents = "\\\" a".toList := inside.trans (by decide)
  refine ⟨quotation, rfl, fun spaced => ?_, squeezed, front.trans (by decide), contents, back.trans (by decide)⟩
  exact absurd (contents.symm.trans (kept.mpr spaced)) (by decide)

/-- The promise that the normal form keeps quotations as they are. -/
def KeepsQuotations (text : Text) : Prop :=
  ∀ quotation : Quotation text,
    quotation.mark :: (quotation.contents ++ [quotation.mark]) <:+: normalized text

/-- It is not kept if there are two spaces in a literal, and the default value is another one than written. -/
theorem quotation_not_kept :
    ¬KeepsQuotations "CREATE TABLE t (a varchar(9) DEFAULT 'x  y')".toList ∧
      ((read "CREATE TABLE t (a varchar(9) DEFAULT 'x  y')").table? "t").map
        (fun table => table.columns.entries.map fun column => column.defaultValue) = some [some "'x y'"] := by
  refine ⟨fun kept => ?_, by decide +kernel⟩
  have written := kept ⟨"CREATE TABLE t (a varchar(9) DEFAULT ".toList, '\'', "x  y".toList, [')'], by decide,
    by decide, rfl, ⟨by decide, by decide⟩⟩
  revert written
  decide +kernel

end Quoted
end Script
end SchemaAtlas
