import SchemaAtlas.Proofs.Script.Comments
import SchemaAtlas.Proofs.Script.Splitting
import SchemaAtlas.Proofs.Text.Spacing
/-!
Literals of a script: what stands between two single quotation marks. The reader of comments, the collapse of
blanks and the split into statements take a literal as it is, and read what is around it as if something else
stood in it.
-/
namespace SchemaAtlas
open Text

namespace Script

/-- The contents of a literal. A single mark in it stands twice or behind a backslash, and no backslash stands at
its end. -/
def isContents (last : Char) : Text → Bool
  | [] => last != '\\'
  | c :: rest =>
    if c == '\'' && last != '\\' then
      match rest with
      | '\'' :: more => isContents '\'' more
      | _ => false
    else isContents c rest

section Contents
variable {contents rest : Text} {last other : Char}

theorem uncomment_contents (inside : isContents last contents = true) (rest : Text) :
    uncomment (.quoted '\'' last) (contents ++ '\'' :: rest) = contents ++ '\'' :: uncomment .code rest := by
  fun_induction isContents last contents with
  | case1 last => simp [uncomment, inside]
  | case2 last c closes more ih =>
    obtain ⟨mark, plain⟩ := Bool.and_eq_true_iff.mp closes
    obtain rfl := beq_iff_eq.mp mark
    have quotes : isQuotationMark '\'' = true := rfl
    simp [uncomment, plain, quotes, ih inside]
  | case3 => cases inside
  | case4 last c text stays ih =>
    have kept : (c == '\'' && last != '\\') = false := Bool.eq_false_iff.mpr stays
    rw [List.cons_append, uncomment, kept, if_neg (by simp), ih inside, List.cons_append]

theorem isContents_collapseFrom (inside : isContents last contents = true) (alike : (other == '\\') = (last == '\\'))
    {within : Bool} (spaced : within = true → other ≠ '\\') :
    isContents other (collapseFrom ' ' within contents) = true := by
  have mark_solid : isBlank '\'' = false := by decide
  have no_escape {c : Char} (blank : isBlank c = true) : (c == '\\') = false := by
    rw [beq_eq_false_iff_ne]
    rintro rfl
    exact absurd blank (by decide)
  fun_induction isContents last contents generalizing other within with
  | case1 last => simpa [collapseFrom, isContents, bne, alike] using inside
  | case2 last c closes more ih =>
    obtain ⟨mark, plain⟩ := Bool.and_eq_true_iff.mp closes
    obtain rfl := beq_iff_eq.mp mark
    have unescaped : (other != '\\') = true := by rwa [bne, alike]
    simp only [collapseFrom, mark_solid, Bool.false_eq_true, ↓reduceIte, isContents, beq_self_eq_true, unescaped,
      Bool.and_self]
    exact ih inside rfl (by simp)
  | case3 => cases inside
  | case4 last c text stays ih =>
    unfold collapseFrom
    by_cases blank : isBlank c = true
    · rw [if_pos blank]
      split
      · next again =>
        have escaped : (other == '\\') = (c == '\\') := by
          rw [no_escape blank, beq_eq_false_iff_ne]
          exact spaced again
        exact ih inside escaped fun _ => spaced again
      · unfold isContents
        rw [if_neg (by simp)]
        have escaped : (' ' == '\\') = (c == '\\') := by
          rw [no_escape blank]
          decide
        exact ih inside escaped fun _ => by decide
    · rw [if_neg blank]
      have kept : (c == '\'' && other != '\\') = false := by
        rw [bne, alike]
        exact Bool.eq_false_iff.mpr stays
      unfold isContents
      rw [if_neg (by simp [kept])]
      exact ih inside rfl (by simp)

theorem isContents_collapse (inside : isContents last contents = true) :
    isContents last (collapse ' ' contents) = true := isContents_collapseFrom inside rfl (by simp)

/-- Within single marks only such a mark counts, and only if no backslash stands in front of it. -/
theorem step_quoted (depth : Nat) (c : Char) : (⟨some '\'', depth, some last⟩ : Nesting).step c =
    if c == '\'' && last != '\\' then ⟨none, depth, some '\''⟩ else ⟨some '\'', depth, some c⟩ := by
  have marks : isQuotationMark '\'' = true := rfl
  have escapes : (some last != some '\\') = (last != '\\') := by
    rw [bne, bne, Option.some_beq_some]
  by_cases closes : (c == '\'' && last != '\\') = true
  · obtain ⟨mark, plain⟩ := Bool.and_eq_true_iff.mp closes
    obtain rfl := beq_iff_eq.mp mark
    rw [if_pos closes]
    simp [Nesting.step, Nesting.nextQuote, marks, escapes, plain]
  · have stays : (⟨some '\'', depth, some last⟩ : Nesting).nextQuote c = some '\'' := by
      unfold Nesting.nextQuote
      dsimp only
      rw [escapes]
      split
      · next counts =>
        obtain ⟨_, plain⟩ := Bool.and_eq_true_iff.mp counts
        rw [plain, Bool.and_true] at closes
        rw [if_neg closes]
      · rfl
    rw [if_neg closes]
    simp [Nesting.step, stays]

/-- No statement ends in a literal, and behind it a scan stands where it stood in front. -/
theorem pieces_contents (inside : isContents last contents = true) (depth : Nat) :
    pieces ';' ⟨some '\'', depth, some last⟩ (contents ++ ['\'']) = [contents ++ ['\'']] ∧
      (contents ++ ['\'']).foldl Nesting.step ⟨some '\'', depth, some last⟩ = ⟨none, depth, some '\''⟩ := by
  have quoted (last : Option Char) : (⟨some '\'', depth, last⟩ : Nesting).isTop = false := rfl
  have mark_stays (state : Nesting) : ('\'' == ';' && state.isTop) = false := rfl
  fun_induction isContents last contents with
  | case1 last =>
    have closed : (⟨some '\'', depth, some last⟩ : Nesting).step '\'' = ⟨none, depth, some '\''⟩ := by
      rw [step_quoted, if_pos (by simpa using inside)]
    rw [List.nil_append, pieces_cons (mark_stays _), List.foldl_cons, closed]
    exact ⟨rfl, rfl⟩
  | case2 last c closes more ih =>
    obtain ⟨mark, plain⟩ := Bool.and_eq_true_iff.mp closes
    obtain rfl := beq_iff_eq.mp mark
    have closed : (⟨some '\'', depth, some last⟩ : Nesting).step '\'' = ⟨none, depth, some '\''⟩ := by
      rw [step_quoted, if_pos closes]
    have opened : (⟨none, depth, some '\''⟩ : Nesting).step '\'' = ⟨some '\'', depth, some '\''⟩ := rfl
    obtain ⟨single, behind⟩ := ih inside
    rw [List.cons_append, List.cons_append, pieces_cons (mark_stays _), pieces_cons (mark_stays _), List.foldl_cons,
      List.foldl_cons, closed, opened, single, behind]
    exact ⟨rfl, rfl⟩
  | case3 => cases inside
  | case4 last c text stays ih =>
    have kept : (⟨some '\'', depth, some last⟩ : Nesting).step c = ⟨some '\'', depth, some c⟩ := by
      rw [step_quoted, if_neg stays]
    obtain ⟨single, behind⟩ := ih inside
    rw [List.cons_append, pieces_cons (by rw [kept, quoted, Bool.and_false]), List.foldl_cons, kept, single, behind]
    exact ⟨rfl, rfl⟩

end Contents

/-- The normal form of what stands in front of a literal. -/
def normalizedFront (before : Text) : Text := trimStart (collapse ' ' (withoutComments before))

/-- The normal form of what stands behind a literal. -/
def normalizedBack (behind : Text) : Text := trimEnd (collapse ' ' (withoutComments behind))

/-- A script with a literal in it. -/
def withLiteral (before contents behind : Text) : Text := before ++ '\'' :: (contents ++ '\'' :: behind)

section Literal
variable {before contents behind front back : Text}

theorem normalized_withLiteral (code : Region.code.after before = .code) (inside : isContents '\'' contents = true)
    (behind : Text) : normalized (withLiteral before contents behind) =
      withLiteral (normalizedFront before) (collapse ' ' contents) (normalizedBack behind) := by
  have clear : IsClear ('\'' :: (contents ++ '\'' :: behind)) := by
    intro c mark
    obtain rfl := Option.some.inj mark
    decide
  have opens : uncomment .code ('\'' :: (contents ++ '\'' :: behind)) =
      '\'' :: uncomment (.quoted '\'' '\'') (contents ++ '\'' :: behind) := by
    rw [uncomment] <;> simp [isQuotationMark]
  have solid : isBlank '\'' = false := by decide
  unfold normalized withoutComments withLiteral
  rw [uncomment_append clear, code, opens, uncomment_contents inside, collapse_append solid, collapse_append solid,
    trim_append solid, trimEnd_append solid]
  rfl

theorem pieces_literal {state : Nesting} (unquoted : state.quote = none) (plain : state.last ≠ some '\\')
    (inside : isContents '\'' contents = true) :
    pieces ';' state ('\'' :: (contents ++ ['\''])) = ['\'' :: (contents ++ ['\''])] ∧
      ('\'' :: (contents ++ ['\''])).foldl Nesting.step state = ⟨none, state.depth, some '\''⟩ := by
  obtain ⟨_, depth, last⟩ := state
  obtain rfl := unquoted
  have opens : (⟨none, depth, last⟩ : Nesting).step '\'' = ⟨some '\'', depth, some '\''⟩ := by
    have counts : (last != some '\\') = true := bne_iff_ne.mpr plain
    simp [Nesting.step, Nesting.nextQuote, isQuotationMark, counts]
  obtain ⟨single, behind⟩ := pieces_contents inside depth
  rw [pieces_cons rfl, List.foldl_cons, opens, single, behind]
  exact ⟨rfl, rfl⟩

/-- A script with other contents of a literal has the same statements, but for the one with the literal. -/
theorem statements_withLiteral (unquoted : (front.foldl Nesting.step .outside).quote = none)
    (plain : (front.foldl Nesting.step .outside).last ≠ some '\\') (back : Text) :
    ∃ earlier more others, ∀ contents, isContents '\'' contents = true →
      statements (withLiteral front contents back) =
          earlier ++ withLiteral (trimStart (current front)) contents more :: others ∧
        statementAt front ('\'' :: (contents ++ '\'' :: back)) =
          withLiteral (trimStart (current front)) contents more := by
  obtain ⟨first, behind, split, _⟩ :=
    exists_pieces_cons ';' ⟨none, (front.foldl Nesting.step .outside).depth, some '\''⟩ back
  refine ⟨((pieces ';' .outside front).dropLast.map Text.trim).filter (· != []), trimEnd first,
    (behind.map Text.trim).filter (· != []), fun contents inside => ?_⟩
  obtain ⟨single, after⟩ := pieces_literal unquoted plain inside
  have rest : '\'' :: (contents ++ '\'' :: back) = '\'' :: (contents ++ ['\'']) ++ back := by simp
  have whole : pieces ';' (front.foldl Nesting.step .outside) ('\'' :: (contents ++ '\'' :: back)) =
      ('\'' :: (contents ++ ['\'']) ++ first) :: behind := by
    rw [rest]
    exact pieces_of_append (single.trans (List.nil_append _).symm) (by rw [after, split])
  have solid : isBlank '\'' = false := by decide
  have here : statementAt front ('\'' :: (contents ++ '\'' :: back)) =
      withLiteral (trimStart (current front)) contents (trimEnd first) := by
    have goes_on : current front ++ ('\'' :: (contents ++ ['\'']) ++ first) =
        current front ++ '\'' :: (contents ++ '\'' :: first) := by simp
    simp only [statementAt, upcoming, whole, List.head_cons]
    rw [goes_on, trim_append solid, trimEnd_append solid]
    rfl
  refine ⟨?_, here⟩
  have filled : (withLiteral (trimStart (current front)) contents (trimEnd first) != []) = true := by
    simp [withLiteral]
  rw [withLiteral, statements_append, whole, here, List.filter_append]
  simp only [List.filter_cons, filled, ↓reduceIte, List.tail_cons]

end Literal
end Script
end SchemaAtlas
