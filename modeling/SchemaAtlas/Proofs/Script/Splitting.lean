import Mathlib.Data.List.DropRight
import SchemaAtlas.Proofs.Script.Enclosure
/-!
Texts that are split in two parts. The last piece of the first part goes on as the first piece of the second
one; all other pieces are those of the parts. What stands in parentheses that close goes into one piece.
-/
namespace SchemaAtlas
open Text

namespace Text
variable {c : Char} {front rest : Text}

theorem trimStart_append (solid : isBlank c = false) (front rest : Text) :
    trimStart (front ++ c :: rest) = trimStart front ++ c :: rest := by
  have stops : (c :: rest).dropWhile isBlank = c :: rest := List.dropWhile_cons_of_neg (by simp [solid])
  unfold trimStart
  rw [List.dropWhile_append, stops]
  cases gone : front.dropWhile isBlank <;> rfl

theorem trimEnd_append (solid : isBlank c = false) (front rest : Text) :
    trimEnd (front ++ c :: rest) = front ++ c :: trimEnd rest := by
  have turned : (front ++ c :: rest).reverse = rest.reverse ++ c :: front.reverse := by simp
  have same := trimStart_append solid rest.reverse front.reverse
  unfold trimStart at same
  unfold trimEnd
  rw [turned, same]
  simp

theorem trim_append (solid : isBlank c = false) (front rest : Text) :
    trim (front ++ c :: rest) = trimStart front ++ c :: trimEnd rest := by
  rw [trim, trimStart_append solid, trimEnd_append solid]

/-- What is trimmed at the beginning is blank. -/
theorem exists_trimStart (text : Text) : ∃ gap, (∀ c ∈ gap, isBlank c = true) ∧ text = gap ++ trimStart text :=
  ⟨text.takeWhile isBlank, fun _ member => List.mem_takeWhile_imp member, List.takeWhile_append_dropWhile.symm⟩

theorem exists_trimEnd (text : Text) : ∃ gap, (∀ c ∈ gap, isBlank c = true) ∧ text = trimEnd text ++ gap := by
  obtain ⟨gap, blank, same⟩ := exists_trimStart text.reverse
  refine ⟨gap.reverse, fun c member => blank c (List.mem_reverse.mp member), ?_⟩
  have turned := congrArg List.reverse same
  rwa [List.reverse_reverse, List.reverse_append] at turned

/-- What is trimmed is blank. -/
theorem exists_trim (text : Text) : ∃ gap tail, (∀ c ∈ gap, isBlank c = true) ∧ (∀ c ∈ tail, isBlank c = true) ∧
    text = gap ++ (trim text ++ tail) := by
  obtain ⟨gap, blank, same⟩ := exists_trimStart text
  obtain ⟨tail, tail_blank, rest⟩ := exists_trimEnd (trimStart text)
  rw [rest] at same
  exact ⟨gap, tail, blank, tail_blank, same⟩

/-- A text that is trimmed at its end may still have a gap in front. -/
theorem exists_trimEnd_eq (text : Text) : ∃ gap, (∀ c ∈ gap, isBlank c = true) ∧ trimEnd text = gap ++ trim text := by
  obtain ⟨gap, blank, same⟩ := exists_trimStart text
  have starts := List.head?_dropWhile_not isBlank text
  cases left : trimStart text with
  | nil =>
    have gone : gap.reverse.dropWhile isBlank = [] :=
      List.dropWhile_eq_nil_iff.mpr fun c member => blank c (List.mem_reverse.mp member)
    refine ⟨[], fun c member => absurd member List.not_mem_nil, ?_⟩
    rw [left, List.append_nil] at same
    rw [trim, left, same, trimEnd, gone]
    rfl
  | cons c others =>
    have solid : isBlank c = false := by
      unfold trimStart at left
      rw [left] at starts
      simpa using starts
    have front := trimEnd_append solid [] others
    rw [List.nil_append, List.nil_append] at front
    refine ⟨gap, blank, ?_⟩
    rw [trim, left, front]
    nth_rewrite 1 [same]
    rw [left, trimEnd_append solid]

end Text

namespace Script
variable {separator : Char} {state : Nesting} {text rest front first : Text} {earlier others : List Text}

theorem pieces_ne_nil (separator : Char) (state : Nesting) (text : Text) : pieces separator state text ≠ [] := by
  cases text with
  | nil => exact List.cons_ne_nil _ _
  | cons c rest =>
    unfold pieces
    dsimp only
    split
    · exact List.cons_ne_nil _ _
    · exact extendFirst_ne_nil c _

/-- A character that separates nothing stays in its piece. -/
theorem pieces_cons {c : Char} (stays : (c == separator && (state.step c).isTop) = false) (rest : Text) :
    pieces separator state (c :: rest) = extendFirst c (pieces separator (state.step c) rest) := by
  rw [pieces]
  simp only [stays, Bool.false_eq_true, ↓reduceIte]

theorem exists_pieces (separator : Char) (state : Nesting) (text : Text) :
    ∃ earlier front, pieces separator state text = earlier ++ [front] := by
  rcases List.eq_nil_or_concat (pieces separator state text) with empty | ⟨earlier, front, same⟩
  · exact absurd empty (pieces_ne_nil separator state text)
  · exact ⟨earlier, front, same.trans (List.concat_eq_append)⟩

/-- The last piece so far goes on as the first piece of what follows. -/
theorem pieces_of_append (split : pieces separator state text = earlier ++ [front])
    (behind : pieces separator (text.foldl Nesting.step state) rest = first :: others) :
    pieces separator state (text ++ rest) = earlier ++ (front ++ first) :: others := by
  induction text generalizing state earlier front with
  | nil =>
    have same : [[]] = earlier ++ [front] := split
    obtain ⟨rfl, rfl⟩ : earlier = [] ∧ front = [] := by
      cases earlier with
      | nil => exact ⟨rfl, (List.cons.inj same).1.symm⟩
      | cons piece earlier => simp at same
    exact behind
  | cons c text ih =>
    obtain ⟨before, last, later⟩ := exists_pieces separator (state.step c) text
    have whole := ih later behind
    rw [List.cons_append, pieces]
    unfold pieces at split
    dsimp only at split ⊢
    rw [later] at split
    rw [whole]
    split at split
    · next separates =>
      have same : ([] :: before) ++ [last] = earlier ++ [front] := split
      obtain ⟨rfl, one⟩ := List.append_inj' same rfl
      rw [if_pos separates, ← (List.cons.inj one).1]
      rfl
    · next stays =>
      rw [if_neg stays]
      cases before with
      | nil =>
        have same : [] ++ [c :: last] = earlier ++ [front] := split
        obtain ⟨rfl, one⟩ := List.append_inj' same rfl
        rw [← (List.cons.inj one).1]
        rfl
      | cons piece before =>
        have same : ((c :: piece) :: before) ++ [last] = earlier ++ [front] := split
        obtain ⟨rfl, one⟩ := List.append_inj' same rfl
        rw [← (List.cons.inj one).1]
        rfl

/-- The first piece is read off the text. -/
theorem exists_pieces_cons (separator : Char) (state : Nesting) (text : Text) :
    ∃ first others, pieces separator state text = first :: others ∧ first <+: text := by
  induction text generalizing state with
  | nil => exact ⟨[], [], rfl, List.prefix_rfl⟩
  | cons c text ih =>
    obtain ⟨first, others, same, ahead⟩ := ih (state.step c)
    unfold pieces
    dsimp only
    split
    · exact ⟨[], _, rfl, List.nil_prefix⟩
    · exact ⟨c :: first, others, by rw [same]; rfl, List.cons_prefix_cons.mpr ⟨rfl, ahead⟩⟩

/-- The statement at the end of a text, as far as it goes. -/
def current (text : Text) : Text := (pieces ';' .outside text).getLast (pieces_ne_nil _ _ _)

/-- How the statement at a place goes on. -/
def upcoming (before rest : Text) : Text :=
  (pieces ';' (before.foldl Nesting.step .outside) rest).head (pieces_ne_nil _ _ _)

/-- The statement that a place between two texts lies in. -/
def statementAt (before rest : Text) : Text := Text.trim (current before ++ upcoming before rest)

/-- The statements of a text, around the one at a place of it. -/
theorem statements_append (before rest : Text) : statements (before ++ rest) =
    (((pieces ';' .outside before).dropLast.map Text.trim ++ statementAt before rest ::
      (pieces ';' (before.foldl Nesting.step .outside) rest).tail.map Text.trim).filter (· != [])) := by
  have split : pieces ';' .outside before = (pieces ';' .outside before).dropLast ++ [current before] :=
    (List.dropLast_append_getLast (pieces_ne_nil _ _ _)).symm
  have behind : pieces ';' (before.foldl Nesting.step .outside) rest = upcoming before rest ::
      (pieces ';' (before.foldl Nesting.step .outside) rest).tail := (List.cons_head_tail (pieces_ne_nil _ _ _)).symm
  rw [statements, splitTop, pieces_of_append split behind, List.map_append, List.map_cons]
  rfl

theorem statementAt_mem {before rest : Text} (filled : statementAt before rest ≠ []) :
    statementAt before rest ∈ statements (before ++ rest) := by
  rw [statements_append]
  exact List.mem_filter.mpr ⟨List.mem_append_right _ List.mem_cons_self, bne_iff_ne.mpr filled⟩

section Closing
variable {length : Nat}

/-- The same place, with more parentheses around it. -/
def Nesting.deeper (count : Nat) (state : Nesting) : Nesting := { state with depth := state.depth + count }

theorem Nesting.step_deeper (within : 0 < state.depth) (count : Nat) (c : Char) :
    (state.deeper count).step c = (state.step c).deeper count := by
  obtain ⟨quote, depth, last⟩ := state
  have inside : 0 < depth := within
  have same : (⟨quote, depth + count, last⟩ : Nesting).nextQuote c =
      (⟨quote, depth, last⟩ : Nesting).nextQuote c := rfl
  simp only [step, deeper, same, Nesting.mk.injEq, true_and, and_true]
  split
  · rfl
  · split
    · omega
    · split <;> omega

/-- Only a closing parenthesis leads out. -/
theorem Nesting.closes_of_depth (within : 0 < state.depth) {c : Char} (out : (state.step c).depth = 0) : c = ')' := by
  by_contra other
  have stays : (state.step c).depth = state.depth ∨ (state.step c).depth = state.depth + 1 := by
    simp only [step, beq_eq_false_iff_ne.mpr other, Bool.false_eq_true, ↓reduceIte]
    split
    · exact Or.inl rfl
    · split
      · exact Or.inr rfl
      · exact Or.inl rfl
  omega

theorem closing?_append (closes : closing? state text = some length) (rest : Text) :
    closing? state (text ++ rest) = some length := by
  induction text generalizing state length with
  | nil => cases closes
  | cons c text ih =>
    unfold closing? at closes
    rw [List.cons_append, closing?]
    dsimp only at closes ⊢
    split at closes
    · next out => rw [if_pos out, closes]
    · next stays =>
      obtain ⟨before, found, rfl⟩ := Option.map_eq_some_iff.mp closes
      rw [if_neg stays, ih found, Option.map_some]

/-- A text in parentheses needs nothing behind the closing one. -/
theorem exists_closing (closes : closing? state text = some length) :
    ∃ inner rest, text = inner ++ rest ∧ inner.length = length + 1 ∧ closing? state inner = some length := by
  induction text generalizing state length with
  | nil => cases closes
  | cons c text ih =>
    unfold closing? at closes
    dsimp only at closes
    split at closes
    · next out =>
      obtain rfl := Option.some.inj closes
      exact ⟨[c], text, rfl, rfl, by rw [closing?, if_pos out]⟩
    · next stays =>
      obtain ⟨before, found, rfl⟩ := Option.map_eq_some_iff.mp closes
      obtain ⟨inner, rest, rfl, long, again⟩ := ih found
      refine ⟨c :: inner, rest, rfl, by rw [List.length_cons, long], ?_⟩
      rw [closing?, if_neg stays, again, Option.map_some]

/-- No separator stands in parentheses, however deep they are. -/
theorem pieces_of_closing (within : 0 < state.depth) (other : separator ≠ ')') (count : Nat)
    (closes : closing? state text = some length) (whole : text.length = length + 1) :
    pieces separator (state.deeper count) text = [text] ∧ text.getLast? = some ')' := by
  induction text generalizing state length with
  | nil => cases closes
  | cons c text ih =>
    unfold closing? at closes
    dsimp only at closes
    rw [List.length_cons] at whole
    split at closes
    · next out =>
      obtain rfl := Option.some.inj closes
      obtain rfl := List.length_eq_zero_iff.mp (Nat.succ.inj whole)
      obtain rfl := Nesting.closes_of_depth within (beq_iff_eq.mp out)
      have kept : (')' == separator) = false := beq_eq_false_iff_ne.mpr other.symm
      rw [pieces_cons (by rw [kept, Bool.false_and])]
      exact ⟨rfl, rfl⟩
    · next stays =>
      obtain ⟨before, found, rfl⟩ := Option.map_eq_some_iff.mp closes
      have inside : 0 < (state.step c).depth := Nat.pos_of_ne_zero fun out => stays (beq_iff_eq.mpr out)
      obtain ⟨single, last⟩ := ih inside found (Nat.succ.inj whole)
      have deep : ((state.step c).deeper count).isTop = false := by
        have under : ((state.step c).depth + count == 0) = false := beq_eq_false_iff_ne.mpr (by omega)
        simp only [Nesting.isTop, Nesting.deeper, under, Bool.and_false]
      rw [pieces_cons (by rw [Nesting.step_deeper within, deep, Bool.and_false]), Nesting.step_deeper within, single]
      refine ⟨rfl, ?_⟩
      rw [List.getLast?_cons, last]
      rfl

theorem Nesting.step_opening_deeper (unquoted : state.quote = none) : state.step '(' = opened.deeper state.depth := by
  obtain ⟨_, depth, last⟩ := state
  obtain rfl := unquoted
  rw [step_opening, Nat.add_comm]
  rfl

theorem pieces_of_group (different : separator ≠ '(') (other : separator ≠ ')') (unquoted : state.quote = none)
    (closes : closing? .opened text = some length) (whole : text.length = length + 1) :
    pieces separator state ('(' :: text) = ['(' :: text] ∧ text.getLast? = some ')' := by
  have kept : ('(' == separator) = false := beq_eq_false_iff_ne.mpr different.symm
  obtain ⟨single, final⟩ := pieces_of_closing (show 0 < Nesting.opened.depth by decide) other state.depth closes whole
  rw [pieces_cons (by rw [kept, Bool.false_and]), Nesting.step_opening_deeper unquoted, single]
  exact ⟨rfl, final⟩

/-- A group that closes is not broken up by the end of a statement. -/
theorem exists_upcoming_group {before : Text} (unquoted : (before.foldl Nesting.step .outside).quote = none)
    (closes : closing? .opened text = some length) (whole : text.length = length + 1) (later : Text) :
    ∃ body first, first <+: later ∧ text = body ++ [')'] ∧
      upcoming before ('(' :: (text ++ later)) = '(' :: (text ++ first) := by
  obtain ⟨single, final⟩ := pieces_of_group (show ';' ≠ '(' by decide) (by decide) unquoted closes whole
  obtain ⟨body, same⟩ := List.getLast?_eq_some_iff.mp final
  obtain ⟨first, others, split, ahead⟩ := exists_pieces_cons ';'
    (('(' :: text).foldl Nesting.step (before.foldl Nesting.step .outside)) later
  have behind := pieces_of_append (single.trans (List.nil_append _).symm) split
  exact ⟨body, first, ahead, same, by simp only [upcoming, ← List.cons_append, behind]; rfl⟩

theorem group?_of_opening (before rest : Text) : group? (before ++ '(' :: rest) before.length =
    (closing? .opened rest).map fun length => (rest.take length, before.length + 1 + length) := by
  unfold group?
  rw [List.drop_left]
  rfl

end Closing
end Script
end SchemaAtlas
