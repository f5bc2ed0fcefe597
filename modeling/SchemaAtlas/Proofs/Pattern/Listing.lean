import SchemaAtlas.Proofs.Pattern.Ends
import SchemaAtlas.Proofs.Pattern.Shift
/-!
All matches in a text, from left to right. Where no match runs over the joint of two texts, the matches of the
whole are those of the first text and then those of the second one, moved; a stretch in which no match begins is
passed over.
-/
namespace SchemaAtlas.Pattern
open Text Cursor
variable {pattern : Pattern} {before front rest : Text} {found : Match} {resume : Nat}

/-- The matches at or behind a place, none of which begins before `resume`. -/
def findAllAfter (pattern : Pattern) (resume : Nat) (before rest : Text) : List Match :=
  pattern.findAllFrom resume before.length before.getLast? rest

theorem findAll_eq_findAllAfter (text : Text) : pattern.findAll text = pattern.findAllAfter 0 [] text := rfl

theorem findAllAfter_cons (resume : Nat) (before : Text) (c : Char) (rest : Text) :
    pattern.findAllAfter resume before (c :: rest) =
      if before.length < resume then pattern.findAllAfter resume (before ++ [c]) rest
      else match pattern.matchAt (after before (c :: rest)) with
        | some found => found :: pattern.findAllAfter found.span.stop (before ++ [c]) rest
        | none => pattern.findAllAfter resume (before ++ [c]) rest := by
  have moved (resume : Nat) : pattern.findAllAfter resume (before ++ [c]) rest =
      pattern.findAllFrom resume (before.length + 1) (some c) rest := by
    simp [findAllAfter]
  simp only [moved]
  rfl

/-- A place that is reached already is none to wait for. -/
theorem findAllAfter_of_le (reached : resume ≤ before.length) (rest : Text) :
    pattern.findAllAfter resume before rest = pattern.findAllAfter 0 before rest := by
  induction rest generalizing before with
  | nil => rfl
  | cons c rest ih =>
    have later : resume ≤ (before ++ [c]).length := by
      rw [List.length_append]
      exact Nat.le_add_right_of_le reached
    rw [findAllAfter_cons, findAllAfter_cons, if_neg (Nat.not_lt.mpr reached), if_neg (Nat.not_lt_zero _)]
    cases pattern.matchAt (after before (c :: rest)) with
    | none => exact ih later
    | some found => rfl

theorem mem_findAllAfter (member : found ∈ pattern.findAllAfter resume before rest) :
    ∃ passed tail, rest = passed ++ tail ∧ pattern.matchAt (after (before ++ passed) tail) = some found := by
  induction rest generalizing before resume with
  | nil => cases member
  | cons c rest ih =>
    have later {resume : Nat} (member : found ∈ pattern.findAllAfter resume (before ++ [c]) rest) :
        ∃ passed tail, c :: rest = passed ++ tail ∧ pattern.matchAt (after (before ++ passed) tail) = some found := by
      obtain ⟨passed, tail, rfl, here⟩ := ih member
      exact ⟨c :: passed, tail, rfl, by simpa using here⟩
    rw [findAllAfter_cons] at member
    split at member
    · exact later member
    · split at member
      · next first here =>
        rcases List.mem_cons.mp member with rfl | member
        · exact ⟨[], c :: rest, rfl, by simpa using here⟩
        · exact later member
      · exact later member

/-- A match begins at or behind the place and stops in the text. -/
theorem span_of_mem (member : found ∈ pattern.findAllAfter resume before rest) :
    before.length ≤ found.span.start ∧ found.span.start ≤ found.span.stop ∧
      found.span.stop ≤ (before ++ rest).length := by
  obtain ⟨passed, tail, rfl, here⟩ := mem_findAllAfter member
  obtain ⟨text, behind, rfl, span⟩ := matchAt_span here
  rw [span]
  simp only [Span.behind, List.length_append]
  omega

/-- No match runs over the joint. -/
theorem findAllAfter_append (stays : pattern.isLocal true = true) (reached : resume ≤ (before ++ front).length)
    (apart : ∀ found ∈ pattern.findAllAfter resume before (front ++ rest),
      found.span.stop ≤ (before ++ front).length ∨ (before ++ front).length ≤ found.span.start) :
    pattern.findAllAfter resume before (front ++ rest) =
      pattern.findAllAfter resume before front ++ pattern.findAllAfter 0 (before ++ front) rest := by
  induction front generalizing before resume with
  | nil =>
    have whole : before ++ [] = before := List.append_nil before
    rw [whole] at reached ⊢
    exact findAllAfter_of_le reached rest
  | cons c front ih =>
    have whole : before ++ c :: front = before ++ [c] ++ front := by simp
    rw [whole] at reached apart ⊢
    rw [List.cons_append, findAllAfter_cons] at apart ⊢
    rw [findAllAfter_cons]
    by_cases waits : before.length < resume
    · rw [if_pos waits] at apart ⊢
      rw [if_pos waits]
      exact ih reached apart
    · rw [if_neg waits] at apart ⊢
      rw [if_neg waits]
      cases here : pattern.matchAt (after before (c :: (front ++ rest))) with
      | none =>
        rw [here] at apart
        have none_left : pattern.matchAt (after before (c :: front)) = none :=
          matchAt_eq_none stays (List.cons_ne_nil c front) here
        rw [none_left]
        exact ih reached apart
      | some found =>
        rw [here] at apart
        obtain ⟨_, _, _, span⟩ := matchAt_span here
        have start : found.span.start = before.length := congrArg Span.start span
        have short : found.span.stop ≤ (before ++ [c] ++ front).length := by
          rcases apart found List.mem_cons_self with short | far
          · exact short
          · rw [start] at far
            simp only [List.length_append, List.length_singleton] at far
            omega
        have kept : pattern.matchAt (after before (c :: front)) = some found :=
          matchAt_of_short stays (List.cons_ne_nil c front) here (by rwa [whole])
        rw [kept, List.cons_append]
        dsimp only
        rw [ih short fun later member => apart later (List.mem_cons_of_mem _ member)]

/-- A stretch in which no match begins. -/
theorem findAllAfter_skip
    (far : ∀ found ∈ pattern.findAllAfter 0 before (front ++ rest), (before ++ front).length ≤ found.span.start) :
    pattern.findAllAfter 0 before (front ++ rest) = pattern.findAllAfter 0 (before ++ front) rest := by
  induction front generalizing before with
  | nil => rw [List.nil_append, List.append_nil]
  | cons c front ih =>
    have whole : before ++ c :: front = before ++ [c] ++ front := by simp
    rw [whole] at far ⊢
    rw [List.cons_append, findAllAfter_cons, if_neg (Nat.not_lt_zero _)] at far ⊢
    cases here : pattern.matchAt (after before (c :: (front ++ rest))) with
    | none =>
      rw [here] at far
      exact ih far
    | some found =>
      rw [here] at far
      obtain ⟨_, _, _, span⟩ := matchAt_span here
      have late := far found List.mem_cons_self
      have start : found.span.start = before.length := congrArg Span.start span
      rw [start] at late
      simp only [List.length_append, List.length_singleton] at late
      omega

theorem findAllFrom_moved (pattern : Pattern) {count : Nat} (rest : Text) {resume offset other_offset : Nat}
    {last other_last : Option Char} (moved : Moved count ⟨offset, last, rest⟩ ⟨other_offset, other_last, rest⟩) :
    pattern.findAllFrom (resume + count) other_offset other_last rest =
      (pattern.findAllFrom resume offset last rest).map (Match.shift count) := by
  induction rest generalizing resume offset other_offset last other_last with
  | nil => rfl
  | cons c rest ih =>
    have shifted : other_offset = offset + count := moved.offset
    have later : Moved count ⟨offset + 1, some c, rest⟩ ⟨other_offset + 1, some c, rest⟩ :=
      ⟨by simp only [shifted]; omega, rfl, rfl⟩
    unfold findAllFrom
    by_cases waits : offset < resume
    · rw [if_pos waits, if_pos (by omega)]
      exact ih later
    · rw [if_neg waits, if_neg (by omega), matchAt_moved pattern moved]
      cases pattern.matchAt ⟨offset, last, c :: rest⟩ with
      | none => exact ih later
      | some found =>
        rw [Option.map_some, List.map_cons]
        exact congrArg _ (ih later)

/-- Behind a text that ends outside words, the matches are those of the rest alone. -/
theorem findAllAfter_of_outside (outside : endsWord before = false) (rest : Text) :
    pattern.findAllAfter 0 before rest = (pattern.findAll rest).map (Match.shift before.length) := by
  have moved : Moved before.length ⟨0, none, rest⟩ ⟨before.length, before.getLast?, rest⟩ :=
    ⟨(Nat.zero_add _).symm, outside, rfl⟩
  have shifted : pattern.findAllAfter (0 + before.length) before rest =
      (pattern.findAll rest).map (Match.shift before.length) := findAllFrom_moved pattern rest moved
  rw [Nat.zero_add] at shifted
  rw [← findAllAfter_of_le (Nat.le_refl before.length), shifted]

end SchemaAtlas.Pattern
