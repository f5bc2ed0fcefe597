import Mathlib.Computability.StateTransition
import SchemaAtlas.Pattern.Basic
import SchemaAtlas.Proofs.Clause.ValueTokens
import SchemaAtlas.Proofs.Text.Spacing
/-!
The value after DEFAULT as a stretch of the text. The reader goes through the text in rounds, each of which passes a blank
or takes a token; it comes to an end, and where every run of blanks is a single space the tokens that it has taken, with
spaces between them, are what stands in the text.
-/
namespace SchemaAtlas.DefaultValue
open Text TokenState

/-- How far the reader has come: the offset, and the tokens of the value up to there. -/
structure Progress where
  offset : Nat
  taken : List Text

/-- The value, if the reader stops here. -/
def Progress.value (progress : Progress) : Option Text :=
  if progress.taken = [] then none else some ([' '].intercalate progress.taken)

/-- The token that begins at an offset. -/
def tokenAt (text : Text) (offset : Nat) : Text := Span.of ⟨offset, tokenEnd text offset⟩ text

/-- One round of the reader: a blank is passed, a token is read to its end and taken, and at the end of the text, or at a
keyword behind another token, there is no further round. -/
def advance (text : Text) (progress : Progress) : Option Progress :=
  match text[progress.offset]? with
  | none => none
  | some c =>
    if isBlank c then some { progress with offset := progress.offset + 1 }
    else if progress.taken ≠ [] ∧ isStopWord (tokenAt text progress.offset) = true then none
    else some ⟨tokenEnd text progress.offset, progress.taken ++ [tokenAt text progress.offset]⟩

/-- A stretch in front of the rest of a text is cut into tokens at spaces, each of which the reader of the token in front
of it sees outside quotation marks and not in parentheses. -/
inductive Cut (rest : Text) : Text → List Text → Prop where
  | last {piece : Text} (token : IsToken piece rest) : Cut rest piece [piece]
  | more {piece value : Text} {pieces : List Text} (token : IsToken piece (' ' :: (value ++ rest)))
    (later : Cut rest value pieces) : Cut rest (piece ++ ' ' :: value) (piece :: pieces)

/-- Nothing more belongs to a value: only spaces follow, or a space and a token that is a keyword. -/
def Halts (rest : Text) : Prop :=
  (∀ c ∈ rest, c = ' ') ∨ ∃ token more, rest = ' ' :: (token ++ more) ∧ IsToken token more ∧ isStopWord token = true

/-- The value stands behind a gap, is made of tokens of which none but the first may be a keyword, and ends where nothing
more belongs to it. -/
structure IsCapture (gap value rest : Text) (pieces : List Text) : Prop where
  space : ∀ c ∈ gap, c = ' '
  cut : Cut rest value pieces
  goes_on : ∀ piece ∈ pieces.tail, isStopWord piece = false
  halts : Halts rest

variable {text value rest piece : Text} {pieces : List Text} {state : TokenState} {progress later : Progress}

section Tokens

theorem tokenLength_of_unbroken (unbroken : Unbroken state text)
    (ends : ∀ c ∈ rest.head?, (text.foldl step state).endsAt c = true) :
    tokenLength state (text ++ rest) = text.length := by
  induction text generalizing state with
  | nil =>
    cases rest with
    | nil => rfl
    | cons c rest => exact if_pos (ends c rfl)
  | cons c text ih =>
    obtain ⟨stays, later⟩ := unbroken_cons.mp unbroken
    rw [List.cons_append, tokenLength, stays, if_neg Bool.false_ne_true, ih later ends, List.length_cons]

theorem IsToken.tokenLength_eq (token : IsToken text rest) : tokenLength .fresh (text ++ rest) = text.length :=
  tokenLength_of_unbroken token.unbroken token.ends

/-- From any state a token goes on to its end. -/
theorem exists_unbroken (state : TokenState) (text : Text) : ∃ piece rest, text = piece ++ rest ∧ Unbroken state piece ∧
    ∀ c ∈ rest.head?, (piece.foldl step state).endsAt c = true := by
  induction text generalizing state with
  | nil => exact ⟨[], [], rfl, unbroken_nil state, by rintro c ⟨⟩⟩
  | cons c text ih =>
    cases ends : state.endsAt c with
    | true => exact ⟨[], c :: text, rfl, unbroken_nil state, by rintro d ⟨⟩; exact ends⟩
    | false =>
      obtain ⟨piece, rest, rfl, unbroken, stops⟩ := ih (state.step c)
      exact ⟨c :: piece, rest, rfl, unbroken_cons.mpr ⟨ends, unbroken⟩, stops⟩

theorem exists_token {c : Char} (solid : isBlank c = false) (text : Text) :
    ∃ piece rest, c :: text = piece ++ rest ∧ IsToken piece rest := by
  obtain ⟨piece, rest, same, unbroken, ends⟩ := exists_unbroken .fresh (c :: text)
  refine ⟨piece, rest, same, fun empty => ?_, unbroken, ends⟩
  subst empty
  have blank := ends c (by rw [← List.nil_append rest, ← same]; rfl)
  rw [List.foldl_nil, endsAt_fresh, solid] at blank
  cases blank

theorem tokens_of_blank {gap : Text} (blank : ∀ c ∈ gap, isBlank c = true) : tokens none gap = [] := by
  have passed := tokens_gap blank []
  rwa [List.append_nil] at passed

end Tokens

section Rounds

/-- No token but the first is a keyword. -/
def Progress.Sound (progress : Progress) : Prop := ∀ token ∈ progress.taken.tail, isStopWord token = false

/-- The tokens that are taken and those that are still to come. -/
def Progress.all (text : Text) (progress : Progress) : List Text :=
  progress.taken ++ tokens none (text.drop progress.offset)

theorem ofTokens_append {first : Text} {others : List Text} (goes_on : ∀ token ∈ others, isStopWord token = false)
    (halts : ∀ token ∈ pieces.head?, isStopWord token = true) :
    ofTokens (first :: others ++ pieces) = some ([' '].intercalate (first :: others)) := by
  have kept : (others ++ pieces).takeWhile (!isStopWord ·) = others := by
    rw [List.takeWhile_append_of_pos fun token member => by simp [goes_on token member]]
    cases pieces with
    | nil => exact List.append_nil _
    | cons token more => rw [List.takeWhile_cons_of_neg (by simp [halts token rfl]), List.append_nil]
  rw [List.cons_append, ofTokens, kept]

theorem drop_of_getElem? {offset : Nat} {c : Char} (here : text[offset]? = some c) :
    text.drop offset = c :: text.drop (offset + 1) := by
  obtain ⟨within, rfl⟩ := List.getElem?_eq_some_iff.mp here
  exact List.drop_eq_getElem_cons within

/-- At an offset where no blank stands a token begins, and it is the next one that is read. -/
theorem isToken_tokenAt {offset : Nat} {c : Char} (here : text[offset]? = some c) (solid : isBlank c = false) :
    offset < tokenEnd text offset ∧ IsToken (tokenAt text offset) (text.drop (tokenEnd text offset)) ∧
      tokens none (text.drop offset) = tokenAt text offset :: tokens none (text.drop (tokenEnd text offset)) := by
  obtain ⟨piece, rest, same, token⟩ := exists_token solid (text.drop (offset + 1))
  rw [← drop_of_getElem? here] at same
  have stop : tokenEnd text offset = offset + piece.length := by rw [tokenEnd, same, token.tokenLength_eq]
  have taken : tokenAt text offset = piece := by
    rw [tokenAt, Span.of, stop, same, Nat.add_sub_cancel_left, List.take_left]
  have left : text.drop (tokenEnd text offset) = rest := by rw [stop, ← List.drop_drop, same, List.drop_left]
  rw [taken, left, same, stop]
  exact ⟨Nat.lt_add_of_pos_right (List.length_pos_iff.mpr token.filled), token, token.tokens⟩

/-- A round goes forward in the text, and what is taken and still to come stays the same. -/
theorem advance_some (moved : advance text progress = some later) :
    progress.offset < text.length ∧ progress.offset < later.offset ∧ later.all text = progress.all text ∧
      (progress.Sound → later.Sound) := by
  rw [advance] at moved
  split at moved
  · cases moved
  next c here =>
  have within := (List.getElem?_eq_some_iff.mp here).1
  split at moved
  · next blank =>
    obtain rfl := Option.some.inj moved
    refine ⟨within, Nat.lt_succ_self _, ?_, id⟩
    rw [Progress.all, Progress.all, drop_of_getElem? here, tokens, if_pos blank]
  · next solid =>
    obtain ⟨forward, token, reads⟩ := isToken_tokenAt here (Bool.eq_false_iff.mpr solid)
    split at moved
    · cases moved
    · next goes_on =>
      obtain rfl := Option.some.inj moved
      refine ⟨within, forward, ?_, fun sound => ?_⟩
      · rw [Progress.all, Progress.all, reads, List.append_assoc, List.singleton_append]
      · cases taken : progress.taken with
        | nil => simp [Progress.Sound]
        | cons first others =>
          have known : ∀ token ∈ others, isStopWord token = false := by simpa [Progress.Sound, taken] using sound
          have new : isStopWord (tokenAt text progress.offset) = false := by simpa [taken] using goes_on
          have all : ∀ token ∈ others ++ [tokenAt text progress.offset], isStopWord token = false :=
            List.forall_mem_append.mpr ⟨known, List.forall_mem_singleton.mpr new⟩
          exact all

/-- Where no round is left, the tokens that are taken are the value. -/
theorem advance_none (ended : advance text progress = none) (sound : progress.Sound) :
    progress.value = ofTokens (progress.all text) := by
  have halts : tokens none (text.drop progress.offset) = [] ∨ progress.taken ≠ [] ∧
      ∀ token ∈ (tokens none (text.drop progress.offset)).head?, isStopWord token = true := by
    rw [advance] at ended
    split at ended
    · next outside =>
      rw [List.drop_eq_nil_of_le (List.getElem?_eq_none_iff.mp outside)]
      exact .inl rfl
    next c here =>
    split at ended
    · cases ended
    next solid =>
    split at ended
    · next stops =>
      rw [(isToken_tokenAt here (Bool.eq_false_iff.mpr solid)).2.2]
      exact .inr ⟨stops.1, by rintro token ⟨⟩; exact stops.2⟩
    · cases ended
  rw [Progress.value, Progress.all]
  cases taken : progress.taken with
  | nil =>
    rcases halts with done | ⟨filled, _⟩
    · rw [done, if_pos rfl]
      rfl
    · exact absurd taken filled
  | cons first others =>
    have known : ∀ token ∈ others, isStopWord token = false := by simpa [Progress.Sound, taken] using sound
    rw [if_neg (List.cons_ne_nil _ _), ofTokens_append known]
    rcases halts with done | ⟨_, stops⟩
    · rw [done]
      rintro token ⟨⟩
    · exact stops

/-- The rounds come to an end, and then the tokens that are taken are the value. -/
theorem exists_last (text : Text) (progress : Progress) (sound : progress.Sound) :
    ∃ last ∈ StateTransition.eval (advance text) progress, ofTokens (progress.all text) = last.value := by
  -- Every round leaves less of the text.
  induction left : text.length - progress.offset using Nat.strong_induction_on generalizing progress with
  | _ left ih =>
    cases moved : advance text progress with
    | none => exact ⟨progress, StateTransition.mem_eval.mpr ⟨.refl, moved⟩, (advance_none moved sound).symm⟩
    | some later =>
      obtain ⟨within, forward, same, keeps⟩ := advance_some moved
      obtain ⟨last, ends, value⟩ := ih (text.length - later.offset) (by omega) later (keeps sound) rfl
      have goes_on : StateTransition.Reaches (advance text) progress later := .single moved
      exact ⟨last, StateTransition.reaches_eval goes_on ▸ ends, by rw [← same, value]⟩

end Rounds

section Slices

theorem Cut.filled (cut : Cut rest value pieces) : pieces ≠ [] := by
  cases cut <;> exact List.cons_ne_nil _ _

theorem Cut.joined (cut : Cut rest value pieces) : [' '].intercalate pieces = value := by
  induction cut with
  | last => exact List.intercalate_singleton
  | @more _ _ pieces _ later ih =>
    obtain ⟨second, others, rfl⟩ := List.exists_cons_of_ne_nil later.filled
    rw [List.intercalate_cons_cons, ih, List.append_assoc, List.singleton_append]

theorem Cut.tokens (cut : Cut rest value pieces) :
    DefaultValue.tokens none (value ++ rest) = pieces ++ DefaultValue.tokens none rest := by
  induction cut with
  | last token => exact token.tokens
  | more token _ ih =>
    rw [List.append_assoc, List.cons_append, token.tokens, DefaultValue.tokens, if_pos (by decide), ih, List.cons_append]

theorem Halts.tokens (halts : Halts rest) : ∀ token ∈ (DefaultValue.tokens none rest).head?, isStopWord token = true := by
  rcases halts with spaces | ⟨token, more, rfl, next, stops⟩
  · rw [tokens_of_blank fun c member => by rw [spaces c member]; decide]
    rintro token ⟨⟩
  · rw [DefaultValue.tokens, if_pos (by decide), next.tokens]
    rintro other ⟨⟩
    exact stops

/-- A stretch as it is described is what the reader makes of the text. -/
theorem IsCapture.ofTokens_eq {gap : Text} (capture : IsCapture gap value rest pieces) :
    ofTokens (tokens none (gap ++ (value ++ rest))) = some value := by
  obtain ⟨first, others, rfl⟩ := List.exists_cons_of_ne_nil capture.cut.filled
  have goes_on : ∀ token ∈ others, isStopWord token = false := capture.goes_on
  rw [tokens_gap fun c member => by rw [capture.space c member]; decide, capture.cut.tokens,
    ofTokens_append goes_on capture.halts.tokens, capture.cut.joined]

/-- From a token on, the tokens up to the next keyword are a stretch of the text. -/
theorem exists_cut (token : IsToken piece rest) (spaced : IsSpaced rest) :
    ∃ value tail others, piece ++ rest = value ++ tail ∧ Cut tail value (piece :: others) ∧
      (∀ token ∈ others, isStopWord token = false) ∧ Halts tail := by
  induction length : rest.length using Nat.strong_induction_on generalizing piece rest with
  | _ total ih =>
    by_cases halts : Halts rest
    · exact ⟨piece, rest, [], rfl, .last token, List.forall_mem_nil _, halts⟩
    -- The next token begins behind one space, because a second one would not be a single space.
    have filled : rest ≠ [] := by
      rintro rfl
      exact halts (.inl (List.forall_mem_nil _))
    obtain ⟨c, rest, rfl⟩ := List.exists_cons_of_ne_nil filled
    have blank : isBlank c = true := (Bool.and_eq_true_iff.mp (token.ends c rfl)).2
    obtain rfl := spaced.space c List.mem_cons_self blank
    have follows : rest ≠ [] := by
      rintro rfl
      exact halts (.inl (by simp))
    obtain ⟨d, behind, rfl⟩ := List.exists_cons_of_ne_nil follows
    have solid : isBlank d = false := by simpa [blank] using (List.isChain_cons_cons.mp spaced.apart).1
    obtain ⟨next, more, same, next_token⟩ := exists_token solid behind
    rw [same] at spaced halts token length ⊢
    have goes_on : isStopWord next = false :=
      Bool.eq_false_iff.mpr fun stops => halts (.inr ⟨next, more, rfl, next_token, stops⟩)
    have shorter : more.length < total := by
      rw [← length, List.length_cons, List.length_append]
      omega
    obtain ⟨value, tail, others, whole, cut, all, halts⟩ :=
      ih more.length shorter next_token spaced.tail.of_append.2 rfl
    rw [whole] at token ⊢
    exact ⟨piece ++ ' ' :: value, tail, next :: others, by simp, .more token cut,
      List.forall_mem_cons.mpr ⟨goes_on, all⟩, halts⟩

/-- Other than in a text of spaces alone there is a value in a text whose runs of blanks are single spaces. -/
theorem exists_capture (spaced : IsSpaced text) (solid : ¬∀ c ∈ text, c = ' ') :
    ∃ gap value rest pieces, text = gap ++ (value ++ rest) ∧ IsCapture gap value rest pieces := by
  induction text with
  | nil => exact absurd (List.forall_mem_nil _) solid
  | cons c text ih =>
    by_cases space : c = ' '
    · obtain ⟨gap, value, rest, pieces, rfl, capture⟩ :=
        ih spaced.tail fun all => solid (List.forall_mem_cons.mpr ⟨space, all⟩)
      exact ⟨c :: gap, value, rest, pieces, rfl, { capture with space := List.forall_mem_cons.mpr ⟨space, capture.space⟩ }⟩
    · have here : isBlank c = false :=
        Bool.eq_false_iff.mpr fun blank => space (spaced.space c List.mem_cons_self blank)
      obtain ⟨piece, rest, same, token⟩ := exists_token here text
      rw [same] at spaced ⊢
      obtain ⟨value, tail, others, whole, cut, goes_on, halts⟩ := exists_cut token spaced.of_append.2
      exact ⟨[], value, tail, piece :: others, whole, List.forall_mem_nil _, cut, goes_on, halts⟩

end Slices

/-- The reader comes to an end, with the value that its tokens make. In a text whose runs of blanks are single spaces it
finds none where only spaces follow, and otherwise the stretch of the text that the description singles out. -/
theorem read_eq_slice (spaced : IsSpaced text) (start : Nat) :
    (∃ last ∈ StateTransition.eval (advance text) ⟨start, []⟩, read text start = last.value) ∧
    (read text start = none ↔ ∀ c ∈ text.drop start, c = ' ') ∧
    ∀ value, read text start = some value ↔
      ∃ gap rest pieces, text.drop start = gap ++ (value ++ rest) ∧ IsCapture gap value rest pieces := by
  have whole : IsSpaced (text.take start ++ text.drop start) := by rwa [List.take_append_drop]
  have behind : IsSpaced (text.drop start) := whole.of_append.2
  have none_iff : read text start = none ↔ ∀ c ∈ text.drop start, c = ' ' := by
    constructor
    · intro none_read
      by_contra solid
      obtain ⟨gap, value, rest, pieces, same, capture⟩ := exists_capture behind solid
      rw [read, same, capture.ofTokens_eq] at none_read
      cases none_read
    · intro spaces
      rw [read, tokens_of_blank fun c member => by rw [spaces c member]; decide]
      rfl
  refine ⟨exists_last text ⟨start, []⟩ (List.forall_mem_nil _), none_iff, fun value => ⟨fun found => ?_, ?_⟩⟩
  · have solid : ¬∀ c ∈ text.drop start, c = ' ' := fun spaces => by
      rw [none_iff.mpr spaces] at found
      cases found
    obtain ⟨gap, other, rest, pieces, same, capture⟩ := exists_capture behind solid
    rw [read, same, capture.ofTokens_eq] at found
    obtain rfl := Option.some.inj found
    exact ⟨gap, rest, pieces, same, capture⟩
  · rintro ⟨gap, rest, pieces, same, capture⟩
    rw [read, same, capture.ofTokens_eq]

/-- Keywords in a literal and at the end, a parenthesis too many, commas, and a quotation that stays open. -/
theorem read_eq_slice_amid :
    let text := "DEFAULT ('a NULL') || b) c, NOT, NULL 'd ".toList
    let value := "('a NULL') || b) c,".toList
    IsSpaced text ∧ read text 7 = some value ∧
      (∃ last ∈ StateTransition.eval (advance text) ⟨7, []⟩, last.value = some value) ∧
      ∃ gap rest pieces, text.drop 7 = gap ++ (value ++ rest) ∧ IsCapture gap value rest pieces := by
  intro text value
  have spaced : IsSpaced text := by decide
  have found : read text 7 = some value := by decide
  obtain ⟨⟨last, ends, same⟩, _, captured⟩ := read_eq_slice spaced 7
  exact ⟨spaced, found, ⟨last, ends, same ▸ found⟩, (captured value).mp found⟩

end SchemaAtlas.DefaultValue
