import SchemaAtlas.Proofs.Pattern.Ends
/-!
Matches behind a text that is put in front. A trial asks of the place where it begins only what follows
there and whether a word ends there, so a text in front moves the first match and changes nothing else
about it.
-/
namespace SchemaAtlas

def Span.shift (count : Nat) (span : Span) : Span := ⟨span.start + count, span.stop + count⟩

def Match.shift (count : Nat) (found : Match) : Match :=
  ⟨found.span.shift count, found.parts.map (Prod.map id (Span.shift count))⟩

section Text
variable {before text : Text}

theorem Span.of_shift (before text : Text) (span : Span) :
    (span.shift before.length).of (before ++ text) = span.of text := by
  have behind : (before ++ text).drop (span.start + before.length) = text.drop span.start := by
    rw [Nat.add_comm, List.drop_length_add_append]
  have length : span.stop + before.length - (span.start + before.length) = span.stop - span.start :=
    Nat.add_sub_add_right ..
  simp only [Span.of, Span.shift, behind, length]

theorem Match.part?_shift (count : Nat) (found : Match) (part : Part) :
    (found.shift count).part? part = (found.part? part).map (Span.shift count) := by
  unfold Match.part? Match.shift
  induction found.parts with
  | nil => rfl
  | cons entry rest ih =>
    obtain ⟨other, span⟩ := entry
    rw [List.map_cons, Prod.map_apply, id_eq, List.lookup_cons, List.lookup_cons, ih]
    cases part == other <;> rfl

theorem Match.text?_shift (found : Match) (part : Part) (before text : Text) :
    (found.shift before.length).text? part (before ++ text) = found.text? part text := by
  rw [Match.text?, Match.part?_shift, Match.text?, Option.map_map]
  congr 1
  funext span
  exact Span.of_shift before text span

end Text

namespace Cursor
variable {count : Nat} {place other : Cursor}

/-- The same place, with more text in front of it. -/
structure Moved (count : Nat) (place other : Cursor) : Prop where
  offset : other.offset = place.offset + count
  last : other.last.any Text.isWordCharacter = place.last.any Text.isWordCharacter
  rest : other.rest = place.rest

theorem Moved.atEdge (moved : Moved count place other) : other.atEdge = place.atEdge := by
  rw [Cursor.atEdge, moved.last, moved.rest]
  rfl

theorem Moved.atEnd (moved : Moved count place other) : other.atEnd = place.atEnd := by
  rw [Cursor.atEnd, moved.rest]
  rfl

theorem Moved.finish (moved : Moved count place other) : Moved count place.finish other.finish where
  offset := by
    simp only [Cursor.finish, moved.offset, moved.rest]
    omega
  last := by
    simp only [Cursor.finish, moved.rest]
    cases place.rest.getLast? with
    | none => exact moved.last
    | some _ => rfl
  rest := rfl

theorem Moved.reach {test : Char → Bool} (rest : Text) {offset other_offset : Nat} {last other_last : Option Char}
    {reached other_reached : List Cursor}
    (moved : Moved count ⟨offset, last, rest⟩ ⟨other_offset, other_last, rest⟩)
    (earlier : List.Forall₂ (Moved count) reached other_reached) :
    List.Forall₂ (Moved count) (Cursor.reach test offset last reached rest)
      (Cursor.reach test other_offset other_last other_reached rest) := by
  induction rest generalizing offset other_offset last other_last reached other_reached with
  | nil => exact .cons moved earlier
  | cons c rest ih =>
    have here : List.Forall₂ (Moved count) (⟨offset, last, c :: rest⟩ :: reached)
        (⟨other_offset, other_last, c :: rest⟩ :: other_reached) := .cons moved earlier
    unfold Cursor.reach
    dsimp only
    split
    · refine ih ⟨?_, rfl, rfl⟩ here
      have shifted : other_offset = offset + count := moved.offset
      change other_offset + 1 = offset + 1 + count
      omega
    · exact here

end Cursor

namespace Pattern
open Cursor
variable {α : Type} {count : Nat} {place other : Cursor} {shift : α → α}
  {next other_next : Cursor → List (Part × Span) → Option α}

theorem findSome?_moved {places others : List Cursor} (moved : List.Forall₂ (Moved count) places others)
    {try_place try_other : Cursor → Option α}
    (same : ∀ place other, Moved count place other → try_other other = (try_place place).map shift) :
    others.findSome? try_other = (places.findSome? try_place).map shift := by
  induction moved with
  | nil => rfl
  | cons here _ ih =>
    rw [List.findSome?_cons, List.findSome?_cons, same _ _ here, ih]
    cases try_place _ <;> rfl

/-- A trial at a moved place goes on from moved places, and gives what it would give, moved. -/
theorem run_moved (pattern : Pattern) (moved : Moved count place other) (parts : List (Part × Span))
    (goes : ∀ stop other_stop parts, Moved count stop other_stop →
      other_next other_stop (parts.map (Prod.map id (Span.shift count))) = (next stop parts).map shift) :
    run pattern other (parts.map (Prod.map id (Span.shift count))) other_next =
      (run pattern place parts next).map shift := by
  -- One case for each kind of pattern; what a part of a pattern is followed by is its continuation.
  induction pattern generalizing place other parts next other_next with
  | nothing => exact goes place other parts moved
  | one test =>
    simp only [run, moved.rest]
    cases place.rest with
    | nil => rfl
    | cons c rest =>
      dsimp only
      split
      · refine goes _ _ parts ⟨?_, rfl, rfl⟩
        simp only [moved.offset]
        omega
      · rfl
  | many test =>
    obtain ⟨offset, last, rest⟩ := place
    obtain ⟨other_offset, other_last, other_rest⟩ := other
    obtain rfl : other_rest = rest := moved.rest
    exact findSome?_moved (moved.reach other_rest .nil) fun stop other_stop => goes stop other_stop parts
  | edge =>
    simp only [run, moved.atEdge]
    split
    · exact goes place other parts moved
    · rfl
  | ending =>
    simp only [run, moved.atEnd]
    split
    · exact goes place other parts moved
    · rfl
  | remainder => exact goes _ _ parts moved.finish
  | followed first second first_moves second_moves =>
    exact first_moves moved parts fun stop other_stop parts moved => second_moves moved parts goes
  | either first second first_moves second_moves =>
    simp only [run]
    rw [first_moves moved parts goes, second_moves moved parts goes]
    cases run first place parts next <;> rfl
  | optional inner moves =>
    simp only [run]
    rw [moves moved parts goes, goes place other parts moved]
    cases run inner place parts next <;> rfl
  | named part inner moves =>
    refine moves moved parts fun stop other_stop parts stop_moved => ?_
    have renamed := goes stop other_stop ((part, ⟨place.offset, stop.offset⟩) :: parts) stop_moved
    rw [List.map_cons, Prod.map_apply, id_eq, Span.shift] at renamed
    rw [moved.offset, stop_moved.offset]
    exact renamed

theorem matchAt_moved (pattern : Pattern) (moved : Moved count place other) :
    pattern.matchAt other = (pattern.matchAt place).map (Match.shift count) := by
  refine run_moved pattern moved [] fun stop other_stop parts stop_moved => ?_
  rw [moved.offset, stop_moved.offset]
  rfl

/-- Behind a text that ends outside words, a pattern matches as it does alone. -/
theorem matchAt_of_outside (pattern : Pattern) {before : Text} (outside : Text.endsWord before = false) (rest : Text) :
    pattern.matchAt (after before rest) = (pattern.match? rest).map (Match.shift before.length) :=
  matchAt_moved pattern ⟨(Nat.zero_add _).symm, outside, rfl⟩

theorem findFrom_moved (pattern : Pattern) (rest : Text) {offset other_offset : Nat} {last other_last : Option Char}
    (moved : Moved count ⟨offset, last, rest⟩ ⟨other_offset, other_last, rest⟩) :
    pattern.findFrom other_offset other_last rest = (pattern.findFrom offset last rest).map (Match.shift count) := by
  induction rest generalizing offset other_offset last other_last with
  | nil => exact matchAt_moved pattern moved
  | cons c rest ih =>
    have later : Moved count ⟨offset + 1, some c, rest⟩ ⟨other_offset + 1, some c, rest⟩ := by
      refine ⟨?_, rfl, rfl⟩
      have shifted : other_offset = offset + count := moved.offset
      change other_offset + 1 = offset + 1 + count
      omega
    unfold findFrom
    rw [matchAt_moved pattern moved, ih later]
    cases pattern.matchAt ⟨offset, last, c :: rest⟩ <;> rfl

section Insert
open Text
variable {pattern : Pattern} {before rest : Text}

/-- Behind a text that ends outside words, a pattern is found where it is found alone. -/
theorem findAfter_of_outside (pattern : Pattern) (outside : endsWord before = false) (rest : Text) :
    pattern.findAfter before rest = (pattern.find? rest).map (Match.shift before.length) :=
  findFrom_moved pattern rest ⟨(Nat.zero_add _).symm, outside, rfl⟩

/-- No word goes on from the one text into the other. -/
def Apart (before rest : Text) : Prop := endsWord before = false ∨ beginsWord rest = false

/-- The text in front moves the first match and changes nothing else. -/
def Passes (pattern : Pattern) (before rest : Text) : Prop :=
  pattern.find? (before ++ rest) = (pattern.find? rest).map (Match.shift before.length)

theorem Passes.occurs (passes : pattern.Passes before rest) :
    pattern.occurs (before ++ rest) = pattern.occurs rest := by
  rw [Pattern.occurs, passes, Option.isSome_map, Pattern.occurs]

theorem Passes.append {front : Text} (passes : pattern.Passes front (before ++ rest))
    (also_passes : pattern.Passes before rest) : pattern.Passes (front ++ before) rest := by
  have twice (found : Match) :
      (found.shift before.length).shift front.length = found.shift (front ++ before).length := by
    simp only [Match.shift, Span.shift, List.map_map, List.length_append, Match.mk.injEq, Span.mk.injEq]
    refine ⟨⟨by omega, by omega⟩, List.map_congr_left fun part _ => ?_⟩
    simp only [Function.comp, Prod.map, id, Span.shift, Prod.mk.injEq, Span.mk.injEq, true_and]
    omega
  unfold Passes
  rw [List.append_assoc, passes, also_passes, Option.map_map]
  congr 1
  funext found
  exact twice found

section Led
variable {leads : Text → Prop} (led : LedBy leads pattern)
include led

/-- In front of a text that begins with no word, a pattern is found where it is found alone. -/
theorem findAfter_of_led (outside : beginsWord rest = false) :
    pattern.findAfter before rest = (pattern.find? rest).map (Match.shift before.length) := by
  cases rest with
  | nil =>
    have nothing : ∀ before, pattern.findAfter before [] = none := by
      intro before
      apply findAfter_eq_none_of_words led
      rw [words_nil]
      exact fun _ member => absurd member List.not_mem_nil
    rw [nothing, find?_eq_findAfter, nothing]
    rfl
  | cons c rest =>
    -- Nothing is found right here, and behind the next character both texts end outside words.
    have separates : isWordCharacter c = false := outside
    rw [findAfter_cons_of_led led separates, find?_eq_findAfter, findAfter_cons_of_led led separates]
    refine findFrom_moved pattern rest ⟨?_, ?_, rfl⟩
    · simp [Nat.add_comm]
    · simp

/-- A text without the leading words of a pattern moves its first match and changes nothing else. -/
theorem find?_append_of_led (clear : ∀ word ∈ words before, ¬leads word) (apart : Apart before rest) :
    pattern.Passes before rest := by
  unfold Passes
  rw [find?_eq_findAfter]
  rcases apart with outside | outside
  · rcases List.eq_nil_or_concat before with rfl | ⟨front, c, rfl⟩
    · exact findAfter_of_outside pattern outside rest
    · -- The last character separates, so the words of the text are those in front of it.
      rw [List.concat_eq_append] at clear outside ⊢
      have separates : isWordCharacter c = false := by simpa [endsWord] using outside
      rw [words_append_cons front [] separates, words_nil, List.append_nil] at clear
      rw [List.append_assoc, List.singleton_append,
        findAfter_append_of_words led clear (show beginsWord (c :: rest) = false from separates),
        findAfter_cons_of_led led separates]
      exact findAfter_of_outside pattern outside rest
  · rw [findAfter_append_of_words led clear outside, List.nil_append]
    exact findAfter_of_led led outside

theorem occurs_append_of_led (clear : ∀ word ∈ words before, ¬leads word) (apart : Apart before rest) :
    pattern.occurs (before ++ rest) = pattern.occurs rest := (find?_append_of_led led clear apart).occurs

theorem passes_of_blank (blank : ∀ c ∈ before, isBlank c = true) : pattern.Passes before rest := by
  refine find?_append_of_led led ?_ (Or.inl (endsWord_of_blank blank))
  rw [words_eq_nil_of_blank blank]
  exact List.forall_mem_nil _

/-- The same holds of a text in which the first match does not begin. -/
theorem passes_of_behind (outside : beginsWord rest = false)
    (behind : (pattern.find? (before ++ rest)).all (before.length ≤ ·.span.start) = true) :
    pattern.Passes before rest := by
  have far : ∀ found, pattern.findAfter [] (before ++ rest) = some found → before.length ≤ found.span.start := by
    intro found here
    rw [find?_eq_findAfter, here] at behind
    simpa using behind
  unfold Passes
  rw [find?_eq_findAfter, findAfter_skip (by simpa using far), List.nil_append]
  exact findAfter_of_led led outside

/-- The same holds of a word with which no match begins. -/
theorem passes_of_word (fits : ∀ c ∈ before, isWordCharacter c = true) (outside : beginsWord rest = false)
    (nowhere : pattern.matchAt (after [] (before ++ rest)) = none) : pattern.Passes before rest := by
  unfold Passes
  rw [find?_eq_findAfter, findAfter_append, List.nil_append]
  · exact findAfter_of_led led outside
  · intro first second same _
    rcases List.eq_nil_or_concat first with rfl | ⟨others, c, rfl⟩
    · rw [List.nil_append] at same
      rw [← same]
      exact nowhere
    · -- Inside the word none of the leading words begins.
      by_contra found
      obtain ⟨_, found⟩ := Option.ne_none_iff_exists'.mp found
      obtain ⟨_, _, _, _, _, _, start, _⟩ := led found
      rw [List.nil_append, List.concat_eq_append, endsWord, List.getLast?_concat, Option.any_some] at start
      rw [fits c (by rw [same]; simp)] at start
      cases start

end Led
end Insert
end Pattern
end SchemaAtlas
