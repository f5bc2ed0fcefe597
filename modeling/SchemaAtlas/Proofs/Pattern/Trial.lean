import SchemaAtlas.Pattern.Basic
import SchemaAtlas.Proofs.Text.Words
/-!
What a trial of a pattern does at a place of a text. A place is told by the text before it and the
text behind it. For each kind of pattern there is a lemma that says how a trial goes on where it
succeeds, and one that says what must have been read if it succeeded.
-/
namespace SchemaAtlas

/-- The place between two texts. -/
def Cursor.after (before rest : Text) : Cursor := ⟨before.length, before.getLast?, rest⟩

/-- The stretch of a text that stands right behind another one. -/
def Span.behind (before text : Text) : Span := ⟨before.length, (before ++ text).length⟩

theorem Span.of_behind {whole before text rest : Text} (same : whole = before ++ (text ++ rest)) :
    (Span.behind before text).of whole = text := by
  subst same
  simp [Span.behind, Span.of]

theorem Match.text?_of_part {found : Match} {part : Part} {whole text : Text} (before rest : Text)
    (named : found.part? part = some (Span.behind before text)) (same : whole = before ++ (text ++ rest)) :
    found.text? part whole = some text := by
  rw [Match.text?, named, Option.map_some, Span.of_behind same]

namespace Cursor
open Text

theorem atEdge_after (before rest : Text) :
    (after before rest).atEdge = (endsWord before != beginsWord rest) := rfl

theorem finish_after (before rest : Text) : (after before rest).finish = after (before ++ rest) [] := by
  simp only [after, finish, List.length_append, List.getLast?_append]

section Reach
variable {test : Char → Bool}

/-- A run of characters with the property is passed, and the places on the way are kept behind. -/
theorem reach_append {run : Text} (fits : ∀ c ∈ run, test c = true) (before : Text) :
    ∀ (rest : Text) (reached : List Cursor), ∃ passed,
      reach test before.length before.getLast? reached (run ++ rest) =
        reach test (before ++ run).length (before ++ run).getLast? passed rest := by
  -- The text before is general, because a place is told by its length and its last character.
  induction run generalizing before with
  | nil => exact fun rest reached => ⟨reached, by simp⟩
  | cons c run ih =>
    intro rest reached
    have here : test c = true := fits c List.mem_cons_self
    obtain ⟨passed, same⟩ := ih (fun d member => fits d (List.mem_cons_of_mem c member))
      (before ++ [c]) rest (⟨before.length, before.getLast?, c :: (run ++ rest)⟩ :: reached)
    refine ⟨passed, ?_⟩
    rw [List.cons_append, reach, if_pos here]
    simpa using same

theorem reach_stop {rest : Text} (stops : rest.head?.any test = false) (before : Text)
    (reached : List Cursor) :
    reach test before.length before.getLast? reached rest = after before rest :: reached := by
  cases rest with
  | nil => rfl
  | cons c rest =>
    have here : ¬test c = true := by simpa using stops
    rw [reach, if_neg here]
    rfl

theorem mem_reach {place : Cursor} (rest before : Text) (reached : List Cursor)
    (member : place ∈ reach test before.length before.getLast? reached rest) :
    place ∈ reached ∨ ∃ run tail, rest = run ++ tail ∧ (∀ c ∈ run, test c = true) ∧
      place = after (before ++ run) tail := by
  -- A place is reached already, or it is behind a run that begins here.
  induction rest generalizing before reached with
  | nil =>
    rcases List.mem_cons.mp member with rfl | earlier
    · exact Or.inr ⟨[], [], rfl, by simp, by simp [after]⟩
    · exact Or.inl earlier
  | cons c rest ih =>
    rw [reach] at member
    have here : place ∈ (⟨before.length, before.getLast?, c :: rest⟩ :: reached) →
        place ∈ reached ∨ ∃ run tail, c :: rest = run ++ tail ∧ (∀ c ∈ run, test c = true) ∧
          place = after (before ++ run) tail := by
      intro found
      rcases List.mem_cons.mp found with rfl | earlier
      · exact Or.inr ⟨[], c :: rest, rfl, by simp, by simp [after]⟩
      · exact Or.inl earlier
    split at member
    · next fits =>
      have moved : place ∈ reach test (before ++ [c]).length (before ++ [c]).getLast?
          (⟨before.length, before.getLast?, c :: rest⟩ :: reached) rest := by simpa using member
      rcases ih _ _ moved with earlier | ⟨run, tail, rfl, all, rfl⟩
      · exact here earlier
      · refine Or.inr ⟨c :: run, tail, rfl, ?_, by simp⟩
        intro d inside
        rcases List.mem_cons.mp inside with rfl | later
        · exact fits
        · exact all d later
    · exact here member

end Reach
end Cursor

namespace Pattern
open Text Cursor
variable {α : Type} {before rest : Text} {parts : List (Part × Span)}
  {next : Cursor → List (Part × Span) → Option α} {result : α}

section Shape
variable (first second : Pattern)

theorem run_followed : run (first ++ second) (after before rest) parts next =
    run first (after before rest) parts fun middle parts => run second middle parts next := rfl

theorem run_either : run (first <|> second) (after before rest) parts next =
    (run first (after before rest) parts next).or (run second (after before rest) parts next) := rfl

theorem run_optional : run (optional first) (after before rest) parts next =
    (run first (after before rest) parts next).or (next (after before rest) parts) := rfl

theorem run_named (part : Part) : run (named part first) (after before rest) parts next =
    run first (after before rest) parts fun stop parts =>
      next stop ((part, ⟨before.length, stop.offset⟩) :: parts) := rfl

end Shape

section Character
variable {test : Char → Bool} {c : Char}

theorem run_one (fits : test c = true) :
    run (one test) (after before (c :: rest)) parts next = next (after (before ++ [c]) rest) parts := by
  simp only [run, after, fits, ↓reduceIte]
  congr 1
  simp

theorem run_one_ne (misfits : test c = false) :
    run (one test) (after before (c :: rest)) parts next = none := by
  simp [run, after, misfits]

theorem run_one_some (found : run (one test) (after before rest) parts next = some result) :
    ∃ c tail, rest = c :: tail ∧ test c = true ∧ next (after (before ++ [c]) tail) parts = some result := by
  cases rest with
  | nil => cases found
  | cons c tail =>
    cases fits : test c with
    | false => rw [run_one_ne fits] at found; cases found
    | true => exact ⟨c, tail, rfl, fits, by rwa [run_one fits] at found⟩

theorem run_exactly : run (exactly c) (after before (c :: rest)) parts next =
    next (after (before ++ [c]) rest) parts := run_one (beq_self_eq_true c)

theorem run_exactly_ne {d : Char} (different : d ≠ c) :
    run (exactly c) (after before (d :: rest)) parts next = none :=
  run_one_ne (beq_eq_false_iff_ne.mpr different)

theorem run_exactly_some (found : run (exactly c) (after before rest) parts next = some result) :
    ∃ tail, rest = c :: tail ∧ next (after (before ++ [c]) tail) parts = some result := by
  obtain ⟨d, tail, rfl, same, goes⟩ := run_one_some found
  obtain rfl := beq_iff_eq.mp same
  exact ⟨tail, rfl, goes⟩

end Character

section Many
variable {test : Char → Bool} {text : Text}

/-- The longest run is tried first. -/
theorem run_many (fits : ∀ c ∈ text, test c = true) (stops : rest.head?.any test = false)
    (goes : next (after (before ++ text) rest) parts = some result) :
    run (many test) (after before (text ++ rest)) parts next = some result := by
  obtain ⟨passed, same⟩ := reach_append fits before rest []
  change (reach test before.length before.getLast? [] (text ++ rest)).findSome? (next · parts) = _
  rw [same, reach_stop stops, List.findSome?_cons, goes]

/-- The place in front of the last character of the longest run is tried next. -/
theorem run_many_back {d : Char} (fits : ∀ c ∈ text, test c = true) (last : test d = true)
    (stops : rest.head?.any test = false) (fails : next (after (before ++ text ++ [d]) rest) parts = none)
    (goes : next (after (before ++ text) (d :: rest)) parts = some result) :
    run (many test) (after before (text ++ d :: rest)) parts next = some result := by
  obtain ⟨passed, same⟩ := reach_append fits before (d :: rest) []
  have stop (reached : List Cursor) : reach test ((before ++ text).length + 1) (some d) reached rest =
      after (before ++ text ++ [d]) rest :: reached := by
    have ends := reach_stop stops (before ++ text ++ [d]) reached
    rwa [List.getLast?_concat, List.length_append, List.length_singleton] at ends
  have here : next ⟨(before ++ text).length, (before ++ text).getLast?, d :: rest⟩ parts = some result := goes
  change (reach test before.length before.getLast? [] (text ++ d :: rest)).findSome? (next · parts) = _
  rw [same, reach, if_pos last, stop]
  simp only [List.findSome?_cons, fails, here]

theorem run_many_nil (stops : rest.head?.any test = false) :
    run (many test) (after before rest) parts next = next (after before rest) parts := by
  change (reach test before.length before.getLast? [] rest).findSome? (next · parts) = _
  rw [reach_stop stops, List.findSome?_cons]
  cases next (after before rest) parts <;> rfl

theorem run_many_some (found : run (many test) (after before rest) parts next = some result) :
    ∃ text tail, rest = text ++ tail ∧ (∀ c ∈ text, test c = true) ∧
      next (after (before ++ text) tail) parts = some result := by
  obtain ⟨place, member, goes⟩ := List.exists_of_findSome?_eq_some found
  rcases mem_reach rest before [] member with impossible | ⟨text, tail, rfl, fits, rfl⟩
  · cases impossible
  · exact ⟨text, tail, rfl, fits, goes⟩

theorem run_several (filled : text ≠ []) (fits : ∀ c ∈ text, test c = true)
    (stops : rest.head?.any test = false)
    (goes : next (after (before ++ text) rest) parts = some result) :
    run (several test) (after before (text ++ rest)) parts next = some result := by
  cases text with
  | nil => exact absurd rfl filled
  | cons c text =>
    unfold several
    rw [run_followed, List.cons_append, run_one (fits c List.mem_cons_self)]
    apply run_many (fun d member => fits d (List.mem_cons_of_mem c member)) stops
    simpa using goes

theorem run_several_back {d : Char} (filled : text ≠ []) (fits : ∀ c ∈ text, test c = true) (last : test d = true)
    (stops : rest.head?.any test = false) (fails : next (after (before ++ text ++ [d]) rest) parts = none)
    (goes : next (after (before ++ text) (d :: rest)) parts = some result) :
    run (several test) (after before (text ++ d :: rest)) parts next = some result := by
  obtain ⟨c, text, rfl⟩ := List.exists_cons_of_ne_nil filled
  obtain ⟨here, later⟩ := List.forall_mem_cons.mp fits
  rw [several, run_followed, List.cons_append, run_one here]
  apply run_many_back later last stops
  · simpa using fails
  · simpa using goes

theorem run_several_ne (stops : rest.head?.any test = false) :
    run (several test) (after before rest) parts next = none := by
  cases rest with
  | nil => rfl
  | cons c rest =>
    unfold several
    rw [run_followed, run_one_ne (by simpa using stops)]

theorem run_several_some (found : run (several test) (after before rest) parts next = some result) :
    ∃ text tail, rest = text ++ tail ∧ text ≠ [] ∧ (∀ c ∈ text, test c = true) ∧
      next (after (before ++ text) tail) parts = some result := by
  unfold several at found
  rw [run_followed] at found
  obtain ⟨c, behind, rfl, here, goes⟩ := run_one_some found
  obtain ⟨text, tail, rfl, fits, goes⟩ := run_many_some goes
  refine ⟨c :: text, tail, rfl, by simp, ?_, by simpa using goes⟩
  intro d member
  rcases List.mem_cons.mp member with rfl | later
  · exact here
  · exact fits d later

end Many

section Place

theorem run_edge (differs : endsWord before ≠ beginsWord rest) :
    run edge (after before rest) parts next = next (after before rest) parts := by
  have here : (after before rest).atEdge = true := by
    rw [atEdge_after]
    exact bne_iff_ne.mpr differs
  simp [run, here]

theorem run_edge_some (found : run edge (after before rest) parts next = some result) :
    endsWord before ≠ beginsWord rest ∧ next (after before rest) parts = some result := by
  by_cases differs : endsWord before = beginsWord rest
  · simp [run, atEdge_after, differs] at found
  · rw [run_edge differs] at found
    exact ⟨differs, found⟩

theorem run_ending : run ending (after before []) parts next = next (after before []) parts := rfl

theorem run_remainder : run remainder (after before rest) parts next =
    next (after (before ++ rest) []) parts := by
  change next (after before rest).finish parts = _
  rw [finish_after]

end Place

section Choice
variable {first second : Pattern}

theorem run_either_some
    (found : run (first <|> second) (after before rest) parts next = some result) :
    run first (after before rest) parts next = some result ∨
      run second (after before rest) parts next = some result := by
  rw [run_either] at found
  exact (Option.or_eq_some_iff.mp found).imp_right And.right

theorem isSome_run_either : (run (first <|> second) (after before rest) parts next).isSome =
    ((run first (after before rest) parts next).isSome || (run second (after before rest) parts next).isSome) := by
  rw [run_either, Option.isSome_or]

theorem run_optional_some (found : run (optional first) (after before rest) parts next = some result) :
    run first (after before rest) parts next = some result ∨
      next (after before rest) parts = some result := by
  rw [run_optional] at found
  exact (Option.or_eq_some_iff.mp found).imp_right And.right

theorem run_optional_of_some (found : run first (after before rest) parts next = some result) :
    run (optional first) (after before rest) parts next = some result := by
  rw [run_optional, found, Option.some_or]

theorem run_optional_none (fails : run first (after before rest) parts next = none) :
    run (optional first) (after before rest) parts next = next (after before rest) parts := by
  rw [run_optional, fails, Option.none_or]

end Choice

end Pattern
end SchemaAtlas
