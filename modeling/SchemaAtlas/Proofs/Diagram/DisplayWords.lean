import Mathlib
import SchemaAtlas.Diagram.DisplayName
import SchemaAtlas.Proofs.Pattern.Trial
/-!
The words of a name for the eye. Where a word ends is decided from character to character by what comes next, and this
gives the words that a search from left to right finds: capitals that no small letter follows, else small letters
perhaps behind one capital, else digits.
-/
namespace SchemaAtlas.DisplayName
open Text Pattern Cursor

/-- Where the word ends that begins the text, if one does: behind the capitals, from the most of them down, that no small
letter follows; else behind small letters, with or without a capital in front; else behind digits. -/
def wordAt? (text : Text) : Option Cursor :=
  (run (several Char.isUpper) (.start text) [] fun stop _ => if beginsSmall stop.rest then none else some stop).or
    (run (optional (one Char.isUpper) ++ several Char.isLower <|> several isDecimalDigit) (.start text) []
      fun stop _ => some stop)

/-- The words of a text from left to right, each after the one before. -/
inductive Finds : Text → List Text → Prop where
  | done : Finds [] []
  | skip {c : Char} {rest : Text} {found : List Text} (absent : wordAt? (c :: rest) = none)
    (later : Finds rest found) : Finds (c :: rest) found
  | word {word rest : Text} {found : List Text} (filled : word ≠ [])
    (here : wordAt? (word ++ rest) = some (after word rest)) (later : Finds rest found) :
    Finds (word ++ rest) (word :: found)

variable {c d : Char} {word rest text name : Text}

section Kinds

theorem not_isLower_of_isUpper (capital : c.isUpper = true) : c.isLower = false :=
  Bool.eq_false_iff.mpr (Char.not_isLower_of_isUpper capital)

theorem not_isAlpha_of_isDecimalDigit (digit : isDecimalDigit c = true) : c.isAlpha = false := by
  by_contra letter
  have alpha : c.isAlpha = true := Bool.of_not_eq_false letter
  have other := ascii_induction (fun c => c.isAlpha = true → isDecimalDigit c = false) (by decide +kernel)
    (ascii_of_isAlphanum (Bool.or_eq_true_iff.mpr (Or.inl alpha))) alpha
  rw [other] at digit
  cases digit

theorem kind_eq_capital : kind c = .capital ↔ c.isUpper = true := by
  refine ⟨fun same => ?_, fun capital => if_pos capital⟩
  unfold kind at same
  split_ifs at same
  assumption

theorem kind_eq_small : kind c = .small ↔ c.isLower = true := by
  constructor
  · intro same
    unfold kind at same
    split_ifs at same
    assumption
  · intro small
    rw [kind, if_neg (Char.not_isUpper_of_isLower small), if_pos small]

theorem kind_eq_digit : kind c = .digit ↔ isDecimalDigit c = true := by
  constructor
  · intro same
    unfold kind at same
    split_ifs at same
    assumption
  · intro digit
    obtain ⟨large, small⟩ := Bool.or_eq_false_iff.mp (not_isAlpha_of_isDecimalDigit digit)
    rw [kind, large, small, digit]
    rfl

theorem kind_cases (known : kind c ≠ .other) : c.isUpper = true ∨ c.isLower = true ∨ isDecimalDigit c = true := by
  rw [← kind_eq_capital, ← kind_eq_small, ← kind_eq_digit]
  cases same : kind c with
  | other => exact absurd same known
  | capital | small | digit => decide

theorem kind_ne_other (c : Char) : (kind c != .other) = (c.isAlpha || isDecimalDigit c) := by
  unfold kind Char.isAlpha
  split_ifs <;> simp [*]

theorem beginsSmall_eq (text : Text) : beginsSmall text = text.head?.any Char.isLower := by
  have alike (c : Char) : (kind c == .small) = c.isLower := Bool.eq_iff_iff.mpr (by simp [kind_eq_small])
  simp only [beginsSmall, alike]

end Kinds

section Stretch

/-- The stretch is one word in front of the rest: each of its characters joins the next, and the last one joins nothing. -/
inductive Stands : Text → Text → Prop where
  | last {c : Char} {rest : Text} (known : kind c ≠ .other) (apart : joins c rest = false) : Stands [c] rest
  | more {c : Char} {word rest : Text} (joined : joins c (word ++ rest) = true) (later : Stands word rest) :
    Stands (c :: word) rest

theorem kind_of_joins (joined : joins c rest = true) : kind c ≠ .other := by
  intro other
  cases rest with
  | nil => cases joined
  | cons next rest =>
    rw [joins, other] at joined
    cases joined

theorem Stands.words_append (stands : Stands word rest) : words (word ++ rest) = word :: words rest := by
  induction stands with
  | last known apart =>
    rw [List.singleton_append, words, apart, if_neg (by simpa using known), if_neg Bool.false_ne_true]
  | more joined _ ih =>
    rw [List.cons_append, words, if_neg (by simpa using kind_of_joins joined), if_pos joined, ih, extendFirst]

theorem joins_congr (same : kind c = kind d) (rest : Text) : joins c rest = joins d rest := by
  cases rest with
  | nil => rfl
  | cons next rest => rw [joins, joins, same]

/-- Small letters, or digits, up to where other characters come. -/
theorem stands_uniform {alike : CharacterKind} (uniform : alike = .small ∨ alike = .digit) (filled : word ≠ [])
    (all : ∀ c ∈ word, kind c = alike) (stops : ∀ c ∈ rest.head?, kind c ≠ alike) : Stands word rest := by
  induction word with
  | nil => exact absurd rfl filled
  | cons c word ih =>
    obtain ⟨here, later⟩ := List.forall_mem_cons.mp all
    cases word with
    | nil =>
      refine .last ?_ ?_
      · rcases uniform with rfl | rfl <;> simp [here]
      · cases rest with
        | nil => rfl
        | cons next rest =>
          have other := stops next rfl
          rcases uniform with rfl | rfl <;> simp [joins, here, other]
    | cons next word =>
      refine .more ?_ (ih (List.cons_ne_nil _ _) later)
      have same := later next List.mem_cons_self
      rcases uniform with rfl | rfl <;> simp [joins, here, same]

theorem stands_small (filled : word ≠ []) (all : ∀ c ∈ word, c.isLower = true)
    (stops : rest.head?.any Char.isLower = false) : Stands word rest := by
  refine stands_uniform (.inl rfl) filled (fun c member => kind_eq_small.mpr (all c member)) fun c first same => ?_
  rw [Option.mem_def.mp first, Option.any_some, kind_eq_small.mp same] at stops
  cases stops

theorem stands_digits (filled : word ≠ []) (all : ∀ c ∈ word, isDecimalDigit c = true)
    (stops : ∀ c ∈ rest.head?, kind c ≠ .digit) : Stands word rest :=
  stands_uniform (.inr rfl) filled (fun c member => kind_eq_digit.mpr (all c member)) stops

/-- Capitals, if a capital in front of the rest would be a word by itself. -/
theorem stands_capitals (filled : word ≠ []) (all : ∀ c ∈ word, c.isUpper = true) (apart : joins 'A' rest = false) :
    Stands word rest := by
  have alike {c : Char} (capital : c.isUpper = true) (rest : Text) : joins c rest = joins 'A' rest :=
    joins_congr (kind_eq_capital.mpr capital) rest
  induction word with
  | nil => exact absurd rfl filled
  | cons c word ih =>
    obtain ⟨here, later⟩ := List.forall_mem_cons.mp all
    cases word with
    | nil => exact .last (by rw [kind_eq_capital.mpr here]; decide) ((alike here rest).trans apart)
    | cons next word =>
      refine .more ?_ (ih (List.cons_ne_nil _ _) later)
      have calm : beginsSmall (word ++ rest) = false := by
        cases word with
        | nil => 
          by_contra small
          cases rest with
          | nil => exact small rfl
          | cons d rest =>
            have first : kind d = .small := by simpa [beginsSmall] using small
            simp [joins, first, show kind 'A' = .capital by decide] at apart
        | cons d word =>
          have capital : kind d = .capital :=
            kind_eq_capital.mpr (later d (List.mem_cons_of_mem next List.mem_cons_self))
          simp [beginsSmall, capital]
      simp [joins, kind_eq_capital.mpr here, kind_eq_capital.mpr (later next List.mem_cons_self), calm]

end Stretch

section Search

/-- The longest run of characters with a property that the first character has. -/
theorem exists_run (test : Char → Bool) (text : Text) (begins : text.head?.any test = true) :
    ∃ run rest, text = run ++ rest ∧ run ≠ [] ∧ (∀ c ∈ run, test c = true) ∧ rest.head?.any test = false := by
  have split : text = text.takeWhile test ++ text.dropWhile test := List.takeWhile_append_dropWhile.symm
  have stops : (text.dropWhile test).head?.any test = false := by
    have outside := List.head?_dropWhile_not test text
    cases left : (text.dropWhile test).head? with
    | none => rfl
    | some c => rwa [left] at outside
  refine ⟨_, _, split, fun empty => ?_, fun c => List.mem_takeWhile_imp, stops⟩
  rw [empty, List.nil_append] at split
  rw [← split, begins] at stops
  cases stops

theorem start_eq_after (text : Text) : Cursor.start text = after [] text := rfl

theorem wordAt?_capitals (filled : word ≠ []) (all : ∀ c ∈ word, c.isUpper = true)
    (stops : rest.head?.any Char.isUpper = false) (calm : beginsSmall rest = false) :
    wordAt? (word ++ rest) = some (after word rest) := by
  rw [wordAt?, start_eq_after, run_several filled all stops (if_neg (by simp [after, calm])), Option.some_or]
  rfl

/-- The last capital begins the next word. -/
theorem wordAt?_acronym (filled : word ≠ []) (all : ∀ c ∈ word, c.isUpper = true) (capital : d.isUpper = true)
    (stops : rest.head?.any Char.isUpper = false) (small : beginsSmall rest = true) :
    wordAt? (word ++ d :: rest) = some (after word (d :: rest)) := by
  have calm : beginsSmall (d :: rest) = false := by simp [beginsSmall, kind_eq_capital.mpr capital]
  rw [wordAt?, start_eq_after, run_several_back filled all capital stops (if_pos (by simpa [after] using small))
    (if_neg (by simp [after, calm])), Option.some_or]
  rfl

/-- Without a capital in front, no capitals are found. -/
theorem wordAt?_of_not_isUpper (other : c.isUpper = false) (rest : Text) : wordAt? (c :: rest) =
    (run (several Char.isLower) (after [] (c :: rest)) [] fun stop _ => some stop).or
      (run (several isDecimalDigit) (after [] (c :: rest)) [] fun stop _ => some stop) := by
  rw [wordAt?, start_eq_after, run_several_ne (by exact other), Option.none_or, run_either, run_followed,
    run_optional_none (run_one_ne other)]

theorem wordAt?_small (filled : word ≠ []) (all : ∀ c ∈ word, c.isLower = true)
    (stops : rest.head?.any Char.isLower = false) : wordAt? (word ++ rest) = some (after word rest) := by
  obtain ⟨c, word, rfl⟩ := List.exists_cons_of_ne_nil filled
  have other := Bool.eq_false_iff.mpr (Char.not_isUpper_of_isLower (all c List.mem_cons_self))
  rw [List.cons_append, wordAt?_of_not_isUpper other, ← List.cons_append, run_several filled all stops rfl,
    Option.some_or, List.nil_append]

theorem wordAt?_digits (filled : word ≠ []) (all : ∀ c ∈ word, isDecimalDigit c = true)
    (stops : rest.head?.any isDecimalDigit = false) : wordAt? (word ++ rest) = some (after word rest) := by
  obtain ⟨c, word, rfl⟩ := List.exists_cons_of_ne_nil filled
  have other := not_isAlpha_of_isDecimalDigit (all c List.mem_cons_self)
  obtain ⟨large, small⟩ := Bool.or_eq_false_iff.mp other
  rw [List.cons_append, wordAt?_of_not_isUpper large, run_several_ne (by exact small), Option.none_or,
    ← List.cons_append, run_several filled all stops rfl, List.nil_append]

theorem wordAt?_other (other : kind c = .other) (rest : Text) : wordAt? (c :: rest) = none := by
  have unknown : (c.isAlpha || isDecimalDigit c) = false := by rw [← kind_ne_other, other]; rfl
  obtain ⟨solid, digit⟩ := Bool.or_eq_false_iff.mp unknown
  obtain ⟨large, small⟩ := Bool.or_eq_false_iff.mp solid
  rw [wordAt?_of_not_isUpper large, run_several_ne (by exact small), run_several_ne (by exact digit), Option.none_or]

/-- One capital in front of small letters is not found by itself. -/
theorem wordAt?_capitalized (capital : c.isUpper = true) (filled : word ≠ []) (all : ∀ c ∈ word, c.isLower = true)
    (stops : rest.head?.any Char.isLower = false) : wordAt? (c :: word ++ rest) = some (after (c :: word) rest) := by
  have none_found : run (several Char.isUpper) (after [] (c :: word ++ rest)) []
      (fun stop _ => if beginsSmall stop.rest then none else some stop) = none := by
    by_contra found
    obtain ⟨_, found⟩ := Option.ne_none_iff_exists'.mp found
    obtain ⟨text, tail, same, some_text, capitals, goes⟩ := run_several_some found
    obtain ⟨d, word, rfl⟩ := List.exists_cons_of_ne_nil filled
    have small := all d List.mem_cons_self
    match text with
    | [] => exact some_text rfl
    | [_] =>
      obtain ⟨rfl, rfl⟩ := List.cons.inj same
      have follows : beginsSmall (d :: word ++ rest) = true := by simp [beginsSmall, kind_eq_small.mpr small]
      have refused : (if beginsSmall (d :: word ++ rest) then none else some (after [c] (d :: word ++ rest))) = some _ :=
        goes
      rw [if_pos follows] at refused
      cases refused
    | _ :: e :: _ =>
      obtain ⟨_, behind⟩ := List.cons.inj same
      obtain ⟨rfl, _⟩ := List.cons.inj behind
      have large := capitals d (by simp)
      rw [not_isLower_of_isUpper large] at small
      cases small
  rw [wordAt?, start_eq_after, none_found, Option.none_or, run_either, run_followed]
  rw [run_optional_of_some, Option.some_or]
  rw [List.cons_append, run_one capital, run_several filled all stops rfl]
  rfl

/-- A word that the search finds where the text begins, and that stands there. -/
structure Begins (word rest : Text) : Prop where
  filled : word ≠ []
  found : wordAt? (word ++ rest) = some (after word rest)
  stands : Stands word rest

/-- Of capitals in front of small letters the last one goes with these. -/
theorem exists_begins_acronym (all : ∀ c ∈ word, c.isUpper = true) (capital : d.isUpper = true)
    (stops : rest.head?.any Char.isUpper = false) (follows : beginsSmall rest = true) :
    ∃ first tail, word ++ d :: rest = first ++ tail ∧ Begins first tail := by
  cases word with
  | nil =>
    obtain ⟨small, tail, rfl, filled, each, ends⟩ := exists_run Char.isLower rest (beginsSmall_eq rest ▸ follows)
    obtain ⟨e, more, rfl⟩ := List.exists_cons_of_ne_nil filled
    have joined : joins d (e :: more ++ tail) = true := by
      simp [joins, kind_eq_capital.mpr capital, kind_eq_small.mpr (each e List.mem_cons_self)]
    exact ⟨d :: e :: more, tail, rfl, List.cons_ne_nil _ _, wordAt?_capitalized capital filled each ends,
      .more joined (stands_small filled each ends)⟩
  | cons e word =>
    have apart : joins 'A' (d :: rest) = false := by
      simp [joins, show kind 'A' = .capital by decide, kind_eq_capital.mpr capital, follows]
    exact ⟨e :: word, d :: rest, rfl, List.cons_ne_nil _ _,
      wordAt?_acronym (List.cons_ne_nil _ _) all capital stops follows,
      stands_capitals (List.cons_ne_nil _ _) all apart⟩

theorem exists_begins_capital (capital : c.isUpper = true) (rest : Text) :
    ∃ word tail, c :: rest = word ++ tail ∧ Begins word tail := by
  obtain ⟨word, tail, same, filled, all, stops⟩ := exists_run Char.isUpper (c :: rest) capital
  rw [same]
  cases follows : beginsSmall tail with
  | false =>
    have apart : joins 'A' tail = false := by
      cases tail with
      | nil => rfl
      | cons next tail =>
        have large : kind next ≠ .capital := fun same => by
          rw [List.head?_cons, Option.any_some, kind_eq_capital.mp same] at stops
          cases stops
        have small : kind next ≠ .small := by simpa [beginsSmall] using follows
        simp [joins, show kind 'A' = .capital by decide, large, small]
    exact ⟨word, tail, rfl, filled, wordAt?_capitals filled all stops follows, stands_capitals filled all apart⟩
  | true =>
    obtain ⟨front, d, rfl⟩ := (List.eq_nil_or_concat word).resolve_left filled
    rw [List.concat_eq_append] at all ⊢
    obtain ⟨front_all, last⟩ := List.forall_mem_append.mp all
    rw [List.append_assoc]
    exact exists_begins_acronym front_all (last d (List.mem_singleton_self d)) stops follows

/-- A text that begins with a letter or a digit begins with a word. -/
theorem exists_begins (known : kind c ≠ .other) (rest : Text) :
    ∃ word tail, c :: rest = word ++ tail ∧ Begins word tail := by
  rcases kind_cases known with capital | small | digit
  · exact exists_begins_capital capital rest
  · obtain ⟨word, tail, same, filled, all, stops⟩ := exists_run Char.isLower (c :: rest) small
    exact ⟨word, tail, same, filled, wordAt?_small filled all stops, stands_small filled all stops⟩
  · obtain ⟨word, tail, same, filled, all, stops⟩ := exists_run isDecimalDigit (c :: rest) digit
    refine ⟨word, tail, same, filled, wordAt?_digits filled all stops, stands_digits filled all fun d first same => ?_⟩
    rw [Option.mem_def.mp first, Option.any_some, kind_eq_digit.mp same] at stops
    cases stops

/-- The words that characters make by joining the next one are those that the search finds. -/
theorem finds_words (name : Text) : Finds name (words name) := by
  induction size : name.length using Nat.strong_induction_on generalizing name with
  | _ size ih =>
    subst size
    cases name with
    | nil => exact .done
    | cons c rest =>
      by_cases other : kind c = .other
      · have skipped : words (c :: rest) = words rest := by rw [words, other]; rfl
        rw [skipped]
        exact .skip (wordAt?_other other rest) (ih _ (Nat.lt_succ_self _) rest rfl)
      · obtain ⟨word, tail, same, begins⟩ := exists_begins other rest
        rw [same, begins.stands.words_append]
        refine .word begins.filled begins.found (ih _ ?_ tail rfl)
        rw [same, List.length_append]
        exact Nat.lt_add_of_pos_left (List.length_pos_iff.mpr begins.filled)

end Search

end SchemaAtlas.DisplayName
