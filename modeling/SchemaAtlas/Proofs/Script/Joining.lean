import SchemaAtlas.Proofs.Script.Layout
/-!
Texts with commas or semicolons between them. Such a text is tidy and nested if its pieces are, its words
are those of the pieces, and splitting it gives the pieces back.
-/
namespace SchemaAtlas
open Text

namespace Text
variable {pieces : List Text}

theorem commas_cons (first second : Text) (others : List Text) :
    [',', ' '].intercalate (first :: second :: others) =
      first ++ ',' :: ' ' :: [',', ' '].intercalate (second :: others) := by
  rw [List.intercalate_cons_cons, List.append_assoc]
  rfl

theorem commas_append (front first : Text) (others : List Text) :
    [',', ' '].intercalate ((front ++ first) :: others) = front ++ [',', ' '].intercalate (first :: others) := by
  cases others with
  | nil => simp
  | cons second others => rw [commas_cons, commas_cons, List.append_assoc]

theorem semicolons_cons (first second : Text) (others : List Text) :
    [';'].intercalate (first :: second :: others) = first ++ ';' :: [';'].intercalate (second :: others) := by
  rw [List.intercalate_cons_cons, List.append_assoc]
  rfl

theorem mem_commas {c : Char} (member : c ∈ [',', ' '].intercalate pieces) :
    c = ',' ∨ c = ' ' ∨ ∃ piece ∈ pieces, c ∈ piece := by
  induction pieces with
  | nil => cases member
  | cons first others ih =>
    cases others with
    | nil => exact Or.inr (Or.inr ⟨first, List.mem_cons_self, by simpa using member⟩)
    | cons second others =>
      rw [commas_cons] at member
      rcases List.mem_append.mp member with here | later
      · exact Or.inr (Or.inr ⟨first, List.mem_cons_self, here⟩)
      · rcases List.mem_cons.mp later with comma | later
        · exact Or.inl comma
        · rcases List.mem_cons.mp later with space | later
          · exact Or.inr (Or.inl space)
          · rcases ih later with comma | space | ⟨piece, inside, here⟩
            · exact Or.inl comma
            · exact Or.inr (Or.inl space)
            · exact Or.inr (Or.inr ⟨piece, List.mem_cons_of_mem _ inside, here⟩)

theorem words_commas (pieces : List Text) : words ([',', ' '].intercalate pieces) = pieces.flatMap words := by
  induction pieces with
  | nil => exact words_nil
  | cons first others ih =>
    cases others with
    | nil => simp
    | cons second others =>
      rw [commas_cons, words_append_cons _ _ (by decide), words_cons _ (by decide), ih]
      rfl

theorem words_semicolons (pieces : List Text) : words ([';'].intercalate pieces) = pieces.flatMap words := by
  induction pieces with
  | nil => exact words_nil
  | cons first others ih =>
    cases others with
    | nil => simp
    | cons second others =>
      rw [semicolons_cons, words_append_cons _ _ (by decide), ih]
      rfl

/-- Each piece follows a space, and so does the whole. -/
theorem tidy_commas (each : ∀ piece ∈ pieces, Tidy (' ' :: piece)) (filled : pieces ≠ []) :
    Tidy (' ' :: [',', ' '].intercalate pieces) := by
  induction pieces with
  | nil => exact absurd rfl filled
  | cons first others ih =>
    have here := each first List.mem_cons_self
    cases others with
    | nil => simpa using here
    | cons second others =>
      have later := ih (fun piece member => each piece (List.mem_cons_of_mem _ member)) (List.cons_ne_nil _ _)
      rw [commas_cons, ← List.cons_append]
      exact here.append (.ordinary (by decide) later)

theorem tidy_semicolons (each : ∀ piece ∈ pieces, Tidy piece) : Tidy ([';'].intercalate pieces) := by
  induction pieces with
  | nil => exact .nil
  | cons first others ih =>
    have here := each first List.mem_cons_self
    cases others with
    | nil => simpa using here
    | cons second others =>
      have later := ih fun piece member => each piece (List.mem_cons_of_mem _ member)
      rw [semicolons_cons]
      exact here.append (.ordinary (by decide) later)

theorem start_semicolons (each : ∀ piece ∈ pieces, piece ≠ [] ∧ piece.head?.any isBlank = false) :
    ([';'].intercalate pieces).head?.any isBlank = false := by
  cases pieces with
  | nil => rfl
  | cons first others =>
    obtain ⟨filled, start⟩ := each first List.mem_cons_self
    obtain ⟨c, text, rfl⟩ := List.exists_cons_of_ne_nil filled
    cases others with
    | nil => simpa using start
    | cons second others => rwa [semicolons_cons, List.cons_append]

theorem nested_commas (each : ∀ piece ∈ pieces, Script.Nested true piece) :
    Script.Nested true ([',', ' '].intercalate pieces) := by
  induction pieces with
  | nil => exact .nil
  | cons first others ih =>
    have here := each first List.mem_cons_self
    cases others with
    | nil => simpa using here
    | cons second others =>
      have later := ih fun piece member => each piece (List.mem_cons_of_mem _ member)
      rw [commas_cons]
      exact here.append (.flat (by decide) (fun _ => rfl) (.flat (by decide) (by decide) later))

end Text

namespace Script

section Pieces
variable {separator : Char} {text rest : Text}

theorem foldr_extendFirst (text first : Text) (others : List Text) :
    text.foldr extendFirst (first :: others) = (text ++ first) :: others := by
  induction text with
  | nil => rfl
  | cons c text ih => rw [List.foldr_cons, ih]; rfl

theorem pieces_append (absent : separator ∉ text) (state : Nesting) :
    pieces separator state (text ++ rest) =
      text.foldr extendFirst (pieces separator (text.foldl Nesting.step state) rest) := by
  induction text generalizing state with
  | nil => rfl
  | cons c text ih =>
    have different : ¬(c == separator) = true := by
      intro same
      exact absent (by simp [beq_iff_eq.mp same])
    rw [List.cons_append, pieces]
    simp only [different, Bool.false_and, Bool.false_eq_true, ↓reduceIte]
    rw [ih (fun member => absent (List.mem_cons_of_mem c member))]
    rfl

/-- Nested text goes into one piece if its commas are all in parentheses. -/
theorem pieces_append_of_nested {commas : Bool} (nested : Nested commas text) (depth : Nat)
    (last : Option Char) (covered : commas = true → 0 < depth) (rest : Text) :
    ∃ latest, pieces ',' ⟨none, depth, last⟩ (text ++ rest) =
      text.foldr extendFirst (pieces ',' ⟨none, depth, latest⟩ rest) := by
  induction nested generalizing depth last rest with
  | nil => exact ⟨last, rfl⟩
  | @flat commas c text here leave _ ih =>
    obtain ⟨latest, same⟩ := ih depth (some c) covered rest
    refine ⟨latest, ?_⟩
    have kept : (c == ',' && (⟨none, depth, some c⟩ : Nesting).isTop) = false := by
      by_cases comma : c = ','
      · have deep := covered (leave comma)
        simp [Nesting.isTop, Nat.ne_of_gt deep]
      · simp [comma]
    rw [List.cons_append, pieces, step_flat here]
    simp only [kept, Bool.false_eq_true, ↓reduceIte]
    rw [same]
    rfl
  -- In parentheses every comma is covered, so the text inside has leave for its own.
  | @group commas inner text _ _ inside ih =>
    obtain ⟨middle, within⟩ := inside (depth + 1) (some '(') (fun _ => Nat.succ_pos depth)
      (')' :: (text ++ rest))
    obtain ⟨latest, same⟩ := ih depth (some ')') covered rest
    refine ⟨latest, ?_⟩
    have opens : ('(' == ',') = false := by decide
    have closes : (')' == ',') = false := by decide
    rw [List.cons_append, List.append_assoc, List.cons_append, pieces, step_opening]
    simp only [opens, Bool.false_and, Bool.false_eq_true, ↓reduceIte]
    rw [within, pieces, step_closing]
    simp only [closes, Bool.false_and, Bool.false_eq_true, ↓reduceIte]
    rw [same]
    simp

end Pieces

section Join
variable {texts : List Text}

theorem pieces_semicolons (filled : texts ≠ []) (each : ∀ text ∈ texts, Nested true text)
    (last : Option Char) :
    pieces ';' ⟨none, 0, last⟩ ([';'].intercalate texts) = texts := by
  induction texts generalizing last with
  | nil => exact absurd rfl filled
  | cons text others ih =>
    have nested := each text List.mem_cons_self
    have absent := nested.not_mem_semicolon
    obtain ⟨latest, level⟩ := nested.foldl_step 0 last
    cases others with
    | nil =>
      have whole : [';'].intercalate [text] = text ++ [] := by simp
      rw [whole, pieces_append absent, pieces, foldr_extendFirst, List.append_nil]
    | cons second others =>
      have tail := ih (by simp) (fun text member => each text (List.mem_cons_of_mem _ member)) (some ';')
      have top : (';' == ';' && (⟨none, 0, some ';'⟩ : Nesting).isTop) = true := by decide
      rw [semicolons_cons, pieces_append absent, level, pieces, step_level (by decide)]
      simp only [top, ↓reduceIte]
      rw [tail, foldr_extendFirst, List.append_nil]

theorem pieces_commas {first : Text} (here : Nested false first)
    (each : ∀ text ∈ texts, Nested false text) (last : Option Char) :
    pieces ',' ⟨none, 0, last⟩ ([',', ' '].intercalate (first :: texts)) =
      first :: texts.map (' ' :: ·) := by
  induction texts generalizing first last with
  | nil =>
    obtain ⟨latest, same⟩ := pieces_append_of_nested here 0 last (by simp) []
    have whole : [',', ' '].intercalate [first] = first ++ [] := by simp
    rw [whole, same, pieces, foldr_extendFirst, List.append_nil]
    rfl
  -- Every piece but the first keeps the space behind its comma.
  | cons second others ih =>
    have tail := ih (each second List.mem_cons_self)
      (fun text member => each text (List.mem_cons_of_mem _ member)) (some ' ')
    obtain ⟨latest, same⟩ := pieces_append_of_nested here 0 last (by simp)
      (',' :: ' ' :: [',', ' '].intercalate (second :: others))
    have top : (',' == ',' && (⟨none, 0, some ','⟩ : Nesting).isTop) = true := by decide
    have apart : (' ' == ',') = false := by decide
    rw [commas_cons, same, pieces, step_flat (by decide)]
    simp only [top, ↓reduceIte]
    rw [pieces, step_flat (by decide)]
    simp only [apart, Bool.false_and, Bool.false_eq_true, ↓reduceIte]
    rw [tail, foldr_extendFirst, List.append_nil]
    rfl

theorem statements_join (each : ∀ text ∈ texts, Nested true text ∧ text ≠ [] ∧ Text.trim text = text) :
    statements ([';'].intercalate texts) = texts := by
  unfold statements splitTop
  cases texts with
  | nil => rfl
  | cons text others =>
    have whole : pieces ';' .outside ([';'].intercalate (text :: others)) = text :: others :=
      pieces_semicolons (by simp) (fun text member => (each text member).1) none
    have trimmed : (text :: others).map Text.trim = text :: others :=
      (List.map_congr_left fun text member => (each text member).2.2).trans (List.map_id _)
    rw [whole, trimmed, List.filter_eq_self]
    intro text member
    exact bne_iff_ne.mpr (each text member).2.1

theorem clauses_join (each : ∀ text ∈ texts,
      Nested false text ∧ Tidy text ∧ text ≠ [] ∧ text.head?.any isBlank = false) :
    clauses ([',', ' '].intercalate texts) = texts := by
  cases texts with
  | nil => rfl
  | cons first others =>
    obtain ⟨nested, tidy, filled, start⟩ := each first List.mem_cons_self
    have visible : isAllBlank ([',', ' '].intercalate (first :: others)) = false := by
      obtain ⟨c, text, rfl⟩ := List.exists_cons_of_ne_nil filled
      have solid : isBlank c = false := by simpa using start
      cases others with
      | nil => simp [isAllBlank, solid]
      | cons second others =>
        rw [List.intercalate_cons_cons]
        simp [isAllBlank, solid]
    have parts : splitTop ',' ([',', ' '].intercalate (first :: others)) = first :: others := by
      have whole : pieces ',' .outside ([',', ' '].intercalate (first :: others)) =
          first :: others.map (' ' :: ·) :=
        pieces_commas nested (fun text member => (each text (List.mem_cons_of_mem _ member)).1) none
      rw [splitTop, whole, List.map_cons, tidy.trim start, List.map_map]
      congr 1
      apply (List.map_congr_left ?_).trans (List.map_id _)
      intro text member
      obtain ⟨_, tidy, _, start⟩ := each text (List.mem_cons_of_mem _ member)
      exact tidy.trim_space start
    rw [clauses, visible, parts]
    rfl

end Join

end Script
end SchemaAtlas
