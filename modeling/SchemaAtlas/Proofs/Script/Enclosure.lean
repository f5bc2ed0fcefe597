import Mathlib.Data.List.TakeWhile
import SchemaAtlas.Proofs.Script.Joining
/-!
Texts that stand for one clause each, whatever they hold: a scan that begins outside quotation marks and
parentheses meets no separating comma in them and is outside again at their end. Clauses with commas
between them are split into just these clauses.
-/
namespace SchemaAtlas.Script
open Text

/-- A scan goes through the text without a comma that separates, and ends outside. -/
def Nesting.encloses (state : Nesting) : Text → Bool
  | [] => state.isTop
  | c :: rest => !(c == ',' && (state.step c).isTop) && (state.step c).encloses rest

/-- The text is one clause. -/
def IsEnclosed (text : Text) : Prop := Nesting.outside.encloses text = true

instance (text : Text) : Decidable (IsEnclosed text) := inferInstanceAs (Decidable (_ = true))

section Scan
variable {state : Nesting} {text rest : Text} {last : Option Char} {c : Char}

theorem Nesting.eq_of_isTop (top : state.isTop = true) : state = ⟨none, 0, state.last⟩ := by
  obtain ⟨unquoted, level⟩ := Bool.and_eq_true_iff.mp top
  cases state with
  | mk quote depth last =>
    cases quote with
    | none =>
      obtain rfl : depth = 0 := beq_iff_eq.mp level
      rfl
    | some mark => cases unquoted

/-- Of the character before, only a backslash counts, and only in front of a quotation mark. -/
theorem Nesting.nextQuote_joined (joint : last = some '\\' → isQuotationMark c = false) :
    (⟨none, 0, last⟩ : Nesting).nextQuote c = outside.nextQuote c := by
  by_cases plain : last = some '\\'
  · simp [nextQuote, joint plain, outside]
  · have counts : (last != some '\\') = true := bne_iff_ne.mpr plain
    have none_before : ((none : Option Char) != some '\\') = true := by decide
    simp only [nextQuote, outside, counts, none_before]

theorem Nesting.step_joined (joint : last = some '\\' → isQuotationMark c = false) :
    (⟨none, 0, last⟩ : Nesting).step c = outside.step c := by
  simp only [step, nextQuote_joined joint]
  rfl

theorem Nesting.encloses_last (plain : last ≠ some '\\') (text : Text) :
    (⟨none, 0, last⟩ : Nesting).encloses text = outside.encloses text := by
  cases text with
  | nil => rfl
  | cons c text => rw [encloses, encloses, step_joined fun escapes => absurd escapes plain]

theorem Nesting.isTop_of_encloses (enclosed : state.encloses text = true) :
    (text.foldl step state).isTop = true := by
  induction text generalizing state with
  | nil => exact enclosed
  | cons c text ih => exact ih (Bool.and_eq_true_iff.mp enclosed).2

/-- An enclosed text goes into one piece. -/
theorem pieces_of_encloses (enclosed : state.encloses text = true) (rest : Text) :
    pieces ',' state (text ++ rest) =
      text.foldr extendFirst (pieces ',' (text.foldl Nesting.step state) rest) := by
  induction text generalizing state with
  | nil => rfl
  | cons c text ih =>
    obtain ⟨inside, later⟩ := Bool.and_eq_true_iff.mp enclosed
    have kept : (c == ',' && (state.step c).isTop) = false := by
      rwa [Bool.not_eq_true'] at inside
    rw [List.cons_append, pieces]
    simp only [kept, Bool.false_eq_true, ↓reduceIte]
    rw [ih later]
    rfl

theorem isEnclosed_cons_of_level {c : Char} (level : isLevel c = true) (other : c ≠ ',')
    (plain : c ≠ '\\') : IsEnclosed (c :: text) ↔ IsEnclosed text := by
  have inside : (c == ',') = false := beq_eq_false_iff_ne.mpr other
  have after : Nesting.outside.step c = ⟨none, 0, some c⟩ := step_level level
  unfold IsEnclosed
  rw [Nesting.encloses, inside, after, Nesting.encloses_last (by simpa using plain)]
  simp

end Scan

section Join
variable {texts : List Text}

theorem commas_only_cons (first second : Text) (others : List Text) :
    [','].intercalate (first :: second :: others) = first ++ ',' :: [','].intercalate (second :: others) := by
  rw [List.intercalate_cons_cons, List.append_assoc]
  rfl

theorem pieces_join (filled : texts ≠ []) (each : ∀ text ∈ texts, IsEnclosed text) {last : Option Char}
    (plain : last ≠ some '\\') : pieces ',' ⟨none, 0, last⟩ ([','].intercalate texts) = texts := by
  induction texts generalizing last with
  | nil => exact absurd rfl filled
  | cons text others ih =>
    have enclosed : (⟨none, 0, last⟩ : Nesting).encloses text = true :=
      (Nesting.encloses_last plain text).trans (each text List.mem_cons_self)
    have top := Nesting.eq_of_isTop (Nesting.isTop_of_encloses enclosed)
    cases others with
    | nil =>
      have whole : [','].intercalate [text] = text ++ [] := by simp
      rw [whole, pieces_of_encloses enclosed, pieces, foldr_extendFirst, List.append_nil]
    | cons second others =>
      have tail := ih (List.cons_ne_nil _ _) (fun text member => each text (List.mem_cons_of_mem _ member))
        (show some ',' ≠ some '\\' by decide)
      have separates : (',' == ',' && (⟨none, 0, some ','⟩ : Nesting).isTop) = true := by decide
      rw [commas_only_cons, pieces_of_encloses enclosed, top, pieces, step_level (by decide)]
      simp only [separates, ↓reduceIte]
      rw [tail, foldr_extendFirst, List.append_nil]

theorem splitTop_join (filled : texts ≠ []) (each : ∀ text ∈ texts, IsEnclosed text) :
    splitTop ',' ([','].intercalate texts) = texts.map Text.trim := by
  have split : pieces ',' .outside ([','].intercalate texts) = texts :=
    pieces_join filled each (show none ≠ some '\\' by decide)
  rw [splitTop, split]

/-- A space behind a comma belongs to the clause that follows. -/
theorem commas_eq_commas_only (first : Text) (others : List Text) :
    [',', ' '].intercalate (first :: others) = [','].intercalate (first :: others.map (' ' :: ·)) := by
  induction others generalizing first with
  | nil => rfl
  | cons second others ih =>
    rw [commas_cons, ih, List.map_cons, commas_only_cons]
    cases others with
    | nil => simp
    | cons third others =>
      rw [List.map_cons, commas_only_cons, commas_only_cons]
      rfl

/-- A text of clauses is blank only if there is none, or a single one that is blank. -/
theorem blank_join (blank : isAllBlank ([','].intercalate texts) = true) :
    texts = [] ∨ ∃ text, texts = [text] ∧ isAllBlank text = true := by
  cases texts with
  | nil => exact Or.inl rfl
  | cons first others =>
    cases others with
    | nil => exact Or.inr ⟨first, rfl, by simpa using blank⟩
    | cons second others =>
      rw [commas_only_cons] at blank
      have comma : isBlank ',' = true := List.all_eq_true.mp blank ',' (by simp)
      cases comma

theorem trim_of_blank {text : Text} (blank : isAllBlank text = true) : Text.trim text = [] := by
  have none_left : trimStart text = [] := List.dropWhile_eq_nil_iff.mpr (List.all_eq_true.mp blank)
  rw [Text.trim, none_left]
  rfl

theorem clauses_join_of_visible (each : ∀ text ∈ texts, IsEnclosed text)
    (visible : isAllBlank ([','].intercalate texts) = false) :
    clauses ([','].intercalate texts) = texts.map Text.trim := by
  have filled : texts ≠ [] := by
    rintro rfl
    cases visible
  rw [clauses, visible, splitTop_join filled each]
  rfl

/-- The body is the clauses in order, with commas between them and blanks around them at will. -/
def Lists (body : Text) (clauses : List Text) : Prop :=
  ∃ texts, (∀ text ∈ texts, IsEnclosed text) ∧ texts.map Text.trim = clauses ∧ body = [','].intercalate texts

theorem lists_join (each : ∀ text ∈ texts, IsEnclosed text ∧ Text.trim text = text) :
    Lists ([','].intercalate texts) texts :=
  ⟨texts, fun text member => (each text member).1,
    (List.map_congr_left fun text member => (each text member).2).trans (List.map_id _), rfl⟩

/-- The clauses of a body are those that it was written for. -/
theorem Lists.clauses_eq {body : Text} {clauses : List Text} (lists : Lists body clauses)
    (filled : clauses = [] ∨ ∃ clause ∈ clauses, clause ≠ []) : Script.clauses body = clauses := by
  obtain ⟨texts, each, rfl, rfl⟩ := lists
  cases blank : isAllBlank ([','].intercalate texts) with
  | false => exact clauses_join_of_visible each blank
  | true =>
    rcases blank_join blank with rfl | ⟨text, rfl, only_blank⟩
    · rfl
    · rcases filled with none_there | ⟨clause, member, visible⟩
      · cases none_there
      · obtain rfl := List.mem_singleton.mp member
        exact absurd (trim_of_blank only_blank) visible

theorem trim_of_mem_clauses {body clause : Text} (member : clause ∈ clauses body) : Text.trim clause = clause := by
  unfold clauses at member
  split at member
  · cases member
  · obtain ⟨text, _, rfl⟩ := List.mem_map.mp member
    exact trim_trim text

/-- Trimmed clauses come back as they are. -/
theorem clauses_commas (each : ∀ text ∈ texts, IsEnclosed text ∧ text ≠ [] ∧ Text.trim text = text) :
    clauses ([',', ' '].intercalate texts) = texts := by
  cases texts with
  | nil => rfl
  | cons first others =>
    have enclosed : ∀ text ∈ first :: others.map (' ' :: ·), IsEnclosed text := by
      intro text member
      rcases List.mem_cons.mp member with rfl | later
      · exact (each text List.mem_cons_self).1
      · obtain ⟨other, inside, rfl⟩ := List.mem_map.mp later
        exact (isEnclosed_cons_of_level (by decide) (by decide) (by decide)).mpr
          (each other (List.mem_cons_of_mem _ inside)).1
    have visible : isAllBlank ([','].intercalate (first :: others.map (' ' :: ·))) = false := by
      by_contra blank
      obtain ⟨_, filled, trimmed⟩ := each first List.mem_cons_self
      rcases blank_join (Bool.of_not_eq_false blank) with none_there | ⟨only, same, only_blank⟩
      · cases none_there
      · obtain ⟨rfl, _⟩ := List.cons.inj same
        exact filled (trimmed.symm.trans (trim_of_blank only_blank))
    rw [commas_eq_commas_only, clauses_join_of_visible enclosed visible, List.map_cons,
      (each first List.mem_cons_self).2.2, List.map_map]
    congr 1
    apply (List.map_congr_left ?_).trans (List.map_id _)
    intro text member
    exact (trim_cons (by decide) text).trans (each text (List.mem_cons_of_mem _ member)).2.2

end Join
end SchemaAtlas.Script
