import SchemaAtlas.Script.Nesting
import SchemaAtlas.Proofs.Text.Words
/-!
Texts that the first stages of reading leave alone. A tidy text has no comment, no quotation mark and
only single spaces; a nested text has parentheses that close, and the separators between its pieces
stand outside them.
-/
namespace SchemaAtlas

namespace Text

/-- The characters of a tidy text that stand by themselves. -/
def isOrdinary (c : Char) : Bool := isPlain c || c == '(' || c == ')' || c == ',' || c == ';'

theorem isOrdinary_of_isPlain {c : Char} (plain : isPlain c = true) : isOrdinary c = true := by
  simp [isOrdinary, plain]

theorem ne_of_isOrdinary {c d : Char} (ordinary : isOrdinary c = true) (other : isOrdinary d = false) :
    c ≠ d := by
  rintro rfl
  rw [ordinary] at other
  cases other

theorem ascii_of_isOrdinary {c : Char} (ordinary : isOrdinary c = true) : c.toNat < 128 := by
  simp only [isOrdinary, Bool.or_eq_true, beq_iff_eq] at ordinary
  rcases ordinary with (((plain | rfl) | rfl) | rfl) | rfl
  · exact ascii_of_isPlain plain
  all_goals decide

theorem isBlank_of_isOrdinary {c : Char} (ordinary : isOrdinary c = true) : isBlank c = false :=
  ascii_induction (fun c => isOrdinary c = true → isBlank c = false) (by decide)
    (ascii_of_isOrdinary ordinary) ordinary

section Trim
variable {text : Text}

theorem trim_eq_self (start : text.head?.any isBlank = false) (stop : text.getLast?.any isBlank = false) :
    trim text = text := by
  have kept_start : trimStart text = text := by
    cases text with
    | nil => rfl
    | cons c text => exact List.dropWhile_cons_of_neg (by simpa using start)
  have kept_end : trimEnd text = text := by
    unfold trimEnd
    rw [← List.head?_reverse] at stop
    have reversed : text.reverse.dropWhile isBlank = text.reverse := by
      cases turned : text.reverse with
      | nil => rfl
      | cons c others =>
        rw [turned] at stop
        exact List.dropWhile_cons_of_neg (by simpa using stop)
    rw [reversed, List.reverse_reverse]
  rw [trim, kept_start, kept_end]

theorem stop_trim (text : Text) : (trim text).getLast?.any isBlank = false := by
  have stops := List.head?_dropWhile_not isBlank (trimStart text).reverse
  rw [trim, trimEnd, List.getLast?_reverse]
  cases last : ((trimStart text).reverse.dropWhile isBlank).head? with
  | none => rfl
  | some c =>
    rw [last] at stops
    exact stops

theorem start_trim (text : Text) : (trim text).head?.any isBlank = false := by
  have first : (trimStart text).head?.any isBlank = false := by
    have starts := List.head?_dropWhile_not isBlank text
    rw [trimStart]
    cases here : (text.dropWhile isBlank).head? with
    | none => rfl
    | some c =>
      rw [here] at starts
      exact starts
  -- What is trimmed at the end leaves the first character, if any is left at all.
  have kept : trim text <+: trimStart text := by
    rw [trim, trimEnd, ← List.reverse_suffix, List.reverse_reverse]
    exact List.dropWhile_suffix isBlank
  obtain ⟨rest, whole⟩ := kept
  cases same : trim text with
  | nil => rfl
  | cons c others =>
    rw [← whole, same] at first
    exact first

theorem trim_trim (text : Text) : trim (trim text) = trim text := trim_eq_self (start_trim text) (stop_trim text)

theorem trim_cons {c : Char} (blank : isBlank c = true) (text : Text) : trim (c :: text) = trim text := by
  unfold trim trimStart
  rw [List.dropWhile_cons_of_pos blank]

end Trim

/-- Ordinary characters, with single spaces between them and signs right before numbers. -/
inductive Tidy : Text → Prop where
  | nil : Tidy []
  | ordinary {c : Char} {rest : Text} (here : isOrdinary c = true) (tidy : Tidy rest) : Tidy (c :: rest)
  | spaced {c : Char} {rest : Text} (here : isOrdinary c = true) (tidy : Tidy rest) :
    Tidy (' ' :: c :: rest)
  | signed {c : Char} {rest : Text} (here : isOrdinary c = true) (tidy : Tidy rest) :
    Tidy ('-' :: c :: rest)

namespace Tidy
variable {text : Text}

theorem append {rest : Text} (first : Tidy text) (second : Tidy rest) : Tidy (text ++ rest) := by
  induction first with
  | nil => exact second
  | ordinary here _ ih => exact .ordinary here ih
  | spaced here _ ih => exact .spaced here ih
  | signed here _ ih => exact .signed here ih

theorem of_plain (plain : ∀ c ∈ text, isPlain c = true) : Tidy text := by
  induction text with
  | nil => exact .nil
  | cons c text ih =>
    exact .ordinary (isOrdinary_of_isPlain (plain c List.mem_cons_self))
      (ih fun d member => plain d (List.mem_cons_of_mem c member))

/-- A space may stand before what begins with an ordinary character. -/
theorem space (tidy : Tidy text) (filled : text ≠ []) (start : text.head?.all isOrdinary = true) :
    Tidy (' ' :: text) := by
  cases tidy with
  | nil => exact absurd rfl filled
  | ordinary here tidy => exact .spaced here tidy
  | spaced here tidy => cases start
  | signed here tidy => cases start

theorem of_space (tidy : Tidy (' ' :: text)) :
    Tidy text ∧ text ≠ [] ∧ text.head?.any isBlank = false := by
  cases tidy with
  | ordinary here _ => cases here
  | spaced here tidy => exact ⟨.ordinary here tidy, List.cons_ne_nil _ _, isBlank_of_isOrdinary here⟩

theorem mem {c : Char} (tidy : Tidy text) (member : c ∈ text) :
    isOrdinary c = true ∨ c = ' ' ∨ c = '-' := by
  induction tidy with
  | nil => cases member
  | ordinary here _ ih =>
    rcases List.mem_cons.mp member with rfl | later
    · exact Or.inl here
    · exact ih later
  | spaced here _ ih =>
    rcases List.mem_cons.mp member with rfl | later
    · exact Or.inr (Or.inl rfl)
    · rcases List.mem_cons.mp later with rfl | later
      · exact Or.inl here
      · exact ih later
  | signed here _ ih =>
    rcases List.mem_cons.mp member with rfl | later
    · exact Or.inr (Or.inr rfl)
    · rcases List.mem_cons.mp later with rfl | later
      · exact Or.inl here
      · exact ih later

theorem ascii (tidy : Tidy text) : ∀ c ∈ text, c.toNat < 128 := by
  intro c member
  rcases tidy.mem member with ordinary | rfl | rfl
  · exact ascii_of_isOrdinary ordinary
  all_goals decide

theorem not_mem (tidy : Tidy text) {c : Char}
    (other : isOrdinary c = false ∧ c ≠ ' ' ∧ c ≠ '-') : c ∉ text := by
  intro member
  rcases tidy.mem member with ordinary | space | sign
  · exact ne_of_isOrdinary ordinary other.1 rfl
  · exact other.2.1 space
  · exact other.2.2 sign

theorem stop (tidy : Tidy text) : text.getLast?.any isBlank = false := by
  have last : ∀ {c : Char} {rest : Text}, isOrdinary c = true → rest.getLast?.any isBlank = false →
      (c :: rest).getLast?.any isBlank = false := by
    intro c rest here stop
    cases rest with
    | nil => exact isBlank_of_isOrdinary here
    | cons d rest => rwa [List.getLast?_cons_cons]
  induction tidy with
  | nil => rfl
  | ordinary here _ ih => exact last here ih
  | spaced here _ ih => rw [List.getLast?_cons_cons]; exact last here ih
  | signed here _ ih => rw [List.getLast?_cons_cons]; exact last here ih

theorem trim (tidy : Tidy text) (start : text.head?.any isBlank = false) : Text.trim text = text :=
  trim_eq_self start tidy.stop

theorem trim_space (tidy : Tidy text) (start : text.head?.any isBlank = false) :
    Text.trim (' ' :: text) = text := by
  rw [trim_cons (by decide)]
  exact tidy.trim start

theorem eq_nil_of_blank (tidy : Tidy text) (blank : isAllBlank text = true) : text = [] := by
  have solid : ∀ {c : Char}, isOrdinary c = true → ¬isBlank c = true := by
    intro c here
    rw [isBlank_of_isOrdinary here]
    decide
  unfold isAllBlank at blank
  rw [List.all_eq_true] at blank
  cases tidy with
  | nil => rfl
  | ordinary here _ => exact absurd (blank _ List.mem_cons_self) (solid here)
  | spaced here _ => exact absurd (blank _ (List.mem_cons_of_mem _ List.mem_cons_self)) (solid here)
  | signed here _ => exact absurd (blank _ (List.mem_cons_of_mem _ List.mem_cons_self)) (solid here)

theorem collapse (tidy : Tidy text) : Text.collapse ' ' text = text := by
  unfold Text.collapse
  induction tidy with
  | nil => rfl
  | ordinary here _ ih => simp [collapseFrom, isBlank_of_isOrdinary here, ih]
  | spaced here _ ih =>
    have space : isBlank ' ' = true := by decide
    simp [collapseFrom, isBlank_of_isOrdinary here, space, ih]
  | signed here _ ih =>
    have sign : isBlank '-' = false := by decide
    simp [collapseFrom, isBlank_of_isOrdinary here, sign, ih]

end Tidy
end Text

namespace Script
open Text

section Comments

theorem isQuotationMark_of_isOrdinary {c : Char} (ordinary : isOrdinary c = true) :
    isQuotationMark c = false :=
  ascii_induction (fun c => isOrdinary c = true → isQuotationMark c = false) (by decide)
    (ascii_of_isOrdinary ordinary) ordinary

theorem isQuotationMark_of_isBlank {c : Char} (blank : isBlank c = true) : isQuotationMark c = false := by
  by_contra marks
  simp only [Bool.not_eq_false, isQuotationMark, Bool.or_eq_true, beq_iff_eq] at marks
  rcases marks with (rfl | rfl) | rfl <;> exact absurd blank (by decide)

theorem uncomment_cons {c : Char} (plain : isQuotationMark c = false) (rest : Text)
    (line : ¬(c = '-' ∧ rest.head? = some '-')) (block : c ≠ '/') :
    uncomment .code (c :: rest) = c :: uncomment .code rest := by
  -- The other two equations are for the openings of comments.
  rw [uncomment]
  · simp [plain]
  · rintro others rfl rfl
    exact line ⟨rfl, rfl⟩
  · rintro others rfl _
    exact block rfl

theorem withoutComments_of_tidy {text : Text} (tidy : Tidy text) : withoutComments text = text := by
  have plain : ∀ {c : Char} {rest : Text}, isOrdinary c = true →
      uncomment .code (c :: rest) = c :: uncomment .code rest := by
    intro c rest here
    apply uncomment_cons (isQuotationMark_of_isOrdinary here)
    · exact fun both => ne_of_isOrdinary here (by decide) both.1
    · exact ne_of_isOrdinary here (by decide)
  unfold withoutComments
  induction tidy with
  | nil => rfl
  | ordinary here _ ih => rw [plain here, ih]
  | spaced here _ ih =>
    rw [uncomment_cons (by decide) _ (by simp) (by decide), plain here, ih]
  | @signed c rest here _ ih =>
    have number : ¬('-' = '-' ∧ (c :: rest).head? = some '-') := by
      rintro ⟨_, same⟩
      exact ne_of_isOrdinary here (by decide) (Option.some.inj same)
    rw [uncomment_cons (by decide) _ number (by decide), plain here, ih]

theorem normalized_of_tidy {text : Text} (tidy : Tidy text) (start : text.head?.any isBlank = false) :
    normalized text = text := by
  rw [normalized, withoutComments_of_tidy tidy, tidy.collapse, tidy.trim start]

theorem mask_of_tidy {text : Text} (tidy : Tidy text) : mask text = text := by
  have quoteless : '\'' ∉ text := tidy.not_mem (by decide)
  unfold mask
  clear tidy
  induction text with
  | nil => rfl
  | cons c text ih =>
    have different : ¬(c == '\'') = true := by
      rintro same
      exact quoteless (by simp [beq_iff_eq.mp same])
    rw [maskFrom, if_neg different, ih fun member => quoteless (List.mem_cons_of_mem c member)]
    rfl

end Comments

/-- Characters that neither quote nor nest. -/
def isLevel (c : Char) : Bool := !isQuotationMark c && c != '(' && c != ')'

def isFlat (c : Char) : Bool := isLevel c && c != ';'

theorem isFlat_of_isPlain {c : Char} (plain : isPlain c = true) : isFlat c = true :=
  ascii_induction (fun c => isPlain c = true → isFlat c = true) (by decide) (ascii_of_isPlain plain) plain

theorem isLevel_of_isBlank {c : Char} (blank : isBlank c = true) : isLevel c = true := by
  simp only [isLevel, isQuotationMark_of_isBlank blank, Bool.not_false, Bool.true_and, Bool.and_eq_true, bne_iff_ne]
  constructor <;> (rintro rfl; exact absurd blank (by decide))

/-- Text without semicolons in which every parenthesis closes. Commas outside all parentheses need leave. -/
inductive Nested : (commas : Bool) → Text → Prop where
  | nil {commas : Bool} : Nested commas []
  | flat {commas : Bool} {c : Char} {rest : Text} (here : isFlat c = true)
    (leave : c = ',' → commas = true) (nested : Nested commas rest) : Nested commas (c :: rest)
  | group {commas : Bool} {inner rest : Text} (inside : Nested true inner) (nested : Nested commas rest) :
    Nested commas ('(' :: (inner ++ ')' :: rest))

section Step
variable {c : Char} {depth : Nat} {last : Option Char}

theorem step_level (here : isLevel c = true) :
    (⟨none, depth, last⟩ : Nesting).step c = ⟨none, depth, some c⟩ := by
  simp only [isLevel, Bool.and_eq_true, bne_iff_ne, ne_eq, Bool.not_eq_true'] at here
  obtain ⟨⟨unquoted, opening⟩, closing⟩ := here
  simp [Nesting.step, Nesting.nextQuote, unquoted, opening, closing]

theorem step_flat (here : isFlat c = true) :
    (⟨none, depth, last⟩ : Nesting).step c = ⟨none, depth, some c⟩ :=
  step_level (Bool.and_eq_true_iff.mp here).1

theorem step_opening : (⟨none, depth, last⟩ : Nesting).step '(' = ⟨none, depth + 1, some '('⟩ := by
  have unquoted : isQuotationMark '(' = false := by decide
  simp [Nesting.step, Nesting.nextQuote, unquoted]

theorem step_closing : (⟨none, depth + 1, last⟩ : Nesting).step ')' = ⟨none, depth, some ')'⟩ := by
  have unquoted : isQuotationMark ')' = false := by decide
  simp [Nesting.step, Nesting.nextQuote, unquoted]

end Step

namespace Nested
variable {commas : Bool} {text rest : Text} {depth : Nat}

theorem append (first : Nested commas text) (second : Nested commas rest) :
    Nested commas (text ++ rest) := by
  induction first with
  | nil => exact second
  | flat here leave _ ih => exact .flat here leave (ih second)
  | group inside _ _ ih =>
    rw [List.cons_append, List.append_assoc, List.cons_append]
    exact .group inside (ih second)

theorem of_plain (plain : ∀ c ∈ text, isPlain c = true) : Nested commas text := by
  induction text with
  | nil => exact .nil
  | cons c text ih =>
    have here := plain c List.mem_cons_self
    refine .flat (isFlat_of_isPlain here) ?_ (ih fun d member => plain d (List.mem_cons_of_mem c member))
    rintro rfl
    cases here

theorem leave_commas (nested : Nested commas text) : Nested true text := by
  induction nested with
  | nil => exact .nil
  | flat here _ _ ih => exact .flat here (fun _ => rfl) ih
  | group inside _ _ ih => exact .group inside ih

theorem not_mem_semicolon (nested : Nested commas text) : ';' ∉ text := by
  induction nested with
  | nil => exact List.not_mem_nil
  | @flat _ c _ here _ _ ih =>
    have other : c ≠ ';' := bne_iff_ne.mp (Bool.and_eq_true_iff.mp here).2
    exact List.not_mem_cons_of_ne_of_not_mem other.symm ih
  | group _ _ inside ih => simp [inside, ih]

/-- Behind nested text the depth is what it was before. -/
theorem foldl_step (nested : Nested commas text) (depth : Nat) (last : Option Char) :
    ∃ latest, text.foldl Nesting.step ⟨none, depth, last⟩ = ⟨none, depth, latest⟩ := by
  induction nested generalizing depth last with
  | nil => exact ⟨last, rfl⟩
  | flat here _ _ ih =>
    rw [List.foldl_cons, step_flat here]
    exact ih depth _
  | group _ _ inside ih =>
    obtain ⟨latest, same⟩ := inside (depth + 1) (some '(')
    rw [List.foldl_cons, step_opening, List.foldl_append, same, List.foldl_cons, step_closing]
    exact ih depth _

/-- No parenthesis of nested text is the one that closes a group around it. -/
theorem closing? (nested : Nested commas text) (depth : Nat) (last : Option Char) (rest : Text) :
    ∃ latest, Script.closing? ⟨none, depth + 1, last⟩ (text ++ rest) =
      (Script.closing? ⟨none, depth + 1, latest⟩ rest).map (· + text.length) := by
  induction nested generalizing depth last rest with
  | nil => exact ⟨last, by simp⟩
  | @flat _ c text here _ _ ih =>
    obtain ⟨latest, same⟩ := ih depth (some c) rest
    refine ⟨latest, ?_⟩
    rw [List.cons_append, Script.closing?, step_flat here, same]
    simp [Function.comp_def, Nat.add_assoc]
  -- Inside a group the depth is one more, and behind it what it was.
  | @group _ inner text _ _ inside ih =>
    obtain ⟨middle, within⟩ := inside (depth + 1) (some '(') (')' :: (text ++ rest))
    obtain ⟨latest, same⟩ := ih depth (some ')') rest
    refine ⟨latest, ?_⟩
    rw [List.cons_append, List.append_assoc, List.cons_append, Script.closing?, step_opening, within,
      Script.closing?, step_closing, same]
    simp [Function.comp_def, Nat.add_assoc, Nat.add_comm, Nat.add_left_comm]

theorem group? (nested : Nested commas text) (before rest : Text) :
    Script.group? (before ++ '(' :: (text ++ ')' :: rest)) before.length =
      some (text, before.length + 1 + text.length) := by
  obtain ⟨latest, same⟩ := nested.closing? 0 (some '(') (')' :: rest)
  have closes : Script.closing? .opened (text ++ ')' :: rest) = some text.length := by
    rw [Nesting.opened, same, Script.closing?, step_closing]
    simp
  rw [Script.group?, List.drop_left]
  simp [closes]

end Nested

end Script
end SchemaAtlas
