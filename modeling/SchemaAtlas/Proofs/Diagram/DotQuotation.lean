import Mathlib.Algebra.Ring.Parity
import Mathlib.Data.List.DropRight
import SchemaAtlas.Proofs.Diagram.DotWords
/-!
Texts as the writer of DOT quotes them. A text without an open end is read back as one word, with a backslash less in
front of a quotation mark if their number was odd; markup is taken as it is, so its brackets have to match.
-/
namespace SchemaAtlas

namespace Dot

/-- What DOT sees of one character of a quoted text; `odd` tells whether an odd number of backslashes precedes, the last
of which is not seen before the next character. -/
def seenCharacter (odd : Bool) (c : Char) : Text :=
  if odd then (if c == '"' then ['"'] else ['\\', c]) else if c == '\\' then [] else [c]

def seenBehind (odd : Bool) : Text → Text
  | [] => if odd then ['\\'] else []
  | c :: rest => seenCharacter odd c ++ seenBehind (c == '\\' && !odd) rest

/-- How DOT sees a text that was quoted. -/
def seen (text : Text) : Text := seenBehind false text

/-- Whether an odd number of backslashes ends a text, which has an odd or even number of them before it. -/
def endsOdd (odd : Bool) (text : Text) : Bool := text.foldl (fun odd c => c == '\\' && !odd) odd

/-- An odd number of backslashes at the end, the last of which would take a quotation mark behind it for its own. -/
def EndsOpen (text : Text) : Prop := Odd (text.rtakeWhile (· == '\\')).length

/-- The brackets inside of markup match, and nothing begins like a comment. -/
def isBalanced : Nat → Bool → Text → Bool
  | depth, _, [] => depth == 0
  | depth, opened, c :: rest =>
    if c == '<' then isBalanced (depth + 1) true rest
    else if c == '>' then depth != 0 && isBalanced (depth - 1) false rest
    else !(c == '!' && opened) && isBalanced depth false rest

/-- A text that is markup has brackets that match. -/
def Balanced (text : Text) : Prop :=
  (markup.match? text).isSome = true → isBalanced 0 false (text.drop 1).dropLast = true

instance (text : Text) : Decidable (EndsOpen text) := inferInstanceAs (Decidable (Odd _))

instance (text : Text) : Decidable (Balanced text) :=
  inferInstanceAs (Decidable ((markup.match? text).isSome = true → isBalanced 0 false (text.drop 1).dropLast = true))

/-- A text that the writer can quote so that it is read back. -/
structure Quotable (text : Text) : Prop where
  line : Text.IsLine text
  closed : ¬EndsOpen text
  balanced : Balanced text

/-- The word that a quoted text is read as. -/
def tokenOf (text : Text) : Token :=
  if (markup.match? text).isSome then .markup (text.drop 1).dropLast else .name ⟨seen text, []⟩

section Ends
variable {text : Text}

theorem endsOdd_append (odd : Bool) (text more : Text) : endsOdd odd (text ++ more) = endsOdd (endsOdd odd text) more :=
  List.foldl_append

theorem endsOdd_iff : endsOdd false text = true ↔ EndsOpen text := by
  -- A further backslash turns the number, and any other character makes it zero.
  induction text using List.reverseRecOn with
  | nil => simp [endsOdd, EndsOpen]
  | append_singleton text c ih =>
    rw [endsOdd_append]
    by_cases backslash : c = '\\'
    · subst backslash
      have turned : endsOdd (endsOdd false text) ['\\'] = !endsOdd false text := by simp [endsOdd]
      rw [turned, EndsOpen, List.rtakeWhile_concat, if_pos (by decide), List.length_append, List.length_singleton,
        Nat.odd_add_one, Bool.not_eq_true', ← Bool.not_eq_true, ih, EndsOpen]
    · have other : (c == '\\') = false := beq_eq_false_iff_ne.mpr backslash
      rw [EndsOpen, List.rtakeWhile_concat]
      simp [endsOdd, other]

/-- Behind an end that is not open the count begins anew. -/
theorem endsOpen_append (closed : ¬EndsOpen text) (more : Text) : EndsOpen (text ++ more) ↔ EndsOpen more := by
  have even : endsOdd false text = false := by rwa [← endsOdd_iff, Bool.not_eq_true] at closed
  rw [← endsOdd_iff, endsOdd_append, even, endsOdd_iff]

theorem seen_append (absent : '\\' ∉ text) (more : Text) : seen (text ++ more) = text ++ seen more := by
  unfold seen
  induction text with
  | nil => rfl
  | cons c text ih =>
    have other : (c == '\\') = false := beq_eq_false_iff_ne.mpr fun same => absent (same ▸ List.mem_cons_self)
    have kept : seenCharacter false c = [c] := by simp [seenCharacter, other]
    rw [List.cons_append, seenBehind, kept, other, Bool.false_and,
      ih fun member => absent (List.mem_cons_of_mem c member)]
    rfl

theorem seen_of_not_mem (absent : '\\' ∉ text) : seen text = text := by
  have whole := seen_append absent []
  rwa [List.append_nil, show seen [] = [] from rfl, List.append_nil] at whole

end Ends

section Quotation
variable {text rest : Text}

theorem escaped_cons (odd : Bool) (c : Char) (text : Text) : escaped odd (c :: text) =
    (if c == '"' then (if odd then ['"'] else ['\\', '"']) else [c]) ++ escaped (c == '\\' && !odd) text := by
  rw [escaped]
  split
  · next mark =>
    rw [beq_iff_eq.mp mark]
    rfl
  · rfl

/-- The reader knows whether it stands behind an odd number of backslashes, just as the writer does. -/
theorem wordsFrom_character {read : Text} {odd : Bool} {c : Char} (solid : c ≠ '\n') (rest : Text) :
    wordsFrom (.quoted read odd) ((if c == '"' then (if odd then ['"'] else ['\\', '"']) else [c]) ++ rest) =
      wordsFrom (.quoted (read ++ seenCharacter odd c) (c == '\\' && !odd)) rest := by
  have escapes : (Mode.quoted read false).step? '\\' = some ([], .quoted read true) := rfl
  have marked : (Mode.quoted read true).step? '"' = some ([], .quoted (read ++ ['"']) false) := rfl
  have flat : (c == '\n') = false := beq_eq_false_iff_ne.mpr solid
  by_cases mark : c = '"'
  · subst mark
    cases odd with
    | true => exact wordsFrom_silent marked rest
    | false => exact (wordsFrom_silent escapes ('"' :: rest)).trans (wordsFrom_silent marked rest)
  · have plain : (c == '"') = false := beq_eq_false_iff_ne.mpr mark
    rw [plain]
    refine wordsFrom_silent ?_ rest
    cases odd with
    | true => simp [Mode.step?, seenCharacter, plain, flat]
    | false => by_cases backslash : c = '\\' <;> simp [Mode.step?, seenCharacter, plain, backslash]

/-- A quoted text ends where the writer ends it. -/
theorem wordsFrom_quoted {read : Text} {odd : Bool} (flat : '\n' ∉ text) (closed : endsOdd odd text = false)
    (rest : Text) :
    wordsFrom (.quoted read odd) (escaped odd text ++ '"' :: rest) =
      (wordsFrom .between rest).map (.name ⟨read ++ seenBehind odd text, []⟩ :: ·) := by
  induction text generalizing read odd with
  | nil =>
    have even : odd = false := closed
    subst even
    have stops : (Mode.quoted read false).step? '"' = some ([.name ⟨read, []⟩], .between) := rfl
    rw [escaped, List.nil_append, wordsFrom_cons stops, seenBehind]
    simp
  | cons c text ih =>
    have solid : c ≠ '\n' := fun same => flat (same ▸ List.mem_cons_self)
    rw [escaped_cons, List.append_assoc, wordsFrom_character solid,
      ih (fun member => flat (List.mem_cons_of_mem c member)) closed, seenBehind, List.append_assoc]

theorem wordsFrom_markup {inner read : Text} {depth : Nat} {opened : Bool}
    (balanced : isBalanced depth opened inner = true) (rest : Text) :
    wordsFrom (.markup read depth opened) (inner ++ '>' :: rest) =
      (wordsFrom .between rest).map (.markup (read ++ inner) :: ·) := by
  induction inner generalizing read depth opened with
  | nil =>
    have outside : depth = 0 := beq_iff_eq.mp balanced
    subst outside
    have stops : (Mode.markup read 0 opened).step? '>' = some ([.markup read], .between) := rfl
    rw [List.nil_append, wordsFrom_cons stops, List.append_nil]
    rfl
  | cons c inner ih =>
    rw [List.cons_append]
    unfold isBalanced at balanced
    split at balanced
    · next opens =>
      have steps : (Mode.markup read depth opened).step? c = some ([], .markup (read ++ ['<']) (depth + 1) true) :=
        if_pos opens
      rw [wordsFrom_silent steps, ih balanced, beq_iff_eq.mp opens]
      simp
    · next shut =>
      split at balanced
      · next closes =>
        obtain ⟨inside, balanced⟩ := Bool.and_eq_true_iff.mp balanced
        obtain ⟨less, rfl⟩ := Nat.exists_eq_succ_of_ne_zero (bne_iff_ne.mp inside)
        rw [Nat.succ_sub_one] at balanced
        have steps : (Mode.markup read (less + 1) opened).step? c = some ([], .markup (read ++ ['>']) less false) := by
          simp [Mode.step?, shut, closes]
        rw [wordsFrom_silent steps, ih balanced, beq_iff_eq.mp closes]
        simp
      · next other =>
        obtain ⟨plain, balanced⟩ := Bool.and_eq_true_iff.mp balanced
        have comment : (c == '!' && opened) = false := (Bool.not_eq_true' _).mp plain
        have steps : (Mode.markup read depth opened).step? c = some ([], .markup (read ++ [c]) depth false) := by
          simp [Mode.step?, shut, other, comment]
        rw [wordsFrom_silent steps, ih balanced]
        simp

end Quotation

section Bare
variable {text : Text}

theorem mem_isUnsigned (number : isUnsigned text = true) : text ≠ [] ∧ ∀ c ∈ text, isWordPart c = true := by
  have digit : ∀ c : Char, c.isDigit = true → isWordPart c = true := fun c here => by
    rw [isWordPart, Numeral.isPlain_of_isDigit here, Bool.true_or]
  have whole : ∀ c ∈ text.takeWhile Char.isDigit, isWordPart c = true :=
    fun c member => digit c (List.mem_takeWhile_imp member)
  have split : text = text.takeWhile Char.isDigit ++ text.dropWhile Char.isDigit := List.takeWhile_append_dropWhile.symm
  unfold isUnsigned at number
  dsimp only at number
  cases behind : text.dropWhile Char.isDigit with
  | nil =>
    rw [behind] at number split
    rw [List.append_nil] at split
    rw [← split] at number whole
    exact ⟨bne_iff_ne.mp number, whole⟩
  | cons c digits =>
    rw [behind] at number split
    simp only [Bool.and_eq_true, beq_iff_eq, List.all_eq_true] at number
    obtain ⟨⟨rfl, all⟩, _⟩ := number
    rw [split]
    refine ⟨List.append_ne_nil_of_right_ne_nil _ (List.cons_ne_nil _ _), List.forall_mem_append.mpr ⟨whole, ?_⟩⟩
    exact List.forall_mem_cons.mpr ⟨by decide, fun d member => digit d (all d member)⟩

theorem start_of_isWordPart {c : Char} (part : isWordPart c = true) : Mode.between.step? c = some ([], .word [c]) := by
  rcases Bool.or_eq_true_iff.mp part with plain | point
  · exact Text.ascii_induction (fun c => Text.isPlain c = true → Mode.between.step? c = some ([], .word [c]))
      (by decide) (Text.ascii_of_isPlain plain) plain
  · rw [beq_iff_eq.mp point]
    decide

theorem spells_isNumeral (number : isNumeral text = true) {token : Token} (known : word? text = some token) :
    Spells text [token] := by
  unfold isNumeral at number
  split at number
  · next unsigned =>
    obtain ⟨filled, parts⟩ := mem_isUnsigned number
    obtain ⟨c, rest, rfl⟩ := List.exists_cons_of_ne_nil filled
    obtain ⟨here, there⟩ := List.forall_mem_cons.mp parts
    exact spells_signed here there known
  · obtain ⟨filled, parts⟩ := mem_isUnsigned number
    obtain ⟨c, rest, rfl⟩ := List.exists_cons_of_ne_nil filled
    obtain ⟨here, there⟩ := List.forall_mem_cons.mp parts
    exact spells_word (start_of_isWordPart here) there known

theorem spells_isIdentifier (plain : Text.isIdentifier text = true) {token : Token} (known : word? text = some token) :
    Spells text [token] := by
  obtain ⟨filled, each⟩ := Text.isBare_of_isIdentifier plain
  obtain ⟨c, rest, rfl⟩ := List.exists_cons_of_ne_nil filled
  have parts : ∀ d ∈ c :: rest, isWordPart d = true := fun d member => by rw [isWordPart, each d member, Bool.true_or]
  obtain ⟨here, there⟩ := List.forall_mem_cons.mp parts
  exact spells_word (start_of_isWordPart here) there known

theorem keyword?_eq_none (other : keywords.contains (String.ofList (text.map Char.toLower)) = false) :
    keyword? text = none := by
  have absent : String.ofList (text.map Char.toLower) ∉ keywords := by simpa using other
  refine List.lookup_eq_none_iff.mpr fun entry member => bne_iff_ne.mpr fun same => absent ?_
  have listed : ∀ entry ∈ [("node", Keyword.node), ("edge", .edge), ("graph", .graph), ("digraph", .digraph),
      ("subgraph", .subgraph), ("strict", .strict)], entry.1 ∈ keywords := by decide
  rw [same]
  exact listed entry member

section Numeral
variable {α : Type} {before rest : Text} {parts : List (Part × Span)} {next : Cursor → List (Part × Span) → Option α}
  {result : α}
open Pattern

theorem isUnsigned_whole {digits : Text} (all : ∀ c ∈ digits, c.isDigit = true) (filled : digits ≠ []) :
    isUnsigned digits = true := by
  have whole : digits.takeWhile Char.isDigit = digits := List.takeWhile_eq_self_iff.mpr all
  have none : digits.dropWhile Char.isDigit = [] := List.dropWhile_eq_nil_iff.mpr all
  simp [isUnsigned, whole, none, filled]

theorem isUnsigned_point {digits fraction : Text} (all : ∀ c ∈ digits, c.isDigit = true)
    (also_all : ∀ c ∈ fraction, c.isDigit = true) (filled : digits ≠ [] ∨ fraction ≠ []) :
    isUnsigned (digits ++ '.' :: fraction) = true := by
  have point : ¬('.'.isDigit = true) := by decide
  have whole : (digits ++ '.' :: fraction).takeWhile Char.isDigit = digits := by
    rw [List.takeWhile_append_of_pos all, List.takeWhile_cons_of_neg point, List.append_nil]
  have behind : (digits ++ '.' :: fraction).dropWhile Char.isDigit = '.' :: fraction := by
    rw [List.dropWhile_append_of_pos all, List.dropWhile_cons_of_neg point]
  simpa [isUnsigned, whole, behind] using ⟨also_all, filled⟩

/-- A line that is a number without a sign up to its ending is one. -/
theorem isUnsigned_of_run (line : Text.IsLine rest)
    (found : run (exactly '.' ++ several (fun c : Char => c.isDigit) <|>
        several (fun c : Char => c.isDigit) ++ optional (exactly '.' ++ many (fun c : Char => c.isDigit)))
      (Cursor.after before rest) parts (fun stop parts => run ending stop parts next) = some result) :
    isUnsigned rest = true := by
  rcases run_either_some found with pointed | whole
  · rw [run_followed] at pointed
    obtain ⟨_, rfl, behind⟩ := run_exactly_some pointed
    obtain ⟨digits, tail, rfl, filled, all, ends⟩ := run_several_some behind
    obtain ⟨rfl, _⟩ := run_ending_some (line.of_subset fun c member => by simp [member]) ends
    rw [List.append_nil]
    exact isUnsigned_point (List.forall_mem_nil _) all (Or.inr filled)
  · rw [run_followed] at whole
    obtain ⟨digits, tail, rfl, filled, all, goes⟩ := run_several_some whole
    rcases run_optional_some goes with pointed | ends
    · rw [run_followed] at pointed
      obtain ⟨_, rfl, behind⟩ := run_exactly_some pointed
      obtain ⟨fraction, tail, rfl, also_all, ends⟩ := run_many_some behind
      obtain ⟨rfl, _⟩ := run_ending_some (line.of_subset fun c member => by simp [member]) ends
      rw [List.append_nil]
      exact isUnsigned_point all also_all (Or.inl filled)
    · obtain ⟨rfl, _⟩ := run_ending_some (line.of_subset fun c member => by simp [member]) ends
      rw [List.append_nil]
      exact isUnsigned_whole all filled

theorem isNumeral_of_isUnsigned (number : isUnsigned text = true) : isNumeral text = true := by
  unfold isNumeral
  split
  · next unsigned =>
    have sign : ¬('-'.isDigit = true) := by decide
    simp [isUnsigned, List.dropWhile_cons_of_neg sign] at number
  · exact number

end Numeral

/-- What the writer leaves without quotation marks is an identifier or a number. -/
theorem isIdentifier_or_isNumeral (line : Text.IsLine text) (bare : (bareIdentifier.match? text).isSome = true) :
    Text.isIdentifier text = true ∨ isNumeral text = true := by
  obtain ⟨found, matched⟩ := Option.isSome_iff_exists.mp bare
  have tried : Pattern.run bareIdentifier (Cursor.after [] text) []
      (fun stop parts => some (Match.mk ⟨0, stop.offset⟩ parts)) = some found := matched
  rw [bareIdentifier, Pattern.run_followed] at tried
  rcases Pattern.run_either_some tried with identifier | number
  · exact Or.inl (Pattern.isIdentifier_of_run line identifier)
  · right
    rw [Pattern.run_followed] at number
    rcases Pattern.run_optional_some number with signed | unsigned
    · obtain ⟨rest, rfl, unsigned⟩ := Pattern.run_exactly_some signed
      have inside : Text.IsLine rest := line.of_subset (List.subset_cons_self _ _)
      exact isUnsigned_of_run inside unsigned
    · exact isNumeral_of_isUnsigned (isUnsigned_of_run line unsigned)

end Bare

/-- A text that is markup stands in angle brackets. -/
theorem markup_some {text : Text} (line : Text.IsLine text) (marked : (markup.match? text).isSome = true) :
    ∃ inner, text = '<' :: (inner ++ ['>']) := by
  obtain ⟨found, matched⟩ := Option.isSome_iff_exists.mp marked
  have tried : Pattern.run markup (Cursor.after [] text) []
      (fun stop parts => some (Match.mk ⟨0, stop.offset⟩ parts)) = some found := matched
  rw [markup, Pattern.run_followed, Pattern.run_followed, Pattern.run_followed] at tried
  obtain ⟨_, rfl, inside⟩ := Pattern.run_exactly_some tried
  obtain ⟨inner, _, rfl, _, closes⟩ := Pattern.run_many_some inside
  obtain ⟨tail, rfl, ends⟩ := Pattern.run_exactly_some closes
  obtain ⟨rfl, _⟩ := Pattern.run_ending_some (line.of_subset fun c member => by simp [member]) ends
  exact ⟨inner, rfl⟩

section Quote
variable {text : Text}

theorem spells_markup {inner : Text} (balanced : isBalanced 0 false inner = true) :
    Spells ('<' :: (inner ++ ['>'])) [.markup inner] := by
  intro rest _
  have opens : Mode.between.step? '<' = some ([], .markup [] 0 false) := by decide
  rw [List.cons_append, wordsFrom_silent opens, List.append_assoc, List.singleton_append, wordsFrom_markup balanced]
  rfl

theorem spells_quoted (line : Text.IsLine text) (closed : ¬EndsOpen text) :
    Spells ('"' :: (escaped false text ++ ['"'])) [.name ⟨seen text, []⟩] := by
  intro rest _
  have opens : Mode.between.step? '"' = some ([], .quoted [] false) := by decide
  have flat : '\n' ∉ text := line.not_mem (by decide) (by decide)
  have even : endsOdd false text = false := by rwa [← endsOdd_iff, Bool.not_eq_true] at closed
  rw [List.cons_append, wordsFrom_silent opens, List.append_assoc, List.singleton_append, wordsFrom_quoted flat even]
  rfl

theorem word?_eq_name (plain : keyword? text = none) (spelled : Text.isIdentifier text = true ∨ isNumeral text = true) :
    word? text = some (.name ⟨text, []⟩) := by
  unfold word?
  rw [plain]
  split
  · rfl
  · next other =>
    rw [if_pos (spelled.resolve_left other)]

theorem not_mem_backslash (spelled : Text.isIdentifier text = true ∨ isNumeral text = true) : '\\' ∉ text := by
  have other : isWordPart '\\' = false := by decide
  have absent {run : Text} (parts : ∀ c ∈ run, isWordPart c = true) : '\\' ∉ run := fun member => by
    rw [parts _ member] at other
    cases other
  rcases spelled with identifier | number
  · refine absent fun c member => ?_
    rw [isWordPart, Text.isPlain_of_isIdentifier identifier c member, Bool.true_or]
  · unfold isNumeral at number
    split at number
    · exact List.not_mem_cons_of_ne_of_not_mem (by decide) (absent (mem_isUnsigned number).2)
    · exact absent (mem_isUnsigned number).2

theorem spells_bare (line : Text.IsLine text) (bare : isBare text = true) : Spells text [.name ⟨seen text, []⟩] := by
  obtain ⟨matched, other⟩ := Bool.and_eq_true_iff.mp bare
  have spelled := isIdentifier_or_isNumeral line matched
  have known := word?_eq_name (keyword?_eq_none ((Bool.not_eq_true' _).mp other)) spelled
  rw [seen_of_not_mem (not_mem_backslash spelled)]
  rcases spelled with identifier | number
  · exact spells_isIdentifier identifier known
  · exact spells_isNumeral number known

/-- A text that can be quoted is one word of DOT. -/
theorem spells_quote (quotable : Quotable text) : Spells (quote text) [tokenOf text] := by
  unfold quote tokenOf
  by_cases marked : (markup.match? text).isSome = true
  · obtain ⟨inner, rfl⟩ := markup_some quotable.line marked
    have inside : (('<' :: (inner ++ ['>'])).drop 1).dropLast = inner := by simp
    have balanced := quotable.balanced marked
    rw [inside] at balanced
    rw [if_pos (by rw [marked, Bool.true_or]), if_pos marked, inside]
    exact spells_markup balanced
  rw [if_neg marked]
  by_cases bare : isBare text = true
  · rw [if_pos (by rw [bare, Bool.or_true])]
    exact spells_bare quotable.line bare
  · rw [if_neg (by rw [Bool.or_eq_true]; exact not_or.mpr ⟨marked, bare⟩)]
    exact spells_quoted quotable.line quotable.closed

end Quote

end Dot
end SchemaAtlas
