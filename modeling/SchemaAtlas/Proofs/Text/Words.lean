import SchemaAtlas.Text.Alphanumeric
import SchemaAtlas.Text.Blank
import SchemaAtlas.Text.Uppercase
import SchemaAtlas.Proofs.Lists
/-!
Words of a text, which are its longest runs of word characters, and the ASCII letters, digits and
underscores that names and keywords are printed with.
-/
namespace SchemaAtlas.Text

/-- The text with its ASCII letters in capitals. -/
def capitals (text : Text) : Text := text.map Char.toUpper

theorem uppercase_of_ascii {text : Text} (ascii : ∀ c ∈ text, c.toNat < 128) :
    uppercase text = capitals text := by
  induction text with
  | nil => rfl
  | cons c text ih =>
    have here : capital c = [c.toUpper] := if_pos (ascii c List.mem_cons_self)
    have rest := ih fun d member => ascii d (List.mem_cons_of_mem c member)
    unfold uppercase capitals at rest ⊢
    rw [List.flatMap_cons, here, rest]
    rfl

/-- ASCII letters, digits and underscores. -/
def isPlain (c : Char) : Bool := c.isAlphanum || c == '_'

/-- What holds of all ASCII characters can be checked one after the other. -/
theorem ascii_induction (holds : Char → Prop) (each : ∀ code < 128, holds (Char.ofNat code)) {c : Char}
    (ascii : c.toNat < 128) : holds c := by
  have here := each c.toNat ascii
  rwa [Char.ofNat_toNat] at here

theorem ascii_of_isPlain {c : Char} (plain : isPlain c = true) : c.toNat < 128 := by
  rcases Bool.or_eq_true_iff.mp plain with letter | underscore
  · exact ascii_of_isAlphanum letter
  · rw [beq_iff_eq.mp underscore]
    decide

theorem isWordCharacter_of_isPlain {c : Char} (plain : isPlain c = true) : isWordCharacter c = true := by
  rcases Bool.or_eq_true_iff.mp plain with letter | underscore
  · simp [isWordCharacter, isAlphanumeric_of_isAlphanum c letter]
  · simp [isWordCharacter, underscore]

theorem isBlank_of_isPlain {c : Char} (plain : isPlain c = true) : isBlank c = false :=
  ascii_induction (fun c => isPlain c = true → isBlank c = false) (by decide)
    (ascii_of_isPlain plain) plain

def blankPoints : List Nat :=
  [9, 10, 11, 12, 13, 28, 29, 30, 31, 32, 0x85, 0xA0, 0x1680, 0x2000, 0x2001, 0x2002, 0x2003, 0x2004,
   0x2005, 0x2006, 0x2007, 0x2008, 0x2009, 0x200A, 0x2028, 0x2029, 0x202F, 0x205F, 0x3000]

theorem mem_blankPoints {c : Char} (blank : isBlank c = true) : c.toNat ∈ blankPoints := by
  simp only [isBlank, Bool.or_eq_true, Bool.and_eq_true, decide_eq_true_eq, beq_iff_eq] at blank
  simp only [blankPoints, List.mem_cons, List.not_mem_nil, or_false]
  omega

theorem isBlank_space : ∀ c ∈ [' '], isBlank c = true := by
  intro c member
  obtain rfl := List.mem_singleton.mp member
  decide

theorem isWordCharacter_of_isBlank {c : Char} (blank : isBlank c = true) : isWordCharacter c = false := by
  -- Not all blanks are ASCII, so their code points are listed.
  have each : ∀ point ∈ blankPoints, isWordCharacter (Char.ofNat point) = false := by decide +kernel
  have here := each c.toNat (mem_blankPoints blank)
  rwa [Char.ofNat_toNat] at here

/-- A name that needs no quotation marks. -/
def IsBare (text : Text) : Prop := text ≠ [] ∧ ∀ c ∈ text, isPlain c = true

instance (text : Text) : Decidable (IsBare text) :=
  have same : (text ≠ [] ∧ text.all isPlain = true) ↔ IsBare text := by rw [IsBare, List.all_eq_true]
  decidable_of_decidable_of_iff same

def endsWord (text : Text) : Bool := text.getLast?.any isWordCharacter

def beginsWord (text : Text) : Bool := text.head?.any isWordCharacter

theorem endsWord_append {text : Text} (filled : text ≠ []) (before : Text) :
    endsWord (before ++ text) = endsWord text := by
  unfold endsWord
  rw [List.getLast?_append, List.getLast?_eq_some_getLast filled, Option.some_or]

theorem stop_append {text rest : Text} (stop : text.getLast?.any isBlank = false)
    (rest_stop : rest.getLast?.any isBlank = false) : (text ++ rest).getLast?.any isBlank = false := by
  rw [List.getLast?_append]
  cases last : rest.getLast? with
  | none => exact stop
  | some c => rwa [last] at rest_stop

/-- The longest runs of word characters. -/
def words (text : Text) : List Text := (text.splitOnP (!isWordCharacter ·)).filter (!·.isEmpty)

section Words
variable {text : Text} {c : Char}

theorem words_nil : words [] = [] := by simp [words]

theorem words_append_cons (text rest : Text) (separates : isWordCharacter c = false) :
    words (text ++ c :: rest) = words text ++ words rest := by
  unfold words
  rw [List.splitOnP_append_cons text rest (by simp [separates]), List.filter_append]

theorem words_cons (rest : Text) (separates : isWordCharacter c = false) :
    words (c :: rest) = words rest := by
  have same := words_append_cons [] rest separates
  rwa [words_nil] at same

theorem words_append {rest : Text} (outside : beginsWord rest = false) :
    words (text ++ rest) = words text ++ words rest := by
  cases rest with
  | nil => simp [words_nil]
  | cons c rest =>
    have separates : isWordCharacter c = false := by simpa [beginsWord] using outside
    rw [words_append_cons text rest separates, words_cons rest separates]

/-- Behind a text that ends outside words, the words go on as they are alone. -/
theorem words_append_of_endsWord (outside : endsWord text = false) (rest : Text) :
    words (text ++ rest) = words text ++ words rest := by
  rcases List.eq_nil_or_concat text with rfl | ⟨front, c, rfl⟩
  · rw [words_nil, List.nil_append, List.nil_append]
  · rw [List.concat_eq_append] at outside ⊢
    have separates : isWordCharacter c = false := by simpa [endsWord] using outside
    rw [List.append_assoc, List.singleton_append, words_append_cons front rest separates,
      words_append_cons front [] separates, words_nil, List.append_nil]

theorem words_self (filled : text ≠ []) (fits : ∀ c ∈ text, isWordCharacter c = true) :
    words text = [text] := by
  unfold words
  rw [List.splitOnP_eq_singleton fun c member => by simp [fits c member]]
  simp [filled]

theorem mem_of_mem_words {word : Text} (member : word ∈ words text) (inside : c ∈ word) : c ∈ text :=
  mem_of_mem_splitOnP (List.mem_filter.mp member).1 inside

theorem words_of_blank {gap : Text} (blank : ∀ c ∈ gap, isBlank c = true) (rest : Text) :
    words (gap ++ rest) = words rest := by
  induction gap with
  | nil => rfl
  | cons c gap ih =>
    rw [List.cons_append, words_cons _ (isWordCharacter_of_isBlank (blank c List.mem_cons_self)),
      ih fun d member => blank d (List.mem_cons_of_mem c member)]

theorem words_eq_nil_of_blank {gap : Text} (blank : ∀ c ∈ gap, isBlank c = true) : words gap = [] := by
  rw [← List.append_nil gap, words_of_blank blank, words_nil]

theorem beginsWord_of_blank {gap : Text} (blank : ∀ c ∈ gap, isBlank c = true) : beginsWord gap = false := by
  cases gap with
  | nil => rfl
  | cons c gap => exact isWordCharacter_of_isBlank (blank c List.mem_cons_self)

theorem endsWord_of_blank {gap : Text} (blank : ∀ c ∈ gap, isBlank c = true) : endsWord gap = false := by
  unfold endsWord
  cases last : gap.getLast? with
  | none => rfl
  | some c => exact isWordCharacter_of_isBlank (blank c (List.mem_of_getLast? last))

theorem not_mem_of_blank {gap : Text} (blank : ∀ c ∈ gap, isBlank c = true) (solid : isBlank c = false) : c ∉ gap := by
  intro member
  rw [blank c member] at solid
  cases solid

theorem words_append_of_blank (text : Text) {gap : Text} (blank : ∀ c ∈ gap, isBlank c = true) :
    words (text ++ gap) = words text := by
  rw [words_append (beginsWord_of_blank blank), words_eq_nil_of_blank blank, List.append_nil]

theorem words_ne_nil (begins : beginsWord text = true) : words text ≠ [] := by
  -- The first run of word characters is a word of its own.
  have split : text = text.takeWhile isWordCharacter ++ text.dropWhile isWordCharacter :=
    List.takeWhile_append_dropWhile.symm
  have fits : ∀ c ∈ text.takeWhile isWordCharacter, isWordCharacter c = true :=
    List.all_eq_true.mp List.all_takeWhile
  have filled : text.takeWhile isWordCharacter ≠ [] := by
    cases text with
    | nil => cases begins
    | cons c text =>
      have here : isWordCharacter c = true := begins
      simp [here]
  have outside : beginsWord (text.dropWhile isWordCharacter) = false := by
    have stops := List.head?_dropWhile_not isWordCharacter text
    unfold beginsWord
    cases behind : (text.dropWhile isWordCharacter).head? with
    | none => rfl
    | some c =>
      rw [behind] at stops
      simpa using stops
  rw [split, words_append outside, words_self filled fits]
  exact List.cons_ne_nil _ _

theorem mem_words {before rest : Text} (filled : text ≠ [])
    (fits : ∀ c ∈ text, isWordCharacter c = true) (start : endsWord before = false)
    (stop : beginsWord rest = false) : text ∈ words (before ++ (text ++ rest)) := by
  have here : text ∈ words (text ++ rest) := by
    rw [words_append stop, words_self filled fits]
    exact List.mem_append_left _ (List.mem_singleton.mpr rfl)
  rcases List.eq_nil_or_concat before with rfl | ⟨first, c, rfl⟩
  · exact here
  · have separates : isWordCharacter c = false := by simpa [endsWord] using start
    rw [List.concat_eq_append, List.append_assoc, List.singleton_append, words_append_cons first _ separates]
    exact List.mem_append_right _ here

/-- A text begins with one longest run of word characters only. -/
theorem word_unique {other rest tail : Text} (fits : ∀ c ∈ text, isWordCharacter c = true)
    (other_fits : ∀ c ∈ other, isWordCharacter c = true) (stop : beginsWord rest = false)
    (other_stop : beginsWord tail = false) (same : text ++ rest = other ++ tail) :
    text = other ∧ rest = tail := by
  rcases List.append_eq_append_iff.mp same with ⟨more, rfl, rfl⟩ | ⟨more, rfl, rfl⟩
  · cases more with
    | nil => simp
    | cons c more =>
      have here : isWordCharacter c = true := other_fits c (by simp)
      simp [beginsWord, here] at stop
  · cases more with
    | nil => simp
    | cons c more =>
      have here : isWordCharacter c = true := fits c (by simp)
      simp [beginsWord, here] at other_stop

/-- A text begins with one longest run of blanks only. -/
theorem gap_unique {gap other rest tail : Text} (blank : ∀ c ∈ gap, isBlank c = true)
    (other_blank : ∀ c ∈ other, isBlank c = true) (start : rest.head?.any isBlank = false)
    (other_start : tail.head?.any isBlank = false) (same : gap ++ rest = other ++ tail) : rest = tail := by
  have kept : ∀ {text : Text}, text.head?.any isBlank = false → text.dropWhile isBlank = text := by
    intro text start
    cases text with
    | nil => rfl
    | cons c text => exact List.dropWhile_cons_of_neg (by simpa using start)
  have dropped := congrArg (List.dropWhile isBlank) same
  rwa [List.dropWhile_append_of_pos blank, List.dropWhile_append_of_pos other_blank, kept start,
    kept other_start] at dropped

/-- One space is a whole gap if no blank follows. -/
theorem space_unique {gap rest tail : Text} (filled : gap ≠ []) (blank : ∀ c ∈ gap, isBlank c = true)
    (start : rest.head?.any isBlank = false) (same : ' ' :: rest = gap ++ tail) : rest = tail := by
  obtain ⟨c, gap, rfl⟩ := List.exists_cons_of_ne_nil filled
  obtain ⟨rfl, behind⟩ := List.cons.inj same
  cases gap with
  | nil => exact behind
  | cons d gap =>
    have solid : isBlank d = false := by simpa [behind] using start
    rw [blank d (by simp)] at solid
    cases solid

/-- A run of word characters of any script. -/
def IsWord (text : Text) : Prop := text ≠ [] ∧ ∀ c ∈ text, isWordCharacter c = true

instance (text : Text) : Decidable (IsWord text) :=
  have same : (text ≠ [] ∧ text.all isWordCharacter = true) ↔ IsWord text := by rw [IsWord, List.all_eq_true]
  decidable_of_decidable_of_iff same

theorem isBlank_of_isWordCharacter (fits : isWordCharacter c = true) : isBlank c = false := by
  by_contra blank
  rw [isWordCharacter_of_isBlank (Bool.of_not_eq_false blank)] at fits
  cases fits

theorem IsWord.not_mem (word : IsWord text) (other : isWordCharacter c = false) : c ∉ text := by
  intro member
  rw [word.2 c member] at other
  cases other

theorem IsWord.head_ne (word : IsWord (c :: text)) {mark : Char} (other : isWordCharacter mark = false) :
    c ≠ mark := by
  rintro rfl
  exact word.not_mem other List.mem_cons_self

theorem IsWord.start (word : IsWord text) (rest : Text) : (text ++ rest).head?.any isBlank = false := by
  obtain ⟨c, text, rfl⟩ := List.exists_cons_of_ne_nil word.1
  exact isBlank_of_isWordCharacter (word.2 c List.mem_cons_self)

theorem IsWord.stop (word : IsWord text) : text.getLast?.any isBlank = false := by
  rw [List.getLast?_eq_some_getLast word.1]
  exact isBlank_of_isWordCharacter (word.2 _ (List.getLast_mem word.1))

theorem IsBare.fits (bare : IsBare text) : ∀ c ∈ text, isWordCharacter c = true :=
  fun c member => isWordCharacter_of_isPlain (bare.2 c member)

theorem IsBare.word (bare : IsBare text) : IsWord text := ⟨bare.1, bare.fits⟩

theorem IsBare.beginsWord (bare : IsBare text) (rest : Text) : Text.beginsWord (text ++ rest) = true := by
  obtain ⟨c, text, rfl⟩ := List.exists_cons_of_ne_nil bare.1
  exact bare.fits c List.mem_cons_self

theorem IsBare.endsWord (bare : IsBare text) (before : Text) : Text.endsWord (before ++ text) = true := by
  rw [endsWord_append bare.1, Text.endsWord, List.getLast?_eq_some_getLast bare.1]
  exact bare.fits _ (List.getLast_mem bare.1)

/-- A word begins and ends where none is before it and none behind it. -/
theorem IsBare.opens (bare : IsBare text) {before : Text} (start : Text.endsWord before = false) (rest : Text) :
    Text.endsWord before ≠ Text.beginsWord (text ++ rest) := by
  rw [start, bare.beginsWord]
  decide

theorem IsBare.closes (bare : IsBare text) {rest : Text} (stop : Text.beginsWord rest = false) (before : Text) :
    Text.endsWord (before ++ text) ≠ Text.beginsWord rest := by
  rw [stop, bare.endsWord]
  decide

theorem IsBare.start (bare : IsBare text) (rest : Text) : (text ++ rest).head?.any isBlank = false := by
  obtain ⟨c, text, rfl⟩ := List.exists_cons_of_ne_nil bare.1
  exact isBlank_of_isPlain (bare.2 c List.mem_cons_self)

theorem IsBare.not_mem (bare : IsBare text) {c : Char} (other : isPlain c = false) : c ∉ text := by
  intro member
  rw [bare.2 c member] at other
  cases other

end Words

end SchemaAtlas.Text
