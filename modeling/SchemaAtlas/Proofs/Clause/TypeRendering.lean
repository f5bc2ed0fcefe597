import SchemaAtlas.Dictionary.Row
import SchemaAtlas.Proofs.Clause.Numbers
import SchemaAtlas.Proofs.Schema.Lines
/-!
Renderings of a column type. Diagrams show a type with the numbers that were read, the data dictionary shows its base
and its arguments side by side, and the full text keeps the arguments as they were written. The first two always show
the same, and all three do if the numbers are written as they are shown.
-/
namespace SchemaAtlas
open Text

namespace Numeral

/-- Decimal digits of ASCII without a leading zero. -/
structure IsCanonical (text : Text) : Prop where
  filled : text ≠ []
  digits : ∀ c ∈ text, c.isDigit = true
  leading : text.head? = some '0' → text = ['0']

theorem isCanonical_iff {text : Text} : IsCanonical text ↔
    text ≠ [] ∧ text.all Char.isDigit = true ∧ (text.head? = some '0' → text = ['0']) := by
  rw [List.all_eq_true]
  exact ⟨fun ⟨filled, digits, leading⟩ => ⟨filled, digits, leading⟩, fun ⟨filled, digits, leading⟩ =>
    ⟨filled, digits, leading⟩⟩

instance (text : Text) : Decidable (IsCanonical text) := decidable_of_iff _ isCanonical_iff.symm

section Canonical
variable {text : Text}

theorem digits_of_isDigit {c : Char} (digit : c.isDigit = true) :
    c.toNat - '0'.toNat < 10 ∧ digits (c.toNat - '0'.toNat) = [c] :=
  digit_induction digit (fun c => c.toNat - '0'.toNat < 10 ∧ digits (c.toNat - '0'.toNat) = [c]) (by decide)

/-- A canonical numeral is written for some number. -/
theorem exists_digits (canonical : IsCanonical text) : ∃ number, digits number = text := by
  -- The last digit is taken off, and what is left has no leading zero either.
  induction text using List.reverseRecOn with
  | nil => exact absurd rfl canonical.filled
  | append_singleton front c ih =>
    obtain ⟨_, all, leading⟩ := canonical
    obtain ⟨small, last⟩ := digits_of_isDigit (all c (by simp))
    by_cases filled : front = []
    · subst filled
      exact ⟨_, last⟩
    · have nonzero : front.head? ≠ some '0' := by
        intro zero
        have whole := leading (by rw [List.head?_append_of_ne_nil _ filled, zero])
        have short : front.length = 0 := by simpa using congrArg List.length whole
        exact filled (List.length_eq_zero_iff.mp short)
      obtain ⟨number, same⟩ := ih ⟨filled, fun d member => all d (List.mem_append_left _ member),
        fun zero => absurd zero nonzero⟩
      have positive : 0 < number := by
        by_contra zero
        obtain rfl : number = 0 := by omega
        exact nonzero (by rw [← same]; decide)
      refine ⟨10 * number + (c.toNat - '0'.toNat), ?_⟩
      rw [← same, ← last]
      exact (Nat.toDigits_append_toDigits (by decide) positive small).symm

theorem toString_digits (number : Nat) : (toString (number : Int)).toList = digits number := Nat.toList_repr

end Canonical

section Digits
variable {text : Text}

theorem isBlank_of_isDigit {c : Char} (digit : isDigit c = true) : isBlank c = false := by
  by_contra blank
  have each : ∀ point ∈ blankPoints, isDigit (Char.ofNat point) = false := by decide
  have here := each c.toNat (mem_blankPoints (Bool.of_not_eq_false blank))
  rw [Char.ofNat_toNat, digit] at here
  cases here

theorem ne_of_isDigit {c mark : Char} (digit : isDigit c = true) (other : isDigit mark = false) : c ≠ mark := by
  rintro rfl
  rw [digit] at other
  cases other

theorem not_isMargin_of_isDigit {c : Char} (digit : isDigit c = true) : isMargin c = false := by
  rw [isMargin, isBlank_of_isDigit digit, Bool.false_and]

theorem length_places (all : ∀ c ∈ text, isDecimalDigit c = true) : (places text).length = text.length := by
  rw [places, List.length_filterMap_eq_countP]
  exact List.countP_eq_length.mpr all

/-- What is read to its end behind digits of any kind has no digit without a place value. -/
theorem decimal_of_read {value : Int} (digits : ∀ c ∈ text, isDigit c = true)
    (reading : Numeral.read text = .ok value) : ∀ c ∈ text, isDecimalDigit c = true := by
  have unsigned : (splitSign (text.dropWhile isMargin)).2 = text := by
    cases text with
    | nil => rfl
    | cons c rest =>
      have digit := digits c List.mem_cons_self
      rw [List.dropWhile_cons_of_neg (by simp [not_isMargin_of_isDigit digit])]
      simp [splitSign, ne_of_isDigit digit (show isDigit '-' = false by decide),
        ne_of_isDigit digit (show isDigit '+' = false by decide)]
  have margins : (text.dropWhile isPlace).all isMargin = true := by
    simp only [Numeral.read, unsigned] at reading
    split at reading
    · cases reading
    split at reading
    · cases reading
    split at reading
    · cases reading
    · next closed => simpa using closed
  have ended : text.dropWhile isPlace = [] := by
    by_contra more
    obtain ⟨c, rest, behind⟩ := List.exists_cons_of_ne_nil more
    have digit : isDigit c = true :=
      digits c ((List.dropWhile_sublist isPlace).subset (behind ▸ List.mem_cons_self))
    have margin : isMargin c = true := List.all_eq_true.mp margins c (behind ▸ List.mem_cons_self)
    rw [not_isMargin_of_isDigit digit] at margin
    cases margin
  intro c member
  have place := List.dropWhile_eq_nil_iff.mp ended c member
  have other : c ≠ '_' := ne_of_isDigit (digits c member) (by decide)
  simpa [isPlace, other] using place

/-- Digits cannot be read if one of them has no place value, or if they are too many. -/
theorem exists_error_iff (filled : text ≠ []) (digits : ∀ c ∈ text, isDigit c = true) :
    (∃ error, Numeral.read text = .error error) ↔
      (∃ c ∈ text, isDecimalDigit c = false) ∨ mostDigits < text.length := by
  by_cases decimal : ∀ c ∈ text, isDecimalDigit c = true
  · obtain ⟨value, reading⟩ := read_of_decimal (Or.inl rfl) filled decimal
    rw [List.nil_append, length_places decimal] at reading
    have none_other : ¬∃ c ∈ text, isDecimalDigit c = false := by
      rintro ⟨c, member, other⟩
      rw [decimal c member] at other
      cases other
    rw [reading]
    by_cases long : mostDigits < text.length
    · simp [long]
    · simp [long, none_other]
  · have other : ∃ c ∈ text, isDecimalDigit c = false := by simpa using decimal
    refine iff_of_true ?_ (Or.inl other)
    cases reading : Numeral.read text with
    | error error => exact ⟨error, rfl⟩
    | ok value => exact absurd (decimal_of_read digits reading) decimal

/-- A canonical numeral is shown as it is written. -/
theorem toString_of_read {value : Int} (canonical : IsCanonical text) (reading : Numeral.read text = .ok value) :
    (toString value).toList = text := by
  obtain ⟨number, rfl⟩ := exists_digits canonical
  have decimal : ∀ c ∈ digits number, isDecimalDigit c = true :=
    fun c member => isDecimalDigit_of_isDigit (isDigit_of_mem member)
  have short : IsShort number := by
    by_contra long
    have failed : ∃ error, Numeral.read (digits number) = .error error :=
      (exists_error_iff canonical.filled fun c member => by simp [isDigit, decimal c member]).mpr
        (Or.inr (Nat.lt_of_not_le long))
    obtain ⟨error, failed⟩ := failed
    rw [reading] at failed
    cases failed
  rw [read_digits short] at reading
  cases reading
  exact toString_digits number

end Digits
end Numeral

namespace DataType

/-- One or two arguments that are made of digits. -/
structure IsNumeric (arguments : Text) : Prop where
  few : (splitArguments arguments).length ≤ 2
  digits : ∀ argument ∈ splitArguments arguments, argument ≠ [] ∧ ∀ c ∈ argument, isDigit c = true

/-- What the arguments of a base can be read to. -/
inductive ReadsTo (base : String) (arguments : Text) : Except NumeralError DataType → Prop where
  | unsized (other : ¬IsNumeric arguments) :
    ReadsTo base arguments (.ok ⟨base, none, none, fullText base (splitArguments arguments)⟩)
  | sized {size : Text} {value : Int} (numeric : IsNumeric arguments) (split : splitArguments arguments = [size])
    (reading : Numeral.read size = .ok value) :
    ReadsTo base arguments (.ok ⟨base, some value, none, fullText base [size]⟩)
  | scaled {size scale : Text} {value other : Int} (numeric : IsNumeric arguments)
    (split : splitArguments arguments = [size, scale]) (reading : Numeral.read size = .ok value)
    (also_reading : Numeral.read scale = .ok other) :
    ReadsTo base arguments (.ok ⟨base, some value, some other, fullText base [size, scale]⟩)
  | unreadable {argument : Text} {error : NumeralError} (numeric : IsNumeric arguments)
    (member : argument ∈ splitArguments arguments) (failed : Numeral.read argument = .error error) :
    ReadsTo base arguments (.error error)

section Read
variable {arguments : Text}

theorem isDigits_iff {argument : Text} :
    isDigits argument = true ↔ argument ≠ [] ∧ ∀ c ∈ argument, isDigit c = true := by
  rw [isDigits, Bool.and_eq_true, bne_iff_ne, List.all_eq_true]

theorem splitArguments_ne_nil (arguments : Text) : splitArguments arguments ≠ [] := by
  rw [splitArguments, ne_eq, List.map_eq_nil_iff]
  exact fields_ne_nil ',' arguments

theorem isNumeric_iff : IsNumeric arguments ↔
    (splitArguments arguments).length ≤ 2 ∧ (splitArguments arguments).all isDigits = true := by
  simp only [List.all_eq_true, isDigits_iff]
  exact ⟨fun ⟨few, digits⟩ => ⟨few, digits⟩, fun ⟨few, digits⟩ => ⟨few, digits⟩⟩

theorem readsTo_read (name arguments : Text) : ReadsTo (baseName name) arguments (read name (some arguments)) := by
  simp only [read, Option.map_some, bind, Except.bind, pure, Except.pure]
  have numeric_of (few : (splitArguments arguments).length ≤ 2) (all : (splitArguments arguments).all isDigits = true) :
      IsNumeric arguments := isNumeric_iff.mpr ⟨few, all⟩
  by_cases all : (splitArguments arguments).all isDigits = true
  · simp only [all, Bool.not_true, Bool.false_eq_true, ↓reduceIte]
    split
    · next size split =>
      have numeric := numeric_of (by simp [split]) all
      cases first : Numeral.read size with
      | error error => exact .unreadable numeric (by simp [split]) first
      | ok value => rw [split]; exact .sized numeric split first
    · next size scale split =>
      have numeric := numeric_of (by simp [split]) all
      cases first : Numeral.read size with
      | error error => exact .unreadable numeric (by simp [split]) first
      | ok value =>
        cases second : Numeral.read scale with
        | error error => exact .unreadable numeric (by simp [split]) second
        | ok other => rw [split]; exact .scaled numeric split first second
    · next not_one not_two =>
      refine .unsized fun numeric => ?_
      have few := numeric.few
      rcases split : splitArguments arguments with _ | ⟨size, _ | ⟨scale, _ | ⟨third, others⟩⟩⟩
      · exact splitArguments_ne_nil arguments split
      · exact not_one size split
      · exact not_two size scale split
      · simp [split] at few
  · rw [Bool.not_eq_true] at all
    simp only [all, Bool.not_false, ↓reduceIte]
    exact .unsized fun numeric => by simp [(isNumeric_iff.mp numeric).2] at all

/-- A type is read unless it would have numbers and one of them cannot be read. -/
theorem read_eq_error_iff {name : Text} : (∃ error, read name (some arguments) = .error error) ↔
    IsNumeric arguments ∧ ∃ argument ∈ splitArguments arguments,
      (∃ c ∈ argument, isDecimalDigit c = false) ∨ Numeral.mostDigits < argument.length := by
  have cause (numeric : IsNumeric arguments) {argument : Text} (member : argument ∈ splitArguments arguments) :=
    Numeral.exists_error_iff (numeric.digits argument member).1 (numeric.digits argument member).2
  have outcome := readsTo_read name arguments
  constructor
  · rintro ⟨error, failed⟩
    rw [failed] at outcome
    cases outcome with
    | unreadable numeric member failed => exact ⟨numeric, _, member, (cause numeric member).mp ⟨_, failed⟩⟩
  · rintro ⟨numeric, argument, member, unfit⟩
    obtain ⟨error, failed⟩ := (cause numeric member).mpr unfit
    generalize read name (some arguments) = result at outcome ⊢
    cases outcome with
    | unsized other => exact absurd numeric other
    | sized _ split reading =>
      rw [split, List.mem_singleton] at member
      rw [member, reading] at failed
      cases failed
    | scaled _ split reading also_reading =>
      rw [split, List.mem_pair] at member
      rcases member with rfl | rfl
      · rw [reading] at failed
        cases failed
      · rw [also_reading] at failed
        cases failed
    | @unreadable _ error _ _ _ => exact ⟨error, rfl⟩

end Read

section Text
variable {base : String} {arguments : Text} {type : DataType}

theorem fullText_ne_base (base : String) (arguments : List Text) : fullText base arguments ≠ base := by
  intro same
  have lengths := congrArg (fun text : String => text.toList.length) same
  simp [fullText] at lengths

/-- Between the parentheses of the full text stand the arguments as they are shown. -/
theorem drop_fullText (base : String) (arguments : List Text) :
    ((fullText base arguments).toList.drop (base.length + 1)).dropLast =
      [','].intercalate (arguments.map argumentText) := by
  have opening : ("(" : String).toList = ['('] := rfl
  have closing : (")" : String).toList = [')'] := rfl
  have parted : (fullText base arguments).toList =
      (base.toList ++ ['(']) ++ ([','].intercalate (arguments.map argumentText) ++ [')']) := by
    simp [fullText, opening, closing]
  have front : base.length + 1 = (base.toList ++ ['(']).length := by
    rw [List.length_append, String.length_toList, List.length_singleton]
  rw [parted, front, List.drop_left, List.dropLast_concat]

theorem argumentText_of_canonical {argument : Text} (canonical : Numeral.IsCanonical argument) :
    argumentText argument = argument := by
  have ascii : ∀ c ∈ argument, c.toNat < 128 :=
    fun c member => ascii_of_isPlain (Numeral.isPlain_of_isDigit (canonical.digits c member))
  have same : capitals argument = argument := by
    refine (List.map_congr_left fun c member => ?_).trans (List.map_id argument)
    exact Numeral.digit_induction (canonical.digits c member) (fun c => c.toUpper = c) (by decide)
  rw [argumentText, uppercase_of_ascii ascii, same, ite_self]

end Text

/-- How a type that is read of arguments is shown, and when it has numbers. -/
structure RendersAlike (arguments : Option Text) (type : DataType) : Prop where
  given : ∀ column : Column, column.type = type → arguments.isSome = true →
    type.display = (Dictionary.Row.ofColumn column).type ++ "(" ++ (Dictionary.Row.ofColumn column).length ++ ")"
  bare : ∀ column : Column, column.type = type → arguments = none →
    type.display = (Dictionary.Row.ofColumn column).type ∧ (Dictionary.Row.ofColumn column).length = "-"
  size : type.size.isSome = true ↔ ∃ text ∈ arguments, IsNumeric text
  scale : type.scale.isSome = true ↔ ∃ text ∈ arguments, IsNumeric text ∧ (splitArguments text).length = 2
  full : ∀ text ∈ arguments, IsNumeric text → (∀ argument ∈ splitArguments text, Numeral.IsCanonical argument) →
    type.display = type.full

section Rendering
variable {base : String} {arguments : Text} {type : DataType}

theorem display_sized (base full : String) (size : Int) :
    display ⟨base, some size, none, full⟩ = base ++ "(" ++ toString size ++ ")" := rfl

theorem display_scaled (base full : String) (size scale : Int) :
    display ⟨base, some size, some scale, full⟩ = base ++ "(" ++ toString size ++ "," ++ toString scale ++ ")" := rfl

theorem rendersAlike_plain (base : String) : (plain base).RendersAlike none where
  given := fun _ _ given => by cases given
  bare := by
    intro column same _
    have dash : Dictionary.lengthText (plain base) = "-" := by simp [Dictionary.lengthText, plain]
    simp only [Dictionary.Row.ofColumn, same, dash, and_true]
    rfl
  size := by simp [plain]
  scale := by simp [plain]
  full := by simp

/-- What a diagram shows of a type with arguments is what the dictionary shows of it. -/
theorem display_eq_of_readsTo (outcome : ReadsTo base arguments (.ok type)) :
    type.display = type.base ++ "(" ++ Dictionary.lengthText type ++ ")" := by
  cases outcome with
  | unsized other =>
    have apart : (fullText base (splitArguments arguments) == base) = false :=
      beq_eq_false_iff_ne.mpr (fullText_ne_base base _)
    simp only [display, Dictionary.lengthText, apart, Bool.false_eq_true, ↓reduceIte, drop_fullText]
    rfl
  | sized numeric split reading => rfl
  | @scaled size scale value other numeric split reading also_reading =>
    have joined : Dictionary.lengthText ⟨base, some value, some other, fullText base [size, scale]⟩ =
        toString value ++ "," ++ toString other := rfl
    rw [joined, display_scaled, ← String.append_assoc, ← String.append_assoc]

/-- Numbers in canonical digits are shown as they are written. -/
theorem display_eq_full (outcome : ReadsTo base arguments (.ok type)) (numeric : IsNumeric arguments)
    (canonical : ∀ argument ∈ splitArguments arguments, Numeral.IsCanonical argument) : type.display = type.full := by
  have shown {argument : Text} {value : Int} (member : argument ∈ splitArguments arguments)
      (reading : Numeral.read argument = .ok value) : argumentText argument = (toString value).toList := by
    rw [argumentText_of_canonical (canonical argument member),
      Numeral.toString_of_read (canonical argument member) reading]
  cases outcome with
  | unsized other => exact absurd numeric other
  | sized _ split reading =>
    have first := shown (by simp [split]) reading
    simp [display_sized, fullText, first]
  | scaled _ split reading also_reading =>
    have first := shown (by simp [split]) reading
    have second := shown (by simp [split]) also_reading
    simp [display_scaled, fullText, first, second, String.append_assoc]

theorem rendersAlike_of_readsTo (outcome : ReadsTo base arguments (.ok type)) :
    type.RendersAlike (some arguments) where
  given := by
    intro column same _
    simp only [Dictionary.Row.ofColumn, same]
    exact display_eq_of_readsTo outcome
  bare := fun _ _ absent => by cases absent
  size := by
    cases outcome with
    | unsized other => simp [other]
    | sized numeric _ _ => simp [numeric]
    | scaled numeric _ _ _ => simp [numeric]
  scale := by
    cases outcome with
    | unsized other => simp [other]
    | sized numeric split _ => simp [split]
    | scaled numeric split _ _ => simp [numeric, split]
  full := by
    intro text given numeric canonical
    obtain rfl := Option.some.inj given
    exact display_eq_full outcome numeric canonical

end Rendering

/-- The renderings of a type agree whatever its arguments are, its numbers are those of one or two arguments of digits,
and nothing but such a number can keep it from being read. -/
theorem renderings_agree (name : Text) (arguments : Option Text) :
    (∀ type, read name arguments = .ok type → type.RendersAlike arguments) ∧
      ((∃ error, read name arguments = .error error) ↔
        ∃ text ∈ arguments, IsNumeric text ∧ ∃ argument ∈ splitArguments text,
          (∃ c ∈ argument, isDecimalDigit c = false) ∨ 4300 < argument.length) := by
  cases arguments with
  | none =>
    have plainly : read name none = .ok (plain (baseName name)) := rfl
    rw [plainly]
    refine ⟨fun type same => ?_, by simp⟩
    cases same
    exact rendersAlike_plain _
  | some text =>
    have outcome := readsTo_read name text
    refine ⟨fun type reading => rendersAlike_of_readsTo (reading ▸ outcome), ?_⟩
    have limit : Numeral.mostDigits = 4300 := rfl
    simpa [limit] using @read_eq_error_iff text name

/-- Numbers with a blank and a digit of another script, and the same numbers as they are shown. -/
theorem renderings_agree_scaled :
    let type : DataType := ⟨"DECIMAL", some 10, some 2, "DECIMAL(10,٢)"⟩
    let other : DataType := ⟨"DECIMAL", some 10, some 2, "DECIMAL(10,2)"⟩
    let column : Column := .plain "a" type
    (read "[decimal]".toList (some " 10 ,٢".toList) = .ok type ∧
        type.display = (Dictionary.Row.ofColumn column).type ++ "(" ++ (Dictionary.Row.ofColumn column).length ++ ")" ∧
        (Dictionary.Row.ofColumn column).length = "10,2") ∧
      (read "decimal".toList (some "10,2".toList) = .ok other ∧ IsNumeric "10,2".toList ∧
        (∀ argument ∈ splitArguments "10,2".toList, Numeral.IsCanonical argument) ∧ other.display = other.full) ∧
      ∃ error, read "decimal".toList (some "10,²".toList) = .error error := by
  intro type other column
  have reading : read "[decimal]".toList (some " 10 ,٢".toList) = .ok type := by decide +kernel
  have also_reading : read "decimal".toList (some "10,2".toList) = .ok other := by decide +kernel
  have alike := (renderings_agree _ _).1 type reading
  have other_alike := (renderings_agree _ _).1 other also_reading
  have numeric : IsNumeric "10,2".toList := isNumeric_iff.mpr ⟨by decide, by decide⟩
  have canonical : ∀ argument ∈ splitArguments "10,2".toList, Numeral.IsCanonical argument := by decide
  have superscript : IsNumeric "10,²".toList := isNumeric_iff.mpr ⟨by decide, by decide⟩
  have failed : ∃ error, read "decimal".toList (some "10,²".toList) = .error error :=
    (renderings_agree _ _).2.mpr ⟨_, rfl, superscript, "²".toList, by decide, Or.inl ⟨'²', by decide, by decide⟩⟩
  exact ⟨⟨reading, alike.given column rfl rfl, by decide +kernel⟩,
    ⟨also_reading, numeric, canonical, other_alike.full _ rfl numeric canonical⟩, failed⟩

end DataType
end SchemaAtlas
