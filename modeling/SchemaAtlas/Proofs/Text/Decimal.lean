import SchemaAtlas.Text.Numeral
import SchemaAtlas.Proofs.Text.Words
/-!
Whole numbers in decimal digits, without leading zeros and with a sign only if they are negative. Such
a numeral is read as the number that it was written for, unless it has too many digits.
-/
namespace SchemaAtlas.Numeral
open Text

def digits (number : Nat) : Text := Nat.toDigits 10 number

def written : Int → Text
  | .ofNat number => digits number
  | .negSucc number => '-' :: digits (number + 1)

/-- The numeral of a number has no more digits than can be read. -/
def IsShort (number : Nat) : Prop := (digits number).length ≤ mostDigits

instance (number : Nat) : Decidable (IsShort number) := Nat.decLe _ _

theorem isDigit_of_mem {number : Nat} {c : Char} (member : c ∈ digits number) : c.isDigit = true :=
  Nat.isDigit_of_mem_toDigits (by decide) (by decide) member

section Digit
variable {c : Char} (digit : c.isDigit = true)
include digit

theorem isPlain_of_isDigit : isPlain c = true := by simp [isPlain, Char.isAlphanum, digit]

theorem digit_induction (holds : Char → Prop)
    (each : ∀ code < 128, (Char.ofNat code).isDigit = true → holds (Char.ofNat code)) : holds c :=
  ascii_induction (fun c => c.isDigit = true → holds c) each
    (ascii_of_isPlain (isPlain_of_isDigit digit)) digit

theorem digitValue?_of_isDigit : digitValue? c = some (c.toNat - '0'.toNat) :=
  digit_induction digit (fun c => digitValue? c = some (c.toNat - '0'.toNat)) (by decide)

theorem isDecimalDigit_of_isDigit : isDecimalDigit c = true := by
  rw [isDecimalDigit, digitValue?_of_isDigit digit]
  rfl

theorem isPlace_of_isDigit : isPlace c = true := by simp [isPlace, isDecimalDigit_of_isDigit digit]

end Digit

theorem bare_digits (number : Nat) : IsBare (digits number) :=
  ⟨Nat.toDigits_ne_nil, fun _ member => isPlain_of_isDigit (isDigit_of_mem member)⟩

section Read
variable {run : Text}

theorem isGrouped_of_isDigit (all : ∀ c ∈ run, c.isDigit = true) (afterDigit : Bool) :
    isGrouped afterDigit run = (!run.isEmpty || afterDigit) := by
  induction run generalizing afterDigit with
  | nil => rfl
  | cons c run ih =>
    have digit := all c List.mem_cons_self
    have other : (c == '_') = false :=
      digit_induction digit (fun c => (c == '_') = false) (by decide)
    rw [isGrouped, other]
    simp only [Bool.false_eq_true, ↓reduceIte]
    rw [ih fun d member => all d (List.mem_cons_of_mem c member)]
    simp

theorem places_of_isDigit (all : ∀ c ∈ run, c.isDigit = true) :
    places run = run.map fun c => c.toNat - '0'.toNat := by
  induction run with
  | nil => rfl
  | cons c run ih =>
    have digit := all c List.mem_cons_self
    have rest := ih fun d member => all d (List.mem_cons_of_mem c member)
    unfold places at rest ⊢
    rw [List.filterMap_cons_some (digitValue?_of_isDigit digit), rest, List.map_cons]

theorem magnitude_digits (number : Nat) : magnitude (digits number) = number := by
  have value : Nat.ofDigitChars 10 (digits number) 0 = number := Nat.ofDigitChars_ten_toDigits
  rw [magnitude, places_of_isDigit fun c member => isDigit_of_mem member, List.foldl_map]
  exact value

/-- What follows the sign is read as the number of its digits. -/
theorem read_of_splitSign {text : Text} {negative : Bool} {number : Nat} (short : IsShort number)
    (split : splitSign (text.dropWhile isMargin) = (negative, digits number)) :
    Numeral.read text = .ok (if negative then -(number : Int) else number) := by
  have all : ∀ c ∈ digits number, c.isDigit = true := fun c member => isDigit_of_mem member
  have place : ∀ c ∈ digits number, isPlace c = true := fun c member => isPlace_of_isDigit (all c member)
  have taken : (digits number).takeWhile isPlace = digits number := by
    have whole : (digits number ++ []).takeWhile isPlace = _ := List.takeWhile_append_of_pos place
    simpa using whole
  have dropped : (digits number).dropWhile isPlace = [] := by
    have whole : (digits number ++ []).dropWhile isPlace = _ := List.dropWhile_append_of_pos place
    simpa using whole
  have grouped : isGrouped false (digits number) = true := by
    rw [isGrouped_of_isDigit all]
    simp [(bare_digits number).1]
  have count : ¬mostDigits < (places (digits number)).length := by
    rw [places_of_isDigit all, List.length_map]
    exact Nat.not_lt.mpr short
  unfold Numeral.read
  simp only [split, taken, dropped, grouped, count, Bool.not_true, Bool.false_eq_true, ↓reduceIte,
    List.all_nil, magnitude_digits]

theorem read_digits {number : Nat} (short : IsShort number) :
    Numeral.read (digits number) = .ok (number : Int) := by
  have split : splitSign ((digits number).dropWhile isMargin) = (false, digits number) := by
    obtain ⟨c, others, same⟩ := List.exists_cons_of_ne_nil (bare_digits number).1
    have digit : c.isDigit = true := isDigit_of_mem (same ▸ List.mem_cons_self)
    have margin : ¬isMargin c = true :=
      digit_induction digit (fun c => ¬isMargin c = true) (by decide)
    have minus : c ≠ '-' := digit_induction digit (fun c => c ≠ '-') (by decide)
    have plus : c ≠ '+' := digit_induction digit (fun c => c ≠ '+') (by decide)
    rw [same, List.dropWhile_cons_of_neg margin]
    simp [splitSign, minus, plus]
  exact read_of_splitSign short split

theorem read_written {value : Int} (short : IsShort value.natAbs) : Numeral.read (written value) = .ok value := by
  cases value with
  | ofNat number => exact read_digits short
  | negSucc number =>
    have minus : ¬isMargin '-' = true := by decide
    have split : splitSign (('-' :: digits (number + 1)).dropWhile isMargin) =
        (true, digits (number + 1)) := by
      rw [List.dropWhile_cons_of_neg minus]
      rfl
    exact read_of_splitSign short split

end Read
end SchemaAtlas.Numeral
