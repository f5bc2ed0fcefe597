import SchemaAtlas.Proofs.Text.Decimal
import SchemaAtlas.Text.Uppercase
/-!
Texts that are one line: whatever else is in them, their only blanks are spaces. Capital letters and numerals bring no
blank in.
-/
namespace SchemaAtlas.Text

def IsLine (text : Text) : Prop := ∀ c ∈ text, isBlank c = true → c = ' '

instance (text : Text) : Decidable (IsLine text) := List.decidableBAll (fun c => isBlank c = true → c = ' ') text

namespace IsLine
variable {text more : Text}

theorem of_subset (line : IsLine text) (inside : more ⊆ text) : IsLine more := fun c member => line c (inside member)

theorem append (first : IsLine text) (second : IsLine more) : IsLine (text ++ more) :=
  List.forall_mem_append.mpr ⟨first, second⟩

theorem not_mem (line : IsLine text) {c : Char} (blank : isBlank c = true) (other : c ≠ ' ') : c ∉ text :=
  fun member => other (line c member blank)

theorem intercalate {separator : Text} {texts : List Text} (between : IsLine separator)
    (each : ∀ text ∈ texts, IsLine text) : IsLine (separator.intercalate texts) := by
  intro c member
  rcases mem_of_mem_intercalate member with apart | ⟨text, listed, inside⟩
  · exact between c apart
  · exact each text listed c inside

end IsLine

section Capital

/-- The blanks, as ranges. -/
def blankRanges : Ranges :=
  [(9, 13), (28, 32), (0x85, 0x85), (0xA0, 0xA0), (0x1680, 0x1680), (0x2000, 0x200A), (0x2028, 0x2029),
    (0x202F, 0x202F), (0x205F, 0x205F), (0x3000, 0x3000)]

theorem has_of_isBlank {c : Char} (blank : isBlank c = true) :
    ∃ range ∈ blankRanges, range.1 ≤ c.toNat ∧ c.toNat ≤ range.2 := by
  simp only [isBlank, Bool.or_eq_true, Bool.and_eq_true, decide_eq_true_eq, beq_iff_eq] at blank
  simp only [blankRanges, List.exists_mem_cons_iff, List.not_mem_nil, false_and, exists_false, or_false]
  omega

theorem isBlank_ofNat {point : Nat} (outside : ∀ range ∈ blankRanges, point < range.1 ∨ range.2 < point) :
    isBlank (Char.ofNat point) = false := by
  have apart : ∀ range ∈ blankRanges, (Char.ofNat point).toNat < range.1 ∨ range.2 < (Char.ofNat point).toNat := by
    by_cases valid : point.isValidChar
    · rw [Char.ofNat, dif_pos valid]
      exact outside
    · rw [Char.ofNat, dif_neg valid]
      decide
  refine Bool.eq_false_iff.mpr fun blank => ?_
  obtain ⟨range, member, low, high⟩ := has_of_isBlank blank
  rcases apart range member with before | behind <;> omega

/-- Of all letters only the shifted runs need their bounds compared. -/
theorem solid_capitalRuns : ∀ run ∈ capitalRuns, ∀ range ∈ blankRanges,
    (run.last : Int) + run.distance < range.1 ∨ (range.2 : Int) < run.first + run.distance := by
  decide +kernel

theorem solid_longCapitals : ∀ entry ∈ longCapitals, ∀ point ∈ entry.2, isBlank (Char.ofNat point) = false := by
  decide +kernel

theorem solid_capital {c : Char} (solid : isBlank c = false) : ∀ d ∈ capital c, isBlank d = false := by
  intro d member
  simp only [capital] at member
  split at member
  · next ascii =>
    rw [List.mem_singleton.mp member]
    exact ascii_induction (fun c => isBlank c = false → isBlank c.toUpper = false) (by decide) ascii solid
  split at member
  · next points found =>
    obtain ⟨before, behind, table, _⟩ := List.lookup_eq_some_iff.mp found
    have entry : (c.toNat, points) ∈ longCapitals := by
      rw [table]
      exact List.mem_append_right _ List.mem_cons_self
    obtain ⟨point, inside, rfl⟩ := List.mem_map.mp member
    exact solid_longCapitals _ entry point inside
  split at member
  · next run found =>
    have held := List.find?_some found
    simp only [CapitalRun.has, Bool.and_eq_true, decide_eq_true_eq] at held
    rw [List.mem_singleton.mp member]
    refine isBlank_ofNat fun range blank => ?_
    have apart := solid_capitalRuns run (List.mem_of_find?_eq_some found) range blank
    have above : ∀ range ∈ blankRanges, 0 < range.1 := by decide
    have positive := above range blank
    omega
  · rw [List.mem_singleton.mp member]
    exact solid

theorem IsLine.uppercase {text : Text} (line : IsLine text) : IsLine (Text.uppercase text) := by
  intro d member blank
  obtain ⟨c, inside, made⟩ := List.mem_flatMap.mp member
  by_cases was_blank : isBlank c = true
  · rw [line c inside was_blank] at made
    exact List.mem_singleton.mp made
  · exact absurd blank (Bool.eq_false_iff.mp (solid_capital (Bool.eq_false_iff.mpr was_blank) d made))

end Capital

section Numeral

theorem isLine_digits (number : Nat) : IsLine (Numeral.digits number) := fun _ member blank =>
  absurd blank (Numeral.digit_induction (Numeral.isDigit_of_mem member) (fun c => ¬isBlank c = true) (by decide))

theorem isLine_toString (number : Int) : IsLine (toString number).toList := by
  cases number with
  | ofNat number =>
    have shown : (toString (Int.ofNat number)).toList = Numeral.digits number := Nat.toList_repr
    rw [shown]
    exact isLine_digits number
  | negSucc number =>
    have shown : (toString (Int.negSucc number)).toList = ['-'] ++ Numeral.digits (number + 1) := by
      have signed : toString (Int.negSucc number) = "-" ++ (number + 1).repr := rfl
      rw [signed, String.toList_append, Nat.toList_repr]
      rfl
    rw [shown]
    exact IsLine.append (by decide) (isLine_digits _)

end Numeral

end SchemaAtlas.Text
