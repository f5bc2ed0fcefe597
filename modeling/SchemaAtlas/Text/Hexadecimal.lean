import SchemaAtlas.Text.Basic
/-!
Numbers in base sixteen, written with a fixed count of small digits.
-/
namespace SchemaAtlas.Text

def hexDigit (value : Nat) : Char :=
  if value < 10 then Char.ofNat (0x30 + value) else Char.ofNat (0x57 + value)

/-- The last `width` digits of a number. -/
def hexadecimal : (width : Nat) → Nat → Text
  | 0, _ => []
  | width + 1, value => hexadecimal width (value / 16) ++ [hexDigit (value % 16)]

theorem length_hexadecimal (width value : Nat) : (hexadecimal width value).length = width := by
  induction width generalizing value with
  | zero => rfl
  | succ width ih => simp [hexadecimal, ih]

/-- The value of a digit in either letter case. -/
def hexValue? (c : Char) : Option Nat :=
  let point := c.toNat
  if 0x30 ≤ point ∧ point ≤ 0x39 then some (point - 0x30)
  else if 0x61 ≤ point ∧ point ≤ 0x66 then some (point - 0x57)
  else if 0x41 ≤ point ∧ point ≤ 0x46 then some (point - 0x37)
  else none

theorem hexValue?_hexDigit (value : Fin 16) : hexValue? (hexDigit value) = some value := by
  decide +revert

end SchemaAtlas.Text
