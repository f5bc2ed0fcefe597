/-!
Text as a list of characters, the form in which every scanner and pattern of the library reads it.
A property of characters that no formula gives is a table of closed ranges of code points.
-/
namespace SchemaAtlas

abbrev Text := List Char

namespace Text

/-- Closed ranges of code points, in ascending order. -/
abbrev Ranges := List (Nat × Nat)

def Ranges.has (ranges : Ranges) (c : Char) : Bool :=
  ranges.any fun range => range.1 ≤ c.toNat && c.toNat ≤ range.2

/-- Lines, each with the break that ends it. -/
def unlines (lines : List String) : String := String.join (lines.map (· ++ "\n"))

/-- Puts a character in front of the first of several texts. -/
def extendFirst (c : Char) : List Text → List Text
  | [] => [[c]]
  | first :: others => (c :: first) :: others

/-- The stretches between the separators, so one more than there are separators. -/
def fields (separator : Char) : Text → List Text
  | [] => [[]]
  | c :: rest =>
    if c == separator then [] :: fields separator rest else extendFirst c (fields separator rest)

theorem extendFirst_ne_nil (c : Char) (texts : List Text) : extendFirst c texts ≠ [] := by
  cases texts <;> simp [extendFirst]

theorem fields_ne_nil (separator : Char) (text : Text) : fields separator text ≠ [] := by
  cases text with
  | nil => simp [fields]
  | cons c rest =>
    unfold fields
    split
    · simp
    · exact extendFirst_ne_nil c _

theorem intercalate_extendFirst (separator : Text) (c : Char) {texts : List Text}
    (filled : texts ≠ []) :
    separator.intercalate (extendFirst c texts) = c :: separator.intercalate texts := by
  match texts with
  | [] => exact absurd rfl filled
  | [only] => simp [extendFirst]
  | first :: second :: others =>
    simp only [extendFirst]
    rw [List.intercalate_cons_cons, List.intercalate_cons_cons]
    simp

/-- Writing the separator between the fields gives the text back. -/
theorem intercalate_fields (separator : Char) (text : Text) :
    [separator].intercalate (fields separator text) = text := by
  induction text with
  | nil => simp [fields]
  | cons c rest ih =>
    have filled := fields_ne_nil separator rest
    unfold fields
    split
    · rename_i same
      cases found : fields separator rest with
      | nil => exact absurd found filled
      | cons first others =>
        rw [List.intercalate_cons_cons, ← found, ih]
        simp [beq_iff_eq.mp same]
    · rw [intercalate_extendFirst _ _ filled, ih]

end Text
end SchemaAtlas
