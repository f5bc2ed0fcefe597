import SchemaAtlas.Text.Basic
/-!
Blank characters: what separates words, and what trimming removes.
-/
namespace SchemaAtlas.Text

/-- White space of any script, and the four information separators. -/
def isBlank (c : Char) : Bool :=
  let point := c.toNat
  (9 ≤ point && point ≤ 13) || (28 ≤ point && point ≤ 32) || point == 0x85 || point == 0xA0 ||
    point == 0x1680 || (0x2000 ≤ point && point ≤ 0x200A) || point == 0x2028 ||
    point == 0x2029 || point == 0x202F || point == 0x205F || point == 0x3000

/-- Core's blanks are blanks. -/
theorem isBlank_of_isWhitespace (c : Char) (blank : c.isWhitespace = true) : isBlank c = true := by
  simp only [Char.isWhitespace, Bool.or_eq_true, decide_eq_true_eq] at blank
  rcases blank with ((rfl | rfl) | rfl) | rfl <;> decide

def trimStart (text : Text) : Text := text.dropWhile isBlank

def trimEnd (text : Text) : Text := (text.reverse.dropWhile isBlank).reverse

def trim (text : Text) : Text := trimEnd (trimStart text)

def isAllBlank (text : Text) : Bool := text.all isBlank

/-- Each run of blanks becomes one `filler`; `within` says that a run is being read. -/
def collapseFrom (filler : Char) (within : Bool) : Text → Text
  | [] => []
  | c :: rest =>
    if isBlank c then
      if within then collapseFrom filler true rest else filler :: collapseFrom filler true rest
    else c :: collapseFrom filler false rest

def collapse (filler : Char) (text : Text) : Text := collapseFrom filler false text

end SchemaAtlas.Text
