import SchemaAtlas.Diagram.Dot
import SchemaAtlas.Proofs.Schema.TableNames
/-!
The words of DOT text, as DOT itself tells them apart: identifiers and numbers, text in quotation marks, markup in angle
brackets, and marks. A quotation mark behind a backslash stands for itself, two backslashes stay two, and the first
other quotation mark ends the text. Comments, sums of texts and separators that no writer here needs are refused.
-/
namespace SchemaAtlas

namespace Dot

inductive Keyword where
  | node
  | edge
  | graph
  | digraph
  | subgraph
  | strict
deriving DecidableEq, Repr

/-- A node as an edge or a statement tells it, perhaps with a port and a compass point. -/
structure Place where
  node : Text
  ports : List Text
deriving DecidableEq, Repr

inductive Token where
  | keyword (word : Keyword)
  | name (place : Place)
  | ports (names : List Text)
  | markup (text : Text)
  | mark (c : Char)
  | arrow
deriving DecidableEq, Repr

/-- Keywords count in any letter case. -/
def keyword? (word : Text) : Option Keyword :=
  [("node", Keyword.node), ("edge", .edge), ("graph", .graph), ("digraph", .digraph), ("subgraph", .subgraph),
    ("strict", .strict)].lookup (String.ofList (word.map Char.toLower))

/-- Digits with at most one point between or beside them. -/
def isUnsigned (text : Text) : Bool :=
  let whole := text.takeWhile Char.isDigit
  match text.dropWhile Char.isDigit with
  | [] => whole != []
  | c :: digits => c == '.' && digits.all Char.isDigit && (whole != [] || digits != [])

def isNumeral : Text → Bool
  | '-' :: text => isUnsigned text
  | text => isUnsigned text

def word? (word : Text) : Option Token :=
  if Text.isIdentifier word then some ((keyword? word).elim (.name ⟨word, []⟩) .keyword)
  else if isNumeral word then some (.name ⟨word, []⟩)
  else none

def isWordPart (c : Char) : Bool := Text.isPlain c || c == '.'

def isGap (c : Char) : Bool := c ∈ [' ', '\t', '\r', '\n']

def isMark (c : Char) : Bool := c ∈ ['\x7b', '\x7d', '[', ']', '=', ':']

/-- Where a reader is: between words, in a word, behind a sign that may begin an arrow, in quotation marks and perhaps
behind a backslash, or in angle brackets at a depth and perhaps behind an opening one. -/
inductive Mode where
  | between
  | word (read : Text)
  | sign
  | quoted (read : Text) (escaping : Bool)
  | markup (read : Text) (depth : Nat) (opened : Bool)
deriving DecidableEq, Repr

/-- A character that is not inside a word. -/
def start? (c : Char) : Option (List Token × Mode) :=
  if isGap c then some ([], .between)
  else if isMark c then some ([.mark c], .between)
  else if c == '"' then some ([], .quoted [] false)
  else if c == '<' then some ([], .markup [] 0 false)
  else if c == '-' then some ([], .sign)
  else if isWordPart c then some ([], .word [c])
  else none

def Mode.step? : Mode → Char → Option (List Token × Mode)
  | between, c => start? c
  | word read, c =>
    if isWordPart c then some ([], word (read ++ [c]))
    else (word? read).bind fun token => (start? c).map fun started => (token :: started.1, started.2)
  | sign, c =>
    if c == '>' then some ([.arrow], between)
    else if isWordPart c then some ([], word ['-', c])
    else none
  | quoted read false, c =>
    if c == '"' then some ([.name ⟨read, []⟩], between)
    else if c == '\\' then some ([], quoted read true)
    else some ([], quoted (read ++ [c]) false)
  | quoted read true, c =>
    if c == '"' then some ([], quoted (read ++ ['"']) false)
    else if c == '\n' then some ([], quoted read false)
    else some ([], quoted (read ++ ['\\', c]) false)
  | markup read depth opened, c =>
    if c == '<' then some ([], markup (read ++ ['<']) (depth + 1) true)
    else if c == '>' then
      match depth with
      | 0 => some ([.markup read], between)
      | depth + 1 => some ([], markup (read ++ ['>']) depth false)
    -- What could begin a comment is refused.
    else if c == '!' && opened then none
    else some ([], markup (read ++ [c]) depth false)

def Mode.finish? : Mode → Option (List Token)
  | between => some []
  | word read => (word? read).map ([·])
  | _ => none

def wordsFrom (mode : Mode) : Text → Option (List Token)
  | [] => mode.finish?
  | c :: rest => (mode.step? c).bind fun stepped => (wordsFrom stepped.2 rest).map (stepped.1 ++ ·)

/-- The words of a text, or nothing if it is no DOT text. -/
def words? (text : Text) : Option (List Token) := wordsFrom .between text

theorem wordsFrom_cons {mode next : Mode} {c : Char} {tokens : List Token} (steps : mode.step? c = some (tokens, next))
    (rest : Text) : wordsFrom mode (c :: rest) = (wordsFrom next rest).map (tokens ++ ·) := by
  rw [wordsFrom, steps, Option.bind_some]

theorem wordsFrom_silent {mode next : Mode} {c : Char} (steps : mode.step? c = some ([], next)) (rest : Text) :
    wordsFrom mode (c :: rest) = wordsFrom next rest := by
  rw [wordsFrom_cons steps]
  cases wordsFrom next rest <;> rfl

/-- The text is read as the tokens, wherever no word goes on behind it. -/
def Spells (text : Text) (tokens : List Token) : Prop :=
  ∀ rest : Text, rest.head?.any isWordPart = false →
    wordsFrom .between (text ++ rest) = (wordsFrom .between rest).map (tokens ++ ·)

section Joints
variable {text more : Text} {tokens others : List Token} {c : Char}

theorem words?_of_spells (spells : Spells text tokens) : words? text = some tokens := by
  have whole := spells [] rfl
  rw [List.append_nil] at whole
  rw [words?, whole]
  simp [wordsFrom, Mode.finish?]

theorem spells_nil : Spells [] [] := fun rest _ => by
  rw [List.nil_append]
  cases wordsFrom .between rest <;> rfl

/-- Two texts are read one after the other, if no word goes on over the joint. -/
theorem Spells.append (first : Spells text tokens) (second : Spells more others)
    (joint : more.head?.any isWordPart = false) : Spells (text ++ more) (tokens ++ others) := by
  intro rest apart
  have behind : (more ++ rest).head?.any isWordPart = false := by
    cases more with
    | nil => exact apart
    | cons c more => exact joint
  rw [List.append_assoc, first _ behind, second rest apart, Option.map_map]
  congr 1
  funext later
  exact (List.append_assoc tokens others later).symm

theorem Spells.cons_gap (spells : Spells text tokens) (gap : isGap c = true) : Spells (c :: text) tokens := by
  intro rest apart
  have steps : Mode.between.step? c = some ([], .between) := if_pos gap
  rw [List.cons_append, wordsFrom_silent steps, spells rest apart]

theorem Spells.cons_mark (spells : Spells text tokens) (mark : isMark c = true) :
    Spells (c :: text) (.mark c :: tokens) := by
  intro rest apart
  have solid : isGap c = false := by
    simp only [isMark, List.mem_cons, List.not_mem_nil, or_false, decide_eq_true_eq] at mark
    rcases mark with rfl | rfl | rfl | rfl | rfl | rfl <;> decide
  have steps : Mode.between.step? c = some ([.mark c], .between) := by
    simp [Mode.step?, start?, solid, mark]
  rw [List.cons_append, wordsFrom_cons steps, spells rest apart, Option.map_map]
  rfl

theorem Spells.cons_arrow (spells : Spells text tokens) : Spells ('-' :: '>' :: text) (.arrow :: tokens) := by
  intro rest apart
  have sign : Mode.between.step? '-' = some ([], .sign) := by decide
  have arrow : Mode.sign.step? '>' = some ([.arrow], .between) := by decide
  rw [List.cons_append, List.cons_append, wordsFrom_silent sign, wordsFrom_cons arrow, spells rest apart,
    Option.map_map]
  rfl

end Joints

section Words
variable {text : Text} {token : Token}

/-- A word goes on as long as it can, and what follows is read as if it stood by itself. -/
theorem wordsFrom_word {read : Text} (parts : ∀ c ∈ text, isWordPart c = true)
    (known : word? (read ++ text) = some token)
    {rest : Text} (apart : rest.head?.any isWordPart = false) :
    wordsFrom (.word read) (text ++ rest) = (wordsFrom .between rest).map ([token] ++ ·) := by
  induction text generalizing read with
  | nil =>
    rw [List.append_nil] at known
    cases rest with
    | nil =>
      rw [List.append_nil, wordsFrom, Mode.finish?, known]
      rfl
    | cons c rest =>
      have other : isWordPart c = false := apart
      rw [List.nil_append, wordsFrom, wordsFrom]
      simp only [Mode.step?, other, known, Bool.false_eq_true, if_false]
      cases start? c with
      | none => rfl
      | some started => cases found : wordsFrom started.2 rest <;> simp [found]
  | cons c text ih =>
    obtain ⟨here, there⟩ := List.forall_mem_cons.mp parts
    have steps : (Mode.word read).step? c = some ([], .word (read ++ [c])) := if_pos here
    rw [List.cons_append, wordsFrom_silent steps]
    exact ih there (by rwa [List.append_assoc])

theorem spells_word {c : Char} (begins : Mode.between.step? c = some ([], .word [c]))
    (parts : ∀ d ∈ text, isWordPart d = true) (known : word? (c :: text) = some token) :
    Spells (c :: text) [token] := by
  intro rest apart
  rw [List.cons_append, wordsFrom_silent begins]
  exact wordsFrom_word parts known apart

theorem spells_signed {c : Char} (here : isWordPart c = true) (parts : ∀ d ∈ text, isWordPart d = true)
    (known : word? ('-' :: c :: text) = some token) : Spells ('-' :: c :: text) [token] := by
  intro rest apart
  have other : (c == '>') = false := beq_eq_false_iff_ne.mpr fun same => by
    rw [same] at here
    exact absurd here (by decide)
  have sign : Mode.between.step? '-' = some ([], .sign) := by decide
  have steps : Mode.sign.step? c = some ([], .word ['-', c]) := by simp [Mode.step?, other, here]
  rw [List.cons_append, List.cons_append, wordsFrom_silent sign, wordsFrom_silent steps]
  exact wordsFrom_word parts known apart

end Words

end Dot
end SchemaAtlas
