import SchemaAtlas.Dictionary.Html
import SchemaAtlas.Proofs.Lists
/-!
Web pages as a reader sees them who knows nothing of the schema: tags, and the characters between them. Escaped text
holds no tag, so it is read as what it was written for and changes nothing about the tags around it.
-/
namespace SchemaAtlas.Html

inductive Token where
  | tag (source : Text)
  | character (c : Char)
deriving DecidableEq, Repr

def Token.tag? : Token → Option Text
  | .tag source => some source
  | .character _ => none

def Token.character? : Token → Option Char
  | .tag _ => none
  | .character c => some c

/-- What of an open tag was read, one character later. -/
def tagStep (open? : Option Text) (c : Char) : Option Text :=
  match open? with
  | none => if c = '<' then some ['<'] else none
  | some read => if c = '>' then none else some (read ++ [c])

/-- A tag stands between a `<` and the next `>`. One that never ends is text. -/
def tokensFrom : Option Text → Text → List Token
  | none, [] => []
  | some read, [] => read.map .character
  | none, c :: rest => if c = '<' then tokensFrom (some ['<']) rest else .character c :: tokensFrom none rest
  | some read, c :: rest =>
    if c = '>' then .tag (read ++ ['>']) :: tokensFrom none rest else tokensFrom (some (read ++ [c])) rest

def tokens (page : Text) : List Token := tokensFrom none page

def tags (page : Text) : List Text := (tokens page).filterMap Token.tag?

/-- The characters that have a meaning in markup. -/
def specials : List Char := ['&', '<', '>', '"', '\'']

/-- The text that was escaped. A character with a meaning in markup may not stand for itself. -/
def unescape? : Text → Option Text
  | [] => some []
  | '&' :: 'a' :: 'm' :: 'p' :: ';' :: rest => (unescape? rest).map ('&' :: ·)
  | '&' :: 'l' :: 't' :: ';' :: rest => (unescape? rest).map ('<' :: ·)
  | '&' :: 'g' :: 't' :: ';' :: rest => (unescape? rest).map ('>' :: ·)
  | '&' :: 'q' :: 'u' :: 'o' :: 't' :: ';' :: rest => (unescape? rest).map ('"' :: ·)
  | '&' :: '#' :: 'x' :: '2' :: '7' :: ';' :: rest => (unescape? rest).map ('\'' :: ·)
  | c :: rest => if c ∈ specials then none else (unescape? rest).map (c :: ·)

/-- The stretches that begin behind a token of one kind, each up to the next token of another kind. -/
def stretches (opens closes : Token → Bool) : List Token → List (Token × List Token)
  | [] => []
  | token :: rest =>
    if opens token then (token, rest.takeWhile (!closes ·)) :: stretches opens closes rest
    else stretches opens closes rest

/-- What stands between tags, without escapes. -/
def content? (read : List Token) : Option Text := (read.mapM Token.character?).bind unescape?

def isTag (source : String) (token : Token) : Bool := token == .tag source.toList

def beginsTag (source : String) (token : Token) : Bool :=
  token.tag?.any fun tag => source.toList.isPrefixOf tag

section Tokens
variable {text front rest : Text}

theorem tokensFrom_append {open? : Option Text} (closed : front.foldl tagStep open? = none) :
    tokensFrom open? (front ++ rest) = tokensFrom open? front ++ tokens rest := by
  induction front generalizing open? with
  | nil =>
    cases closed
    rfl
  | cons c front ih =>
    cases open? with
    | none =>
      simp only [List.cons_append, tokensFrom]
      split
      · next same => exact ih (by simpa [tagStep, same] using closed)
      · next other => rw [ih (by simpa [tagStep, other] using closed), List.cons_append]
    | some read =>
      simp only [List.cons_append, tokensFrom]
      split
      · next same => rw [ih (by simpa [tagStep, same] using closed), List.cons_append]
      · next other => exact ih (by simpa [tagStep, other] using closed)

theorem tokens_append (closed : front.foldl tagStep none = none) :
    tokens (front ++ rest) = tokens front ++ tokens rest :=
  tokensFrom_append closed

/-- Text without tags is read character by character. -/
theorem tokens_plain (plain : '<' ∉ text) : tokens text = text.map .character ∧ text.foldl tagStep none = none := by
  induction text with
  | nil => exact ⟨rfl, rfl⟩
  | cons c rest ih =>
    obtain ⟨other, plain⟩ := not_or.mp (mt List.mem_cons.mpr plain)
    obtain ⟨read, closed⟩ := ih plain
    refine ⟨?_, ?_⟩
    · rw [tokens, tokensFrom, if_neg (Ne.symm other), List.map_cons, ← read, tokens]
    · rw [List.foldl_cons, tagStep, if_neg (Ne.symm other), closed]

end Tokens

section Escape

theorem escapedCharacter_plain {c : Char} (plain : c ∉ specials) : escapedCharacter c = [c] := by
  simp only [specials, List.mem_cons, List.not_mem_nil, or_false, not_or] at plain
  simp [escapedCharacter, plain]

theorem not_mem_escape (text : Text) : '<' ∉ escape text := by
  intro member
  obtain ⟨c, _, inside⟩ := List.mem_flatMap.mp member
  by_cases special : c ∈ specials
  · simp only [specials, List.mem_cons, List.not_mem_nil, or_false] at special
    rcases special with rfl | rfl | rfl | rfl | rfl <;> exact absurd inside (by decide)
  · rw [escapedCharacter_plain special] at inside
    rw [← List.mem_singleton.mp inside] at special
    exact special (by decide)

theorem unescape?_escape (text : Text) : unescape? (escape text) = some text := by
  induction text with
  | nil => rfl
  | cons c rest ih =>
    change unescape? (escapedCharacter c ++ escape rest) = some (c :: rest)
    by_cases special : c ∈ specials
    · simp only [specials, List.mem_cons, List.not_mem_nil, or_false] at special
      rcases special with rfl | rfl | rfl | rfl | rfl <;> simp [escapedCharacter, unescape?, ih]
    · rw [escapedCharacter_plain special, List.singleton_append, unescape?, ih, if_neg special]
      · rfl
      -- The rows before speak of an ampersand, which is special.
      all_goals
        rintro _ rfl
        exact absurd special (by decide)

end Escape

/-- The tokens of an escaped text. -/
def written (content : String) : List Token := (escape content.toList).map .character

theorem content?_written (content : String) : content? (written content) = some content.toList := by
  have characters : (written content).mapM Token.character? = some (escape content.toList) := by
    unfold written
    induction escape content.toList with
    | nil => rfl
    | cons c rest ih => simp [Token.character?, ih]
  rw [content?, characters, Option.bind_some, unescape?_escape]

section Reads
variable {pieces others : List Piece} {read more : List Token}

/-- The pieces are read as these tokens, whatever follows them. -/
def Reads (pieces : List Piece) (read : List Token) : Prop :=
  ∀ rest, tokens (pieces.flatMap Piece.render ++ rest) = read ++ tokens rest

theorem Reads.nil : Reads [] [] := fun _ => rfl

theorem Reads.append (first : Reads pieces read) (second : Reads others more) :
    Reads (pieces ++ others) (read ++ more) := by
  intro rest
  rw [List.flatMap_append, List.append_assoc, first, second, List.append_assoc]

theorem Reads.text (content : String) : Reads [.text content] (written content) := by
  intro rest
  obtain ⟨read, closed⟩ := tokens_plain (not_mem_escape content.toList)
  rw [List.flatMap_singleton, Piece.render, tokens_append closed, read, written]

theorem Reads.markup {source : String}
    (alone : source.toList.foldl tagStep none = none ∧ tokens source.toList = read) : Reads [.markup source] read := by
  intro rest
  rw [List.flatMap_singleton, Piece.render, tokens_append alone.1, alone.2]

theorem Reads.flatMap {α : Type} {give : α → List Piece} {tell : α → List Token} (items : List α)
    (each : ∀ item ∈ items, Reads (give item) (tell item)) : Reads (items.flatMap give) (items.flatMap tell) := by
  induction items with
  | nil => exact .nil
  | cons item rest ih =>
    obtain ⟨here, there⟩ := List.forall_mem_cons.mp each
    exact here.append (ih there)

theorem Reads.tokens_eq (reads : Reads pieces read) : tokens (pieces.flatMap Piece.render) = read := by
  simpa [tokens, tokensFrom] using reads []

end Reads

section Stretches
variable {opens closes : Token → Bool} {read more body : List Token} {opening closing : Token}
  {found others : List (Token × List Token)}

/-- An element: the tag that opens it, what it holds, and the tag that closes it. -/
def element (opening : Token) (body : List Token) (closing : Token) : List Token := opening :: (body ++ [closing])

/-- The tokens hold these stretches, whatever follows them. -/
def Yields (opens closes : Token → Bool) (read : List Token) (found : List (Token × List Token)) : Prop :=
  ∀ rest, stretches opens closes (read ++ rest) = found ++ stretches opens closes rest

theorem Yields.append (first : Yields opens closes read found) (second : Yields opens closes more others) :
    Yields opens closes (read ++ more) (found ++ others) := by
  intro rest
  rw [List.append_assoc, first, second, List.append_assoc]

theorem Yields.nothing (passed : ∀ token ∈ read, opens token = false) : Yields opens closes read [] := by
  intro rest
  induction read with
  | nil => rfl
  | cons token read ih =>
    obtain ⟨here, there⟩ := List.forall_mem_cons.mp passed
    rw [List.cons_append, stretches, here, if_neg Bool.false_ne_true, ih there]

theorem Yields.element (begins : opens opening = true)
    (inside : ∀ token ∈ body, opens token = false ∧ closes token = false) (stops : closes closing = true)
    (silent : opens closing = false) :
    Yields opens closes (element opening body closing) [(opening, body)] := by
  intro rest
  have all : (body ++ ([closing] ++ rest)).takeWhile (!closes ·) = body := by
    rw [List.takeWhile_append_of_pos fun token member => by simp [(inside token member).2]]
    simp [stops]
  have passed : Yields opens closes (body ++ [closing]) [] := .nothing fun token member => by
    rcases List.mem_append.mp member with within | last
    · exact (inside token within).1
    · rw [List.mem_singleton.mp last, silent]
  rw [Html.element, List.cons_append, stretches, if_pos begins, passed, List.append_assoc, all]
  rfl

theorem Yields.flatMap {α : Type} {give : α → List Token} {tell : α → Token × List Token} (items : List α)
    (each : ∀ item ∈ items, Yields opens closes (give item) [tell item]) :
    Yields opens closes (items.flatMap give) (items.map tell) := by
  induction items with
  | nil => exact fun _ => rfl
  | cons item rest ih =>
    obtain ⟨here, there⟩ := List.forall_mem_cons.mp each
    exact here.append (ih there)

theorem Yields.stretches_eq (yields : Yields opens closes read found) : stretches opens closes read = found := by
  simpa [stretches] using yields []

end Stretches

end SchemaAtlas.Html
