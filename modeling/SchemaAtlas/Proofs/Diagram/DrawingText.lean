import SchemaAtlas.Diagram.Mermaid
import SchemaAtlas.Proofs.Script.Names
import SchemaAtlas.Proofs.Text.Line
/-!
Mermaid text as a reader sees it who takes it line by line. The reader accepts nothing but names and types of the
allowed characters, the known keys and connectors, and labels without quotation marks; every drawing that is made of
these is read back from its text.
-/
namespace SchemaAtlas.Mermaid

structure Property where
  type : Text
  name : Text
  key : Option String
deriving DecidableEq, Repr

structure Box where
  name : Text
  properties : List Property
deriving DecidableEq, Repr

structure Arrow where
  source : Text
  connector : Text
  target : Text
  label : Text
deriving DecidableEq, Repr

/-- What Mermaid text shows. -/
structure Drawing where
  boxes : List Box
  arrows : List Arrow
deriving DecidableEq, Repr

inductive Line where
  | title
  | opening (name : Text)
  | property (property : Property)
  | closing
  | arrow (arrow : Arrow)
deriving DecidableEq, Repr

def isName (word : Text) : Bool := word != [] && word.all isNameCharacter

def isType (word : Text) : Bool := word != [] && word.all isTypeCharacter

/-- A label stands in quotation marks and holds none. -/
def label? : Text → Option Text
  | '"' :: rest => if rest.getLast? = some '"' ∧ '"' ∉ rest.dropLast then some rest.dropLast else none
  | _ => none

/-- A line by its indent and the words behind it. -/
def readWords? (indent : Nat) (words : List Text) : Option Line :=
  match indent, words with
  | 0, [word] => if word = "erDiagram".toList then some .title else none
  | 4, [word] => if word = ['\x7d'] then some .closing else none
  | 4, [name, bracket] => if isName name ∧ bracket = ['\x7b'] then some (.opening name) else none
  | 8, [type, name] => if isType type ∧ isName name then some (.property ⟨type, name, none⟩) else none
  | 8, [type, name, key] =>
    if isType type ∧ isName name ∧ String.ofList key ∈ keys.map Prod.snd then
      some (.property ⟨type, name, some (String.ofList key)⟩)
    else none
  | 4, source :: connector :: target :: colon :: label =>
    if isName source ∧ isName target ∧ String.ofList connector ∈ connectors.map Prod.snd ∧ colon = [':'] then
      (label? ([' '].intercalate label)).map fun label => .arrow ⟨source, connector, target, label⟩
    else none
  | _, _ => none

def readLine? (line : Text) : Option Line :=
  let words := Text.fields ' ' line
  let indent := (words.takeWhile (· == [])).length
  readWords? indent (words.drop indent)

def Line.arrow? : Line → Option Arrow
  | .arrow drawn => some drawn
  | _ => none

def Drawing.addBox (box : Box) (drawing : Drawing) : Drawing := { drawing with boxes := box :: drawing.boxes }

/-- Boxes that are opened, filled and closed one after the other, and then arrows. -/
def assemble? : Option Box → List Line → Option Drawing
  | none, [] => some ⟨[], []⟩
  | none, .opening name :: rest => assemble? (some ⟨name, []⟩) rest
  | none, .arrow arrow :: rest => (rest.mapM Line.arrow?).map fun arrows => ⟨[], arrow :: arrows⟩
  | some box, .property property :: rest =>
    assemble? (some { box with properties := box.properties ++ [property] }) rest
  | some box, .closing :: rest => (assemble? none rest).map (·.addBox box)
  | _, _ => none

/-- Lines, each of which ends in a line break. -/
def linesOf (text : Text) : List Text := (Text.fields '\n' text).dropLast

def read? (text : Text) : Option Drawing := do
  match ← (linesOf text).mapM readLine? with
  | .title :: rest => assemble? none rest
  | _ => none

section Words
variable {word rest : Text}

theorem isBlank_of_isTypeCharacter {c : Char} (allowed : isTypeCharacter c = true) : Text.isBlank c = false := by
  have ascii : c.toNat < 128 := by
    simp only [isTypeCharacter, isNameCharacter, Bool.or_eq_true, beq_iff_eq, decide_eq_true_eq] at allowed
    rcases allowed with ((letter | rfl) | rfl) | bracket
    · exact Text.ascii_of_isPlain (by simp [Text.isPlain, letter])
    · decide
    · decide
    · simp only [List.mem_cons, List.not_mem_nil, or_false] at bracket
      rcases bracket with rfl | rfl | rfl | rfl <;> decide
  exact Text.ascii_induction (fun c => isTypeCharacter c = true → Text.isBlank c = false) (by decide) ascii allowed

theorem isType_of_isName (named : isName word = true) : isType word = true := by
  simp only [isName, isType, Bool.and_eq_true, List.all_eq_true] at named ⊢
  refine ⟨named.1, fun c member => ?_⟩
  rw [isTypeCharacter, named.2 c member, Bool.true_or]

theorem isBlank_of_isType (typed : isType word = true) {c : Char} (member : c ∈ word) : Text.isBlank c = false := by
  simp only [isType, Bool.and_eq_true, List.all_eq_true] at typed
  exact isBlank_of_isTypeCharacter (typed.2 c member)

/-- A word of allowed characters is not empty and is not cut. -/
theorem solid_of_isType (typed : isType word = true) : word ≠ [] ∧ ' ' ∉ word := by
  refine ⟨?_, fun member => absurd (isBlank_of_isType typed member) (by decide)⟩
  rintro rfl
  cases typed

end Words

section Lines

/-- A line whose first word stands behind an indent. -/
theorem readLine?_indented (indent : Nat) {line first : Text} {words : List Text} (filled : first ≠ [])
    (split : Text.fields ' ' line = List.replicate indent [] ++ first :: words) :
    readLine? line = readWords? indent (first :: words) := by
  have leading : ((List.replicate indent ([] : Text) ++ first :: words).takeWhile (· == [])).length = indent := by
    rw [List.takeWhile_append_of_pos (by simp), List.takeWhile_cons_of_neg (by simpa using filled)]
    simp
  simp only [readLine?, split, leading]
  rw [List.drop_left' (List.length_replicate)]

theorem readLine?_title : readLine? "erDiagram".toList = some .title := by decide

theorem readLine?_closing : readLine? "    \x7d".toList = some .closing := by decide

theorem readLine?_opening {word : Text} (named : isName word = true) :
    readLine? ("    ".toList ++ word ++ " \x7b".toList) = some (.opening word) := by
  obtain ⟨filled, solid⟩ := solid_of_isType (isType_of_isName named)
  have split : Text.fields ' ' ("    ".toList ++ word ++ " \x7b".toList) = List.replicate 4 [] ++ [word, ['\x7b']] :=
    congrArg ([[], [], [], []] ++ ·) (Name.fields_append solid _)
  rw [readLine?_indented 4 filled split]
  simp [readWords?, named]

/-- The words of a property behind its indent. -/
theorem fields_property {typed named rest : Text} (solid : ' ' ∉ typed) :
    Text.fields ' ' ("        ".toList ++ typed ++ ' ' :: named ++ rest) =
      List.replicate 8 [] ++ typed :: Text.fields ' ' (named ++ rest) := by
  have order : "        ".toList ++ typed ++ ' ' :: named ++ rest =
      "        ".toList ++ (typed ++ ' ' :: (named ++ rest)) := by
    simp only [List.append_assoc, List.cons_append]
  rw [order, ← Name.fields_append solid]
  rfl

theorem readLine?_property {typed named : Text} (key : Option String) (type_read : isType typed = true)
    (name_read : isName named = true) (known : ∀ word ∈ key, word ∈ keys.map Prod.snd) :
    readLine? ("        ".toList ++ typed ++ ' ' :: named ++ (key.map fun word => ' ' :: word.toList).getD []) =
      some (.property ⟨typed, named, key⟩) := by
  obtain ⟨filled, solid⟩ := solid_of_isType type_read
  obtain ⟨_, also_solid⟩ := solid_of_isType (isType_of_isName name_read)
  cases key with
  | none =>
    have words : Text.fields ' ' (named ++ []) = [named] := by
      rw [List.append_nil, Name.fields_absent also_solid]
    rw [Option.map_none, Option.getD_none, readLine?_indented 8 filled (fields_property solid), words]
    simp [readWords?, type_read, name_read]
  | some word =>
    have plain : ∀ word ∈ keys.map Prod.snd, ' ' ∉ word.toList := by decide
    have words : Text.fields ' ' (named ++ ' ' :: word.toList) = [named, word.toList] := by
      rw [Name.fields_append also_solid, Name.fields_absent (plain word (known word rfl))]
    rw [Option.map_some, Option.getD_some, readLine?_indented 8 filled (fields_property solid), words]
    simp only [readWords?, type_read, name_read, String.ofList_toList, known word rfl, and_self, if_true]

theorem label?_quoted {label : Text} (unquoted : '"' ∉ label) : label? ('"' :: (label ++ ['"'])) = some label := by
  simp [label?, unquoted]

theorem readLine?_arrow {source connector target label : Text} (from_read : isName source = true)
    (to_read : isName target = true) (known : String.ofList connector ∈ connectors.map Prod.snd)
    (unquoted : '"' ∉ label) :
    readLine? ("    ".toList ++ source ++ ' ' :: connector ++ ' ' :: target ++ " : \"".toList ++ label ++ ['"']) =
      some (.arrow ⟨source, connector, target, label⟩) := by
  obtain ⟨filled, solid⟩ := solid_of_isType (isType_of_isName from_read)
  obtain ⟨_, also_solid⟩ := solid_of_isType (isType_of_isName to_read)
  have plain : ∀ word ∈ connectors.map Prod.snd, ' ' ∉ word.toList := by decide
  have connector_solid := plain _ known
  rw [String.toList_ofList] at connector_solid
  have order : "    ".toList ++ source ++ ' ' :: connector ++ ' ' :: target ++ " : \"".toList ++ label ++ ['"'] =
      "    ".toList ++ (source ++ ' ' :: (connector ++ ' ' ::
        (target ++ ' ' :: ([':'] ++ ' ' :: '"' :: (label ++ ['"']))))) := by
    simp
  have split : Text.fields ' ' ("    ".toList ++
      (source ++ ' ' :: (connector ++ ' ' :: (target ++ ' ' :: ([':'] ++ ' ' :: '"' :: (label ++ ['"'])))))) =
      List.replicate 4 [] ++ source :: connector :: target :: [':'] :: Text.fields ' ' ('"' :: (label ++ ['"'])) := by
    have colon : ' ' ∉ [':'] := by decide
    rw [← Name.fields_append colon, ← Name.fields_append also_solid, ← Name.fields_append connector_solid,
      ← Name.fields_append solid]
    rfl
  rw [order, readLine?_indented 4 filled split]
  have quoted := Text.intercalate_fields ' ' ('"' :: (label ++ ['"']))
  simp only [readWords?, from_read, to_read, known, and_self, if_true, quoted, label?_quoted unquoted, Option.map_some]

end Lines

section Written

/-- How a line is written. -/
def Line.text : Line → Text
  | .title => "erDiagram".toList
  | .opening name => "    ".toList ++ name ++ " \x7b".toList
  | .property shown =>
    "        ".toList ++ shown.type ++ ' ' :: shown.name ++ (shown.key.map fun word => ' ' :: word.toList).getD []
  | .closing => "    \x7d".toList
  | .arrow drawn =>
    "    ".toList ++ drawn.source ++ ' ' :: drawn.connector ++ ' ' :: drawn.target ++ " : \"".toList ++
      drawn.label ++ ['"']

/-- What a reader asks of a line, and a label without line breaks. -/
def Line.Sound : Line → Prop
  | .title | .closing => True
  | .opening name => isName name = true
  | .property shown =>
    isType shown.type = true ∧ isName shown.name = true ∧ ∀ word ∈ shown.key, word ∈ keys.map Prod.snd
  | .arrow drawn =>
    isName drawn.source = true ∧ isName drawn.target = true ∧ String.ofList drawn.connector ∈ connectors.map Prod.snd ∧
      '"' ∉ drawn.label ∧ Text.IsLine drawn.label

variable {line : Line}

theorem readLine?_text (sound : line.Sound) : readLine? line.text = some line := by
  cases line with
  | title => exact readLine?_title
  | opening name => exact readLine?_opening sound
  | property property => exact readLine?_property property.key sound.1 sound.2.1 sound.2.2
  | closing => exact readLine?_closing
  | arrow arrow => exact readLine?_arrow sound.1 sound.2.1 sound.2.2.1 sound.2.2.2.1

theorem isLine_of_isType {word : Text} (typed : isType word = true) : Text.IsLine word := fun _ member blank =>
  absurd blank (Bool.eq_false_iff.mp (isBlank_of_isType typed member))

theorem isLine_of_isName {word : Text} (named : isName word = true) : Text.IsLine word :=
  isLine_of_isType (isType_of_isName named)

theorem isLine_text (sound : line.Sound) : Text.IsLine line.text := by
  have blank : Text.IsLine [' '] := by decide
  cases line with
  | title => decide
  | opening name => exact (Text.IsLine.append (by decide) (isLine_of_isName sound)).append (by decide)
  | property property =>
    obtain ⟨typed, named, known⟩ := sound
    have words : ∀ word ∈ keys.map Prod.snd, Text.IsLine word.toList := by decide
    have key : Text.IsLine ((property.key.map fun word => ' ' :: word.toList).getD []) := by
      cases given : property.key with
      | none => exact List.forall_mem_nil _
      | some word => exact blank.append (words word (known word given))
    have indent : Text.IsLine "        ".toList := by decide
    exact ((indent.append (isLine_of_isType typed)).append (blank.append (isLine_of_isName named))).append key
  | closing => decide
  | arrow arrow =>
    obtain ⟨from_read, to_read, known, _, labelled⟩ := sound
    have words : ∀ word ∈ connectors.map Prod.snd, Text.IsLine word.toList := by decide
    have middle := words _ known
    rw [String.toList_ofList] at middle
    have indent : Text.IsLine "    ".toList := by decide
    have colon : Text.IsLine " : \"".toList := by decide
    have front := (indent.append (isLine_of_isName from_read)).append (blank.append middle)
    exact (((front.append (blank.append (isLine_of_isName to_read))).append colon).append labelled).append (by decide)

end Written

section Text

/-- Lines that hold no line break are found again. -/
theorem linesOf_flatMap {lines : List Text} (each : ∀ line ∈ lines, '\n' ∉ line) :
    linesOf (lines.flatMap (· ++ ['\n'])) = lines := by
  have split : Text.fields '\n' (lines.flatMap (· ++ ['\n'])) = lines ++ [[]] := by
    induction lines with
    | nil => rfl
    | cons line rest ih =>
      obtain ⟨here, there⟩ := List.forall_mem_cons.mp each
      rw [List.flatMap_cons, List.append_assoc, List.singleton_append, Name.fields_append here, ih there,
        List.cons_append]
  rw [linesOf, split, List.dropLast_concat]

theorem assemble?_arrows (arrows : List Arrow) : assemble? none (arrows.map .arrow) = some ⟨[], arrows⟩ := by
  cases arrows with
  | nil => rfl
  | cons arrow arrows =>
    have all : (arrows.map Line.arrow).mapM Line.arrow? = some arrows := by
      rw [List.mapM_map]
      exact (mapM_eq_pure arrows fun arrow _ => rfl).trans (congrArg some (List.map_id' arrows))
    rw [List.map_cons, assemble?, all, Option.map_some]

/-- The lines of a box. -/
def Box.lines (box : Box) : List Line := .opening box.name :: box.properties.map .property ++ [.closing]

theorem assemble?_properties (name : Text) (before properties : List Property) (rest : List Line) :
    assemble? (some ⟨name, before⟩) (properties.map .property ++ .closing :: rest) =
      (assemble? none rest).map (·.addBox ⟨name, before ++ properties⟩) := by
  induction properties generalizing before with
  | nil => rw [List.map_nil, List.nil_append, assemble?, List.append_nil]
  | cons property properties ih =>
    rw [List.map_cons, List.cons_append, assemble?, ih, List.append_assoc, List.singleton_append]

theorem assemble?_boxes (boxes : List Box) (arrows : List Arrow) :
    assemble? none (boxes.flatMap Box.lines ++ arrows.map .arrow) = some ⟨boxes, arrows⟩ := by
  induction boxes with
  | nil => exact assemble?_arrows arrows
  | cons box boxes ih =>
    rw [List.flatMap_cons, List.append_assoc, Box.lines, List.append_assoc, List.cons_append, assemble?,
      List.singleton_append, assemble?_properties, ih]
    rfl

def Drawing.lines (drawing : Drawing) : List Line :=
  .title :: (drawing.boxes.flatMap Box.lines ++ drawing.arrows.map .arrow)

/-- How a drawing is written. -/
def Drawing.text (drawing : Drawing) : Text := (drawing.lines.map Line.text).flatMap (· ++ ['\n'])

theorem linesOf_text {drawing : Drawing} (sound : ∀ line ∈ drawing.lines, line.Sound) :
    linesOf drawing.text = drawing.lines.map Line.text :=
  linesOf_flatMap <| List.forall_mem_map.mpr fun line member =>
    (isLine_text (sound line member)).not_mem (by decide) (by decide)

/-- Every sound drawing is read back from its text. -/
theorem read?_text {drawing : Drawing} (sound : ∀ line ∈ drawing.lines, line.Sound) :
    read? drawing.text = some drawing := by
  have all : (drawing.lines.map Line.text).mapM readLine? = some drawing.lines := by
    rw [List.mapM_map]
    exact (mapM_eq_pure _ fun line member => readLine?_text (sound line member)).trans
      (congrArg some (List.map_id' _))
  rw [read?, linesOf_text sound, all]
  exact assemble?_boxes drawing.boxes drawing.arrows

end Text

end SchemaAtlas.Mermaid
