import SchemaAtlas.Proofs.Printing.Statement
/-!
Reading undoes printing. The tables of a printed script are read one after the other, and neither an
alteration nor an index is found in it. Every description can be printed, for example in capitals.
-/
namespace SchemaAtlas
open Text Pattern Phrase

namespace Schema
variable {schema : Schema}

theorem readAlterations_of_none {statements : List Text}
    (none_read : ∀ statement ∈ statements, Alteration.read? statement = none) :
    schema.readAlterations statements = schema := by
  unfold readAlterations
  induction statements with
  | nil => rfl
  | cons statement rest ih =>
    have here : schema.readAlteration statement = schema := by
      unfold readAlteration
      rw [none_read statement List.mem_cons_self]
    rw [List.foldl_cons, here, ih fun other member => none_read other (List.mem_cons_of_mem _ member)]

theorem readIndexes_of_words {script : Text} (clear : ∀ word ∈ Text.words script, ¬Keyed "INDEX" word) :
    schema.readIndexes script = schema := by
  unfold readIndexes Index.readAll
  rw [findAll_eq_nil (find?_createIndex clear)]
  rfl

end Schema

namespace Printing

section Read
variable {schema : Schema}

theorem readTable_printed {table : TableDescription} {text : Text} (printed : table.Prints text)
    (fresh : table.name.name ∉ schema.tables.names) :
    (schema.readTable text).tables.entries = schema.tables.entries ++ [table.table] := by
  obtain ⟨columns, clauses, columns_printed, clauses_printed, statement⟩ :=
    TableDescription.read_statement printed
  obtain ⟨read, body, made⟩ := TableDescription.readBody_printed columns_printed clauses_printed
  have free : schema.tables.has table.name.name = false := by
    rw [← Bool.not_eq_true, Roster.has_iff]
    exact fresh
  unfold Schema.readTable
  simp only [statement, free, Bool.false_eq_true, ↓reduceIte, body, made]
  exact Roster.entries_put_of_fresh fresh

theorem readTables_printed {tables : List TableDescription} {texts : List Text}
    (printed : List.Forall₂ TableDescription.Prints tables texts)
    (fresh : (schema.tables.names ++ tables.map (·.name.name)).Nodup) :
    (schema.readTables texts).tables.entries =
      schema.tables.entries ++ tables.map TableDescription.table := by
  unfold Schema.readTables
  -- The tables that are read before have other names, so each definition counts.
  induction printed generalizing schema with
  | nil => exact (List.append_nil _).symm
  | @cons table text tables texts first _ ih =>
    have absent : table.name.name ∉ schema.tables.names := by
      intro member
      exact (List.nodup_append.mp fresh).2.2 _ member _ List.mem_cons_self rfl
    have entries := readTable_printed first absent
    have names : (schema.readTable text).tables.names = schema.tables.names ++ [table.name.name] := by
      unfold Roster.names
      rw [entries, List.map_append]
      rfl
    rw [List.foldl_cons, ih (by rw [names, List.append_assoc]; exact fresh), entries, List.append_assoc]
    rfl

end Read

section Canonical

/-- The lexeme with its keyword in capitals. -/
def Lexeme.text : Lexeme → Text
  | keyword word => ' ' :: word.toList
  | name word => ' ' :: word
  | group spaced inner => (if spaced then [' '] else []) ++ '(' :: (inner ++ [')'])

def canonical (lexemes : List Lexeme) : Text := (lexemes.flatMap Lexeme.text).tail

theorem spells_self {keyword : String} (key : IsKeyword keyword) : Spells keyword keyword.toList := by
  have upper : ∀ c ∈ keyword.toList, c.toUpper = c := by
    intro c member
    exact ascii_induction (fun c => c.isUpper = true → c.toUpper = c) (by decide)
      (ascii_of_isUpper (key.2 c member)) (key.2 c member)
  exact (List.map_congr_left upper).trans (List.map_id _)

theorem spelled_text {lexemes : List Lexeme} (sound : AllSound lexemes) :
    Spelled lexemes (lexemes.flatMap Lexeme.text) := by
  induction lexemes with
  | nil => rfl
  | cons lexeme rest ih =>
    obtain ⟨here, later⟩ := allSound_cons.mp sound
    refine ⟨lexeme.text, _, ?_, ih later, List.flatMap_cons⟩
    cases lexeme with
    | keyword keyword => exact ⟨_, spells_self here, rfl⟩
    | name word => rfl
    | group spaced inner => rfl

theorem prints_canonical {lexemes : List Lexeme} (sound : AllSound lexemes)
    (starts : lexemes.head?.any (!·.isGroup) = true) : Prints lexemes (canonical lexemes) := by
  have spelled := spelled_text sound
  have lead : ' ' :: canonical lexemes = lexemes.flatMap Lexeme.text := by
    rcases lexemes with _ | ⟨_ | _ | _, rest⟩
    · cases starts
    · rfl
    · rfl
    · cases starts
  rwa [← lead] at spelled

namespace TableDescription

def canonicalPieces (table : TableDescription) : List Text :=
  table.columns.map (Printing.canonical ·.lexemes) ++ table.clauses.map (Printing.canonical ·.lexemes)

def canonical (table : TableDescription) : Text :=
  Printing.canonical [.keyword "CREATE", .keyword "TABLE", .name table.name.text,
    .group true ([',', ' '].intercalate table.canonicalPieces)]

theorem prints_canonical (table : TableDescription) : table.Prints table.canonical := by
  have columns : List.Forall₂ (fun column => Printing.Prints column.lexemes) table.columns
      (table.columns.map (Printing.canonical ·.lexemes)) := by
    apply List.forall₂_map_right_iff.mpr
    exact List.forall₂_same.mpr fun column _ => Printing.prints_canonical column.allSound_lexemes rfl
  have clauses : List.Forall₂ (fun clause => Printing.Prints clause.lexemes) table.clauses
      (table.clauses.map (Printing.canonical ·.lexemes)) := by
    apply List.forall₂_map_right_iff.mpr
    refine List.forall₂_same.mpr fun clause _ => Printing.prints_canonical clause.allSound ?_
    unfold ClauseDescription.lexemes ClauseDescription.declarationLexemes
    cases clause.declared with
    | none => cases clause.body <;> rfl
    | some name => rfl
  refine ⟨_, _, columns, clauses, Printing.prints_canonical ?_ rfl⟩
  exact sound_statement columns clauses

end TableDescription

/-- Every list of descriptions is printed in some way. -/
theorem printsAll_canonical (tables : List TableDescription) :
    PrintsAll tables ([';'].intercalate (tables.map TableDescription.canonical)) := by
  refine ⟨_, ?_, rfl⟩
  apply List.forall₂_map_right_iff.mpr
  exact List.forall₂_same.mpr fun table _ => table.prints_canonical

end Canonical

section RoundTrip
variable {tables : List TableDescription} {text : Text}

/-- A printed script is read as the tables that it describes, in their order. -/
theorem read_printed (distinct : (tables.map (·.name.name)).Nodup) (printed : PrintsAll tables text) :
    (Script.read (String.ofList text)).tables.entries = tables.map TableDescription.table := by
  obtain ⟨texts, each, rfl⟩ := printed
  have statement : ∀ text ∈ texts, ∃ table : TableDescription, table.Prints text := by
    intro text member
    obtain ⟨table, _, printed⟩ := forall₂_mem_right each member
    exact ⟨table, printed⟩
  have layout : ∀ text ∈ texts, Tidy text ∧ text.head?.any isBlank = false ∧ Script.Nested true text ∧
      text ≠ [] ∧ Text.trim text = text := by
    intro text member
    obtain ⟨table, printed⟩ := statement text member
    exact TableDescription.layout_statement printed
  -- Normalising and splitting give back the printed statements, and only the tables among them count.
  have tidy : Tidy ([';'].intercalate texts) := tidy_semicolons fun text member => (layout text member).1
  have start : ([';'].intercalate texts).head?.any isBlank = false := by
    apply start_semicolons
    intro text member
    obtain ⟨_, start, _, filled, _⟩ := layout text member
    exact ⟨filled, start⟩
  have statements : Script.statements ([';'].intercalate texts) = texts := by
    apply Script.statements_join
    intro text member
    obtain ⟨_, _, layout⟩ := layout text member
    exact layout
  have clear : ∀ word ∈ Text.words ([';'].intercalate texts), ¬Keyed "INDEX" word := by
    rw [words_semicolons]
    intro word member
    obtain ⟨text, among, inside⟩ := List.mem_flatMap.mp member
    obtain ⟨table, printed⟩ := statement text among
    exact TableDescription.words_statement printed word inside
  have unaltered : ∀ text ∈ texts, Alteration.read? text = none := by
    intro text member
    obtain ⟨table, printed⟩ := statement text member
    exact TableDescription.alteration_statement printed
  rw [Script.read_eq, String.toList_ofList, Script.normalized_of_tidy tidy start]
  unfold Script.readParts
  rw [statements, Schema.readAlterations_of_none unaltered, Schema.readIndexes_of_words clear]
  exact readTables_printed each distinct

end RoundTrip

section Pair

def Identifier.ofString (name : String)
    (checked : IsBare name.toList ∧ ∀ keyword ∈ keywords, ¬Spells keyword name.toList) : Identifier :=
  ⟨name.toList, checked.1, checked.2⟩

def users : TableDescription where
  name := .ofString "users" (by decide)
  columns := [{
    name := .ofString "id" (by decide), type := .ofString "int" (by decide), arguments := none
    notNull := false, primaryKey := true, unique := false
    identity := some (⟨1, by decide⟩, ⟨-1, by decide⟩), references := none }]
  clauses := []
  distinct := by decide
  own := by decide

def orders : TableDescription where
  name := .ofString "orders" (by decide)
  columns := [{
    name := .ofString "buyer" (by decide), type := .ofString "int" (by decide), arguments := none
    notNull := true, primaryKey := false, unique := false, identity := none, references := none }, {
    name := .ofString "price" (by decide), type := .ofString "decimal" (by decide)
    arguments := some (⟨10, by decide⟩, some ⟨2, by decide⟩)
    notNull := false, primaryKey := false, unique := false, identity := none, references := none }]
  clauses := [{
    declared := none
    body := .foreignKey [(.ofString "buyer" (by decide), .ofString "id" (by decide))] users.name
      (some .cascade) none
    filled := by decide }]
  distinct := by decide
  own := by decide

def pairScript : String :=
  "CREATE TABLE users (id int PRIMARY KEY IDENTITY(1,-1));CREATE TABLE orders (buyer int NOT NULL, " ++
    "price decimal(10,2), FOREIGN KEY (buyer) REFERENCES users (id) ON DELETE CASCADE)"

/-- Two tables, one with a link to the other. -/
theorem read_printed_pair : ([users, orders].map (·.name.name)).Nodup ∧
    (Script.read pairScript).tables.entries = [users, orders].map TableDescription.table := by
  have distinct : ([users, orders].map (·.name.name)).Nodup := by decide
  have script : String.ofList ([';'].intercalate ([users, orders].map TableDescription.canonical)) =
      pairScript := by decide +kernel
  rw [← script]
  exact ⟨distinct, read_printed distinct (printsAll_canonical _)⟩

end Pair

end Printing
end SchemaAtlas
