import SchemaAtlas.Proofs.Printing.Inline
import SchemaAtlas.Proofs.Printing.RoundTrip
import SchemaAtlas.Proofs.Script.AlterationText
/-!
Where the constraints of a table are written. They may stand anywhere among its columns, or in a later
alteration, and a constraint on a single column may stand in the clause of the column as well.
-/
namespace SchemaAtlas
open Text Printing

namespace Draft
variable {draft : Draft} {columns keys spread : List Text}

/-- Constraint clauses are read after the columns, wherever they stand among them. -/
theorem readBody_spread {whole plain : Text} (plain_columns : ∀ clause ∈ columns, isConstraintClause clause = false)
    (constraints : ∀ clause ∈ keys, isConstraintClause clause = true) (spread_out : Interleaved columns keys spread)
    (whole_clauses : Script.clauses whole = spread) (plain_clauses : Script.clauses plain = columns)
    (readable : (draft.readBody plain).2 = none) : ∃ read, draft.readBody plain = (read, none) ∧
      draft.readBody whole = (keys.foldl readConstraint read, none) := by
  obtain ⟨column_part, key_part⟩ := spread_out.filter plain_columns constraints
  have own_columns : columns.filter (!isConstraintClause ·) = columns :=
    List.filter_eq_self.mpr fun clause member => by simp [plain_columns clause member]
  have own_keys : columns.filter isConstraintClause = [] :=
    List.filter_eq_nil_iff.mpr fun clause member => by simp [plain_columns clause member]
  unfold readBody at readable ⊢
  simp only [plain_clauses, whole_clauses, own_columns, own_keys, column_part, key_part] at readable ⊢
  cases reading : draft.readColumns columns with
  | mk read failure =>
    rw [reading] at readable
    cases failure with
    | some error => cases readable
    | none => exact ⟨read, rfl, rfl⟩

end Draft

namespace Schema
variable {schema : Schema} {name whole plain together alone : Text} {columns keys spread : List Text}

theorem readTable_of_fresh {statement body : Text} {name : String} {draft : Draft}
    (read : TableStatement.read statement = .definition name body) (fresh : schema.table? name = none)
    (built : (Draft.ofTable (.empty name)).readBody body = (draft, none)) :
    schema.readTable statement = (schema.addIssues draft).putTable draft.table := by
  have unknown : schema.tables.has name = false := by
    rw [← Bool.not_eq_true, Roster.has_iff]
    exact Roster.find?_eq_none_iff.mp fresh
  unfold readTable
  rw [read]
  simp only [unknown, built]
  rfl

/-- Constraint clauses that are added to a table right after it was put might as well have been read with it. -/
theorem applyAlteration_putTable (draft : Draft)
    (constraints : ∀ clause ∈ keys, Draft.isConstraintClause clause = true) :
    let read := keys.foldl Draft.readConstraint draft
    ((schema.addIssues draft).putTable draft.table).applyAlteration ⟨draft.table.name, keys⟩ =
      (schema.addIssues read).putTable read.table := by
  intro read
  have found : ((schema.addIssues draft).putTable draft.table).table? draft.table.name = some draft.table := by
    refine (Roster.find?_put _ _ _).trans ?_
    exact if_pos rfl
  have named : Named.name draft.table = Named.name read.table := by
    change draft.table.name = (keys.foldl Draft.readConstraint draft).table.name
    rw [Draft.foldl_readConstraint_table]
    exact (Table.foldl_amend_amended keys draft.table).name_eq.symm
  have whole : read = _ := Draft.foldl_readConstraint_eq keys draft
  unfold applyAlteration
  simp only [found, List.filter_eq_self.mpr constraints]
  rw [whole] at named ⊢
  simp only [addIssues, addErrors, addWarnings, putTable, List.append_assoc, Roster.put_put _ named]

/-- Constraint clauses of a body or of an alteration after it, which is all one. -/
theorem readTable_spread (word : IsWord name) (fresh : schema.table? (String.ofList name) = none)
    (plain_columns : ∀ clause ∈ columns, Draft.isConstraintClause clause = false) (filled : keys ≠ [])
    (carries : ∀ clause ∈ keys, Alteration.Carries clause) (spread_out : Interleaved columns keys spread)
    (whole_clauses : Script.clauses whole = spread) (plain_clauses : Script.clauses plain = columns)
    (read_together : TableStatement.read together = .definition (String.ofList name) whole)
    (read_alone : TableStatement.read alone = .definition (String.ofList name) plain)
    (readable : ((Draft.ofTable (.empty (String.ofList name))).readBody plain).2 = none) :
    schema.readTable together = (schema.readTable alone).readAlteration (Alteration.text name keys) := by
  have constraints : ∀ clause ∈ keys, Draft.isConstraintClause clause = true :=
    fun clause member => (carries clause member).constraint
  obtain ⟨draft, built_alone, built_together⟩ :=
    Draft.readBody_spread plain_columns constraints spread_out whole_clauses plain_clauses readable
  have named : draft.table.name = String.ofList name := by
    have origin := Draft.readBody_table (String.ofList name) plain readable
    rw [built_alone] at origin
    exact (congrArg Table.name origin).trans (tableOfBody_name (String.ofList name) plain)
  rw [readTable_of_fresh read_together fresh built_together, readTable_of_fresh read_alone fresh built_alone]
  unfold readAlteration
  rw [Alteration.read?_text word filled carries]
  dsimp only
  rw [← named, applyAlteration_putTable draft constraints]

/-- A body with constraint clauses among the columns, and one with the columns alone. -/
structure Scattered (columns keys : List Text) (whole plain : Text) : Prop where
  about : ∀ clause ∈ columns, clause ≠ [] ∧ Draft.isConstraintClause clause = false
  filled : keys ≠ []
  carries : ∀ clause ∈ keys, Alteration.Carries clause
  whole : ∃ spread, Interleaved columns keys spread ∧ Script.Lists whole spread
  plain : Script.Lists plain columns

theorem Scattered.clauses_plain (scattered : Scattered columns keys whole plain) : Script.clauses plain = columns := by
  apply scattered.plain.clauses_eq
  cases columns with
  | nil => exact Or.inl rfl
  | cons clause columns =>
    exact Or.inr ⟨clause, List.mem_cons_self, (scattered.about clause List.mem_cons_self).1⟩

theorem Scattered.clauses_whole (scattered : Scattered columns keys whole plain) :
    ∃ spread, Interleaved columns keys spread ∧ Script.clauses whole = spread := by
  obtain ⟨spread, both, lists⟩ := scattered.whole
  obtain ⟨_, key_part⟩ := both.filter (fun clause member => (scattered.about clause member).2)
    fun clause member => (scattered.carries clause member).constraint
  obtain ⟨key, others, same⟩ := List.exists_cons_of_ne_nil scattered.filled
  have member : key ∈ keys := same ▸ List.mem_cons_self
  refine ⟨spread, both, lists.clauses_eq (Or.inr ⟨key, ?_, (scattered.carries key member).filled⟩)⟩
  rw [← key_part] at member
  exact (List.mem_filter.mp member).1

/-- Constraints mean the same wherever they are written. Among the columns of the body they come to the same
schema as in an alteration behind it, and in a column to the same columns, relationships and issues as in
front of the other constraint clauses, whatever is read afterwards. -/
theorem constraints_mean_alike (schema : Schema) :
    (∀ {name : Text} {columns keys : List Text} {whole plain together alone : Text}, IsWord name →
      schema.table? (String.ofList name) = none → Scattered columns keys whole plain →
      TableStatement.read together = .definition (String.ofList name) whole →
      TableStatement.read alone = .definition (String.ofList name) plain →
      ((Draft.ofTable (.empty (String.ofList name))).readBody plain).2 = none →
      schema.readTable together = (schema.readTable alone).readAlteration (Alteration.text name keys)) ∧
    ∀ {rule : Rule} {column : Identifier} {inline : InlineRule rule column} (placement : inline.Placement)
      {name : String} {whole other together apart : Text},
      Script.Lists whole placement.within → Script.Lists other placement.apart →
      TableStatement.read together = .definition name whole → TableStatement.read apart = .definition name other →
      ∀ later alterations script,
        Alike ((((schema.readTable together).readTables later).readAlterations alterations).readIndexes
            script).drawRelationships.validated
          ((((schema.readTable apart).readTables later).readAlterations alterations).readIndexes
            script).drawRelationships.validated := by
  constructor
  · intro name columns keys whole plain together alone word fresh scattered read_together read_alone readable
    obtain ⟨spread, both, whole_clauses⟩ := scattered.clauses_whole
    exact readTable_spread word fresh (fun clause member => (scattered.about clause member).2) scattered.filled
      scattered.carries both whole_clauses scattered.clauses_plain read_together read_alone readable
  · intro rule column inline placement name whole other together apart lists other_lists read_together read_apart
      later alterations script
    have whole_clauses := lists.clauses_eq (Or.inr placement.within_filled)
    have other_clauses := other_lists.clauses_eq (Or.inr placement.apart_filled)
    have same : (schema.readTable together).Alike (schema.readTable apart) :=
      (Alike.refl schema).readTable_of_agree read_together read_apart
        (InlineRule.Placement.readBody_agree whole_clauses other_clauses name)
    exact ((((same.readTables later).readAlterations alterations).readIndexes script).drawRelationships).validated

section Orders

def item : Identifier := .ofString "item" (by decide)

def itemRule : Rule := .references (.ofString "items" (by decide)) (.ofString "code" (by decide))

/-- The clause `item varchar(10) REFERENCES items(code) NOT NULL`. -/
def itemClause : InlineRule itemRule item where
  head := {
    name := "item".toList, spelled := .plain (by decide), gap := [' '], filled := by decide, blank := isBlank_space
    type := "varchar".toList, word := by decide
    arguments := some { gap := [], blank := by simp, inner := "10".toList, flat := by simp } }
  named := by decide +kernel
  written := " REFERENCES items(code)".toList
  spelled := spelled_keyword.mpr ⟨"REFERENCES".toList, _, by decide, spelled_name.mpr ⟨_, spelled_group.mpr
    ⟨_, rfl, rfl⟩, rfl⟩, by decide⟩
  gap := []
  blank := by simp
  rest := " NOT NULL".toList
  precedes := fun bare => by cases bare
  stop := rfl

def itemPlacement : itemClause.Placement where
  front := ["buyer int".toList]
  back := ["UNIQUE (buyer)".toList]
  early := ["buyer int".toList, "item varchar(10) NOT NULL".toList]
  late := ["UNIQUE (buyer)".toList]
  key := canonical (itemRule.clause item).lexemes
  printed := prints_canonical (itemRule.clause item).allSound rfl
  about := by decide +kernel
  first := by decide +kernel
  leading := by decide +kernel
  same := by decide +kernel

/-- A reference in a column, and a key and a check among the columns. -/
theorem constraints_mean_alike_in_orders :
    let table := "CREATE TABLE orders (buyer int,item varchar(10) NOT NULL)".toList
    let within := ("CREATE TABLE orders (buyer int,item varchar(10) REFERENCES items(code) NOT NULL," ++
      "UNIQUE (buyer))").toList
    let apart := ("CREATE TABLE orders (buyer int,item varchar(10) NOT NULL," ++
      "FOREIGN KEY (item) REFERENCES items (code),UNIQUE (buyer))").toList
    let spread := ("CREATE TABLE orders (PRIMARY KEY (item),buyer int," ++
      "CHECK (buyer > 0),item varchar(10) NOT NULL)").toList
    let items := "CREATE TABLE items (code varchar(10) PRIMARY KEY)".toList
    empty.readTable spread = (empty.readTable table).readAlteration
        "ALTER TABLE orders ADD PRIMARY KEY (item), ADD CHECK (buyer > 0)".toList ∧
      Alike ((((empty.readTable within).readTables [items]).readAlterations []).readIndexes
          []).drawRelationships.validated
        ((((empty.readTable apart).readTables [items]).readAlterations []).readIndexes
          []).drawRelationships.validated := by
  intro table within apart spread items
  constructor
  · let buyer := "buyer int".toList
    let item := "item varchar(10) NOT NULL".toList
    let primary := "PRIMARY KEY (item)".toList
    let check := "CHECK (buyer > 0)".toList
    have scattered : Scattered [buyer, item] [primary, check] ([','].intercalate [primary, buyer, check, item])
        ([','].intercalate [buyer, item]) := {
      about := by decide +kernel
      filled := List.cons_ne_nil _ _
      carries := by
        intro clause member
        rcases List.mem_pair.mp member with rfl | rfl
        · exact ⟨by decide +kernel, by decide +kernel, by decide +kernel⟩
        · exact ⟨by decide +kernel, by decide +kernel, by decide +kernel⟩
      whole := ⟨_, .right _ (.left _ (.right _ (.left _ .nil))), Script.lists_join (by decide +kernel)⟩
      plain := Script.lists_join (by decide +kernel) }
    have word : IsWord "orders".toList := by decide
    have read_spread : TableStatement.read spread =
        .definition (String.ofList "orders".toList) ([','].intercalate [primary, buyer, check, item]) := by
      decide +kernel
    have read_table : TableStatement.read table =
        .definition (String.ofList "orders".toList) ([','].intercalate [buyer, item]) := by decide +kernel
    have alteration : Alteration.text "orders".toList [primary, check] =
        "ALTER TABLE orders ADD PRIMARY KEY (item), ADD CHECK (buyer > 0)".toList := by decide +kernel
    rw [← alteration]
    exact (constraints_mean_alike empty).1 word rfl scattered read_spread read_table (by decide +kernel)
  · have read_within : TableStatement.read within =
        .definition "orders" ([','].intercalate itemPlacement.within) := by decide +kernel
    have read_apart : TableStatement.read apart =
        .definition "orders" ([','].intercalate itemPlacement.apart) := by decide +kernel
    exact (constraints_mean_alike empty).2 itemPlacement (Script.lists_join (by decide +kernel))
      (Script.lists_join (by decide +kernel)) read_within read_apart [items] [] []

end Orders
end Schema
end SchemaAtlas
