import Mathlib.Data.List.Forall2
import Mathlib.Data.List.Nodup
import SchemaAtlas.Diagram.Basic
import SchemaAtlas.Proofs.Schema.ForeignKeys
/-!
What a diagram keeps of its schema. Each table is an entity with the columns of the table in the order of their ranks,
and as the key of a column follows from its rank, equal keys stand together. In the diagram of a script, each link leads
from a key attribute of an entity to an attribute of an entity.
-/
namespace SchemaAtlas

section Ranking
variable {α β : Type}

/-- The items in the order of their ranks, where items of one rank keep the order that they had. -/
structure Ranked (rank : α → Nat) (items ranked : List α) : Prop where
  permuted : ranked.Perm items
  sorted : ranked.Pairwise fun first second => rank first ≤ rank second
  ties : ∀ place, ranked.filter (rank · == place) = items.filter (rank · == place)

section Sorting
variable (rank : α → Nat)

theorem rank_trans (first second third : α) (front : decide (rank first ≤ rank second) = true)
    (back : decide (rank second ≤ rank third) = true) : decide (rank first ≤ rank third) = true :=
  decide_eq_true (Nat.le_trans (of_decide_eq_true front) (of_decide_eq_true back))

theorem rank_total (first second : α) :
    (decide (rank first ≤ rank second) || decide (rank second ≤ rank first)) = true := by
  simpa using Nat.le_total (rank first) (rank second)

-- The items of one rank are a sorted part of the list, and sorting keeps such a part in its order.
theorem filter_mergeSort_rank (items : List α) (place : Nat) :
    (items.mergeSort fun first second => rank first ≤ rank second).filter (rank · == place) =
      items.filter (rank · == place) := by
  have level : (items.filter (rank · == place)).Pairwise fun first second =>
      decide (rank first ≤ rank second) = true := by
    refine List.pairwise_of_forall_mem_list fun first here second there => ?_
    have first_rank : rank first = place := beq_iff_eq.mp (List.mem_filter.mp here).2
    have second_rank : rank second = place := beq_iff_eq.mp (List.mem_filter.mp there).2
    rw [first_rank, second_rank]
    exact decide_eq_true (Nat.le_refl place)
  have part := (List.sublist_mergeSort (rank_trans rank) (rank_total rank) level List.filter_sublist).filter
    (rank · == place)
  simp only [List.filter_filter, Bool.and_self] at part
  have whole := ((List.mergeSort_perm items fun first second => rank first ≤ rank second).filter
    (rank · == place)).length_eq
  exact (part.eq_of_length whole.symm).symm

theorem ranked_mergeSort (items : List α) :
    Ranked rank items (items.mergeSort fun first second => rank first ≤ rank second) where
  permuted := List.mergeSort_perm items _
  sorted := (List.pairwise_mergeSort (rank_trans rank) (rank_total rank) items).imp of_decide_eq_true
  ties := filter_mergeSort_rank rank items

end Sorting

theorem flatMap_filter_cons_of_notMem [DecidableEq β] {label : α → β} {labels : List β} {item : α}
    (missing : label item ∉ labels) (rest : List α) :
    (labels.flatMap fun place => (item :: rest).filter (label · == place)) =
      labels.flatMap fun place => rest.filter (label · == place) := by
  refine List.flatMap_congr fun place inside => List.filter_cons_of_neg fun same => missing ?_
  rwa [beq_iff_eq.mp same]

/-- Items that are sorted by the places of their labels in a list stand in one block for each label. -/
theorem flatMap_filter_of_sorted [DecidableEq β] {label : α → β} {labels : List β} (distinct : labels.Nodup)
    {items : List α} (listed : ∀ item ∈ items, label item ∈ labels)
    (sorted : items.Pairwise fun first second => labels.idxOf (label first) ≤ labels.idxOf (label second)) :
    (labels.flatMap fun place => items.filter (label · == place)) = items := by
  induction items with
  | nil => simp
  | cons item rest ih =>
    obtain ⟨here, later⟩ := List.forall_mem_cons.mp listed
    obtain ⟨first, others⟩ := List.pairwise_cons.mp sorted
    have blocks := ih later others
    obtain ⟨front, back, split⟩ := List.append_of_mem here
    rw [split] at distinct first blocks ⊢
    obtain ⟨_, apart, foreign⟩ := List.nodup_append'.mp distinct
    have not_front : label item ∉ front := fun inside => foreign inside List.mem_cons_self
    have not_back : label item ∉ back := (List.nodup_cons.mp apart).1
    -- Nothing that follows the item has a label that stands before that of the item.
    have absent : ∀ place ∈ front, rest.filter (label · == place) = [] := by
      refine fun place inside => List.filter_eq_nil_iff.mpr fun other member same => ?_
      have position := first other member
      rw [beq_iff_eq.mp same, List.idxOf_append_of_notMem not_front, List.idxOf_append_of_mem inside,
        List.idxOf_cons_self] at position
      exact absurd (List.idxOf_lt_length_of_mem inside) (by omega)
    have own : (item :: rest).filter (label · == label item) = item :: rest.filter (label · == label item) :=
      List.filter_cons_of_pos (beq_self_eq_true (label item))
    rw [List.flatMap_append, List.flatMap_cons, List.flatMap_eq_nil_iff.mpr absent, List.nil_append] at blocks
    rw [List.flatMap_append, List.flatMap_cons, flatMap_filter_cons_of_notMem not_front,
      flatMap_filter_cons_of_notMem not_back, own, List.flatMap_eq_nil_iff.mpr absent, List.nil_append,
      List.cons_append, blocks]

end Ranking

/-- The keys of attributes, in the order in which they stand in an entity. -/
def Attribute.keys : List String := ["PK", "FK", "UQ", ""]

/-- Two functions read off the flags of a column where it stands and which key it has; this is what they agree on. -/
theorem Column.idxOf_keyLabel (column : Column) : Attribute.keys.idxOf column.keyLabel = min (column.rank - 1) 3 := by
  unfold rank keyLabel
  split_ifs <;> rfl

-- Identity and mandatory columns have ranks of their own, although both go without a key.
example : ((Script.read "CREATE TABLE T (a int NOT NULL, b int, c int IDENTITY)").tables.entries.flatMap fun table =>
    table.columns.entries.map fun column => (column.name, column.rank, column.keyLabel)) =
      [("a", 5, ""), ("b", 6, ""), ("c", 4, "")] := by
  decide +kernel

structure Attribute.Shows (column : Column) (shown : Attribute) : Prop where
  name : shown.name = column.name
  type : shown.type = column.type.display
  isNullable : shown.isNullable = column.isNullable
  key : shown.key = column.keyLabel

/-- An entity has all columns of its table by their ranks, which leaves one block of attributes for each key. -/
structure Entity.Shows (table : Table) (entity : Entity) : Prop where
  name : entity.name = table.name
  attributes : ∃ ranked, Ranked Column.rank table.columns.entries ranked ∧
    List.Forall₂ Attribute.Shows ranked entity.attributes
  blocks : (Attribute.keys.flatMap fun key => entity.attributes.filter (·.key == key)) = entity.attributes

structure EntityLink.Shows (relationship : Relationship) (link : EntityLink) : Prop where
  source : link.source = relationship.table
  target : link.target = relationship.target.table
  kind : link.kind = relationship.cardinality.label
  label : link.label = relationship.column ++ " → " ++ relationship.target.column

/-- A link from an entity of the diagram to another one, whose label joins the names of an attribute of each: those of
the columns that the relationship is about. -/
structure Diagram.Joins (diagram : Diagram) (relationship : Relationship) (link : EntityLink) : Prop where
  ends : ∃ source ∈ diagram.entities, ∃ target ∈ diagram.entities,
    ∃ first ∈ source.attributes, ∃ second ∈ target.attributes,
      link.source = source.name ∧ link.target = target.name ∧
        first.name = relationship.column ∧ second.name = relationship.target.column ∧
        link.label = first.name ++ " → " ++ second.name ∧ first.key ∈ ["PK", "FK"]
  known : link.kind ∈ ["ONE_TO_ONE", "MANY_TO_ONE", "MANY_TO_MANY"]

namespace Table

theorem blocks_toEntity (table : Table) :
    (Attribute.keys.flatMap fun key => table.toEntity.attributes.filter (·.key == key)) =
      table.toEntity.attributes := by
  have ranked := ranked_mergeSort Column.rank table.columns.entries
  refine flatMap_filter_of_sorted (by decide) ?_ ?_
  · refine List.forall_mem_map.mpr fun column _ => List.idxOf_lt_length_iff.mp ?_
    change Attribute.keys.idxOf column.keyLabel < 4
    rw [column.idxOf_keyLabel]
    omega
  · refine List.pairwise_map.mpr (ranked.sorted.imp fun {first second} before => ?_)
    change Attribute.keys.idxOf first.keyLabel ≤ Attribute.keys.idxOf second.keyLabel
    rw [first.idxOf_keyLabel, second.idxOf_keyLabel]
    omega

theorem shows_toEntity (table : Table) : table.toEntity.Shows table where
  name := rfl
  attributes := ⟨table.rankedColumns, ranked_mergeSort Column.rank table.columns.entries,
    List.forall₂_map_right_iff.mpr (List.forall₂_same.mpr fun _ _ => ⟨rfl, rfl, rfl, rfl⟩)⟩
  blocks := table.blocks_toEntity

theorem mem_attributes_toEntity {table : Table} {column : Column} (declared : column ∈ table.columns.entries) :
    column.toAttribute ∈ table.toEntity.attributes :=
  List.mem_map_of_mem (List.mem_mergeSort.mpr declared)

end Table

namespace Diagram

section Schema
variable {schema : Schema}

theorem mem_entities {table : Table} (known : table ∈ schema.tables.entries) :
    table.toEntity ∈ (ofSchema schema).entities := List.mem_map_of_mem known

theorem forall₂_links {relates : Relationship → EntityLink → Prop}
    (each : ∀ relationship ∈ schema.relationships, relates relationship relationship.toLink) :
    List.Forall₂ relates schema.relationships (ofSchema schema).links :=
  List.forall₂_map_right_iff.mpr (List.forall₂_same.mpr each)

theorem shows_ofSchema (schema : Schema) :
    List.Forall₂ Entity.Shows schema.tables.entries (ofSchema schema).entities ∧
      List.Forall₂ EntityLink.Shows schema.relationships (ofSchema schema).links :=
  ⟨List.forall₂_map_right_iff.mpr (List.forall₂_same.mpr fun table _ => table.shows_toEntity),
    forall₂_links fun _ _ => ⟨rfl, rfl, rfl, rfl⟩⟩

end Schema

theorem label_of_ne_unknown {cardinality : Cardinality} (known : cardinality ≠ .unknown) :
    cardinality.label ∈ ["ONE_TO_ONE", "MANY_TO_ONE", "MANY_TO_MANY"] := by
  cases cardinality with
  | oneToOne | manyToOne | manyToMany => decide
  | unknown => exact absurd rfl known

theorem keyLabel_of_isForeignKey {column : Column} (foreign : column.isForeignKey = true) :
    column.keyLabel ∈ ["PK", "FK"] := by
  rw [Column.keyLabel, if_pos foreign]
  split <;> decide

theorem joins_of_mem {script : String} {relationship : Relationship}
    (drawn : relationship ∈ (Script.read script).relationships) :
    (ofSchema (Script.read script)).Joins relationship relationship.toLink := by
  obtain ⟨key, declared, draws⟩ := Script.draws_of_mem drawn
  obtain ⟨second, resolved, _⟩ := draws.ends
  obtain ⟨target, found, present⟩ := Option.bind_eq_some_iff.mp resolved
  have source_name := Roster.name_of_find? draws.source_table
  have first_name := Roster.name_of_find? draws.source_column
  have target_name := Roster.name_of_find? found
  have second_name := Roster.name_of_find? present
  -- A column that points somewhere is flagged as a foreign key, which only a primary key comes before.
  have coherent := Script.coherent_of_read draws.source_table
  have foreign := (coherent.columns key.2 declared).foreign_iff.mpr (by rw [draws.target]; rfl)
  refine ⟨⟨key.1.toEntity, mem_entities (Roster.mem_of_find? draws.source_table), target.toEntity,
    mem_entities (Roster.mem_of_find? found), key.2.toAttribute, Table.mem_attributes_toEntity declared,
    second.toAttribute, Table.mem_attributes_toEntity (Roster.mem_of_find? present), source_name.symm, target_name.symm,
    first_name, second_name, ?_, keyLabel_of_isForeignKey foreign⟩, label_of_ne_unknown draws.known⟩
  change _ = key.2.name ++ _ ++ second.name
  rw [Relationship.toLink, ← first_name, ← second_name]
  rfl

/-- A diagram shows the tables of its schema with their columns by rank, and the relationships, each in order; and the
links of a script's diagram join attributes of its entities, the first of which is a key. -/
theorem projection_faithful :
    (∀ schema, List.Forall₂ Entity.Shows schema.tables.entries (ofSchema schema).entities ∧
      List.Forall₂ EntityLink.Shows schema.relationships (ofSchema schema).links) ∧
    ∀ script, List.Forall₂ (ofSchema (Script.read script)).Joins (Script.read script).relationships
      (ofSchema (Script.read script)).links :=
  ⟨shows_ofSchema, fun _ => forall₂_links fun _ => joins_of_mem⟩

end Diagram
end SchemaAtlas
