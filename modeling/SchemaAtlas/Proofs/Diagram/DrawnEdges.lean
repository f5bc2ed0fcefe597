import Mathlib.Data.List.Count
import SchemaAtlas.Proofs.Diagram.DrawnNames
/-!
The edges of a drawing as DOT reads them. Node and edge statements write a name in two ways, so an edge may end at a port
of another node. If no column has a colon or an open end in its name and the brackets of labels match, DOT sees every
edge end at the nodes that it stands for.
-/
namespace SchemaAtlas

namespace Dot

/-- A node that is not divided into ports. -/
def Place.whole (node : Text) : Place := ⟨node, []⟩

end Dot

namespace Drawing

/-- Each column has its edge from its table, and each relationship its two edges at its diamond. -/
structure JoinsOnce (schema : Schema) (edges : List (Dot.Place × Dot.Place)) : Prop where
  columns : ∀ table ∈ schema.tables.entries, ∀ column ∈ table.columns.entries,
    edges.count (.whole table.name.toList,
      .whole (Dot.seen (attributeId table.toEntity column.toAttribute).toList)) = 1
  links : ∀ position relationship, schema.relationships[position]? = some relationship →
    edges.count (.whole relationship.table.toList, .whole (diamondId position).toList) = 1 ∧
      edges.count (.whole (diamondId position).toList, .whole relationship.target.table.toList) = 1

/-- What would join two nodes twice: columns that DOT sees as one, a table named like a diamond whose relationship leads
to an ellipse of that table, and two relationships that lead to the diamonds of each other. -/
structure Unshared (schema : Schema) : Prop where
  columns : ∀ table ∈ schema.tables.entries, ∀ first ∈ table.columns.entries, ∀ second ∈ table.columns.entries,
    Dot.seen first.name.toList = Dot.seen second.name.toList → first = second
  ellipses : ∀ table ∈ schema.tables.entries, ∀ column ∈ table.columns.entries, ∀ position relationship,
    schema.relationships[position]? = some relationship →
      ¬(table.name = diamondId position ∧
        relationship.target.table.toList = Dot.seen (attributeId table.toEntity column.toAttribute).toList)
  diamonds : ∀ here first, schema.relationships[here]? = some first →
    ∀ there second, schema.relationships[there]? = some second →
      ¬(first.table = diamondId there ∧ second.target.table = diamondId here)

/-- The two nodes that an edge joins. -/
def joint (edge : Text × Text) : Dot.Place × Dot.Place := (.whole edge.1, .whole edge.2)

theorem joint_injective : Function.Injective joint := fun _ _ same => by
  obtain ⟨tails, heads⟩ := Prod.mk.inj same
  exact Prod.ext (Dot.Place.mk.inj tails).1 (Dot.Place.mk.inj heads).1

/-- A sketch as a picture, in which no node has ports. -/
def picture (sketch : Sketch) : Dot.Picture := ⟨sketch.nodes, sketch.edges.map joint⟩

section Picture
variable {sketch : Sketch}

theorem ends_of_picture (linked : ∀ link ∈ sketch.links,
    link.1 ∈ sketch.boxes.map Sketch.Box.name ∧ link.2 ∈ sketch.boxes.map Sketch.Box.name) :
    ∀ edge ∈ (picture sketch).edges, ∀ place ∈ [edge.1, edge.2],
      place.ports = [] ∧ place.node ∈ (picture sketch).nodes := by
  refine List.forall_mem_map.mpr fun edge member => ?_
  obtain ⟨tail, head⟩ := Sketch.ends_of_mem_edges linked member
  exact List.forall_mem_cons.mpr ⟨⟨rfl, tail⟩, List.forall_mem_singleton.mpr ⟨rfl, head⟩⟩

theorem count_picture (edge : Text × Text) : (picture sketch).edges.count (joint edge) = sketch.edges.count edge :=
  List.count_map_of_injective _ joint joint_injective edge

end Picture

section Sketched
variable {spell : Text → Text} {schema : Schema}

theorem forall_spokes_iff (holds : Text → Text → Prop) :
    (∀ box ∈ (sketchOf spell schema).boxes, ∀ column ∈ box.columns, holds box.name column) ↔
      ∀ table ∈ schema.tables.entries, ∀ column ∈ table.columns.entries,
        holds (spell table.name.toList) (spell column.name.toList) := by
  simp only [sketchOf, List.forall_mem_map, forall_columns_iff]

theorem forall_links_iff (holds : (Text × Text) × Nat → Prop) :
    (∀ link ∈ (sketchOf spell schema).links.zipIdx, holds link) ↔
      ∀ position relationship, schema.relationships[position]? = some relationship →
        holds ((spell relationship.table.toList, spell relationship.target.table.toList), position) := by
  simp only [sketchOf, List.zipIdx_map, List.forall_mem_map, Prod.forall, List.mem_zipIdx_iff_getElem?]
  exact forall_comm

theorem nodup_columns_iff (table : Table) : (table.rankedColumns.map fun column => spell column.name.toList).Nodup ↔
    ∀ first ∈ table.columns.entries, ∀ second ∈ table.columns.entries,
      spell first.name.toList = spell second.name.toList → first = second := by
  have ranked := List.mergeSort_perm table.columns.entries fun left right => left.rank ≤ right.rank
  have declared : table.columns.entries.Nodup := table.columns.distinct.of_map
  exact (ranked.map _).nodup_iff.trans (List.nodup_map_iff_inj_on declared)

end Sketched

/-- Tables have identifiers for their names, and relationships lead from table to table. -/
structure Regular (schema : Schema) : Prop where
  named : ∀ table ∈ schema.tables.entries, Text.isIdentifier table.name.toList = true
  linked : ∀ relationship ∈ schema.relationships, ∃ source ∈ schema.tables.entries, ∃ target ∈ schema.tables.entries,
    relationship.table = source.name ∧ relationship.target.table = target.name

theorem regular_of_success {script : String} (success : (Script.read script).success = true) :
    Regular (Script.read script) where
  named := fun _ known => Script.isIdentifier_of_success success known
  linked := by
    intro relationship drawn
    obtain ⟨source, source_known, _, _, target, target_known, _, _, source_name, _, target_name, _⟩ :=
      Script.ends_of_mem drawn
    exact ⟨source, source_known, target, target_known, source_name, target_name⟩

section Seen
variable {table : Table}

theorem seen_name (named : Text.isIdentifier table.name.toList = true) :
    Dot.seen table.name.toList = table.name.toList :=
  Dot.seen_of_not_mem (Dot.not_mem_backslash (Or.inl named))

theorem seen_ellipse (named : Text.isIdentifier table.name.toList = true) (column : Text) :
    Dot.seen (Sketch.ellipse table.name.toList column) =
      Sketch.ellipse (Dot.seen table.name.toList) (Dot.seen column) := by
  have absent : '\\' ∉ table.name.toList ++ "__".toList := fun member => by
    rcases List.mem_append.mp member with here | between
    · exact Dot.not_mem_backslash (Or.inl named) here
    · exact absurd between (by decide)
  rw [seen_name named, Sketch.ellipse, Dot.seen_append absent]
  rfl

theorem seen_diamond (position : Nat) : Dot.seen (Sketch.diamond position) = Sketch.diamond position := by
  refine Dot.seen_of_not_mem fun member => ?_
  rw [← toList_diamondId] at member
  exact absurd ((isBare_diamondId position).2 _ member) (by decide)

theorem joint_spoke (named : Text.isIdentifier table.name.toList = true) (column : Column) :
    joint (Dot.seen table.name.toList, Sketch.ellipse (Dot.seen table.name.toList) (Dot.seen column.name.toList)) =
      (.whole table.name.toList, .whole (Dot.seen (attributeId table.toEntity column.toAttribute).toList)) := by
  rw [toList_attributeId, seen_ellipse named, seen_name named]
  rfl

variable {schema : Schema} (regular : Regular schema)
include regular

theorem seen_ends {relationship : Relationship} (drawn : relationship ∈ schema.relationships) :
    Dot.seen relationship.table.toList = relationship.table.toList ∧
      Dot.seen relationship.target.table.toList = relationship.target.table.toList := by
  obtain ⟨source, source_known, target, target_known, source_name, target_name⟩ := regular.linked relationship drawn
  rw [source_name, target_name]
  exact ⟨seen_name (regular.named source source_known), seen_name (regular.named target target_known)⟩

theorem joint_link {relationship : Relationship} (drawn : relationship ∈ schema.relationships) (position : Nat) :
    joint (Sketch.inward ((Dot.seen relationship.table.toList, Dot.seen relationship.target.table.toList),
        position)) = (.whole relationship.table.toList, .whole (diamondId position).toList) ∧
      joint (Sketch.outward ((Dot.seen relationship.table.toList, Dot.seen relationship.target.table.toList),
        position)) = (.whole (diamondId position).toList, .whole relationship.target.table.toList) := by
  obtain ⟨source, target⟩ := seen_ends regular drawn
  rw [source, target, toList_diamondId]
  exact ⟨rfl, rfl⟩

/-- What is declared and what is joined makes up the sketch of the schema. -/
theorem pictureOf_graph (name : String) : Dot.pictureOf (graph name (Diagram.ofSchema schema)).statements =
    picture (sketchOf Dot.seen schema) := by
  have ellipses : ∀ table ∈ schema.tables.entries, ∀ column ∈ table.columns.entries,
      Dot.seen (Sketch.ellipse table.name.toList column.name.toList) =
        Sketch.ellipse (Dot.seen table.name.toList) (Dot.seen column.name.toList) :=
    fun table known column _ => seen_ellipse (regular.named table known) column.name.toList
  rw [picture, ← nodes_graph ellipses seen_diamond name, ← edges_graph ellipses seen_diamond name, List.map_map]
  rfl

/-- The ends of a relationship are boxes. -/
theorem linked_sketchOf : ∀ link ∈ (sketchOf Dot.seen schema).links,
    link.1 ∈ (sketchOf Dot.seen schema).boxes.map Sketch.Box.name ∧
      link.2 ∈ (sketchOf Dot.seen schema).boxes.map Sketch.Box.name := by
  have boxes {table : Table} (known : table ∈ schema.tables.entries) :
      Dot.seen table.name.toList ∈ (sketchOf Dot.seen schema).boxes.map Sketch.Box.name := by
    rw [sketchOf, List.map_map]
    exact List.mem_map_of_mem known
  refine List.forall_mem_map.mpr fun relationship drawn => ?_
  obtain ⟨source, source_known, target, target_known, source_name, target_name⟩ := regular.linked relationship drawn
  rw [source_name, target_name]
  exact ⟨boxes source_known, boxes target_known⟩

theorem joinsOnce_iff_nodup :
    JoinsOnce schema (picture (sketchOf Dot.seen schema)).edges ↔ (sketchOf Dot.seen schema).edges.Nodup := by
  have spokes : (∀ box ∈ (sketchOf Dot.seen schema).boxes, ∀ column ∈ box.columns,
      (sketchOf Dot.seen schema).edges.count (box.name, Sketch.ellipse box.name column) = 1) ↔
      ∀ table ∈ schema.tables.entries, ∀ column ∈ table.columns.entries,
        (picture (sketchOf Dot.seen schema)).edges.count (.whole table.name.toList,
          .whole (Dot.seen (attributeId table.toEntity column.toAttribute).toList)) = 1 := by
    refine (forall_spokes_iff fun box column =>
      (sketchOf Dot.seen schema).edges.count (box, Sketch.ellipse box column) = 1).trans ?_
    refine forall₂_congr fun table known => forall₂_congr fun column _ => ?_
    rw [← joint_spoke (regular.named table known), count_picture]
  have links : (∀ link ∈ (sketchOf Dot.seen schema).links.zipIdx,
      (sketchOf Dot.seen schema).edges.count (Sketch.inward link) = 1 ∧
        (sketchOf Dot.seen schema).edges.count (Sketch.outward link) = 1) ↔
      ∀ position relationship, schema.relationships[position]? = some relationship →
        (picture (sketchOf Dot.seen schema)).edges.count
            (.whole relationship.table.toList, .whole (diamondId position).toList) = 1 ∧
          (picture (sketchOf Dot.seen schema)).edges.count
            (.whole (diamondId position).toList, .whole relationship.target.table.toList) = 1 := by
    refine (forall_links_iff _).trans (forall₃_congr fun position relationship found => ?_)
    obtain ⟨inward, outward⟩ := joint_link regular (List.mem_of_getElem? found) position
    rw [← inward, ← outward, count_picture, count_picture]
  rw [Sketch.edges_once_iff, spokes, links]
  exact ⟨fun once => ⟨once.columns, once.links⟩, fun both => ⟨both.1, both.2⟩⟩

theorem ellipses_unshared_iff : (∀ box ∈ (sketchOf Dot.seen schema).boxes, ∀ column ∈ box.columns,
    ∀ link ∈ (sketchOf Dot.seen schema).links.zipIdx,
      ¬(box.name = Sketch.diamond link.2 ∧ link.1.2 = Sketch.ellipse box.name column)) ↔
    ∀ table ∈ schema.tables.entries, ∀ column ∈ table.columns.entries, ∀ position relationship,
      schema.relationships[position]? = some relationship →
        ¬(table.name = diamondId position ∧
          relationship.target.table.toList = Dot.seen (attributeId table.toEntity column.toAttribute).toList) := by
  refine (forall_spokes_iff fun box column => ∀ link ∈ (sketchOf Dot.seen schema).links.zipIdx,
    ¬(box = Sketch.diamond link.2 ∧ link.1.2 = Sketch.ellipse box column)).trans ?_
  refine forall₂_congr fun table known => forall₂_congr fun column _ => ?_
  refine (forall_links_iff _).trans (forall₃_congr fun position relationship found => ?_)
  have plain := regular.named table known
  rw [(seen_ends regular (List.mem_of_getElem? found)).2, ← seen_ellipse plain, seen_name plain, ← toList_diamondId,
    ← toList_attributeId, String.toList_inj]

theorem diamonds_unshared_iff : (∀ first ∈ (sketchOf Dot.seen schema).links.zipIdx,
    ∀ second ∈ (sketchOf Dot.seen schema).links.zipIdx,
      ¬(first.1.1 = Sketch.diamond second.2 ∧ second.1.2 = Sketch.diamond first.2)) ↔
    ∀ here first, schema.relationships[here]? = some first →
      ∀ there second, schema.relationships[there]? = some second →
        ¬(first.table = diamondId there ∧ second.target.table = diamondId here) := by
  refine (forall_links_iff _).trans (forall₃_congr fun here first found => ?_)
  refine (forall_links_iff _).trans (forall₃_congr fun there second also_found => ?_)
  rw [(seen_ends regular (List.mem_of_getElem? found)).1, (seen_ends regular (List.mem_of_getElem? also_found)).2,
    ← toList_diamondId, ← toList_diamondId, String.toList_inj, String.toList_inj]

theorem nodup_edges_sketchOf : (sketchOf Dot.seen schema).edges.Nodup ↔ Unshared schema := by
  have named := @named_sketchOf schema Dot.seen fun table known => seen_name (regular.named table known)
  have columns : (∀ box ∈ (sketchOf Dot.seen schema).boxes, box.columns.Nodup) ↔
      ∀ table ∈ schema.tables.entries, ∀ first ∈ table.columns.entries, ∀ second ∈ table.columns.entries,
        Dot.seen first.name.toList = Dot.seen second.name.toList → first = second :=
    List.forall_mem_map.trans (forall₂_congr fun table _ => nodup_columns_iff table)
  rw [Sketch.nodup_edges_iff named, columns, ellipses_unshared_iff regular, diamonds_unshared_iff regular]
  exact ⟨fun all => ⟨all.1, all.2.1, all.2.2⟩,
    fun unshared => ⟨unshared.columns, unshared.ellipses, unshared.diamonds⟩⟩

end Seen

/-- If a script is read without errors and its names are legible, DOT sees an edge for each column and two for each
relationship, every one of which ends at nodes that are declared and not at ports of them. No two of these edges join
the same nodes unless columns are seen as one or tables are named like diamonds. -/
theorem edges_join_nodes {name script format : String} (success : (Script.read script).success = true)
    (supported : formats.contains format = true) (titled : Dot.Quotable name.toList)
    (legible : Legible (Script.read script)) :
    ∃ text picture, render name format (Diagram.ofSchema (Script.read script)) = .ok text ∧
      Dot.read? text = some picture ∧
      (∀ edge ∈ picture.edges, ∀ place ∈ [edge.1, edge.2], place.ports = [] ∧ place.node ∈ picture.nodes) ∧
      (JoinsOnce (Script.read script) picture.edges ↔ Unshared (Script.read script)) := by
  have drawn : render name format (Diagram.ofSchema (Script.read script)) =
      .ok (graph name (Diagram.ofSchema (Script.read script))).render := if_pos supported
  have regular := regular_of_success success
  have seen : Dot.read? (graph name (Diagram.ofSchema (Script.read script))).render =
      some (picture (sketchOf Dot.seen (Script.read script))) := by
    rw [Dot.read?_render (sound_graph legible success titled), pictureOf_graph regular]
  have joined := ends_of_picture (linked_sketchOf regular)
  have once := (joinsOnce_iff_nodup regular).trans (nodup_edges_sketchOf regular)
  exact ⟨_, _, drawn, seen, joined, once⟩

theorem edges_join_quoted_nodes :
    (Script.read "CREATE TABLE t ([a \"b\"] int UNIQUE REFERENCES t([a \"b\"]))").success = true ∧
    Legible (Script.read "CREATE TABLE t ([a \"b\"] int UNIQUE REFERENCES t([a \"b\"]))") ∧
    ∃ text picture, render defaultName defaultFormat (Diagram.ofSchema
        (Script.read "CREATE TABLE t ([a \"b\"] int UNIQUE REFERENCES t([a \"b\"]))")) = .ok text ∧
      Dot.read? text = some picture ∧
      ∀ edge ∈ picture.edges, ∀ place ∈ [edge.1, edge.2], place.ports = [] ∧ place.node ∈ picture.nodes := by
  have titled : Dot.Nameable defaultName.toList := Dot.nameable_of_isShut (by decide) (by decide)
  have legible : Legible (Script.read "CREATE TABLE t ([a \"b\"] int UNIQUE REFERENCES t([a \"b\"]))") :=
    ⟨by decide +kernel, by decide +kernel, by decide +kernel⟩
  have success : (Script.read "CREATE TABLE t ([a \"b\"] int UNIQUE REFERENCES t([a \"b\"]))").success = true := by
    decide +kernel
  obtain ⟨text, picture, drawn, read, joined, _⟩ :=
    @edges_join_nodes defaultName _ defaultFormat success (by decide) titled.toQuotable legible
  exact ⟨success, legible, text, picture, drawn, read, joined⟩

/-- The ellipse is the node `t__a:b`, and the edge to it leads to a port `b` of a node `t__a` that is not declared. -/
theorem colon_read_as_port : (Script.read "CREATE TABLE t ([a:b] int)").success = true ∧
    ∃ text picture, render defaultName defaultFormat (Diagram.ofSchema (Script.read "CREATE TABLE t ([a:b] int)")) =
        .ok text ∧
      Dot.read? text = some picture ∧ ∃ edge ∈ picture.edges, edge.2.node ∉ picture.nodes := by
  have seen : Dot.read? (graph defaultName (Diagram.ofSchema (Script.read "CREATE TABLE t ([a:b] int)"))).render =
      some ⟨["t".toList, "t__a:b".toList], [(⟨"t".toList, []⟩, ⟨"t__a".toList, ["b".toList]⟩)]⟩ := by
    decide +kernel
  exact ⟨by decide +kernel, _, _, if_pos (by decide), seen, _, List.mem_singleton_self _, by decide⟩

end Drawing
end SchemaAtlas
