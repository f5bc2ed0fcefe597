import SchemaAtlas.Diagram.Drawing
import SchemaAtlas.Proofs.Diagram.Sketch
import SchemaAtlas.Proofs.Schema.Lines
/-!
The nodes and edges that a drawing of a schema declares. Tables, columns and relationships share one space of names, so
a script can have parts that become one node although it is read without errors.
-/
namespace SchemaAtlas

namespace Dot

def Statement.node? : Statement → Option String
  | .node id _ => some id
  | _ => none

def Statement.edge? : Statement → Option (String × String)
  | .edge tail head _ => some (tail, head)
  | _ => none

def Item.statements : Item → List Statement
  | .single statement => [statement]
  | .cluster _ statements => statements

namespace Graph

def statements (graph : Graph) : List Statement := graph.items.flatMap Item.statements

/-- The names of all nodes that the graph declares, in their order. -/
def nodes (graph : Graph) : List String := graph.statements.filterMap Statement.node?

/-- The ends of all edges, in their order. -/
def edges (graph : Graph) : List (String × String) := graph.statements.filterMap Statement.edge?

end Graph

end Dot

namespace Drawing

section Parts
variable {α : Type} (give : Dot.Statement → Option α)

theorem filterMap_graph (name : String) (diagram : Diagram)
    (unlaid : (layout.flatMap Dot.Item.statements).filterMap give = []) :
    (graph name diagram).statements.filterMap give =
      (diagram.entities.flatMap fun entity => (entityItem entity).statements.filterMap give) ++
        diagram.links.zipIdx.flatMap fun link =>
          ((linkItems link.2 link.1).flatMap Dot.Item.statements).filterMap give := by
  simp only [Dot.Graph.statements, graph, List.flatMap_append, List.filterMap_append, unlaid, List.nil_append,
    List.flatMap_map, List.filterMap_flatMap, List.mapIdx_eq_zipIdx_map, ← List.flatMap_def, List.flatMap_assoc]

end Parts

theorem toList_attributeId (table : Table) (column : Column) :
    (attributeId table.toEntity column.toAttribute).toList = Sketch.ellipse table.name.toList column.name.toList := by
  rw [attributeId, String.toList_append, String.toList_append]
  rfl

theorem toList_diamondId (position : Nat) : (diamondId position).toList = Sketch.diamond position := by
  have shown : diamondId position = "rel_" ++ position.repr := rfl
  rw [shown, String.toList_append, Nat.toList_repr]
  rfl

/-- The sketch of a schema, with all names as they are spelled. -/
def sketchOf (spell : Text → Text) (schema : Schema) : Sketch where
  boxes := schema.tables.entries.map fun table =>
    ⟨spell table.name.toList, table.rankedColumns.map fun column => spell column.name.toList⟩
  links := schema.relationships.map fun relationship =>
    (spell relationship.table.toList, spell relationship.target.table.toList)

theorem nodes_entityItem (entity : Entity) : (entityItem entity).statements.filterMap Dot.Statement.node? =
    entity.name :: entity.attributes.map (attributeId entity) := by
  have attributes : (entity.attributes.flatMap (attributeStatements entity)).filterMap Dot.Statement.node? =
      entity.attributes.map (attributeId entity) := by
    rw [List.filterMap_flatMap, List.map_eq_flatMap]
    rfl
  exact congrArg (entity.name :: ·) attributes

theorem edges_entityItem (entity : Entity) : (entityItem entity).statements.filterMap Dot.Statement.edge? =
    entity.attributes.map fun property => (entity.name, attributeId entity property) := by
  have attributes : (entity.attributes.flatMap (attributeStatements entity)).filterMap Dot.Statement.edge? =
      entity.attributes.map fun property => (entity.name, attributeId entity property) := by
    rw [List.filterMap_flatMap, List.map_eq_flatMap]
    rfl
  exact attributes

section Spelling
variable {spell : Text → Text} {schema : Schema}
  (ellipses : ∀ table ∈ schema.tables.entries, ∀ column ∈ table.columns.entries,
    spell (Sketch.ellipse table.name.toList column.name.toList) =
      Sketch.ellipse (spell table.name.toList) (spell column.name.toList))
  (diamonds : ∀ position, spell (Sketch.diamond position) = Sketch.diamond position)
include ellipses

theorem spell_attributes {table : Table} (known : table ∈ schema.tables.entries) :
    table.toEntity.attributes.map (fun property => spell (attributeId table.toEntity property).toList) =
      table.rankedColumns.map fun column => Sketch.ellipse (spell table.name.toList) (spell column.name.toList) := by
  have listed : table.toEntity.attributes = table.rankedColumns.map Column.toAttribute := rfl
  rw [listed, List.map_map]
  refine List.map_congr_left fun column shown => ?_
  rw [Function.comp_apply, toList_attributeId, ellipses table known column (List.mem_mergeSort.mp shown)]

include diamonds

/-- A drawing declares the nodes of the sketch, however their names are spelled. -/
theorem nodes_graph (name : String) :
    (graph name (Diagram.ofSchema schema)).nodes.map (fun node => spell node.toList) =
      (sketchOf spell schema).nodes := by
  have boxes (table : Table) (known : table ∈ schema.tables.entries) :
      ((entityItem table.toEntity).statements.filterMap Dot.Statement.node?).map (fun node => spell node.toList) =
        Sketch.Box.nodes ⟨spell table.name.toList, table.rankedColumns.map fun column => spell column.name.toList⟩ := by
    rw [nodes_entityItem, List.map_cons, List.map_map, Sketch.Box.nodes, List.map_map]
    exact congrArg (spell table.name.toList :: ·) (spell_attributes ellipses known)
  have links : (schema.relationships.zipIdx.flatMap fun link => [spell (diamondId link.2).toList]) =
      (List.range schema.relationships.length).map Sketch.diamond := by
    rw [← List.map_eq_flatMap, List.range_eq_range', ← List.zipIdx_map_snd, List.map_map]
    exact List.map_congr_left fun link _ => by rw [toList_diamondId, diamonds, Function.comp_apply]
  rw [Dot.Graph.nodes, filterMap_graph _ _ _ rfl, List.map_append, List.map_flatMap, List.map_flatMap]
  simp only [Diagram.ofSchema, List.flatMap_map, List.zipIdx_map, Sketch.nodes, Sketch.diamonds, sketchOf,
    List.length_map]
  rw [← links]
  exact congrArg₂ (· ++ ·) (List.flatMap_congr boxes) rfl

/-- A drawing joins what the edges of the sketch join. -/
theorem edges_graph (name : String) :
    ((graph name (Diagram.ofSchema schema)).edges.map fun edge => (spell edge.1.toList, spell edge.2.toList)) =
      (sketchOf spell schema).edges := by
  have boxes (table : Table) (known : table ∈ schema.tables.entries) :
      ((entityItem table.toEntity).statements.filterMap Dot.Statement.edge?).map
          (fun edge => (spell edge.1.toList, spell edge.2.toList)) =
        Sketch.Box.edges ⟨spell table.name.toList, table.rankedColumns.map fun column => spell column.name.toList⟩ := by
    have ends := congrArg (List.map (Prod.mk (spell table.name.toList))) (spell_attributes ellipses known)
    rw [List.map_map, List.map_map] at ends
    rw [edges_entityItem, List.map_map, Sketch.Box.edges, List.map_map]
    exact ends
  have links (relationship : Relationship) (position : Nat) :
      [(spell relationship.table.toList, spell (diamondId position).toList),
        (spell (diamondId position).toList, spell relationship.target.table.toList)] =
      [Sketch.inward ((spell relationship.table.toList, spell relationship.target.table.toList), position),
        Sketch.outward ((spell relationship.table.toList, spell relationship.target.table.toList), position)] := by
    rw [toList_diamondId, diamonds]
    rfl
  rw [Dot.Graph.edges, filterMap_graph _ _ _ rfl, List.map_append, List.map_flatMap, List.map_flatMap]
  simp only [Diagram.ofSchema, List.flatMap_map, List.zipIdx_map, Sketch.edges, sketchOf]
  exact congrArg₂ (· ++ ·) (List.flatMap_congr boxes) (List.flatMap_congr fun link _ => links link.1 link.2)

end Spelling

section Distinct
variable (schema : Schema)

/-- Tables stand in their order of rank, which does not matter for what holds of all columns. -/
theorem forall_columns_iff {table : Table} {holds : Column → Prop} :
    (∀ column ∈ table.rankedColumns, holds column) ↔ ∀ column ∈ table.columns.entries, holds column := by
  simp only [Table.rankedColumns, List.mem_mergeSort]

theorem named_sketchOf {spell : Text → Text}
    (kept : ∀ table ∈ schema.tables.entries, spell table.name.toList = table.name.toList) :
    ((sketchOf spell schema).boxes.map Sketch.Box.name).Nodup := by
  have names : (sketchOf spell schema).boxes.map Sketch.Box.name =
      (schema.tables.entries.map Named.name).map String.toList := by
    rw [sketchOf, List.map_map, List.map_map]
    exact List.map_congr_left kept
  rw [names]
  exact schema.tables.distinct.map fun _ _ => String.toList_inj.mp

theorem toList_nodes (name : String) :
    (graph name (Diagram.ofSchema schema)).nodes.map String.toList = (sketchOf id schema).nodes :=
  @nodes_graph id schema (fun _ _ _ _ => rfl) (fun _ => rfl) name

theorem columned_sketchOf : ∀ box ∈ (sketchOf id schema).boxes, box.columns.Nodup := by
  refine List.forall_mem_map.mpr fun table known => ?_
  have names : (table.rankedColumns.map fun column => id column.name.toList).Perm
      ((table.columns.entries.map Named.name).map String.toList) := by
    rw [List.map_map]
    exact (List.mergeSort_perm table.columns.entries _).map _
  exact names.nodup_iff.mpr (table.columns.distinct.map fun _ _ => String.toList_inj.mp)

end Distinct

/-- The nodes that a script's drawing declares are distinct exactly if no table is named like the diamond of one of its
relationships or like the ellipse of one of its columns, and no two tables overlap: that is, the name of the one goes on
with an underscore where the name of the other ends, and a column of the other makes up for the difference. -/
theorem nodes_distinct_iff (name script : String) :
    (graph name (Diagram.ofSchema (Script.read script))).nodes.Nodup ↔
      (∀ table ∈ (Script.read script).tables.entries, ∀ position < (Script.read script).relationships.length,
        table.name ≠ diamondId position) ∧
      (∀ table ∈ (Script.read script).tables.entries, ∀ column ∈ table.columns.entries,
        ∀ other ∈ (Script.read script).tables.entries, other.name ≠ attributeId table.toEntity column.toAttribute) ∧
      ∀ table ∈ (Script.read script).tables.entries, ∀ column ∈ table.columns.entries,
        ∀ other ∈ (Script.read script).tables.entries, ∀ beside ∈ other.columns.entries,
          ¬Sketch.Overlaps table.name.toList column.name.toList other.name.toList beside.name.toList := by
  have named := named_sketchOf (Script.read script) fun _ _ => id_eq _
  rw [← List.nodup_map_iff fun _ _ => String.toList_inj.mp, toList_nodes,
    Sketch.nodup_nodes_iff named (columned_sketchOf _)]
  simp only [sketchOf, List.forall_mem_map, forall_columns_iff, List.length_map, id_eq, ← toList_diamondId,
    ← toList_attributeId, ne_eq, String.toList_inj]

/-- The second table is a box and the column of the first one an ellipse, but both are the node `a__b`. -/
theorem table_drawn_over_column :
    (Script.read "CREATE TABLE a (b int); CREATE TABLE a__b (c int)").success = true ∧
      ¬(graph defaultName
        (Diagram.ofSchema (Script.read "CREATE TABLE a (b int); CREATE TABLE a__b (c int)"))).nodes.Nodup := by
  have nodes : (graph defaultName
      (Diagram.ofSchema (Script.read "CREATE TABLE a (b int); CREATE TABLE a__b (c int)"))).nodes =
        ["a", "a__b", "a__b", "a__b__c"] := by
    decide +kernel
  refine ⟨by decide +kernel, ?_⟩
  rw [nodes]
  decide

end Drawing
end SchemaAtlas
