import Mathlib.Data.List.Nodup
import Mathlib.Data.List.Perm.Basic
import Mathlib.Data.List.Pairwise
import SchemaAtlas.Proofs.Text.Decimal
/-!
Sketches of a drawing by the names of its nodes. A box has the name of a table, an ellipse that of its box and its
column with two underscores between, and a diamond that of its position. These names run together in a few ways only,
which also say when two edges join the same nodes.
-/
namespace SchemaAtlas

/-- A box with the columns that hang on it. -/
structure Sketch.Box where
  name : Text
  columns : List Text

/-- Boxes, and the two boxes that each diamond stands between. -/
structure Sketch where
  boxes : List Sketch.Box
  links : List (Text × Text)

namespace Sketch

def ellipse (box column : Text) : Text := box ++ "__".toList ++ column

def diamond (position : Nat) : Text := "rel_".toList ++ Numeral.digits position

def Box.nodes (box : Box) : List Text := box.name :: box.columns.map (ellipse box.name)

def Box.edges (box : Box) : List (Text × Text) := box.columns.map fun column => (box.name, ellipse box.name column)

/-- The edge from the first box of a link to its diamond. -/
def inward (link : (Text × Text) × Nat) : Text × Text := (link.1.1, diamond link.2)

/-- The edge from the diamond of a link to its second box. -/
def outward (link : (Text × Text) × Nat) : Text × Text := (diamond link.2, link.1.2)

section
variable (sketch : Sketch)

def ellipses : List Text := sketch.boxes.flatMap fun box => box.columns.map (ellipse box.name)

def diamonds : List Text := (List.range sketch.links.length).map diamond

/-- Each box with its ellipses, and then the diamonds. -/
def nodes : List Text := sketch.boxes.flatMap Box.nodes ++ sketch.diamonds

/-- An edge from each box to each of its ellipses, and two edges at each diamond. -/
def edges : List (Text × Text) :=
  sketch.boxes.flatMap Box.edges ++ sketch.links.zipIdx.flatMap fun link => [inward link, outward link]

end

/-- An ellipse of one box is named like that of another box whose name goes on where that of the first one ends. -/
def Overlaps (box column other beside : Text) : Prop :=
  other = box ++ ['_'] ∧ column = '_' :: beside ∨ ∃ middle, other = ellipse box middle ∧ column = ellipse middle beside

section Names
variable {box column other beside : Text}

theorem ellipse_append (box more column : Text) : ellipse (box ++ more) column = box ++ ellipse more column := by
  simp only [ellipse, List.append_assoc]

theorem ellipse_overhang {more : Text} : ellipse [] column = ellipse more beside ↔
    more = [] ∧ column = beside ∨ more = ['_'] ∧ column = '_' :: beside ∨
      ∃ middle, more = ellipse [] middle ∧ column = ellipse middle beside := by
  have empty (text : Text) : ellipse [] text = '_' :: '_' :: text := rfl
  match more with
  | [] => simp [ellipse]
  | [c] =>
    have written : ellipse [c] beside = c :: '_' :: '_' :: beside := rfl
    simp [written, empty, eq_comm]
  | c :: d :: rest =>
    have written : ellipse (c :: d :: rest) beside = c :: d :: ellipse rest beside := rfl
    simp only [written, empty, List.cons.injEq, List.cons_ne_nil, false_and, and_false, false_or]
    constructor
    · rintro ⟨rfl, rfl, rfl⟩
      exact ⟨rest, ⟨rfl, rfl, rfl⟩, rfl⟩
    · rintro ⟨_, ⟨rfl, rfl, rfl⟩, rfl⟩
      exact ⟨rfl, rfl, rfl⟩

theorem ellipse_eq_of_append {more : Text} : ellipse box column = ellipse (box ++ more) beside ↔
    box ++ more = box ∧ column = beside ∨ Overlaps box column (box ++ more) beside := by
  have start : ellipse box column = box ++ ellipse [] column := by rw [← ellipse_append, List.append_nil]
  have middle (text : Text) : ellipse box text = box ++ ellipse [] text := by rw [← ellipse_append, List.append_nil]
  simp only [Overlaps, start, middle, ellipse_append, List.append_cancel_left_eq, List.append_right_eq_self]
  exact ellipse_overhang

theorem ellipse_eq_iff : ellipse box column = ellipse other beside ↔
    box = other ∧ column = beside ∨ Overlaps box column other beside ∨ Overlaps other beside box column := by
  constructor
  · intro same
    have split : box ++ ("__".toList ++ column) = other ++ ("__".toList ++ beside) := by
      simpa only [ellipse, List.append_assoc] using same
    rcases List.append_eq_append_iff.mp split with ⟨more, rfl, _⟩ | ⟨more, rfl, _⟩
    · rcases ellipse_eq_of_append.mp same with ⟨alike, columns⟩ | overlaps
      · exact Or.inl ⟨alike.symm, columns⟩
      · exact Or.inr (Or.inl overlaps)
    · rcases ellipse_eq_of_append.mp same.symm with ⟨alike, columns⟩ | overlaps
      · exact Or.inl ⟨alike, columns.symm⟩
      · exact Or.inr (Or.inr overlaps)
  · have joined {box column other beside : Text} (overlaps : Overlaps box column other beside) :
        ellipse box column = ellipse other beside := by
      obtain ⟨more, rfl⟩ : ∃ more, other = box ++ more := by
        rcases overlaps with ⟨rfl, _⟩ | ⟨middle, rfl, _⟩
        · exact ⟨_, rfl⟩
        · exact ⟨"__".toList ++ middle, List.append_assoc ..⟩
      exact ellipse_eq_of_append.mpr (Or.inr overlaps)
    rintro (⟨rfl, rfl⟩ | overlaps | overlaps)
    · rfl
    · exact joined overlaps
    · exact (joined overlaps).symm

theorem not_overlaps_self : ¬Overlaps box column box beside := by
  rintro (⟨longer, _⟩ | ⟨middle, longer, _⟩)
  · exact absurd (List.self_eq_append_right.mp longer) (List.cons_ne_nil _ _)
  · have size := congrArg List.length longer
    simp [ellipse] at size

theorem ellipse_injective (box : Text) : Function.Injective (ellipse box) := fun _ _ same =>
  List.append_cancel_left same

theorem diamond_injective : Function.Injective diamond := fun first second same => by
  have digits : Numeral.digits first = Numeral.digits second := List.append_cancel_left same
  rw [← Numeral.magnitude_digits first, digits, Numeral.magnitude_digits]

/-- The name of an ellipse has two underscores, and that of a diamond has one. -/
theorem ellipse_ne_diamond (box column : Text) (position : Nat) : ellipse box column ≠ diamond position := by
  intro same
  have none : (Numeral.digits position).count '_' = 0 := List.count_eq_zero.mpr fun member =>
    absurd (Numeral.isDigit_of_mem member) (by decide)
  have two : ("__".toList).count '_' = 2 := by decide
  have one : ("rel_".toList).count '_' = 1 := by decide
  have counts := congrArg (List.count '_') same
  simp only [ellipse, diamond, List.count_append, two, one, none] at counts
  omega

end Names

/-- What different items of a list give has nothing in common. -/
theorem nodup_flatMap_iff {α β : Type} {items : List α} {give : α → List β} (distinct : items.Nodup) :
    (items.flatMap give).Nodup ↔ (∀ item ∈ items, (give item).Nodup) ∧
      ∀ first ∈ items, ∀ second ∈ items, first ≠ second → ∀ value ∈ give first, value ∉ give second := by
  rw [List.nodup_flatMap]
  refine and_congr_right fun _ => ⟨fun apart => ?_, fun apart => ?_⟩
  · have symmetric : Std.Symm (Function.onFun List.Disjoint give) := ⟨fun _ _ apart => List.disjoint_symm apart⟩
    intro first inside second also_inside different value here there
    exact apart.forall inside also_inside different here there
  · refine distinct.pairwise_of_forall_ne fun first inside second also_inside different value here there => ?_
    exact apart first inside second also_inside different value here there

section Distinct
variable {sketch : Sketch}

theorem mem_diamonds {node : Text} :
    node ∈ sketch.diamonds ↔ ∃ position < sketch.links.length, diamond position = node := by
  simp [diamonds]

theorem mem_ellipses {node : Text} :
    node ∈ sketch.ellipses ↔ ∃ box ∈ sketch.boxes, ∃ column ∈ box.columns, ellipse box.name column = node := by
  simp [ellipses]

theorem nodup_diamonds (sketch : Sketch) : sketch.diamonds.Nodup := List.nodup_range.map diamond_injective

theorem nodes_perm (sketch : Sketch) :
    sketch.nodes.Perm (sketch.boxes.map Box.name ++ (sketch.ellipses ++ sketch.diamonds)) := by
  rw [← List.append_assoc]
  exact (List.map_append_flatMap_perm sketch.boxes Box.name _).symm.append_right sketch.diamonds

variable (named : (sketch.boxes.map Box.name).Nodup) (columned : ∀ box ∈ sketch.boxes, box.columns.Nodup)
include named

theorem box_eq {first second : Box} (inside : first ∈ sketch.boxes) (also_inside : second ∈ sketch.boxes)
    (same : first.name = second.name) : first = second :=
  List.inj_on_of_nodup_map named inside also_inside same

theorem nodup_boxes : sketch.boxes.Nodup := named.of_map

include columned

/-- Ellipses are distinct unless the names of their boxes overlap. -/
theorem nodup_ellipses_iff : sketch.ellipses.Nodup ↔ ∀ box ∈ sketch.boxes, ∀ column ∈ box.columns,
    ∀ other ∈ sketch.boxes, ∀ beside ∈ other.columns, ¬Overlaps box.name column other.name beside := by
  rw [ellipses, nodup_flatMap_iff (nodup_boxes named)]
  constructor
  · rintro ⟨_, apart⟩ box inside column hangs other also_inside beside also_hangs overlaps
    by_cases same : box = other
    · rw [same] at overlaps
      exact not_overlaps_self overlaps
    · refine apart box inside other also_inside same _ (List.mem_map_of_mem hangs) ?_
      rw [ellipse_eq_iff.mpr (Or.inr (Or.inl overlaps))]
      exact List.mem_map_of_mem also_hangs
  · intro apart
    refine ⟨fun box inside => (columned box inside).map (ellipse_injective box.name), ?_⟩
    intro box inside other also_inside different node here there
    obtain ⟨column, hangs, rfl⟩ := List.mem_map.mp here
    obtain ⟨beside, also_hangs, same⟩ := List.mem_map.mp there
    rcases ellipse_eq_iff.mp same with ⟨alike, _⟩ | overlaps | overlaps
    · exact different (box_eq named inside also_inside alike.symm)
    · exact apart other also_inside beside also_hangs box inside column hangs overlaps
    · exact apart box inside column hangs other also_inside beside also_hangs overlaps

/-- The nodes of a sketch are distinct exactly if no box is named like a diamond or like an ellipse, and no two boxes
have names that overlap. -/
theorem nodup_nodes_iff : sketch.nodes.Nodup ↔
    (∀ box ∈ sketch.boxes, ∀ position < sketch.links.length, box.name ≠ diamond position) ∧
    (∀ box ∈ sketch.boxes, ∀ column ∈ box.columns, ∀ other ∈ sketch.boxes, other.name ≠ ellipse box.name column) ∧
    ∀ box ∈ sketch.boxes, ∀ column ∈ box.columns, ∀ other ∈ sketch.boxes, ∀ beside ∈ other.columns,
      ¬Overlaps box.name column other.name beside := by
  have ellipses_apart : List.Disjoint sketch.ellipses sketch.diamonds := by
    intro node here there
    obtain ⟨box, _, column, _, rfl⟩ := mem_ellipses.mp here
    obtain ⟨position, _, same⟩ := mem_diamonds.mp there
    exact ellipse_ne_diamond box.name column position same.symm
  rw [sketch.nodes_perm.nodup_iff, List.nodup_append', List.nodup_append', nodup_ellipses_iff named columned]
  constructor
  · rintro ⟨_, ⟨overlaps, _, _⟩, apart⟩
    refine ⟨fun box inside position low same => ?_, fun box inside column hangs other also_inside same => ?_, overlaps⟩
    · exact apart (List.mem_map_of_mem inside) (List.mem_append_right _ (mem_diamonds.mpr ⟨position, low, same.symm⟩))
    · refine apart (List.mem_map_of_mem also_inside) (List.mem_append_left _ ?_)
      exact mem_ellipses.mpr ⟨box, inside, column, hangs, same.symm⟩
  · rintro ⟨no_diamond, no_ellipse, overlaps⟩
    refine ⟨named, ⟨overlaps, nodup_diamonds sketch, ellipses_apart⟩, fun node here there => ?_⟩
    obtain ⟨other, also_inside, rfl⟩ := List.mem_map.mp here
    rcases List.mem_append.mp there with ellipse | diamond
    · obtain ⟨box, inside, column, hangs, same⟩ := mem_ellipses.mp ellipse
      exact no_ellipse box inside column hangs other also_inside same.symm
    · obtain ⟨position, low, same⟩ := mem_diamonds.mp diamond
      exact no_diamond other also_inside position low same.symm

end Distinct

section Edges
variable {sketch : Sketch}

theorem mem_spokes {edge : Text × Text} : edge ∈ sketch.boxes.flatMap Box.edges ↔
    ∃ box ∈ sketch.boxes, ∃ column ∈ box.columns, (box.name, ellipse box.name column) = edge := by
  simp [Box.edges]

theorem edges_perm (sketch : Sketch) : sketch.edges.Perm (sketch.boxes.flatMap Box.edges ++
    (sketch.links.zipIdx.map inward ++ sketch.links.zipIdx.map outward)) := by
  have pairs := List.map_append_flatMap_perm sketch.links.zipIdx inward fun link => [outward link]
  rw [← List.map_eq_flatMap] at pairs
  exact pairs.symm.append_left _

/-- An edge at a diamond tells its position. -/
theorem nodup_of_position {edges : List (Text × Text)} (place : Text × Text → Text) (count : Nat)
    (placed : edges.map place = (List.range' 0 count).map diamond) : edges.Nodup := by
  refine List.Nodup.of_map place ?_
  rw [placed]
  exact List.Nodup.map diamond_injective List.nodup_range'

theorem nodup_inward (sketch : Sketch) : (sketch.links.zipIdx.map inward).Nodup := by
  refine nodup_of_position Prod.snd sketch.links.length ?_
  rw [← List.zipIdx_map_snd, List.map_map, List.map_map]
  rfl

theorem nodup_outward (sketch : Sketch) : (sketch.links.zipIdx.map outward).Nodup := by
  refine nodup_of_position Prod.fst sketch.links.length ?_
  rw [← List.zipIdx_map_snd, List.map_map, List.map_map]
  rfl

/-- To have each edge once is to have distinct edges. -/
theorem edges_once_iff : sketch.edges.Nodup ↔
    (∀ box ∈ sketch.boxes, ∀ column ∈ box.columns, sketch.edges.count (box.name, ellipse box.name column) = 1) ∧
    ∀ link ∈ sketch.links.zipIdx, sketch.edges.count (inward link) = 1 ∧ sketch.edges.count (outward link) = 1 := by
  rw [List.nodup_iff_count_eq_one]
  constructor
  · intro once
    refine ⟨fun box inside column hangs => once _ ?_, fun link member => ⟨once _ ?_, once _ ?_⟩⟩
    · exact List.mem_append_left _ (mem_spokes.mpr ⟨box, inside, column, hangs, rfl⟩)
    · exact List.mem_append_right _ (List.mem_flatMap.mpr ⟨link, member, List.mem_cons_self⟩)
    · exact List.mem_append_right _ (List.mem_flatMap.mpr ⟨link, member, List.mem_cons_of_mem _ List.mem_cons_self⟩)
  · rintro ⟨spokes, links⟩ edge member
    rcases List.mem_append.mp member with spoke | joint
    · obtain ⟨box, inside, column, hangs, rfl⟩ := mem_spokes.mp spoke
      exact spokes box inside column hangs
    · obtain ⟨link, inside, either⟩ := List.mem_flatMap.mp joint
      rcases List.mem_pair.mp either with rfl | rfl
      · exact (links link inside).1
      · exact (links link inside).2

/-- Every edge of a sketch joins nodes of it, if its links lead from box to box. -/
theorem ends_of_mem_edges (linked : ∀ link ∈ sketch.links, link.1 ∈ sketch.boxes.map Box.name ∧
    link.2 ∈ sketch.boxes.map Box.name) {edge : Text × Text} (member : edge ∈ sketch.edges) :
    edge.1 ∈ sketch.nodes ∧ edge.2 ∈ sketch.nodes := by
  have nodes (node : Text) : node ∈ sketch.nodes ↔
      node ∈ sketch.boxes.map Box.name ∨ node ∈ sketch.ellipses ∨ node ∈ sketch.diamonds := by
    rw [sketch.nodes_perm.mem_iff, List.mem_append, List.mem_append]
  rw [nodes, nodes]
  rcases List.mem_append.mp member with spoke | joint
  · obtain ⟨box, inside, column, hangs, rfl⟩ := mem_spokes.mp spoke
    exact ⟨Or.inl (List.mem_map_of_mem inside), Or.inr (Or.inl (mem_ellipses.mpr ⟨box, inside, column, hangs, rfl⟩))⟩
  · obtain ⟨⟨link, position⟩, inside, either⟩ := List.mem_flatMap.mp joint
    have found : sketch.links[position]? = some link := List.mem_zipIdx_iff_getElem?.mp inside
    have joined := linked link (List.mem_of_getElem? found)
    have low : position < sketch.links.length := (List.getElem?_eq_some_iff.mp found).1
    have stands : diamond position ∈ sketch.diamonds := mem_diamonds.mpr ⟨position, low, rfl⟩
    rcases List.mem_pair.mp either with rfl | rfl
    · exact ⟨Or.inl joined.1, Or.inr (Or.inr stands)⟩
    · exact ⟨Or.inr (Or.inr stands), Or.inl joined.2⟩

variable (named : (sketch.boxes.map Box.name).Nodup)
include named

theorem nodup_spokes_iff :
    (sketch.boxes.flatMap Box.edges).Nodup ↔ ∀ box ∈ sketch.boxes, box.columns.Nodup := by
  rw [nodup_flatMap_iff (nodup_boxes named)]
  have apart : ∀ first ∈ sketch.boxes, ∀ second ∈ sketch.boxes, first ≠ second →
      ∀ edge ∈ first.edges, edge ∉ second.edges := by
    intro first inside second also_inside different edge here there
    obtain ⟨column, _, rfl⟩ := List.mem_map.mp here
    obtain ⟨beside, _, same⟩ := List.mem_map.mp there
    exact different (box_eq named inside also_inside (Prod.mk.inj same).1.symm)
  have each (box : Box) : box.edges.Nodup ↔ box.columns.Nodup :=
    List.nodup_map_iff fun _ _ same => ellipse_injective box.name (Prod.mk.inj same).2
  simp only [each, and_iff_left apart]

/-- The edges of a sketch are distinct exactly if the columns of every box are, and where boxes are named like diamonds,
no link leads from such a box to its ellipse and no two links lead from diamond to diamond and back. -/
theorem nodup_edges_iff : sketch.edges.Nodup ↔
    (∀ box ∈ sketch.boxes, box.columns.Nodup) ∧
    (∀ box ∈ sketch.boxes, ∀ column ∈ box.columns, ∀ link ∈ sketch.links.zipIdx,
      ¬(box.name = diamond link.2 ∧ link.1.2 = ellipse box.name column)) ∧
    ∀ first ∈ sketch.links.zipIdx, ∀ second ∈ sketch.links.zipIdx,
      ¬(first.1.1 = diamond second.2 ∧ second.1.2 = diamond first.2) := by
  rw [sketch.edges_perm.nodup_iff, List.nodup_append', List.nodup_append', nodup_spokes_iff named]
  constructor
  · rintro ⟨columned, ⟨_, _, crossed⟩, apart⟩
    refine ⟨columned, fun box inside column hangs link member both => ?_,
      fun first inside second also_inside both => ?_⟩
    · refine apart (mem_spokes.mpr ⟨box, inside, column, hangs, rfl⟩) (List.mem_append_right _ ?_)
      exact List.mem_map.mpr ⟨link, member, Prod.ext both.1.symm both.2⟩
    · exact crossed (List.mem_map_of_mem inside)
        (List.mem_map.mpr ⟨second, also_inside, Prod.ext both.1.symm both.2⟩)
  · rintro ⟨columned, no_spoke, no_cross⟩
    refine ⟨columned, ⟨nodup_inward sketch, nodup_outward sketch, fun edge here there => ?_⟩, fun edge here there => ?_⟩
    · obtain ⟨first, inside, rfl⟩ := List.mem_map.mp here
      obtain ⟨second, also_inside, same⟩ := List.mem_map.mp there
      exact no_cross first inside second also_inside ⟨(Prod.mk.inj same).1.symm, (Prod.mk.inj same).2⟩
    · obtain ⟨box, inside, column, hangs, rfl⟩ := mem_spokes.mp here
      rcases List.mem_append.mp there with inward | outward
      · obtain ⟨link, _, same⟩ := List.mem_map.mp inward
        exact ellipse_ne_diamond box.name column link.2 (Prod.mk.inj same).2.symm
      · obtain ⟨link, member, same⟩ := List.mem_map.mp outward
        exact no_spoke box inside column hangs link member ⟨(Prod.mk.inj same).1.symm, (Prod.mk.inj same).2⟩

end Edges

end Sketch
end SchemaAtlas
