import Mathlib.Data.List.Chain
import SchemaAtlas.Text.Blank
/-!
Runs of blanks. What stands for a run does not depend on its length or on its blanks, and a text in which
every run is a single space is left as it is.
-/
namespace SchemaAtlas.Text
variable {c : Char} {text front gap rest : Text}

theorem collapseFrom_append (solid : isBlank c = false) (filler : Char) (within : Bool) (text rest : Text) :
    collapseFrom filler within (text ++ c :: rest) =
      collapseFrom filler within text ++ c :: collapse filler rest := by
  induction text generalizing within with
  | nil => simp [collapseFrom, solid, collapse]
  | cons d text ih =>
    rw [List.cons_append]
    unfold collapseFrom
    split
    · split
      · exact ih true
      · rw [ih true]
        rfl
    · rw [ih false]
      rfl

theorem collapse_append (solid : isBlank c = false) (filler : Char) (text rest : Text) :
    collapse filler (text ++ c :: rest) = collapse filler text ++ c :: collapse filler rest :=
  collapseFrom_append solid filler false text rest

/-- Texts that collapse alike do so behind any other text. -/
theorem collapseFrom_congr {filler : Char} {other : Text}
    (same : ∀ within, collapseFrom filler within rest = collapseFrom filler within other) (within : Bool)
    (front : Text) : collapseFrom filler within (front ++ rest) = collapseFrom filler within (front ++ other) := by
  induction front generalizing within with
  | nil => exact same within
  | cons c front ih =>
    simp only [List.cons_append, collapseFrom]
    rw [ih true, ih false]

theorem collapseFrom_within (filler : Char) (blank : ∀ c ∈ gap, isBlank c = true) (rest : Text) :
    collapseFrom filler true (gap ++ rest) = collapseFrom filler true rest := by
  induction gap with
  | nil => rfl
  | cons c gap ih =>
    obtain ⟨here, later⟩ := List.forall_mem_cons.mp blank
    rw [List.cons_append, collapseFrom, if_pos here, if_pos rfl, ih later]

/-- A run of blanks becomes one filler, or nothing if it goes on a run in front of it. -/
theorem collapseFrom_gap (filler : Char) (within : Bool) (filled : gap ≠ []) (blank : ∀ c ∈ gap, isBlank c = true)
    (rest : Text) : collapseFrom filler within (gap ++ rest) =
      (if within then [] else [filler]) ++ collapseFrom filler true rest := by
  obtain ⟨c, gap, rfl⟩ := List.exists_cons_of_ne_nil filled
  obtain ⟨here, later⟩ := List.forall_mem_cons.mp blank
  rw [List.cons_append, collapseFrom, if_pos here, collapseFrom_within filler later]
  cases within <;> rfl

theorem collapse_gap (filler : Char) {other : Text} (filled : gap ≠ []) (blank : ∀ c ∈ gap, isBlank c = true)
    (other_filled : other ≠ []) (other_blank : ∀ c ∈ other, isBlank c = true) (front rest : Text) :
    collapse filler (front ++ (gap ++ rest)) = collapse filler (front ++ (other ++ rest)) :=
  have same (within : Bool) :
      collapseFrom filler within (gap ++ rest) = collapseFrom filler within (other ++ rest) := by
    rw [collapseFrom_gap filler within filled blank, collapseFrom_gap filler within other_filled other_blank]
  collapseFrom_congr same false front

/-- Every run of blanks is a single space. -/
structure IsSpaced (text : Text) : Prop where
  apart : text.IsChain fun c d => ¬(isBlank c = true ∧ isBlank d = true)
  space : ∀ c ∈ text, isBlank c = true → c = ' '

namespace IsSpaced

theorem of_append (spaced : IsSpaced (front ++ text)) : IsSpaced front ∧ IsSpaced text :=
  ⟨⟨spaced.apart.left_of_append, fun c member => spaced.space c (List.mem_append_left _ member)⟩,
    ⟨spaced.apart.right_of_append, fun c member => spaced.space c (List.mem_append_right _ member)⟩⟩

theorem tail (spaced : IsSpaced (c :: text)) : IsSpaced text := by
  have parts : IsSpaced [c] ∧ IsSpaced text := of_append spaced
  exact parts.2

theorem collapse (spaced : IsSpaced text) : Text.collapse ' ' text = text := by
  -- Within a run no blank is left to come.
  suffices general : ∀ within, (within = true → text.head?.any isBlank = false) →
      collapseFrom ' ' within text = text from general false (by simp)
  intro within fresh
  induction text generalizing within with
  | nil => rfl
  | cons c text ih =>
    rw [collapseFrom]
    by_cases blank : isBlank c = true
    · have outside : within = false := by
        cases within with
        | false => rfl
        | true => simp [blank] at fresh
      have follows : text.head?.any isBlank = false := by
        cases text with
        | nil => rfl
        | cons d text =>
          have different := (List.isChain_cons_cons.mp spaced.apart).1
          simpa [blank] using different
      rw [if_pos blank, outside, ih spaced.tail true fun _ => follows, ← spaced.space c List.mem_cons_self blank]
      rfl
    · rw [if_neg blank, ih spaced.tail false (by simp)]

end IsSpaced

theorem isSpaced_collapse (text : Text) : IsSpaced (collapse ' ' text) := by
  suffices general : ∀ within, IsSpaced (collapseFrom ' ' within text) ∧
      (within = true → (collapseFrom ' ' within text).head?.any isBlank = false) from (general false).1
  intro within
  induction text generalizing within with
  | nil => exact ⟨⟨List.isChain_nil, by simp [collapseFrom]⟩, fun _ => rfl⟩
  | cons c text ih =>
    rw [collapseFrom]
    by_cases blank : isBlank c = true
    · obtain ⟨spaced, solid⟩ := ih true
      rw [if_pos blank]
      cases within with
      | true => exact ⟨spaced, fun _ => solid rfl⟩
      | false =>
        refine ⟨⟨List.isChain_cons.mpr ⟨fun d first both => ?_, spaced.apart⟩, fun d member blank => ?_⟩, by simp⟩
        · have other := solid rfl
          rw [Option.mem_def.mp first, Option.any_some] at other
          rw [other] at both
          cases both.2
        · rcases List.mem_cons.mp member with rfl | later
          · rfl
          · exact spaced.space d later blank
    · obtain ⟨spaced, _⟩ := ih false
      rw [if_neg blank]
      have apart := List.isChain_cons.mpr ⟨fun d _ both => blank both.1, spaced.apart⟩
      refine ⟨⟨apart, fun d member here => ?_⟩, fun _ => ?_⟩
      · rcases List.mem_cons.mp member with rfl | later
        · exact absurd here blank
        · exact spaced.space d later here
      · simpa using blank

instance (text : Text) : Decidable (IsSpaced text) :=
  decidable_of_iff (collapse ' ' text = text) ⟨fun same => same ▸ isSpaced_collapse text, IsSpaced.collapse⟩

end SchemaAtlas.Text
