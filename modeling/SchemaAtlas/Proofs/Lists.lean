import Mathlib.Data.List.Forall2
/-!
Lists that are split at a separator, and lists that stand beside each other.
-/
namespace SchemaAtlas
variable {α β : Type}

/-- The first of two equal separators splits a text in one way. -/
theorem split_unique {c : α} {first second rest tail : List α} (absent : c ∉ first) (other_absent : c ∉ second)
    (same : first ++ c :: rest = second ++ c :: tail) : first = second ∧ rest = tail := by
  rcases List.append_eq_append_iff.mp same with ⟨more, rfl, behind⟩ | ⟨more, rfl, behind⟩
  · cases more with
    | nil => simpa using behind
    | cons d more =>
      obtain ⟨rfl, _⟩ := List.cons.inj behind
      simp at other_absent
  · cases more with
    | nil => simpa using behind.symm
    | cons d more =>
      obtain ⟨rfl, _⟩ := List.cons.inj behind
      simp at absent

theorem mem_of_mem_splitOnP {test : α → Bool} {text piece : List α} {c : α}
    (member : piece ∈ text.splitOnP test)
    (inside : c ∈ piece) : c ∈ text := by
  induction text generalizing piece with
  | nil =>
    rw [List.splitOnP_nil, List.mem_singleton] at member
    rwa [member] at inside
  | cons d text ih =>
    rw [List.splitOnP_cons_eq_if_modifyHead] at member
    split at member
    · rcases List.mem_cons.mp member with rfl | later
      · cases inside
      · exact List.mem_cons_of_mem d (ih later inside)
    · obtain ⟨first, others, same⟩ := List.exists_cons_of_ne_nil (List.splitOnP_ne_nil test text)
      rw [same, List.modifyHead_cons] at member
      rw [same] at ih
      rcases List.mem_cons.mp member with rfl | later
      · rcases List.mem_cons.mp inside with rfl | more
        · exact List.mem_cons_self
        · exact List.mem_cons_of_mem d (ih List.mem_cons_self more)
      · exact List.mem_cons_of_mem d (ih (List.mem_cons_of_mem first later) inside)

theorem mem_of_mem_intercalate {separator : List α} {texts : List (List α)} {c : α}
    (member : c ∈ separator.intercalate texts) : c ∈ separator ∨ ∃ text ∈ texts, c ∈ text := by
  match texts with
  | [] => cases member
  | [only] =>
    rw [List.intercalate_singleton] at member
    exact Or.inr ⟨only, List.mem_singleton_self only, member⟩
  | first :: second :: others =>
    rw [List.intercalate_cons_cons] at member
    rcases List.mem_append.mp member with front | behind
    · rcases List.mem_append.mp front with here | between
      · exact Or.inr ⟨first, List.mem_cons_self, here⟩
      · exact Or.inl between
    · exact (mem_of_mem_intercalate behind).imp_right fun ⟨text, listed, inside⟩ =>
        ⟨text, List.mem_cons_of_mem first listed, inside⟩

-- Each kept item stands beside the one value that it gives, in order.
theorem forall₂_filterMap (give : α → Option β) (keep : α → Bool) (items : List α)
    (exact_on : ∀ item ∈ items, keep item = (give item).isSome) :
    List.Forall₂ (fun item value => item ∈ items ∧ give item = some value)
      (items.filter keep) (items.filterMap give) := by
  induction items with
  | nil => exact .nil
  | cons item rest ih =>
    have tail := (ih fun other member => exact_on other (List.mem_cons_of_mem item member)).imp
      fun _ _ both => And.imp_left (List.mem_cons_of_mem item) both
    have head := exact_on item List.mem_cons_self
    cases given : give item with
    | none =>
      have dropped : ¬keep item = true := by simp [head, given]
      rw [List.filter_cons_of_neg dropped, List.filterMap_cons_none given]
      exact tail
    | some value =>
      have kept : keep item = true := by simp [head, given]
      rw [List.filter_cons_of_pos kept, List.filterMap_cons_some given]
      exact .cons ⟨List.mem_cons_self, given⟩ tail

/-- A list with the items of two others, each of which keeps its order. -/
inductive Interleaved : List α → List α → List α → Prop where
  | nil : Interleaved [] [] []
  | left (item : α) {lefts rights whole : List α} (rest : Interleaved lefts rights whole) :
    Interleaved (item :: lefts) rights (item :: whole)
  | right (item : α) {lefts rights whole : List α} (rest : Interleaved lefts rights whole) :
    Interleaved lefts (item :: rights) (item :: whole)

/-- What tells the items of the two lists apart gives the lists back. -/
theorem Interleaved.filter {lefts rights whole : List α} (both : Interleaved lefts rights whole) {test : α → Bool}
    (misfits : ∀ item ∈ lefts, test item = false) (fits : ∀ item ∈ rights, test item = true) :
    whole.filter (!test ·) = lefts ∧ whole.filter test = rights := by
  induction both with
  | nil => exact ⟨rfl, rfl⟩
  | left item _ ih =>
    have here := misfits item List.mem_cons_self
    obtain ⟨first, second⟩ := ih (fun other member => misfits other (List.mem_cons_of_mem item member)) fits
    exact ⟨by rw [List.filter_cons_of_pos (by simp [here]), first],
      by rw [List.filter_cons_of_neg (by simp [here]), second]⟩
  | right item _ ih =>
    have here := fits item List.mem_cons_self
    obtain ⟨first, second⟩ := ih misfits fun other member => fits other (List.mem_cons_of_mem item member)
    exact ⟨by rw [List.filter_cons_of_neg (by simp [here]), first],
      by rw [List.filter_cons_of_pos here, second]⟩

/-- A traversal that succeeds with every item gives the values in their order. -/
theorem mapM_eq_pure {m : Type → Type} [Monad m] [LawfulMonad m] {give : α → m β} {value : α → β} (items : List α)
    (each : ∀ item ∈ items, give item = pure (value item)) : items.mapM give = pure (items.map value) := by
  induction items with
  | nil => rfl
  | cons item rest ih =>
    obtain ⟨here, there⟩ := List.forall_mem_cons.mp each
    rw [List.mapM_cons, here, ih there, pure_bind, pure_bind, List.map_cons]

theorem forall₂_mem_right {relation : α → β → Prop} {lefts : List α} {rights : List β}
    (aligned : List.Forall₂ relation lefts rights) {right : β} (member : right ∈ rights) :
    ∃ left ∈ lefts, relation left right := by
  induction aligned with
  | nil => cases member
  | cons related _ ih =>
    rcases List.mem_cons.mp member with rfl | later
    · exact ⟨_, List.mem_cons_self, related⟩
    · obtain ⟨left, inside, related⟩ := ih later
      exact ⟨left, List.mem_cons_of_mem _ inside, related⟩

theorem forall₂_trans {relates : α → α → Prop}
    (trans : ∀ first second third, relates first second → relates second third → relates first third)
    {before middle after : List α} (first : List.Forall₂ relates before middle)
    (second : List.Forall₂ relates middle after) : List.Forall₂ relates before after := by
  induction first generalizing after with
  | nil => exact second
  | cons here _ ih =>
    cases second with
    | cons there later => exact .cons (trans _ _ _ here there) (ih later)

/-- Where a function gives at most one value, the order is of no account to the first one. -/
theorem findSome?_of_perm {give : α → Option β} {items others : List α} (permuted : items.Perm others)
    (once : (items.filterMap give).length ≤ 1) : items.findSome? give = others.findSome? give := by
  have values := permuted.filterMap give
  rw [← List.head?_filterMap, ← List.head?_filterMap]
  cases given : items.filterMap give with
  | nil => rw [given] at values; rw [List.nil_perm.mp values]
  | cons value more =>
    rw [given, List.length_cons] at once
    obtain rfl := List.length_eq_zero_iff.mp (Nat.le_zero.mp (Nat.le_of_succ_le_succ once))
    rw [given] at values
    rw [List.singleton_perm.mp values]

end SchemaAtlas
