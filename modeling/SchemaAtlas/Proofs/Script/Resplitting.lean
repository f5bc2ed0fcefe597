import SchemaAtlas.Proofs.Script.Excerpts
import SchemaAtlas.Proofs.Script.Segmentation
/-!
The parts of a split, split again. Each of them is a part by itself, and all but the last leave no quotation mark and no
parenthesis open, so that with the separators between them they are split where they were. Of the text they keep every
character that is not blank, but for the separators outside quotation marks and parentheses.
-/
namespace SchemaAtlas.Script
open Text

/-- What is split: a script into statements, or the body of a table into clauses. -/
inductive Splitter where
  | script
  | body
deriving DecidableEq, Repr

namespace Splitter

def separator : Splitter → Char
  | script => ';'
  | body => ','

def split : Splitter → Text → List Text
  | script => statements
  | body => clauses

/-- The characters of a text that are not blank, without the separators that stand outside quotation marks and at depth
zero. -/
def kept (splitter : Splitter) (text : Text) : Text :=
  (text.zipIdx.filter fun (c, place) =>
    !isBlank c && !(c == splitter.separator && (standing (text.take place)).isTop)).map Prod.fst

end Splitter

section Parts
variable {separator : Char} {text : Text} {texts : List Text}

/-- The parts of a split: nothing separates in them, and where one more follows nothing is left open. -/
structure IsSplit (separator : Char) (texts : List Text) : Prop where
  alone : ∀ text ∈ texts, splitTop separator text = [text]
  closed : texts.Pairwise fun text _ => (standing text).isTop = true

theorem intercalate_pieces (separator : Char) (state : Nesting) (text : Text) :
    [separator].intercalate (pieces separator state text) = text := by
  induction text generalizing state with
  | nil => rfl
  | cons c rest ih =>
    have filled := pieces_ne_nil separator (state.step c) rest
    rw [pieces]
    split
    · next separates =>
      obtain rfl := beq_iff_eq.mp (Bool.and_eq_true_iff.mp separates).1
      obtain ⟨first, others, found⟩ := List.exists_cons_of_ne_nil filled
      have later := ih (state.step c)
      rw [found] at later ⊢
      rw [List.intercalate_cons_cons, later]
      rfl
    · rw [intercalate_extendFirst _ _ filled, ih]

theorem eq_of_pieces_singleton {state : Nesting} {piece : Text} (single : pieces separator state text = [piece]) :
    piece = text := by
  have joined := intercalate_pieces separator state text
  rwa [single, List.intercalate_singleton] at joined

theorem isTop_step (level : isLevel separator = true) (state : Nesting) :
    (state.step separator).isTop = state.isTop := isTop_foldl_of_isLevel (List.forall_mem_singleton.mpr level)

/-- The pieces of a text, once they are trimmed, are the parts of a split. -/
theorem isSplit_trim (level : isLevel separator = true) (plain : separator ≠ '\\') (solid : isBlank separator = false)
    (split : pieces separator .outside text = texts) : IsSplit separator (texts.map Text.trim) := by
  have alone {piece : Text} (single : pieces separator .outside piece = [piece]) :
      splitTop separator (Text.trim piece) = [Text.trim piece] := by
    rw [splitTop_trim solid, splitTop, single, List.map_singleton]
  -- Behind its first cut the text is split as if it began there, so the induction is on the pieces.
  induction texts generalizing text with
  | nil => exact absurd split (pieces_ne_nil separator .outside text)
  | cons piece later ih =>
    by_cases more : later = []
    · subst more
      obtain rfl := eq_of_pieces_singleton split
      exact ⟨by simpa using alone split, List.pairwise_singleton _ _⟩
    · obtain ⟨behind, rfl, single, cut, goes_on⟩ := exists_first_cut split more
      rw [pieces_joined fun escapes => absurd (Option.some.inj escapes) plain] at goes_on
      have top : (standing piece).isTop = true := by
        have stays := isTop_step level (standing piece)
        rw [standing, cut] at stays
        exact stays.symm
      obtain ⟨each, closed⟩ := ih goes_on
      exact ⟨List.forall_mem_cons.mpr ⟨alone single, each⟩,
        List.pairwise_cons.mpr ⟨fun _ _ => (isTop_standing_trim piece).trans top, closed⟩⟩

theorem IsSplit.filter (split : IsSplit separator texts) (keep : Text → Bool) : IsSplit separator (texts.filter keep) :=
  ⟨fun text member => split.alone text (List.mem_filter.mp member).1, split.closed.filter keep⟩

/-- With the separators between them the parts are split where they were. -/
theorem IsSplit.splitTop_join (split : IsSplit separator texts) (level : isLevel separator = true)
    (plain : separator ≠ '\\') (filled : texts ≠ []) : splitTop separator ([separator].intercalate texts) = texts := by
  obtain ⟨alone, closed⟩ := split
  induction texts with
  | nil => exact absurd rfl filled
  | cons first later ih =>
    obtain ⟨here, each⟩ := List.forall_mem_cons.mp alone
    obtain ⟨ahead, later_closed⟩ := List.pairwise_cons.mp closed
    cases later with
    | nil => rw [List.intercalate_singleton, here]
    | cons second others =>
      have top : (standing first).isTop = true := ahead second List.mem_cons_self
      rw [List.intercalate_cons_cons, List.append_assoc, List.singleton_append,
        splitTop_separator level plain top, here, ih (List.cons_ne_nil _ _) each later_closed, List.singleton_append]

end Parts
section Kept
variable {text : Text}

theorem filter_of_blank (blank : ∀ c ∈ text, isBlank c = true) : text.filter (!isBlank ·) = [] :=
  List.filter_eq_nil_iff.mpr fun c member => by simp [blank c member]

theorem filter_trim (text : Text) : (Text.trim text).filter (!isBlank ·) = text.filter (!isBlank ·) := by
  obtain ⟨gap, tail, blank, tail_blank, same⟩ := exists_trim text
  nth_rewrite 2 [same]
  rw [List.filter_append, List.filter_append, filter_of_blank blank, filter_of_blank tail_blank, List.nil_append,
    List.append_nil]

theorem filter_flatten_trim (texts : List Text) :
    (texts.map Text.trim).flatten.filter (!isBlank ·) = texts.flatten.filter (!isBlank ·) := by
  rw [List.filter_flatten, List.filter_flatten, List.map_map]
  exact congrArg List.flatten (List.map_congr_left fun text _ => filter_trim text)

/-- The pieces are the text without the separators that a scan reads outside. -/
theorem flatten_pieces_eq {separator : Char} (level : isLevel separator = true) (state : Nesting) (text : Text) :
    (pieces separator state text).flatten = (text.zipIdx.filter fun (c, place) =>
      !(c == separator && ((text.take place).foldl Nesting.step state).isTop)).map Prod.fst := by
  induction text generalizing state with
  | nil => rfl
  | cons c rest ih =>
    -- A separator stands outside exactly where the scan is outside behind it.
    have here : (c == separator && (state.step c).isTop) = (c == separator && state.isTop) := by
      by_cases same : c = separator
      · subst same
        rw [isTop_step level]
      · rw [beq_eq_false_iff_ne.mpr same, Bool.false_and, Bool.false_and]
    have later : ((rest.zipIdx 1).filter fun (d, place) =>
        !(d == separator && (((c :: rest).take place).foldl Nesting.step state).isTop)).map Prod.fst =
        (pieces separator (state.step c) rest).flatten := by
      rw [ih, List.zipIdx_succ, List.filter_map, List.map_map]
      rfl
    rw [pieces, List.zipIdx_cons, Nat.zero_add]
    by_cases separates : (c == separator && state.isTop) = true
    · rw [if_pos (here.trans separates), List.flatten_cons, List.nil_append, ← later,
        List.filter_cons_of_neg (by simpa using separates)]
    · have stays := congrArg not (Bool.eq_false_iff.mpr separates)
      rw [if_neg (here ▸ separates), flatten_extendFirst, ← later, List.filter_cons_of_pos (by exact stays),
        List.map_cons]

theorem kept_eq (splitter : Splitter) (text : Text) :
    splitter.kept text = (pieces splitter.separator .outside text).flatten.filter (!isBlank ·) := by
  have level : isLevel splitter.separator = true := by cases splitter <;> decide
  rw [flatten_pieces_eq level, List.filter_map, List.filter_filter]
  rfl

end Kept
namespace Splitter
variable {texts : List Text}

theorem split_script (text : Text) : script.split text = (splitTop ';' text).filter (· != []) := rfl

/-- A clause that is not blank, and clauses with a comma between them, are no blank body. -/
theorem split_body_of_isSplit (split : IsSplit ',' texts) (filled : texts ≠ []) (visible : texts ≠ [[]]) :
    body.split ([','].intercalate texts) = texts := by
  have joined := split.splitTop_join (by decide) (by decide) filled
  cases blank : isAllBlank ([','].intercalate texts) with
  | false => rw [Splitter.split, clauses, blank, if_neg Bool.false_ne_true, joined]
  | true =>
    rcases blank_join blank with rfl | ⟨text, rfl, only⟩
    · exact absurd rfl filled
    · have alone : splitTop ',' text = [text] := split.alone text (List.mem_singleton_self text)
      have trimmed : Text.trim text = text := by
        obtain ⟨piece, _, same⟩ := List.mem_map.mp (alone ▸ List.mem_singleton_self text : text ∈ splitTop ',' text)
        rw [← same, trim_trim]
      exact absurd (congrArg ([·]) (trimmed.symm.trans (trim_of_blank only))) visible

theorem isSplit_split (splitter : Splitter) (text : Text) : IsSplit splitter.separator (splitter.split text) := by
  cases splitter with
  | script => exact (isSplit_trim (by decide) (by decide) (by decide) rfl).filter _
  | body =>
    rw [Splitter.split, clauses]
    split
    · exact ⟨fun _ member => absurd member List.not_mem_nil, List.Pairwise.nil⟩
    · exact isSplit_trim (by decide) (by decide) (by decide) rfl

/-- Only a blank body has one clause that is empty, and it has no clauses. -/
theorem split_body_ne (text : Text) : body.split text ≠ [[]] := by
  intro single
  rw [Splitter.split, clauses] at single
  split at single
  · cases single
  · next visible =>
    obtain ⟨piece, alone, empty⟩ := List.map_eq_singleton_iff.mp single
    obtain rfl := eq_of_pieces_singleton alone
    have solid := filter_trim piece
    rw [empty] at solid
    refine visible (List.all_eq_true.mpr fun c member => ?_)
    simpa using List.filter_eq_nil_iff.mp solid.symm c member

theorem split_part {splitter : Splitter} {text part : Text} (member : part ∈ splitter.split text) (filled : part ≠ []) :
    splitter.split part = [part] := by
  have alone := (isSplit_split splitter text).alone part member
  cases splitter with
  | script =>
    rw [split_script, show splitTop ';' part = [part] from alone]
    exact List.filter_cons_of_pos (bne_iff_ne.mpr filled)
  | body =>
    have parts : IsSplit ',' [part] := ⟨List.forall_mem_singleton.mpr alone, List.pairwise_singleton _ _⟩
    have again := split_body_of_isSplit parts (List.cons_ne_nil _ _) (by simpa using filled)
    rwa [List.intercalate_singleton] at again

theorem split_join (splitter : Splitter) (text : Text) :
    splitter.split ([splitter.separator].intercalate (splitter.split text)) = splitter.split text := by
  have parts := isSplit_split splitter text
  by_cases filled : splitter.split text = []
  · rw [filled]
    cases splitter <;> rfl
  · cases splitter with
    | script =>
      rw [split_script, show splitTop ';' _ = script.split text from
        parts.splitTop_join (by decide) (by decide) filled, split_script, List.filter_filter]
      simp only [Bool.and_self]
    | body => exact split_body_of_isSplit parts filled (split_body_ne text)

theorem split_keeps (splitter : Splitter) (text : Text) :
    (splitter.split text).flatten.filter (!isBlank ·) = splitter.kept text := by
  rw [kept_eq, ← filter_flatten_trim (pieces _ _ _)]
  cases splitter with
  | script =>
    have dropped (texts : List Text) : (texts.filter (· != [])).flatten = texts.flatten := by
      simp [bne, List.flatten_filter_not_isEmpty]
    rw [split_script, dropped]
    rfl
  | body =>
    rw [Splitter.split, clauses]
    split
    · next blank =>
      have within := flatten_pieces ',' .outside text
      rw [filter_flatten_trim]
      exact (filter_of_blank fun c member => List.all_eq_true.mp blank c (within member)).symm
    · rfl

/-- What is split does not come apart further, comes back if it is joined, and keeps the characters in their order. -/
theorem split_again (splitter : Splitter) (text : Text) :
    (∀ part ∈ splitter.split text, part ≠ [] → splitter.split part = [part]) ∧
    splitter.split ([splitter.separator].intercalate (splitter.split text)) = splitter.split text ∧
    (splitter.split text).flatten.filter (!isBlank ·) = splitter.kept text :=
  ⟨fun _ member filled => split_part member filled, split_join splitter text, split_keeps splitter text⟩

/-- Clauses with an empty one, a parenthesis too many, a backslash before a blank and a quotation that stays open. -/
theorem split_again_amid :
    let text := "a) , ,(b, ')')\\ , \"c, ".toList
    "(b, ')')\\".toList ∈ body.split text ∧ "(b, ')')\\".toList ≠ [] ∧
      body.split "(b, ')')\\".toList = ["(b, ')')\\".toList] ∧
      body.split text = ["a)".toList, [], "(b, ')')\\".toList, "\"c,".toList] ∧
      body.kept text = "a)(b,')')\\\"c,".toList := by
  intro text
  have parts : body.split text = ["a)".toList, [], "(b, ')')\\".toList, "\"c,".toList] := by decide +kernel
  have member : "(b, ')')\\".toList ∈ body.split text := by rw [parts]; decide
  have filled : "(b, ')')\\".toList ≠ [] := by decide
  obtain ⟨alone, _, keeps⟩ := split_again body text
  exact ⟨member, filled, alone _ member filled, parts, by rw [← keeps, parts]; decide⟩

end Splitter
end SchemaAtlas.Script
