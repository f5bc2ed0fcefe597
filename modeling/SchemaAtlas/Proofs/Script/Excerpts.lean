import SchemaAtlas.Clause.DefaultValue
import SchemaAtlas.Proofs.Script.NormalForm
import SchemaAtlas.Proofs.Text.Line
import SchemaAtlas.Script.Reading
/-!
Texts that are cut out of other texts. Whatever the reader of a script names, splits off or trims has no character that
the script has not, so all of it is one line once the script is normalised.
-/
namespace SchemaAtlas

theorem Span.of_subset (span : Span) (text : Text) : span.of text ⊆ text :=
  List.Subset.trans (List.take_subset _ _) (List.drop_subset _ _)

theorem Match.text?_subset {found : Match} {part : Part} {text piece : Text}
    (named : found.text? part text = some piece) :
    piece ⊆ text := by
  obtain ⟨span, _, rfl⟩ := Option.map_eq_some_iff.mp named
  exact span.of_subset text

/-- A part that the match went without counts as empty. -/
theorem Match.part_subset (found : Match) (part : Part) (text : Text) : (found.text? part text).getD [] ⊆ text := by
  cases named : found.text? part text with
  | none => exact List.nil_subset text
  | some piece => exact text?_subset named

namespace Text

theorem trim_subset (text : Text) : trim text ⊆ text := by
  intro c member
  have within := (List.dropWhile_sublist _).subset (List.mem_reverse.mp member)
  exact (List.dropWhile_sublist _).subset (List.mem_reverse.mp within)

theorem flatten_extendFirst (c : Char) (texts : List Text) : (extendFirst c texts).flatten = c :: texts.flatten := by
  cases texts <;> rfl

theorem mem_subset_flatten {piece : Text} {pieces : List Text} (member : piece ∈ pieces) : piece ⊆ pieces.flatten :=
  fun _ inside => List.mem_flatten.mpr ⟨piece, member, inside⟩

theorem flatten_fields (separator : Char) (text : Text) : (fields separator text).flatten ⊆ text := by
  induction text with
  | nil => exact List.nil_subset []
  | cons c rest ih =>
    unfold fields
    split
    · exact List.subset_cons_of_subset c ih
    · rw [flatten_extendFirst]
      exact List.cons_subset_cons c ih

theorem fields_subset {separator : Char} {text piece : Text} (member : piece ∈ fields separator text) : piece ⊆ text :=
  List.Subset.trans (mem_subset_flatten member) (flatten_fields separator text)

end Text

namespace Name

theorem undelimited_subset (text : Text) : undelimited text ⊆ text := by
  unfold undelimited
  split
  · split
    · exact List.Subset.trans (List.dropLast_sublist _).subset (List.subset_cons_self _ _)
    · exact List.Subset.refl _
  · exact List.Subset.refl _

theorem clean_subset (text : Text) : clean text ⊆ text :=
  calc clean text
    _ ⊆ undelimited (Text.trim text) := Text.trim_subset _
    _ ⊆ Text.trim text := undelimited_subset _
    _ ⊆ text := Text.trim_subset text

theorem cleanQualified_subset (text : Text) : cleanQualified text ⊆ text := by
  simp only [cleanQualified]
  split
  · next name named =>
    obtain ⟨found, _, part⟩ := Option.bind_eq_some_iff.mp named
    calc clean name
      _ ⊆ name := clean_subset name
      _ ⊆ Text.trim text := Match.text?_subset part
      _ ⊆ text := Text.trim_subset text
  · exact clean_subset text

theorem withoutSortOrder_subset (text : Text) : withoutSortOrder text ⊆ text := by
  unfold withoutSortOrder
  split
  · exact List.take_subset _ text
  · exact List.Subset.refl text

theorem list_subset {text name : Text} (member : name ∈ list text) : name ⊆ text := by
  obtain ⟨field, inside, rfl⟩ := List.mem_map.mp (List.mem_filter.mp member).1
  calc clean (withoutSortOrder (Text.trim field))
    _ ⊆ withoutSortOrder (Text.trim field) := clean_subset _
    _ ⊆ Text.trim field := withoutSortOrder_subset _
    _ ⊆ field := Text.trim_subset field
    _ ⊆ text := Text.fields_subset inside

end Name

namespace Script

theorem flatten_pieces (separator : Char) (state : Nesting) (text : Text) :
    (pieces separator state text).flatten ⊆ text := by
  induction text generalizing state with
  | nil => exact List.nil_subset []
  | cons c rest ih =>
    simp only [pieces]
    split
    · exact List.subset_cons_of_subset c (ih _)
    · rw [Text.flatten_extendFirst]
      exact List.cons_subset_cons c (ih _)

theorem splitTop_subset {separator : Char} {text piece : Text} (member : piece ∈ splitTop separator text) :
    piece ⊆ text := by
  obtain ⟨untrimmed, inside, rfl⟩ := List.mem_map.mp member
  calc Text.trim untrimmed
    _ ⊆ untrimmed := Text.trim_subset untrimmed
    _ ⊆ (pieces separator .outside text).flatten := Text.mem_subset_flatten inside
    _ ⊆ text := flatten_pieces separator _ text

theorem statements_subset {script statement : Text} (member : statement ∈ statements script) : statement ⊆ script :=
  splitTop_subset (List.mem_filter.mp member).1

theorem clauses_subset {body clause : Text} (member : clause ∈ clauses body) : clause ⊆ body := by
  unfold clauses at member
  split at member
  · cases member
  · exact splitTop_subset member

theorem group?_subset {text group : Text} {start stop : Nat} (found : group? text start = some (group, stop)) :
    group ⊆ text := by
  unfold group? at found
  split at found
  · next rest open_here =>
    obtain ⟨length, _, same⟩ := Option.map_eq_some_iff.mp found
    cases same
    calc rest.take length
      _ ⊆ rest := List.take_subset _ _
      _ ⊆ text.drop start := open_here ▸ List.subset_cons_self _ _
      _ ⊆ text := List.drop_subset _ _
  · cases found

end Script

namespace DefaultValue

theorem flatten_tokens (state : Option TokenState) (text : Text) : (tokens state text).flatten ⊆ text := by
  induction text generalizing state with
  | nil => cases state <;> exact List.nil_subset []
  | cons c rest ih =>
    cases state with
    | none =>
      unfold tokens
      split
      · exact List.subset_cons_of_subset c (ih none)
      · rw [Text.flatten_extendFirst]
        exact List.cons_subset_cons c (ih _)
    | some state =>
      unfold tokens
      split
      · exact List.subset_cons_of_subset c (ih none)
      · rw [Text.flatten_extendFirst]
        exact List.cons_subset_cons c (ih _)

theorem isLine_read {text value : Text} {start : Nat} (line : Text.IsLine text) (found : read text start = some value) :
    Text.IsLine value := by
  have each : ∀ token ∈ tokens none (text.drop start), Text.IsLine token := fun token member => line.of_subset <|
    calc token
      _ ⊆ (tokens none (text.drop start)).flatten := Text.mem_subset_flatten member
      _ ⊆ text.drop start := flatten_tokens none _
      _ ⊆ text := List.drop_subset _ _
  unfold read ofTokens at found
  split at found
  · cases found
  · next first others given =>
    cases found
    rw [given] at each
    refine Text.IsLine.intercalate (by decide) fun token member => each token ?_
    rcases List.mem_cons.mp member with rfl | later
    · exact List.mem_cons_self
    · exact List.mem_cons_of_mem _ ((List.takeWhile_sublist _).subset later)

end DefaultValue

/-- Blanks other than spaces do not outlive the layout of a script. -/
theorem Script.isLine_normalized (script : Text) : Text.IsLine (normalized script) :=
  (Text.isSpaced_collapse _).trim.space

end SchemaAtlas
