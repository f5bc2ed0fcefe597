import SchemaAtlas.Proofs.Pattern.Ends
import SchemaAtlas.Proofs.Pattern.Shift
import SchemaAtlas.Proofs.Schema.Growth
import SchemaAtlas.Proofs.Script.Splitting
/-!
Heads of table definitions, wherever they stand in a script. The script is split into statements first, the
head is sought in one trimmed statement and its body in the rest of that statement; what is found there is what
stands in the whole script. Of the heads between two separating semicolons only the first one counts.
-/
namespace SchemaAtlas
open Text Pattern Cursor

namespace Pattern
variable {pattern : Pattern} {leads : Text → Prop} {gap body tail : Text} {found : Match}

/-- The first match in a text is the first one in a piece of it that has only blanks in front, and it names the
same parts. -/
theorem find?_of_piece (led : LedBy leads pattern) (stays : pattern.isLocal true = true)
    (blank : ∀ c ∈ gap, isBlank c = true) (whole : pattern.find? (gap ++ body ++ tail) = some found)
    (begun : found.span.start < (gap ++ body).length) (short : found.span.stop ≤ (gap ++ body).length) :
    ∃ inner : Match, pattern.find? body = some inner ∧ found = inner.shift gap.length ∧
      ∀ part, inner.text? part body = found.text? part (gap ++ body ++ tail) := by
  rw [find?_eq_findAfter] at whole
  have cut : pattern.find? (gap ++ body) = some found :=
    findAfter_of_short stays (by simpa using begun) whole (by simpa using short)
  have moved : pattern.find? (gap ++ body) = (pattern.find? body).map (Match.shift gap.length) :=
    passes_of_blank led blank
  rw [cut] at moved
  obtain ⟨inner, same, rfl⟩ := Option.map_eq_some_iff.mp moved.symm
  obtain ⟨passed, later, _, here⟩ := findAfter_some whole
  refine ⟨inner, same, rfl, fun part => ?_⟩
  rw [text?_append here short, Match.text?_shift]

theorem LedBy.outside {before rest : Text} (led : LedBy leads pattern)
    (here : pattern.matchAt (after before rest) = some found) : endsWord before = false := by
  obtain ⟨_, _, _, _, _, _, outside, _⟩ := led here
  exact outside

theorem matchAt_of_find? {before rest : Text} (whole : pattern.find? (before ++ rest) = some found)
    (start : found.span.start = before.length) : pattern.matchAt (after before rest) = some found := by
  rw [find?_eq_findAfter] at whole
  obtain ⟨passed, later, same, here⟩ := findAfter_some whole
  obtain ⟨_, _, _, span⟩ := matchAt_span here
  have place : passed.length = before.length := by rw [← start, span]; rfl
  obtain ⟨rfl, rfl⟩ := List.append_inj same place.symm
  exact here

end Pattern

namespace Script
open Phrase

/-- A head of a table definition at some place of a text, up to the parenthesis in front of the body. -/
structure Heading (text : Text) where
  before : Text
  opening : Text
  tail : Text
  head : Match
  whole : text = before ++ (opening ++ '(' :: tail)
  found : createTableHead.matchAt (after before (opening ++ '(' :: tail)) = some head
  stop : head.span.stop = (before ++ opening).length + 1

/-- Every match of the pattern is one. -/
theorem exists_heading {text before rest : Text} {head : Match} (whole : text = before ++ rest)
    (found : createTableHead.matchAt (after before rest) = some head) :
    ∃ heading : Heading text, heading.before = before ∧ heading.head = head := by
  obtain ⟨front, name, gap, tail, same, span, _⟩ := createTableHead_some found
  have regrouped : rest = (front ++ (name ++ gap)) ++ '(' :: tail := by rw [same]; simp
  subst regrouped
  refine ⟨⟨before, front ++ (name ++ gap), tail, head, whole, found, ?_⟩, rfl, rfl⟩
  rw [span]
  simp only [Span.behind, List.length_append, List.length_singleton]
  omega

namespace Heading
variable {text : Text} (heading : Heading text)

/-- The name as a table with it would bear it. -/
def name : String := String.ofList (Name.cleanQualified ((heading.head.text? .table text).getD []))

/-- It begins outside quotation marks and parentheses. -/
def IsOutside : Prop := (heading.before.foldl Nesting.step .outside).isTop = true

instance : Decidable heading.IsOutside := inferInstanceAs (Decidable (_ = true))

/-- Its parenthesis closes somewhere in the text. -/
def Closes : Prop := (group? text (heading.before ++ heading.opening).length).isSome = true

instance : Decidable heading.Closes := inferInstanceAs (Decidable (_ = true))

/-- No semicolon in it separates statements, and its parenthesis stands outside quotation marks. -/
structure Unbroken : Prop where
  stretch : current (heading.before ++ heading.opening) = current heading.before ++ heading.opening
  level : ((heading.before ++ heading.opening).foldl Nesting.step .outside).quote = none

/-- It is the first head in its statement. -/
def Leads : Prop := (createTableHead.find? (current heading.before ++ (heading.opening ++ '(' :: heading.tail))).map
  (·.span.start) = some (current heading.before).length

instance : Decidable heading.Leads := inferInstanceAs (Decidable (_ = _))

theorem exists_opening : ∃ c more, isBlank c = false ∧ heading.opening = c :: more := by
  obtain ⟨word, rest, same, _, filled, fits, _⟩ := createTableHead_led heading.found
  obtain ⟨c, others, rfl⟩ := List.exists_cons_of_ne_nil filled
  have letter : isWordCharacter c = true := fits c List.mem_cons_self
  cases opened : heading.opening with
  | nil =>
    rw [opened] at same
    obtain ⟨rfl, _⟩ := List.cons.inj same
    exact absurd letter (by decide)
  | cons d more =>
    rw [opened] at same
    obtain ⟨rfl, _⟩ := List.cons.inj same
    exact ⟨d, more, isBlank_of_isWordCharacter letter, rfl⟩

theorem exists_group (closes : heading.Closes) : ∃ inner later length, heading.tail = inner ++ later ∧
    inner.length = length + 1 ∧ closing? .opened inner = some length := by
  have grouped : group? text (heading.before ++ heading.opening).length =
      (closing? .opened heading.tail).map fun length =>
        (heading.tail.take length, (heading.before ++ heading.opening).length + 1 + length) := by
    rw [← group?_of_opening, List.append_assoc, ← heading.whole]
  unfold Closes at closes
  rw [grouped, Option.isSome_map] at closes
  obtain ⟨length, closed⟩ := Option.isSome_iff_exists.mp closes
  obtain ⟨inner, later, same, long, again⟩ := exists_closing closed
  exact ⟨inner, later, length, same, long, again⟩

/-- The statement of the head holds the whole group. -/
theorem mem_statements {inner later : Text} {length : Nat} (unbroken : heading.Unbroken)
    (same : heading.tail = inner ++ later) (long : inner.length = length + 1)
    (closed : closing? .opened inner = some length) : ∃ more, more <+: later ∧
      trimStart (current heading.before) ++ (heading.opening ++ '(' :: (inner ++ more)) ∈ statements text := by
  obtain ⟨c, rest, solid, opened⟩ := heading.exists_opening
  obtain ⟨before, opening, tail, head, rfl, found, stop⟩ := heading
  obtain ⟨stretch, level⟩ := unbroken
  dsimp only at same stretch level opened ⊢
  subst opened same
  obtain ⟨body, first, ahead, rfl, goes_on⟩ := exists_upcoming_group level closed long later
  -- The parenthesis that closes keeps the group out of what is trimmed.
  have statement : statementAt (before ++ c :: rest) ('(' :: (body ++ [')'] ++ later)) =
      trimStart (current before) ++ (c :: rest ++ '(' :: (body ++ [')'] ++ trimEnd first)) := by
    have regrouped : current before ++ c :: rest ++ '(' :: (body ++ [')'] ++ first) =
        current before ++ c :: (rest ++ '(' :: body ++ ')' :: first) := by simp
    rw [statementAt, stretch, goes_on, regrouped, trim_append solid, trimEnd_append (by decide)]
    simp
  obtain ⟨gap, _, trimmed⟩ := exists_trimEnd first
  refine ⟨trimEnd first, List.IsPrefix.trans ⟨gap, trimmed.symm⟩ ahead, ?_⟩
  rw [← statement, ← List.append_assoc before]
  exact statementAt_mem (by rw [statement]; simp)

/-- In the script and in its statement the head is the same match, moved. -/
theorem exists_alone (leads : heading.Leads) : ∃ alone : Match,
    heading.head = alone.shift heading.before.length ∧ alone.span.start = 0 ∧
      alone.span.stop = heading.opening.length + 1 ∧
        createTableHead.find? (current heading.before ++ (heading.opening ++ '(' :: heading.tail)) =
          some (alone.shift (current heading.before).length) := by
  obtain ⟨first, sought, start⟩ := Option.map_eq_some_iff.mp leads
  have here := matchAt_of_find? sought start
  have found := heading.found
  rw [matchAt_of_outside _ (createTableHead_led.outside found)] at found
  rw [matchAt_of_outside _ (createTableHead_led.outside here)] at here
  obtain ⟨alone, matched, same⟩ := Option.map_eq_some_iff.mp found
  rw [matched, Option.map_some, Option.some.injEq] at here
  subst here
  have stop := heading.stop
  rw [← same] at stop
  simp only [Match.shift, Span.shift, List.length_append] at start stop
  exact ⟨alone, same.symm, by omega, by omega, sought⟩

/-- The first head of a statement and the group behind it make the statement a definition of the name. -/
theorem read_statement {inner more later : Text} {length : Nat} (leads : heading.Leads)
    (same : heading.tail = inner ++ later) (closed : closing? .opened inner = some length) (ahead : more <+: later) :
    ∃ body, TableStatement.read
      (trimStart (current heading.before) ++ (heading.opening ++ '(' :: (inner ++ more))) =
        .definition heading.name body := by
  obtain ⟨alone, head_eq, start, stop, sought⟩ := heading.exists_alone leads
  obtain ⟨cut, rfl⟩ := ahead
  obtain ⟨gap, blank, trimmed⟩ := exists_trimStart (current heading.before)
  have lengths := congrArg List.length trimmed
  have regrouped : current heading.before ++ (heading.opening ++ '(' :: heading.tail) =
      gap ++ (trimStart (current heading.before) ++ (heading.opening ++ '(' :: (inner ++ more))) ++ cut := by
    rw [← List.append_assoc gap, ← trimmed, same]
    simp
  rw [regrouped] at sought
  obtain ⟨inside, again, moved, texts⟩ := find?_of_piece createTableHead_led (by decide) blank sought
    (by simp only [Match.shift, Span.shift, start, List.length_append, List.length_cons] at lengths ⊢; omega)
    (by simp only [Match.shift, Span.shift, stop, List.length_append, List.length_cons] at lengths ⊢; omega)
  have place : inside.span.stop - 1 = (trimStart (current heading.before) ++ heading.opening).length := by
    have stops := congrArg (·.span.stop) moved
    simp only [Match.shift, Span.shift, stop, List.length_append] at stops lengths ⊢
    omega
  have group : group? (trimStart (current heading.before) ++ (heading.opening ++ '(' :: (inner ++ more)))
      (inside.span.stop - 1) = some ((inner ++ more).take length,
        (trimStart (current heading.before) ++ heading.opening).length + 1 + length) := by
    rw [place, ← List.append_assoc, group?_of_opening, closing?_append closed, Option.map_some]
  obtain ⟨written, named⟩ := text?_createTableHead again
  have whole_text : (alone.shift heading.before.length).text? .table text =
      alone.text? .table (heading.opening ++ '(' :: heading.tail) :=
    (congrArg (Match.text? _ .table) heading.whole).trans (Match.text?_shift ..)
  have spelled : heading.head.text? .table text = some written := by
    rw [head_eq, whole_text, ← named, texts, ← regrouped, Match.text?_shift]
  refine ⟨(inner ++ more).take length, (TableStatement.read_of_head again named group).trans ?_⟩
  rw [name, spelled, Option.getD_some]

end Heading

/-- The first head in a statement, with a group that closes somewhere in the script, gives its table or an error
with its name. -/
theorem first_heading_known {script : String} (heading : Heading (normalized script.toList)) (closes : heading.Closes)
    (unbroken : heading.Unbroken) (leads : heading.Leads) : (read script).Knows heading.name := by
  obtain ⟨inner, later, length, same, long, closed⟩ := heading.exists_group closes
  obtain ⟨more, ahead, member⟩ := heading.mem_statements unbroken same long closed
  obtain ⟨body, defines⟩ := heading.read_statement leads same closed ahead
  exact (Schema.grows_read script).knows (Schema.knows_readTables _ member defines)

/-- What stands in front of the head, or is quoted in its body, is no matter. -/
theorem first_heading_known_amid :
    let script := "SELECT ';'; BEGIN CREATE TABLE [dbo].[t] (a int, b text DEFAULT ');') ENGINE=x; GO"
    ∃ heading : Heading (normalized script.toList), heading.name = "t" ∧ heading.Closes ∧ heading.Unbroken ∧
      heading.Leads ∧ (read script).Knows "t" := by
  intro script
  let heading : Heading (normalized script.toList) :=
    ⟨"SELECT ';'; BEGIN ".toList, "CREATE TABLE [dbo].[t] ".toList, "a int, b text DEFAULT ');') ENGINE=x; GO".toList,
      ⟨⟨18, 42⟩, [(.table, ⟨31, 40⟩)]⟩, by decide +kernel, by decide +kernel, by decide +kernel⟩
  have named : heading.name = "t" := by decide +kernel
  have closes : heading.Closes := by decide +kernel
  have unbroken : heading.Unbroken := ⟨by decide +kernel, by decide +kernel⟩
  have leads : heading.Leads := by decide +kernel
  exact ⟨heading, named, closes, unbroken, leads, named ▸ first_heading_known heading closes unbroken leads⟩

/-- The promise that no definition is passed over in silence, whatever separates it from the others. -/
def KnowsHeadings (script : String) : Prop :=
  ∀ heading : Heading (normalized script.toList), heading.IsOutside → heading.Closes →
    (read script).Knows heading.name

/-- It is not kept for a second head in one statement, nor for a head that is broken up: by a semicolon in its
name, or by a mark in its name that leaves a quotation open. -/
theorem headings_passed_over :
    ¬KnowsHeadings "CREATE TABLE a (x int) CREATE TABLE b (y int)" ∧
      ¬KnowsHeadings "CREATE TABLE [a;b] (x int)" ∧
        ¬KnowsHeadings "CREATE TABLE [it's] (x text DEFAULT 'a;b')" := by
  refine ⟨fun promised => ?_, fun promised => ?_, fun promised => ?_⟩
  · have known := promised ⟨"CREATE TABLE a (x int) ".toList, "CREATE TABLE b ".toList, "y int)".toList,
      ⟨⟨23, 39⟩, [(.table, ⟨36, 37⟩)]⟩, by decide +kernel, by decide +kernel, by decide +kernel⟩
      (by decide +kernel) (by decide +kernel)
    exact absurd known (by decide +kernel)
  · have known := promised ⟨[], "CREATE TABLE [a;b] ".toList, "x int)".toList,
      ⟨⟨0, 20⟩, [(.table, ⟨13, 18⟩)]⟩, by decide +kernel, by decide +kernel, by decide +kernel⟩
      (by decide +kernel) (by decide +kernel)
    exact absurd known (by decide +kernel)
  · have known := promised ⟨[], "CREATE TABLE [it's] ".toList, "x text DEFAULT 'a;b')".toList,
      ⟨⟨0, 21⟩, [(.table, ⟨13, 19⟩)]⟩, by decide +kernel, by decide +kernel, by decide +kernel⟩
      (by decide +kernel) (by decide +kernel)
    exact absurd known (by decide +kernel)

end Script
end SchemaAtlas
