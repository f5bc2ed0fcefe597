import SchemaAtlas.Proofs.Script.Splitting
/-!
Groups of parentheses in statements. A semicolon that ends a statement stands at depth zero, so every parenthesis
that opens in the statement closes in it, where the depth of the split falls back. What stands in a group, and
each clause of it, opens and closes its own quotation marks and parentheses.
-/
namespace SchemaAtlas.Script
open Text

namespace Nesting
variable {state other : Nesting} {c : Char} {front text rest : Text}

/-- What a character adds to the depth, if no closing parenthesis is passed over. -/
def weight (state : Nesting) (c : Char) : Int :=
  if (state.nextQuote c).isSome then 0 else if c == '(' then 1 else if c == ')' then -1 else 0

/-- How many more parentheses a text opens than it closes, outside quotation marks. -/
def excess (state : Nesting) : Text → Int
  | [] => 0
  | c :: rest => state.weight c + (state.step c).excess rest

/-- A scan that begins with the state ends outside quotation marks and at depth zero, and would not go below zero
on its way. -/
structure Balances (state : Nesting) (text : Text) : Prop where
  unquoted : (text.foldl step state).quote = none
  floor : ∀ front, front <+: text → 0 ≤ state.depth + state.excess front
  level : state.depth + state.excess text = 0

theorem depth_step (enough : 0 ≤ state.depth + state.weight c) :
    ((state.step c).depth : Int) = state.depth + state.weight c := by
  unfold weight at enough ⊢
  simp only [step]
  split
  · omega
  · split
    · omega
    · split
      · next other closes => simp_all; omega
      · omega

/-- No parenthesis is passed over as long as the depth would not go below zero. -/
theorem depth_foldl (floor : ∀ front, front <+: text → 0 ≤ state.depth + state.excess front) :
    ((text.foldl step state).depth : Int) = state.depth + state.excess text := by
  induction text generalizing state with
  | nil => simp [excess]
  | cons c text ih =>
    have here : ((state.step c).depth : Int) = state.depth + state.weight c :=
      depth_step (by simpa [excess] using floor [c] (by simp))
    rw [List.foldl_cons, ih, here, excess, Int.add_assoc]
    intro front ahead
    have whole := floor (c :: front) (List.cons_prefix_cons.mpr ⟨rfl, ahead⟩)
    rw [excess] at whole
    omega

theorem excess_append (state : Nesting) (front rest : Text) :
    state.excess (front ++ rest) = state.excess front + (front.foldl step state).excess rest := by
  induction front generalizing state with
  | nil => simp [excess]
  | cons c front ih => rw [List.cons_append, excess, excess, ih, List.foldl_cons, Int.add_assoc]

/-- States that a scan goes on from in the same way, but for the depth. -/
def Alike (state other : Nesting) : Prop :=
  state.quote = other.quote ∧ (state.last != some '\\') = (other.last != some '\\')

theorem alike_outside {last : Char} (unquoted : state.quote = none) (plain : last ≠ '\\') :
    ({ state with last := some last } : Nesting).Alike outside :=
  ⟨unquoted, bne_iff_ne.mpr fun same => plain (Option.some.inj same)⟩

theorem Alike.nextQuote (alike : state.Alike other) (c : Char) : state.nextQuote c = other.nextQuote c := by
  rw [Nesting.nextQuote, Nesting.nextQuote, alike.1, alike.2]

theorem Alike.step (alike : state.Alike other) (c : Char) : (state.step c).Alike (other.step c) :=
  ⟨alike.nextQuote c, rfl⟩

theorem Alike.quote_foldl (alike : state.Alike other) (text : Text) :
    (text.foldl Nesting.step state).quote = (text.foldl Nesting.step other).quote := by
  induction text generalizing state other with
  | nil => exact alike.1
  | cons c text ih => exact ih (alike.step c)

theorem Alike.excess (alike : state.Alike other) (text : Text) : state.excess text = other.excess text := by
  induction text generalizing state other with
  | nil => rfl
  | cons c text ih => rw [Nesting.excess, Nesting.excess, ih (alike.step c), weight, weight, alike.nextQuote]

theorem Alike.balances (alike : state.Alike other) (same : state.depth = other.depth)
    (balances : state.Balances text) : other.Balances text := by
  obtain ⟨unquoted, floor, level⟩ := balances
  refine ⟨alike.quote_foldl text ▸ unquoted, fun front ahead => ?_, ?_⟩
  · rw [← same, ← alike.excess]
    exact floor front ahead
  · rw [← same, ← alike.excess]
    exact level

theorem balances_nil_iff : state.Balances [] ↔ state.isTop = true := by
  constructor
  · rintro ⟨unquoted, _, level⟩
    have top : state.depth = 0 := by simpa [excess] using level
    rw [isTop, Bool.and_eq_true, Option.isNone_iff_eq_none, beq_iff_eq]
    exact ⟨unquoted, top⟩
  · intro top
    rw [eq_of_isTop top]
    refine ⟨rfl, fun front ahead => ?_, by simp [excess]⟩
    rw [List.prefix_nil.mp ahead]
    simp [excess]

theorem balances_cons_iff :
    state.Balances (c :: text) ↔ 0 ≤ state.depth + state.weight c ∧ (state.step c).Balances text := by
  constructor
  · rintro ⟨unquoted, floor, level⟩
    have enough : 0 ≤ state.depth + state.weight c := by simpa [excess] using floor [c] (by simp)
    have next := depth_step enough
    rw [excess] at level
    refine ⟨enough, unquoted, fun front ahead => ?_, by omega⟩
    have whole := floor (c :: front) (List.cons_prefix_cons.mpr ⟨rfl, ahead⟩)
    rw [excess] at whole
    omega
  · rintro ⟨enough, unquoted, floor, level⟩
    have next := depth_step enough
    refine ⟨unquoted, fun front ahead => ?_, by rw [excess]; omega⟩
    cases front with
    | nil => simp [excess]
    | cons d front =>
      obtain ⟨rfl, shorter⟩ := List.cons_prefix_cons.mp ahead
      have later := floor front shorter
      rw [excess]
      omega

section Level

/-- Characters that are neither marks nor parentheses change nothing. -/
theorem step_of_isLevel (level : isLevel c = true) (state : Nesting) :
    state.step c = { state with last := some c } ∧ state.weight c = 0 := by
  simp only [isLevel, Bool.and_eq_true, bne_iff_ne, ne_eq, Bool.not_eq_true'] at level
  obtain ⟨⟨unquoted, opening⟩, closing⟩ := level
  have same : state.nextQuote c = state.quote := by simp [nextQuote, unquoted]
  simp [step, weight, same, opening, closing]

theorem foldl_of_isLevel (level : ∀ c ∈ text, isLevel c = true) (state : Nesting) :
    (text.foldl step state).quote = state.quote ∧ (text.foldl step state).depth = state.depth ∧
      state.excess text = 0 := by
  induction text generalizing state with
  | nil => exact ⟨rfl, rfl, rfl⟩
  | cons c text ih =>
    obtain ⟨here, later⟩ := List.forall_mem_cons.mp level
    obtain ⟨next, weightless⟩ := step_of_isLevel here state
    obtain ⟨quote, depth, excess_eq⟩ := ih later (state.step c)
    rw [List.foldl_cons, excess, excess_eq, quote, depth, weightless, next]
    exact ⟨rfl, rfl, rfl⟩

/-- A gap in front or behind is no matter. -/
theorem Balances.of_gaps {gap tail : Text} (blank : ∀ c ∈ gap, isBlank c = true)
    (tail_blank : ∀ c ∈ tail, isBlank c = true) (balances : outside.Balances (gap ++ (text ++ tail))) :
    outside.Balances text := by
  induction gap with
  | nil =>
    have level :=
      foldl_of_isLevel (fun c member => isLevel_of_isBlank (tail_blank c member)) (text.foldl step outside)
    obtain ⟨unquoted, floor, whole⟩ := balances
    rw [List.nil_append, List.foldl_append, level.1] at unquoted
    rw [List.nil_append, excess_append, level.2.2, Int.add_zero] at whole
    exact ⟨unquoted, fun front ahead => floor front (ahead.trans (List.prefix_append text tail)), whole⟩
  | cons c gap ih =>
    obtain ⟨here, later⟩ := List.forall_mem_cons.mp blank
    have next := (step_of_isLevel (isLevel_of_isBlank here) outside).1
    have alike : (outside.step c).Alike outside :=
      next ▸ alike_outside rfl (by rintro rfl; exact absurd here (by decide))
    exact ih later (alike.balances (by rw [next]) (balances_cons_iff.mp balances).2)

end Level

end Nesting

section Pieces
variable {state : Nesting} {text first : Text} {others : List Text}

/-- The pieces between separators balance if the whole does. The first one goes on where the scan stands, and each
other one is behind a separator, as at the beginning of a text. -/
theorem balances_pieces {separator : Char} (level : isLevel separator = true) (plain : separator ≠ '\\')
    (balances : state.Balances text) (split : pieces separator state text = first :: others) :
    state.Balances first ∧ ∀ piece ∈ others, Nesting.outside.Balances piece := by
  induction text generalizing state first others with
  | nil =>
    obtain ⟨rfl, rfl⟩ := List.cons.inj split
    exact ⟨balances, fun _ member => absurd member List.not_mem_nil⟩
  | cons c text ih =>
    obtain ⟨enough, later⟩ := Nesting.balances_cons_iff.mp balances
    unfold pieces at split
    dsimp only at split
    split at split
    · next separates =>
      obtain ⟨same, top⟩ := Bool.and_eq_true_iff.mp separates
      obtain rfl := beq_iff_eq.mp same
      obtain ⟨rfl, rfl⟩ := List.cons.inj split
      obtain ⟨first, others, goes_on, _⟩ := exists_pieces_cons c (state.step c) text
      obtain ⟨head, rest⟩ := ih later goes_on
      have next := (Nesting.step_of_isLevel level state).1
      rw [next] at top head
      have top_here : state.isTop = true := top
      have here := Nesting.eq_of_isTop top_here
      have alike : ({ state with last := some c } : Nesting).Alike .outside :=
        Nesting.alike_outside (by rw [here]) plain
      refine ⟨Nesting.balances_nil_iff.mpr top_here, fun piece member => ?_⟩
      rw [goes_on] at member
      rcases List.mem_cons.mp member with rfl | inside
      · exact alike.balances (by rw [here]; rfl) head
      · exact rest piece inside
    · obtain ⟨head, rest, goes_on, _⟩ := exists_pieces_cons separator (state.step c) text
      rw [goes_on] at split
      obtain ⟨rfl, rfl⟩ := List.cons.inj split
      obtain ⟨here, elsewhere⟩ := ih later goes_on
      exact ⟨Nesting.balances_cons_iff.mpr ⟨enough, here⟩, elsewhere⟩

/-- The clauses of a body that balances balance. -/
theorem balances_of_mem_clauses {body clause : Text} (balances : Nesting.outside.Balances body)
    (member : clause ∈ clauses body) : Nesting.outside.Balances clause := by
  unfold clauses at member
  split at member
  · cases member
  · obtain ⟨piece, inside, rfl⟩ := List.mem_map.mp member
    obtain ⟨first, others, split, _⟩ := exists_pieces_cons ',' .outside body
    obtain ⟨head, rest⟩ := balances_pieces (by decide) (by decide) balances split
    obtain ⟨gap, tail, blank, tail_blank, same⟩ := exists_trim piece
    have whole : Nesting.outside.Balances piece := by
      rw [split] at inside
      rcases List.mem_cons.mp inside with rfl | later
      · exact head
      · exact rest piece later
    rw [same] at whole
    exact whole.of_gaps blank tail_blank

end Pieces
section Group
variable {state : Nesting} {text rest : Text} {length : Nat}

theorem unquoted_of_out (within : 0 < state.depth) (out : (state.step ')').depth = 0) :
    state.quote = none ∧ state.depth = 1 := by
  obtain ⟨quote, depth, last⟩ := state
  cases quote with
  | none =>
    obtain ⟨level, rfl⟩ := Nat.exists_eq_succ_of_ne_zero (Nat.ne_of_gt within)
    rw [step_closing] at out
    obtain rfl : level = 0 := out
    exact ⟨rfl, rfl⟩
  | some mark =>
    have unmarked : isQuotationMark ')' = false := by decide
    simp only [Nesting.step, Nesting.nextQuote, unmarked, Bool.false_and, Bool.false_eq_true, ↓reduceIte,
      Option.isSome_some] at out
    exact absurd out (Nat.ne_of_gt within)

theorem weight_ge (state : Nesting) (c : Char) : -1 ≤ state.weight c := by
  unfold Nesting.weight
  split
  · omega
  · split
    · omega
    · split <;> omega

/-- In front of the parenthesis that closes, the depth is nowhere back at zero. -/
theorem exists_inner (within : 0 < state.depth) (closes : closing? state text = some length) :
    ∃ inner tail, text = inner ++ ')' :: tail ∧ inner.length = length ∧
      (inner.foldl Nesting.step state).quote = none ∧
      (∀ front, front <+: inner → 0 < state.depth + state.excess front) ∧ state.depth + state.excess inner = 1 := by
  induction text generalizing state length with
  | nil => cases closes
  | cons c text ih =>
    unfold closing? at closes
    dsimp only at closes
    split at closes
    · next out =>
      obtain rfl := Option.some.inj closes
      obtain rfl := Nesting.closes_of_depth within (beq_iff_eq.mp out)
      obtain ⟨unquoted, one⟩ := unquoted_of_out within (beq_iff_eq.mp out)
      refine ⟨[], text, rfl, rfl, unquoted, fun front ahead => ?_, by rw [one]; rfl⟩
      rw [List.prefix_nil.mp ahead, one]
      simp [Nesting.excess]
    · next stays =>
      obtain ⟨before, found, rfl⟩ := Option.map_eq_some_iff.mp closes
      have inside : 0 < (state.step c).depth := Nat.pos_of_ne_zero fun out => stays (beq_iff_eq.mpr out)
      have light := weight_ge state c
      have next : ((state.step c).depth : Int) = state.depth + state.weight c := Nesting.depth_step (by omega)
      obtain ⟨inner, tail, rfl, rfl, unquoted, floor, level⟩ := ih inside found
      refine ⟨c :: inner, tail, rfl, rfl, unquoted, fun front ahead => ?_, by rw [Nesting.excess]; omega⟩
      cases front with
      | nil => simpa [Nesting.excess] using within
      | cons d front =>
        obtain ⟨rfl, shorter⟩ := List.cons_prefix_cons.mp ahead
        have later := floor front shorter
        rw [Nesting.excess]
        omega

/-- A group that does not close keeps the depth above what it was in front. -/
theorem depth_of_unclosed (within : 0 < state.depth) (unclosed : closing? state text = none) (count : Nat) :
    count < (text.foldl Nesting.step (state.deeper count)).depth := by
  induction text generalizing state with
  | nil =>
    simp only [List.foldl_nil, Nesting.deeper]
    omega
  | cons c text ih =>
    unfold closing? at unclosed
    dsimp only at unclosed
    split at unclosed
    · cases unclosed
    · next stays =>
      have inside : 0 < (state.step c).depth := Nat.pos_of_ne_zero fun out => stays (beq_iff_eq.mpr out)
      rw [List.foldl_cons, Nesting.step_deeper within]
      exact ih inside (Option.map_eq_none_iff.mp unclosed)

theorem alike_deeper (state : Nesting) (count : Nat) : (state.deeper count).Alike state := ⟨rfl, rfl⟩

/-- Within a group, what stands around it only adds to the depth. -/
theorem depth_foldl_deeper (floor : ∀ front, front <+: text → 0 < state.depth + state.excess front) (count : Nat) :
    ((text.foldl Nesting.step (state.deeper count)).depth : Int) = state.depth + count + state.excess text := by
  have alike := alike_deeper state count
  have start : ((state.deeper count).depth : Int) = state.depth + count := by simp [Nesting.deeper]
  rw [Nesting.depth_foldl, alike.excess, start]
  intro front ahead
  have high := floor front ahead
  rw [alike.excess, start]
  omega

/-- What stands in a group balances. -/
theorem balances_of_opened (unquoted : (text.foldl Nesting.step .opened).quote = none)
    (floor : ∀ front, front <+: text → 0 < Nesting.opened.depth + Nesting.opened.excess front)
    (level : Nesting.opened.depth + Nesting.opened.excess text = 1) : Nesting.outside.Balances text := by
  have alike : Nesting.opened.Alike Nesting.outside := ⟨rfl, rfl⟩
  have one : Nesting.opened.depth = 1 := rfl
  have bottom : Nesting.outside.depth = 0 := rfl
  rw [one] at floor level
  refine ⟨alike.quote_foldl text ▸ unquoted, fun front ahead => ?_, ?_⟩
  · have high := floor front ahead
    rw [← alike.excess, bottom]
    omega
  · rw [← alike.excess, bottom]
    omega

theorem depth_step_closing (unquoted : state.quote = none) {depth : Nat} (level : state.depth = depth + 1) :
    (state.step ')').depth = depth := by
  obtain ⟨_, _, last⟩ := state
  obtain rfl := unquoted
  obtain rfl := level
  rw [step_closing]

/-- A parenthesis behind which the depth falls back opens a group. The group ends where the depth first is what it
was in front of the parenthesis, and what stands in it balances. -/
theorem exists_group_of_falls (unquoted : state.quote = none)
    (falls : (rest.foldl Nesting.step (state.step '(')).depth ≤ state.depth) :
    ∃ inner tail, rest = inner ++ ')' :: tail ∧ closing? .opened rest = some inner.length ∧
      (∀ part, part <+: inner → state.depth < (part.foldl Nesting.step (state.step '(')).depth) ∧
      ((inner ++ [')']).foldl Nesting.step (state.step '(')).depth = state.depth ∧
      Nesting.outside.Balances inner := by
  have within : 0 < Nesting.opened.depth := by decide
  rw [Nesting.step_opening_deeper unquoted] at falls ⊢
  cases closes : closing? .opened rest with
  | none => exact absurd falls (Nat.not_le.mpr (depth_of_unclosed within closes state.depth))
  | some length =>
    obtain ⟨inner, tail, rfl, rfl, closed, floor, level⟩ := exists_inner within closes
    refine ⟨inner, tail, rfl, rfl, fun part ahead => ?_, ?_, balances_of_opened closed floor level⟩
    · have high := floor part ahead
      have here := depth_foldl_deeper (fun front shorter => floor front (shorter.trans ahead)) state.depth
      omega
    · have here := depth_foldl_deeper floor state.depth
      rw [← (alike_deeper .opened state.depth).quote_foldl] at closed
      rw [List.foldl_append]
      exact depth_step_closing closed (by omega)

end Group
section Cut
variable {separator : Char} {state : Nesting} {text piece : Text} {earlier later : List Text}

/-- A piece that is not the last one ends where the scan first leaves it at a separator. -/
theorem exists_first_cut (split : pieces separator state text = piece :: later) (more : later ≠ []) :
    ∃ behind, text = piece ++ separator :: behind ∧ pieces separator state piece = [piece] ∧
      (piece.foldl Nesting.step state).step separator = ⟨none, 0, some separator⟩ ∧
      pieces separator ⟨none, 0, some separator⟩ behind = later := by
  induction text generalizing state piece with
  | nil => exact absurd (List.cons.inj split).2.symm more
  | cons c text ih =>
    unfold pieces at split
    dsimp only at split
    split at split
    · next separates =>
      obtain ⟨same, top⟩ := Bool.and_eq_true_iff.mp separates
      obtain rfl := beq_iff_eq.mp same
      obtain ⟨rfl, rfl⟩ := List.cons.inj split
      have cut : state.step c = ⟨none, 0, some c⟩ := Nesting.eq_of_isTop top
      exact ⟨text, rfl, rfl, cut, by rw [cut]⟩
    · next stays =>
      obtain ⟨first, others, found, _⟩ := exists_pieces_cons separator (state.step c) text
      rw [found] at split
      obtain ⟨rfl, rfl⟩ := List.cons.inj split
      obtain ⟨behind, rfl, single, cut, goes_on⟩ := ih found
      refine ⟨behind, rfl, ?_, cut, goes_on⟩
      rw [pieces_cons (Bool.eq_false_iff.mpr stays), single]
      rfl

theorem pieces_of_cut (cut : state.step separator = ⟨none, 0, some separator⟩) (rest : Text) :
    pieces separator state (separator :: rest) = [] :: pieces separator ⟨none, 0, some separator⟩ rest := by
  rw [pieces, cut]
  simp [Nesting.isTop]

/-- Where a piece that is not the last one stands in the text: at the beginning or behind a separator, and in front
of a separator. -/
theorem exists_cut (split : pieces separator state text = earlier ++ piece :: later) (more : later ≠ []) :
    ∃ before behind, text = before ++ (piece ++ separator :: behind) ∧
      pieces separator state before = earlier ++ [[]] ∧
      (before = [] ∨ before.foldl Nesting.step state = ⟨none, 0, some separator⟩) ∧
      (before ++ (piece ++ [separator])).foldl Nesting.step state = ⟨none, 0, some separator⟩ ∧
      pieces separator ⟨none, 0, some separator⟩ behind = later := by
  induction earlier generalizing state text with
  | nil =>
    obtain ⟨behind, rfl, _, cut, goes_on⟩ := exists_first_cut split more
    refine ⟨[], behind, rfl, rfl, Or.inl rfl, ?_, goes_on⟩
    rw [List.nil_append, List.foldl_append]
    exact cut
  | cons first others ih =>
    obtain ⟨rest, rfl, single, cut, goes_on⟩ := exists_first_cut split (by simp)
    obtain ⟨before, behind, rfl, ahead, place, stop, goes_on⟩ := ih goes_on
    have scanned (more : Text) : (first ++ separator :: more).foldl Nesting.step state =
        more.foldl Nesting.step ⟨none, 0, some separator⟩ := by
      rw [List.foldl_append, List.foldl_cons, cut]
    refine ⟨first ++ separator :: before, behind, by simp, ?_, Or.inr ?_, ?_, goes_on⟩
    · have alone : pieces separator state first = [] ++ [first] := single
      rw [pieces_of_append alone (pieces_of_cut cut before), ahead, List.append_nil]
      rfl
    · rw [scanned]
      rcases place with rfl | place
      · rfl
      · exact place
    · rw [List.append_assoc, List.cons_append, scanned, stop]

theorem pieces_gap {gap : Text} (blank : ∀ c ∈ gap, isBlank c = true)
    (solid : isBlank separator = false) (state : Nesting) : pieces separator state gap = [gap] := by
  have whole : pieces separator state (gap ++ []) = _ := pieces_append (not_mem_of_blank blank solid) state
  rw [List.append_nil, pieces, foldr_extendFirst, List.append_nil] at whole
  exact whole

end Cut

section Statements
variable {text statement : Text} {earlier later : List Text}

theorem isTop_foldl_of_isLevel {state : Nesting} (level : ∀ c ∈ text, isLevel c = true) :
    (text.foldl Nesting.step state).isTop = state.isTop := by
  obtain ⟨quote, depth, _⟩ := Nesting.foldl_of_isLevel level state
  rw [Nesting.isTop, Nesting.isTop, quote, depth]

/-- The piece that a statement is trimmed from. -/
theorem exists_piece (split : statements text = earlier ++ statement :: later) : ∃ front piece back,
    pieces ';' .outside text = front ++ piece :: back ∧ Text.trim piece = statement ∧
      (front.map Text.trim).filter (· != []) = earlier ∧ (back.map Text.trim).filter (· != []) = later := by
  obtain ⟨first, rest, whole, rfl, behind⟩ := List.filter_eq_append_iff.mp split
  obtain ⟨empty, others, rfl, dropped, filled, rfl⟩ := List.filter_eq_cons_iff.mp behind
  rw [splitTop, ← List.append_assoc] at whole
  obtain ⟨front, back, parted, fronts, backs⟩ := List.map_eq_append_iff.mp whole
  obtain ⟨piece, back, rfl, trimmed, rfl⟩ := List.map_eq_cons_iff.mp backs
  refine ⟨front, piece, back, parted, trimmed, ?_, rfl⟩
  rw [fronts, List.filter_append, List.filter_eq_nil_iff.mpr dropped, List.append_nil]

theorem statements_before_gap {before gap : Text} (ahead : pieces ';' .outside before = earlier ++ [[]])
    (blank : ∀ c ∈ gap, isBlank c = true) :
    statements (before ++ gap) = (earlier.map Text.trim).filter (· != []) := by
  have whole := pieces_of_append ahead (pieces_gap blank (show isBlank ';' = false by decide) _)
  rw [statements, splitTop, whole, List.map_append, List.filter_append]
  simp [trim_of_blank (List.all_eq_true.mpr blank)]

theorem statements_behind_gap {gap behind : Text} (blank : ∀ c ∈ gap, isBlank c = true)
    (goes_on : pieces ';' ⟨none, 0, some ';'⟩ behind = later) :
    statements (gap ++ ';' :: behind) = (later.map Text.trim).filter (· != []) := by
  have outside : (gap.foldl Nesting.step .outside).isTop = true :=
    isTop_foldl_of_isLevel fun c member => isLevel_of_isBlank (blank c member)
  have cut : (gap.foldl Nesting.step .outside).step ';' = ⟨none, 0, some ';'⟩ := by
    rw [Nesting.eq_of_isTop outside, step_level (by decide)]
  have single : pieces ';' .outside gap = [] ++ [gap] := pieces_gap blank (by decide) .outside
  have whole := pieces_of_append single (pieces_of_cut cut behind)
  rw [statements, splitTop, whole, goes_on, List.nil_append, List.append_nil, List.map_cons, List.filter_cons_of_neg]
  simp [trim_of_blank (List.all_eq_true.mpr blank)]

/-- Where a statement that is not the last one stands in the script. The scan comes to it outside quotation marks and
parentheses, and leaves it so. -/
theorem exists_place (split : statements text = earlier ++ statement :: later) (more : later ≠ []) :
    ∃ before behind, text = before ++ (statement ++ behind) ∧ statements before = earlier ∧
      statements behind = later ∧ (before.foldl Nesting.step .outside).isTop = true ∧
      (statement.foldl Nesting.step (before.foldl Nesting.step .outside)).isTop = true := by
  obtain ⟨front, piece, back, parted, rfl, rfl, rfl⟩ := exists_piece split
  have filled : back ≠ [] := by
    rintro rfl
    exact more rfl
  obtain ⟨before, behind, rfl, ahead, place, stop, goes_on⟩ := exists_cut parted filled
  obtain ⟨gap, tail, blank, tail_blank, same⟩ := exists_trim piece
  have level : ∀ c ∈ gap, isLevel c = true := fun c member => isLevel_of_isBlank (blank c member)
  have top : (before.foldl Nesting.step .outside).isTop = true := by
    rcases place with rfl | place
    · rfl
    · rw [place]
      rfl
  refine ⟨before ++ gap, tail ++ ';' :: behind, ?_, statements_before_gap ahead blank,
    statements_behind_gap tail_blank goes_on, ?_, ?_⟩
  · nth_rewrite 1 [same]
    simp
  · rw [List.foldl_append, isTop_foldl_of_isLevel level, top]
  · have closing : ∀ c ∈ tail ++ [';'], isLevel c = true := by
      intro c member
      rcases List.mem_append.mp member with inside | last
      · exact isLevel_of_isBlank (tail_blank c inside)
      · rw [List.mem_singleton.mp last]
        decide
    have regrouped : before ++ (piece ++ [';']) = before ++ gap ++ (Text.trim piece ++ (tail ++ [';'])) := by
      nth_rewrite 1 [same]
      simp
    rw [← isTop_foldl_of_isLevel closing, ← List.foldl_append, ← List.foldl_append, ← regrouped, stop]
    rfl

/-- Where the scan of a script stands behind its beginning. -/
def standing (text : Text) : Nesting := text.foldl Nesting.step .outside

theorem standing_cons (front : Text) (c : Char) (part : Text) :
    standing (front ++ c :: part) = part.foldl Nesting.step ((standing front).step c) := by
  rw [standing, List.foldl_append]
  rfl

/-- Every parenthesis of the statement that the scan of the script comes to outside quotation marks opens a group. It
closes in the statement, where the depth is first what it was in front of the parenthesis, and its clauses balance. -/
def ClosesGroups (before statement : Text) : Prop :=
  ∀ front rest, statement = front ++ '(' :: rest → (standing (before ++ front)).quote = none →
    ∃ inner tail, rest = inner ++ ')' :: tail ∧
      group? statement front.length = some (inner, front.length + 1 + inner.length) ∧
      (∀ part, part <+: inner →
        (standing (before ++ front)).depth < (standing (before ++ front ++ '(' :: part)).depth) ∧
      (standing (before ++ front ++ '(' :: (inner ++ [')']))).depth = (standing (before ++ front)).depth ∧
      ∀ clause ∈ clauses inner, Nesting.outside.Balances clause

/-- Only in the last statement can a parenthesis stay open. -/
theorem groups_close (split : statements text = earlier ++ statement :: later) (more : later ≠ []) :
    ∃ before behind, text = before ++ (statement ++ behind) ∧ statements before = earlier ∧
      statements behind = later ∧ (standing before).isTop = true ∧ ClosesGroups before statement := by
  obtain ⟨before, behind, whole, fronts, backs, top, level⟩ := exists_place split more
  refine ⟨before, behind, whole, fronts, backs, top, ?_⟩
  rintro front rest rfl unquoted
  have falls : (rest.foldl Nesting.step ((standing (before ++ front)).step '(')).depth ≤
      (standing (before ++ front)).depth := by
    have bottom := congrArg Nesting.depth (Nesting.eq_of_isTop level)
    rw [← standing_cons, standing, List.append_assoc, List.foldl_append, bottom]
    exact Nat.zero_le _
  obtain ⟨inner, tail, rfl, closes, above, back, balances⟩ := exists_group_of_falls unquoted falls
  refine ⟨inner, tail, rfl, ?_, fun part ahead => ?_, ?_, fun clause member =>
    balances_of_mem_clauses balances member⟩
  · rw [group?_of_opening, closes, Option.map_some, List.take_left]
  · rw [standing_cons]
    exact above part ahead
  · rw [standing_cons, back]

/-- A closing parenthesis too many in front, and one between quotation marks. -/
theorem groups_close_amid :
    let text := "x); CREATE TABLE t (a text DEFAULT ')', b int) y; z".toList
    let statement := "CREATE TABLE t (a text DEFAULT ')', b int) y".toList
    statements text = ["x)".toList] ++ statement :: ["z".toList] ∧ ["z".toList] ≠ [] ∧
      ∃ before behind, text = before ++ (statement ++ behind) ∧ statements before = ["x)".toList] ∧
        statements behind = ["z".toList] ∧ (standing before).isTop = true ∧ ClosesGroups before statement := by
  intro text statement
  have split : statements text = ["x)".toList] ++ statement :: ["z".toList] := by decide +kernel
  have more : ["z".toList] ≠ [] := by decide
  exact ⟨split, more, groups_close split more⟩

end Statements
end SchemaAtlas.Script
