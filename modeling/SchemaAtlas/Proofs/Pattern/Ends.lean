import SchemaAtlas.Proofs.Pattern.Search
/-!
The ends of a trial: all places where a pattern can stop, with the parts that it has named by then, in the
order in which they are tried. A trial goes on from the first end that what follows accepts. A text that is
cut off behind a place keeps the ends before the cut, in their order, and loses the others.
-/
namespace SchemaAtlas

/-- The same place, with more text behind what follows. -/
def Cursor.extend (tail : Text) (place : Cursor) : Cursor := { place with rest := place.rest ++ tail }

namespace Pattern
open Cursor

/-- A place where a trial can stop, and the parts that were named on the way. -/
abbrev Stop := Cursor × List (Part × Span)

def ends : Pattern → Cursor → List (Part × Span) → List Stop
  | nothing, place, parts => [(place, parts)]
  | one test, place, parts =>
    match place.rest with
    | [] => []
    | c :: rest => if test c then [(⟨place.offset + 1, c, rest⟩, parts)] else []
  | many test, place, parts => (reach test place.offset place.last [] place.rest).map (·, parts)
  | edge, place, parts => if place.atEdge then [(place, parts)] else []
  | ending, place, parts => if place.atEnd then [(place, parts)] else []
  | remainder, place, parts => [(place.finish, parts)]
  | followed first second, place, parts => (ends first place parts).flatMap fun stop => ends second stop.1 stop.2
  | either first second, place, parts => ends first place parts ++ ends second place parts
  | optional inner, place, parts => ends inner place parts ++ [(place, parts)]
  | named part inner, place, parts =>
    (ends inner place parts).map fun stop => (stop.1, (part, ⟨place.offset, stop.1.offset⟩) :: stop.2)

section Run
variable {α : Type} {before rest : Text} {parts : List (Part × Span)}
  {next other : Cursor → List (Part × Span) → Option α}

theorem findSome?_flatMap {β γ : Type} (items : List β) (each : β → List γ) (give : γ → Option α) :
    (items.flatMap each).findSome? give = items.findSome? fun item => (each item).findSome? give := by
  induction items with
  | nil => rfl
  | cons item rest ih =>
    rw [List.flatMap_cons, List.findSome?_append, List.findSome?_cons, ih]
    cases (each item).findSome? give <;> rfl

theorem run_eq_findSome? (pattern : Pattern) (place : Cursor) (parts : List (Part × Span))
    (next : Cursor → List (Part × Span) → Option α) :
    run pattern place parts next = (pattern.ends place parts).findSome? fun stop => next stop.1 stop.2 := by
  induction pattern generalizing place parts next with
  | nothing => simp [run, ends]
  | one test =>
    simp only [run, ends]
    cases place.rest with
    | nil => rfl
    | cons c rest =>
      dsimp only
      split <;> simp
  | many test => simp only [run, ends, List.findSome?_map, Function.comp_def]
  | edge =>
    simp only [run, ends]
    split <;> simp
  | ending =>
    simp only [run, ends]
    split <;> simp
  | remainder => simp [run, ends]
  | followed first second first_ends second_ends =>
    simp only [run, ends, first_ends, second_ends, findSome?_flatMap]
  | either first second first_ends second_ends =>
    simp only [run, ends, first_ends, second_ends, List.findSome?_append]
  | optional inner inner_ends => simp [run, ends, inner_ends, List.findSome?_append]
  | named part inner inner_ends => simp only [run, ends, inner_ends, List.findSome?_map, Function.comp_def]

theorem matchAt_eq_head? (pattern : Pattern) (place : Cursor) : pattern.matchAt place =
    (pattern.ends place []).head?.map fun stop => ⟨⟨place.offset, stop.1.offset⟩, stop.2⟩ := by
  rw [matchAt, run_eq_findSome?]
  cases pattern.ends place [] <;> rfl

/-- Every end lies behind a stretch of the text. -/
theorem mem_ends {pattern : Pattern} {stop : Stop} (member : stop ∈ pattern.ends (after before rest) parts) :
    ∃ text tail, rest = text ++ tail ∧ stop.1 = after (before ++ text) tail := by
  -- The end is sought by a trial that accepts nothing else.
  have found : run pattern (after before rest) parts
      (fun place parts => if (place, parts) = stop then some () else none) = some () := by
    rw [run_eq_findSome?]
    cases sought : (pattern.ends (after before rest) parts).findSome? fun other =>
        if (other.1, other.2) = stop then some () else none with
    | some _ => rfl
    | none => simpa using List.findSome?_eq_none_iff.mp sought stop member
  obtain ⟨text, tail, _, same, _, goes⟩ := run_some found
  refine ⟨text, tail, same, ?_⟩
  split at goes
  · next here => exact (congrArg Prod.fst here).symm
  · cases goes

theorem matchAt_span {pattern : Pattern} {found : Match} (here : pattern.matchAt (after before rest) = some found) :
    ∃ text tail, rest = text ++ tail ∧ found.span = Span.behind before text := by
  rw [matchAt_eq_head?] at here
  obtain ⟨stop, first, rfl⟩ := Option.map_eq_some_iff.mp here
  obtain ⟨text, tail, same, place⟩ := mem_ends (List.mem_of_head? first)
  exact ⟨text, tail, same, by rw [place]; rfl⟩

/-- What accepts at least as many ends keeps a trial successful. -/
theorem isSome_run_mono {pattern : Pattern} (found : (run pattern (after before rest) parts next).isSome = true)
    (goes : ∀ text tail parts, rest = text ++ tail → (next (after (before ++ text) tail) parts).isSome = true →
      (other (after (before ++ text) tail) parts).isSome = true) :
    (run pattern (after before rest) parts other).isSome = true := by
  rw [run_eq_findSome?, List.findSome?_isSome_iff] at found ⊢
  obtain ⟨⟨place, named⟩, member, accepted⟩ := found
  obtain ⟨text, tail, same, rfl⟩ := mem_ends member
  exact ⟨_, member, goes text tail named same accepted⟩

end Run

section Cut
variable {test : Char → Bool} {tail : Text} {place : Cursor}

/-- Whether a trial asks only for what it reads. An edge that comes first asks for the next character as well. -/
def isLocal : (first : Bool) → Pattern → Bool
  | first, edge => first
  | _, ending | _, remainder => false
  | first, followed left right => left.isLocal first && right.isLocal false
  | first, either left right => left.isLocal first && right.isLocal first
  | first, optional inner | first, named _ inner => inner.isLocal first
  | _, _ => true

theorem reach_eq_append (rest : Text) (offset : Nat) (last : Option Char) (reached : List Cursor) :
    reach test offset last reached rest = reach test offset last [] rest ++ reached := by
  induction rest generalizing offset last reached with
  | nil => rfl
  | cons c rest ih =>
    unfold reach
    dsimp only
    split
    · rw [ih, ih _ _ [_], List.append_assoc, List.singleton_append]
    · rfl

theorem length_of_mem_reach {rest : Text} {offset : Nat} {last : Option Char}
    (member : place ∈ reach test offset last [] rest) : place.rest.length ≤ rest.length := by
  induction rest generalizing offset last with
  | nil =>
    rw [reach, List.mem_singleton] at member
    exact Nat.le_of_eq (congrArg (·.rest.length) member)
  | cons c rest ih =>
    unfold reach at member
    dsimp only at member
    split at member
    · rw [reach_eq_append, List.mem_append, List.mem_singleton] at member
      rcases member with later | rfl
      · exact Nat.le_trans (ih later) (Nat.le_succ _)
      · exact Nat.le_refl _
    · exact Nat.le_of_eq (congrArg (·.rest.length) (List.mem_singleton.mp member))

theorem length_of_mem_ends {pattern : Pattern} {parts : List (Part × Span)} {stop : Stop}
    (member : stop ∈ pattern.ends place parts) : stop.1.rest.length ≤ place.rest.length := by
  have kept {place : Cursor} {parts : List (Part × Span)} {stop : Stop} (member : stop ∈ [(place, parts)]) :
      stop.1.rest.length ≤ place.rest.length :=
    Nat.le_of_eq (congrArg (·.1.rest.length) (List.mem_singleton.mp member))
  induction pattern generalizing place parts stop with
  | nothing => exact kept member
  | one test =>
    unfold ends at member
    cases same : place.rest with
    | nil => simp [same] at member
    | cons c rest =>
      simp only [same] at member
      split at member
      · rw [List.mem_singleton.mp member]
        exact Nat.le_succ _
      · cases member
  | many test =>
    obtain ⟨reached, inside, rfl⟩ := List.mem_map.mp member
    exact length_of_mem_reach inside
  | edge | ending =>
    unfold ends at member
    split at member
    · exact kept member
    · cases member
  | remainder =>
    rw [List.mem_singleton.mp member]
    exact Nat.zero_le _
  | followed first second first_le second_le =>
    obtain ⟨middle, inside, later⟩ := List.mem_flatMap.mp member
    exact Nat.le_trans (second_le later) (first_le inside)
  | either first second first_le second_le =>
    rcases List.mem_append.mp member with here | here
    · exact first_le here
    · exact second_le here
  | optional inner inner_le =>
    rcases List.mem_append.mp member with here | here
    · exact inner_le here
    · exact kept here
  | named part inner inner_le =>
    obtain ⟨middle, inside, rfl⟩ := List.mem_map.mp member
    have short : middle.1.rest.length ≤ place.rest.length := inner_le inside
    exact short

/-- The end is not behind the cut. -/
def isWithin (tail : Text) (stop : Stop) : Bool := decide (tail.length ≤ stop.1.rest.length)

/-- What is reached from the second place of the tail on lies behind the cut. -/
theorem filter_reach_eq_nil (c : Char) (tail : Text) (offset : Nat) (last : Option Char)
    (parts : List (Part × Span)) :
    ((reach test offset last [] tail).map (·, parts)).filter (isWithin (c :: tail)) = [] := by
  rw [List.filter_eq_nil_iff]
  intro stop member
  obtain ⟨place, inside, rfl⟩ := List.mem_map.mp member
  have short := length_of_mem_reach inside
  simp only [isWithin, List.length_cons, decide_eq_true_eq]
  omega

theorem filter_reach (rest : Text) (offset : Nat) (last : Option Char) (parts : List (Part × Span)) :
    ((reach test offset last [] (rest ++ tail)).map (·, parts)).filter (isWithin tail) =
      (reach test offset last [] rest).map fun place => (place.extend tail, parts) := by
  induction rest generalizing offset last with
  | nil =>
    -- Of the places in the tail only the first is not behind the cut.
    have first : isWithin tail (⟨offset, last, tail⟩, parts) = true := decide_eq_true (Nat.le_refl _)
    have here : reach test offset last [] [] = [⟨offset, last, []⟩] := rfl
    rw [List.nil_append, here, List.map_singleton]
    cases tail with
    | nil => rfl
    | cons c tail =>
      unfold reach
      dsimp only
      split
      · rw [reach_eq_append, List.map_append, List.filter_append, filter_reach_eq_nil, List.nil_append,
          List.map_singleton, List.filter_cons_of_pos first, List.filter_nil]
        rfl
      · rw [List.map_singleton, List.filter_cons_of_pos first, List.filter_nil]
        rfl
  | cons c rest ih =>
    have here : isWithin tail (⟨offset, last, c :: (rest ++ tail)⟩, parts) = true := by
      simp only [isWithin, List.length_cons, List.length_append, decide_eq_true_eq]
      omega
    rw [List.cons_append]
    unfold reach
    dsimp only
    split
    · rw [reach_eq_append (rest ++ tail), List.map_append, List.filter_append, ih, List.map_singleton,
        List.filter_cons_of_pos here, List.filter_nil, reach_eq_append rest _ _ [_], List.map_append]
      rfl
    · rw [List.map_singleton, List.filter_cons_of_pos here, List.filter_nil]
      rfl

theorem isWithin_extend (place : Cursor) (parts : List (Part × Span)) :
    isWithin tail (place.extend tail, parts) = true := by
  simp [isWithin, extend]

/-- What goes on from an end behind the cut stays behind it. -/
theorem filter_ends_eq_nil (pattern : Pattern) {stop : Stop} (behind : ¬isWithin tail stop = true) :
    (pattern.ends stop.1 stop.2).filter (isWithin tail) = [] := by
  rw [List.filter_eq_nil_iff]
  intro later member
  have short := length_of_mem_ends member
  simp only [isWithin, decide_eq_true_eq] at behind ⊢
  omega

theorem filter_flatMap_ends (pattern : Pattern) (stops : List Stop) :
    (stops.flatMap fun stop => pattern.ends stop.1 stop.2).filter (isWithin tail) =
      (stops.filter (isWithin tail)).flatMap fun stop => (pattern.ends stop.1 stop.2).filter (isWithin tail) := by
  rw [List.filter_flatMap]
  induction stops with
  | nil => rfl
  | cons stop rest ih =>
    by_cases within : isWithin tail stop = true
    · rw [List.filter_cons_of_pos within, List.flatMap_cons, List.flatMap_cons, ih]
    · rw [List.filter_cons_of_neg within, List.flatMap_cons, ih, filter_ends_eq_nil pattern within, List.nil_append]

theorem filter_ends_one (test : Char → Bool) (place : Cursor) (parts : List (Part × Span)) :
    ((one test).ends (place.extend tail) parts).filter (isWithin tail) =
      ((one test).ends place parts).map (Prod.map (extend tail) id) := by
  obtain ⟨offset, last, rest⟩ := place
  cases rest with
  | nil =>
    -- What is read lies behind the cut already.
    cases tail with
    | nil => rfl
    | cons c tail =>
      simp only [ends, extend, List.nil_append]
      split
      · rw [List.filter_cons_of_neg (by simp [isWithin])]
        rfl
      · rfl
  | cons c rest =>
    simp only [ends, extend, List.cons_append]
    split
    · rw [List.filter_cons_of_pos (by simp [isWithin])]
      rfl
    · rfl

/-- The ends in a text that is cut off are the ends in the whole that are not behind the cut. -/
theorem filter_ends {pattern : Pattern} {first : Bool} (stays : pattern.isLocal first = true)
    (begun : first = true → place.rest ≠ []) (parts : List (Part × Span)) :
    (pattern.ends (place.extend tail) parts).filter (isWithin tail) =
      (pattern.ends place parts).map (Prod.map (extend tail) id) := by
  induction pattern generalizing first place parts with
  | nothing => rw [ends, ends, List.filter_cons_of_pos (isWithin_extend place parts)]; rfl
  | one test => exact filter_ends_one test place parts
  | many test =>
    simp only [ends, extend, filter_reach, List.map_map]
    rfl
  | edge =>
    have same : (place.extend tail).atEdge = place.atEdge := by
      obtain ⟨c, rest, more⟩ := List.exists_cons_of_ne_nil (begun stays)
      simp [extend, atEdge, more]
    simp only [ends, same]
    split
    · rw [List.filter_cons_of_pos (isWithin_extend place parts)]
      rfl
    · rfl
  | ending | remainder => cases stays
  | followed one other one_ends other_ends =>
    obtain ⟨one_stays, other_stays⟩ := Bool.and_eq_true_iff.mp stays
    have behind (stop : Stop) : (other.ends (stop.1.extend tail) stop.2).filter (isWithin tail) =
        (other.ends stop.1 stop.2).map (Prod.map (extend tail) id) :=
      other_ends other_stays (by simp) stop.2
    simp only [ends]
    rw [filter_flatMap_ends, one_ends one_stays begun parts, List.flatMap_map, List.map_flatMap]
    exact congrArg (List.flatMap · _) (funext behind)
  | either one other one_ends other_ends =>
    obtain ⟨one_stays, other_stays⟩ := Bool.and_eq_true_iff.mp stays
    simp only [ends, List.filter_append, List.map_append, one_ends one_stays begun parts,
      other_ends other_stays begun parts]
  | optional inner inner_ends =>
    simp only [ends, List.filter_append, List.map_append, inner_ends stays begun parts]
    rw [List.filter_cons_of_pos (isWithin_extend place parts)]
    rfl
  | named part inner inner_ends =>
    have kept := inner_ends stays begun parts
    simp only [ends, List.filter_map, List.map_map]
    exact (congrArg (List.map _) kept).trans (List.map_map ..)

end Cut

section Short
variable {pattern : Pattern} {before rest tail : Text} {found : Match}

theorem filter_ends_after (before tail : Text) (stays : pattern.isLocal true = true) (filled : rest ≠ []) :
    (pattern.ends (after before (rest ++ tail)) []).filter (isWithin tail) =
      (pattern.ends (after before rest) []).map (Prod.map (extend tail) id) := by
  have begun : true = true → (after before rest).rest ≠ [] := fun _ => filled
  exact filter_ends stays begun []

/-- A match that stops before the cut is the match in the text that is cut off. -/
theorem matchAt_of_short (stays : pattern.isLocal true = true) (filled : rest ≠ [])
    (whole : pattern.matchAt (after before (rest ++ tail)) = some found)
    (short : found.span.stop ≤ (before ++ rest).length) : pattern.matchAt (after before rest) = some found := by
  have kept := filter_ends_after before tail stays filled
  rw [matchAt_eq_head?] at whole ⊢
  cases stops : pattern.ends (after before (rest ++ tail)) [] with
  | nil => simp [stops] at whole
  | cons stop others =>
    rw [stops] at whole kept
    obtain rfl := Option.some.inj whole
    -- The first end is not behind the cut, so it is the first of those that are left.
    have within : isWithin tail stop = true := by
      obtain ⟨text, later, same, place⟩ := mem_ends (stops ▸ List.mem_cons_self)
      have lengths := congrArg List.length same
      have reached : stop.1.offset ≤ (before ++ rest).length := short
      simp only [isWithin, place, after, List.length_append, decide_eq_true_eq] at reached lengths ⊢
      omega
    rw [List.filter_cons_of_pos within] at kept
    cases left : pattern.ends (after before rest) [] with
    | nil => simp [left] at kept
    | cons first behind =>
      rw [left, List.map_cons] at kept
      obtain ⟨rfl, _⟩ := List.cons.inj kept
      rfl

/-- Where the whole text has no match, the text that is cut off has none. -/
theorem matchAt_eq_none (stays : pattern.isLocal true = true) (filled : rest ≠ [])
    (whole : pattern.matchAt (after before (rest ++ tail)) = none) : pattern.matchAt (after before rest) = none := by
  have kept := filter_ends_after before tail stays filled
  rw [matchAt_eq_head?, Option.map_eq_none_iff, List.head?_eq_none_iff] at whole ⊢
  rw [whole] at kept
  exact List.map_eq_nil_iff.mp kept.symm

/-- The first match is the same in a text that is cut off behind it. -/
theorem findAfter_of_short (stays : pattern.isLocal true = true) (begun : found.span.start < (before ++ rest).length)
    (whole : pattern.findAfter before (rest ++ tail) = some found)
    (short : found.span.stop ≤ (before ++ rest).length) : pattern.findAfter before rest = some found := by
  induction rest generalizing before with
  | nil =>
    obtain ⟨passed, later, _, here⟩ := findAfter_some whole
    obtain ⟨_, _, _, span⟩ := matchAt_span here
    have start : found.span.start = (before ++ passed).length := congrArg Span.start span
    simp only [List.append_nil, List.length_append] at begun start
    omega
  | cons c rest ih =>
    rw [List.cons_append, findAfter_cons] at whole
    rw [findAfter_cons]
    rcases Option.or_eq_some_iff.mp whole with here | ⟨none_here, later⟩
    · rw [matchAt_of_short stays (List.cons_ne_nil c rest) here short, Option.some_or]
    · have none_left : pattern.matchAt (after before (c :: rest)) = none :=
        matchAt_eq_none stays (List.cons_ne_nil c rest) none_here
      rw [none_left, Option.none_or]
      exact ih (by simpa using begun) later (by simpa using short)

/-- A stretch in which the first match does not begin. -/
theorem findAfter_skip {front : Text} (far : ∀ found, pattern.findAfter before (front ++ rest) = some found →
      (before ++ front).length ≤ found.span.start) :
    pattern.findAfter before (front ++ rest) = pattern.findAfter (before ++ front) rest := by
  induction front generalizing before with
  | nil => rw [List.nil_append, List.append_nil]
  | cons c front ih =>
    rw [List.cons_append, findAfter_cons] at far ⊢
    cases here : pattern.matchAt (after before (c :: (front ++ rest))) with
    | none =>
      rw [here] at far
      rw [Option.none_or, ih (by simpa using far), List.append_assoc, List.singleton_append]
    | some found =>
      obtain ⟨_, _, _, span⟩ := matchAt_span here
      have late := far found (by rw [here, Option.some_or])
      have start : found.span.start = before.length := congrArg Span.start span
      rw [start, List.length_append, List.length_cons] at late
      omega

/-- What a trial names lies in front of the place where it stops. -/
theorem stop_le_of_mem_ends {parts : List (Part × Span)} {stop : Stop}
    (member : stop ∈ pattern.ends (after before rest) parts)
    (earlier : ∀ entry ∈ parts, entry.2.stop ≤ before.length) :
    ∀ entry ∈ stop.2, entry.2.stop ≤ stop.1.offset := by
  induction pattern generalizing before rest parts stop with
  | nothing =>
    obtain rfl := List.mem_singleton.mp member
    exact earlier
  | one test =>
    cases rest with
    | nil => cases member
    | cons c rest =>
      simp only [ends, after] at member
      split at member
      · obtain rfl := List.mem_singleton.mp member
        exact fun entry inside => Nat.le_succ_of_le (earlier entry inside)
      · cases member
  | many test =>
    obtain ⟨text, tail, _, place⟩ := mem_ends member
    obtain ⟨_, _, rfl⟩ := List.mem_map.mp member
    intro entry inside
    rw [place]
    exact Nat.le_trans (earlier entry inside) (by simp [after])
  | edge | ending =>
    unfold ends at member
    split at member
    · obtain rfl := List.mem_singleton.mp member
      exact earlier
    · cases member
  | remainder =>
    obtain rfl := List.mem_singleton.mp member
    exact fun entry inside => Nat.le_trans (earlier entry inside) (Nat.le_add_right _ _)
  | followed first second first_le second_le =>
    obtain ⟨middle, inside, later⟩ := List.mem_flatMap.mp member
    obtain ⟨text, tail, _, place⟩ := mem_ends inside
    have front := first_le inside earlier
    rw [place] at front later
    exact second_le later front
  | either first second first_le second_le =>
    rcases List.mem_append.mp member with here | here
    · exact first_le here earlier
    · exact second_le here earlier
  | optional inner inner_le =>
    rcases List.mem_append.mp member with here | here
    · exact inner_le here earlier
    · obtain rfl := List.mem_singleton.mp here
      exact earlier
  | named part inner inner_le =>
    obtain ⟨middle, inside, rfl⟩ := List.mem_map.mp member
    intro entry named
    rcases List.mem_cons.mp named with rfl | named
    · exact Nat.le_refl _
    · exact inner_le inside earlier entry named

/-- The parts of a match have the same text in a longer text. -/
theorem text?_append (here : pattern.matchAt (after before rest) = some found) {text : Text}
    (short : found.span.stop ≤ text.length) (part : Part) (tail : Text) :
    found.text? part (text ++ tail) = found.text? part text := by
  unfold Match.text? Match.part?
  cases named : found.parts.lookup part with
  | none => rfl
  | some span =>
    rw [matchAt_eq_head?] at here
    obtain ⟨stop, first, rfl⟩ := Option.map_eq_some_iff.mp here
    obtain ⟨_, _, parted, _⟩ := List.lookup_eq_some_iff.mp named
    have inside : span.stop ≤ stop.1.offset :=
      stop_le_of_mem_ends (List.mem_of_head? first) (fun _ member => absurd member List.not_mem_nil) (part, span)
        (List.mem_iff_append.mpr ⟨_, _, parted⟩)
    have within : span.stop ≤ text.length := Nat.le_trans inside short
    simp only [Option.map_some, Span.of, Option.some.injEq, List.drop_append]
    rw [List.take_append_of_le_length (by rw [List.length_drop]; omega)]

end Short
end Pattern
end SchemaAtlas
