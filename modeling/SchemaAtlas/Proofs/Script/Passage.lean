import SchemaAtlas.Proofs.Script.Contents
import SchemaAtlas.Proofs.Script.Quotation
import SchemaAtlas.Proofs.Script.Segmentation
/-!
Texts that every scan of a script passes as they are. No comment begins in them, the quotation marks and parentheses
that open in them close in them, and no separator stands in them outside these. Texts of this kind can be put
together, and put in parentheses.
-/
namespace SchemaAtlas
open Text

namespace Script
variable {region : Region} {front rest text name : Text} {mark c : Char}

/-- The reader of comments, the split into statements, the split into clauses and the search for the end of a group
go through the text and stand behind it where they stood in front. -/
structure IsPassed (text : Text) : Prop where
  bare : Commentless .code text
  code : Region.code.after text = .code
  balanced : Nesting.outside.Balances text
  whole : ∀ separator ∈ [';', ','], pieces separator .outside text = [text]

instance (state : Nesting) (text : Text) : Decidable (state.Balances text) :=
  decidable_of_iff ((text.foldl Nesting.step state).quote = none ∧
      (∀ front ∈ text.inits, 0 ≤ state.depth + state.excess front) ∧ state.depth + state.excess text = 0) (by
    simp only [List.mem_inits]
    exact ⟨fun ⟨unquoted, floor, level⟩ => ⟨unquoted, floor, level⟩,
      fun ⟨unquoted, floor, level⟩ => ⟨unquoted, floor, level⟩⟩)

instance (text : Text) : Decidable (IsPassed text) :=
  decidable_of_iff (uncomment .code text = text ∧ Region.code.after text = .code ∧ Nesting.outside.Balances text ∧
      pieces ';' .outside text = [text] ∧ pieces ',' .outside text = [text])
    ⟨fun ⟨same, code, balanced, whole⟩ => ⟨commentless_of_uncomment_eq rfl same, code, balanced, by simpa using whole⟩,
      fun passed => ⟨passed.bare.uncomment_eq, passed.code, passed.balanced, by simpa using passed.whole⟩⟩

/-- The last character of a text does not matter for what follows: it begins no comment with it, and it is no
backslash in front of a quotation mark. -/
structure Joins (front rest : Text) : Prop where
  comment : ∀ c ∈ front.getLast?, opensComment c rest = false
  escape : front.getLast? = some '\\' → rest.head?.any isQuotationMark = false

theorem joins_of_last (last : front.getLast? = some c) (line : c ≠ '-') (block : c ≠ '/') (plain : c ≠ '\\')
    (rest : Text) : Joins front rest := by
  refine ⟨fun d ends => ?_, fun ends => ?_⟩
  · obtain rfl := Option.some.inj (last.symm.trans ends)
    exact opensComment_of_ne line block rest
  · exact absurd (Option.some.inj (last.symm.trans ends)) plain

/-- A character that is neither a quotation mark nor the second one of a comment mark joins every text. -/
theorem joins_of_head (line : c ≠ '-') (block : c ≠ '*') (unmarked : isQuotationMark c = false) (front rest : Text) :
    Joins front (c :: rest) := by
  refine ⟨fun d _ => ?_, fun _ => unmarked⟩
  simp [opensComment, line, block]

section Comment

theorem Commentless.append (first : Commentless region front)
    (second : Commentless (front.foldl Region.step region) rest)
    (joint : ∀ c ∈ front.getLast?, opensComment c rest = false) : Commentless region (front ++ rest) := by
  induction first with
  | nil => exact second
  | @code c front here later ih =>
    cases front with
    | nil => exact .code (joint c rfl) second
    | cons d front =>
      have head : (d :: (front ++ rest)).head? = (d :: front).head? := rfl
      refine .code ?_ (ih second fun e last => joint e (by rwa [List.getLast?_cons_cons]))
      rw [opensComment] at here ⊢
      exact head ▸ here
  | @quoted open_mark last c front later ih =>
    refine .quoted ?_
    cases front with
    | nil => exact second
    | cons d front => exact ih second fun e last => joint e (by rwa [List.getLast?_cons_cons])

end Comment

namespace Nesting
variable {state : Nesting} {last : Option Char} {separator : Char}

/-- What a scan that is outside makes of a text does not depend on the character in front of it. -/
theorem balances_joined (joint : last = some '\\' → text.head?.any isQuotationMark = false) :
    (⟨none, 0, last⟩ : Nesting).Balances text ↔ outside.Balances text := by
  cases text with
  | nil => rw [balances_nil_iff, balances_nil_iff]; rfl
  | cons c text =>
    have here : last = some '\\' → isQuotationMark c = false := fun escapes => joint escapes
    rw [balances_cons_iff, balances_cons_iff, step_joined here, weight, weight, nextQuote_joined here]
    rfl

/-- Behind a text that balances a scan is outside again. -/
theorem Balances.foldl_eq (balances : outside.Balances text) :
    text.foldl step outside = ⟨none, 0, text.getLast?⟩ := by
  have level : ((text.foldl step outside).depth : Int) = 0 := (depth_foldl balances.floor).trans balances.level
  have top : (text.foldl step outside).isTop = true := by
    rw [isTop, balances.unquoted, Int.ofNat_eq_zero.mp level]
    rfl
  rw [eq_of_isTop top, last_foldl_step]

theorem balances_append_iff : state.Balances (front ++ rest) ↔
    (∀ part, part <+: front → 0 ≤ state.depth + state.excess part) ∧ (front.foldl step state).Balances rest := by
  induction front generalizing state with
  | nil =>
    refine ⟨fun balances => ⟨fun part ahead => ?_, balances⟩, And.right⟩
    rw [List.prefix_nil.mp ahead]
    simp [excess]
  | cons c front ih =>
    rw [List.cons_append, balances_cons_iff, ih, List.foldl_cons]
    constructor
    · rintro ⟨enough, floor, later⟩
      have next := depth_step enough
      refine ⟨fun part ahead => ?_, later⟩
      cases part with
      | nil => simp [excess]
      | cons d part =>
        obtain ⟨rfl, shorter⟩ := List.cons_prefix_cons.mp ahead
        have high := floor part shorter
        rw [excess]
        omega
    · rintro ⟨floor, later⟩
      have enough : 0 ≤ state.depth + state.weight c := by simpa [excess] using floor [c] (by simp)
      have next := depth_step enough
      refine ⟨enough, fun part ahead => ?_, later⟩
      have high := floor (c :: part) (List.cons_prefix_cons.mpr ⟨rfl, ahead⟩)
      rw [excess] at high
      omega

/-- In a group the depth is one more than outside. -/
theorem floor_opened (balances : outside.Balances text) :
    (∀ part, part <+: text → 0 < opened.depth + opened.excess part) ∧ opened.depth + opened.excess text = 1 := by
  have alike : opened.Alike outside := ⟨rfl, rfl⟩
  have bottom : outside.depth = 0 := rfl
  obtain ⟨_, floor, level⟩ := balances
  rw [bottom] at floor level
  constructor
  · intro part ahead
    have high := floor part ahead
    have one : opened.depth = 1 := rfl
    rw [alike.excess, one]
    omega
  · have one : opened.depth = 1 := rfl
    rw [alike.excess, one]
    omega

theorem closing?_of_floor (unquoted : (text.foldl step state).quote = none)
    (floor : ∀ part, part <+: text → 0 < state.depth + state.excess part)
    (level : state.depth + state.excess text = 1) (rest : Text) :
    closing? state (text ++ ')' :: rest) = some text.length := by
  induction text generalizing state with
  | nil =>
    have one : state.depth = 0 + 1 := by
      rw [excess] at level
      omega
    have out : (state.step ')').depth = 0 := depth_step_closing unquoted one
    rw [List.nil_append, closing?]
    simp [out]
  | cons c text ih =>
    have enough : 0 < state.depth + state.weight c := by simpa [excess] using floor [c] (by simp)
    have next := depth_step (Int.le_of_lt enough)
    have inside : ((state.step c).depth == 0) = false := beq_eq_false_iff_ne.mpr (by omega)
    rw [excess] at level
    rw [List.cons_append, closing?]
    simp only [inside, Bool.false_eq_true, ↓reduceIte]
    rw [ih unquoted (fun part ahead => ?_) (by omega)]
    · rfl
    · have high := floor (c :: part) (List.cons_prefix_cons.mpr ⟨rfl, ahead⟩)
      rw [excess] at high
      omega

/-- A group around a text that balances closes behind it. -/
theorem Balances.closing? (balances : outside.Balances text) (rest : Text) :
    Script.closing? opened (text ++ ')' :: rest) = some text.length := by
  have alike : opened.Alike outside := ⟨rfl, rfl⟩
  obtain ⟨floor, level⟩ := floor_opened balances
  exact closing?_of_floor ((alike.quote_foldl text).trans balances.unquoted) floor level rest

/-- Behind a text that balances, what balances goes on to balance. -/
theorem Balances.append_iff (first : outside.Balances front)
    (joint : front.getLast? = some '\\' → rest.head?.any isQuotationMark = false) :
    outside.Balances (front ++ rest) ↔ outside.Balances rest := by
  rw [balances_append_iff, first.foldl_eq, balances_joined joint]
  exact and_iff_right first.floor

/-- A text that balances may be put in parentheses. -/
theorem Balances.group (balances : outside.Balances text) : outside.Balances ('(' :: (text ++ [')'])) := by
  have alike : opened.Alike outside := ⟨rfl, rfl⟩
  have unquoted : (text.foldl step opened).quote = none := (alike.quote_foldl text).trans balances.unquoted
  obtain ⟨floor, level⟩ := floor_opened balances
  rw [balances_cons_iff]
  refine ⟨by decide, balances_append_iff.mpr ⟨fun part ahead => Int.le_of_lt (floor part ahead), ?_⟩⟩
  have depth : ((text.foldl step opened).depth : Int) = 0 + 1 :=
    (depth_foldl fun part ahead => Int.le_of_lt (floor part ahead)).trans level
  have state : text.foldl step opened = ⟨none, 0 + 1, (text.foldl step opened).last⟩ := by
    rw [← unquoted, ← Int.ofNat_inj.mp depth]
  change (text.foldl step opened).Balances [')']
  rw [state, balances_cons_iff, step_closing, balances_nil_iff]
  exact ⟨Int.le_refl 0, rfl⟩

end Nesting

namespace IsPassed

theorem append (first : IsPassed front) (second : IsPassed rest) (joint : Joins front rest) :
    IsPassed (front ++ rest) := by
  have code : front.foldl Region.step .code = .code := first.bare.after_eq.symm.trans first.code
  have bare : Commentless .code (front ++ rest) := first.bare.append (code.symm ▸ second.bare) joint.comment
  have state := first.balanced.foldl_eq
  have balanced := (first.balanced.append_iff joint.escape).mpr second.balanced
  refine ⟨bare, ?_, balanced, fun separator among => ?_⟩
  · rw [bare.after_eq, List.foldl_append, code, ← second.bare.after_eq, second.code]
  · have split : pieces separator .outside front = [] ++ [front] := first.whole separator among
    have behind : pieces separator (front.foldl Nesting.step .outside) rest = [rest] := by
      rw [state, pieces_joined joint.escape, second.whole separator among]
    exact pieces_of_append split behind

/-- Characters that mean nothing to the scans. -/
def isIdle (c : Char) : Bool := isLevel c && c != '-' && c != '/' && c != ';' && c != ','

theorem single (idle : isIdle c = true) : IsPassed [c] := by
  simp only [isIdle, Bool.and_eq_true, bne_iff_ne, ne_eq] at idle
  obtain ⟨⟨⟨⟨level, line⟩, block⟩, semicolon⟩, comma⟩ := idle
  have unmarked : isQuotationMark c = false := by
    simp only [isLevel, Bool.and_eq_true, Bool.not_eq_true'] at level
    exact level.1.1
  have code : Region.code.step c = .code := by simp [Region.step, unmarked]
  obtain ⟨next, weightless⟩ := Nesting.step_of_isLevel level .outside
  have bare : Commentless .code [c] := .code (opensComment_of_ne line block []) (.nil (by rw [code]; rfl))
  refine ⟨bare, by rw [bare.after_eq]; exact code, ?_, fun separator among => ?_⟩
  · rw [Nesting.balances_cons_iff, weightless, next, Nesting.balances_nil_iff]
    exact ⟨Int.le_refl 0, rfl⟩
  · have other : (c == separator) = false := by
      rw [beq_eq_false_iff_ne]
      rintro rfl
      simp [semicolon, comma] at among
    rw [pieces_cons (by rw [other, Bool.false_and])]
    rfl

theorem of_idle (idle : text.all isIdle = true) : IsPassed text := by
  induction text with
  | nil => exact ⟨.nil rfl, rfl, Nesting.balances_nil_iff.mpr rfl, fun _ _ => rfl⟩
  | cons c text ih =>
    obtain ⟨here, later⟩ : isIdle c = true ∧ text.all isIdle = true := by simpa using idle
    refine (single here).append (ih later) ⟨fun d last => ?_, fun _ => ?_⟩
    · obtain rfl : c = d := Option.some.inj last
      simp only [isIdle, Bool.and_eq_true, bne_iff_ne, ne_eq] at here
      exact opensComment_of_ne here.1.1.1.2 here.1.1.2 text
    · cases text with
      | nil => rfl
      | cons d text =>
        have level := List.all_eq_true.mp later d List.mem_cons_self
        simp only [isIdle, isLevel, Bool.and_eq_true, Bool.not_eq_true'] at level
        exact level.1.1.1.1.1.1

/-- What is passed may be put in parentheses, with separators in it or without. -/
theorem group (passed : IsPassed text) : IsPassed ('(' :: (text ++ [')'])) := by
  have code : text.foldl Region.step .code = .code := passed.bare.after_eq.symm.trans passed.code
  have closing : Commentless .code [')'] := .code rfl (.nil rfl)
  have inner : Commentless .code (text ++ [')']) :=
    passed.bare.append (code.symm ▸ closing) fun c _ => by simp [opensComment]
  have bare : Commentless .code ('(' :: (text ++ [')'])) := .code rfl inner
  refine ⟨bare, ?_, passed.balanced.group, fun separator among => ?_⟩
  · rw [bare.after_eq, List.foldl_cons, List.foldl_append]
    exact congrArg (List.foldl Region.step · [')']) code
  · simp only [List.mem_cons, List.not_mem_nil, or_false] at among
    have closes := passed.balanced.closing? []
    have length : (text ++ [')']).length = text.length + 1 := by simp
    rcases among with rfl | rfl <;> exact (pieces_of_group (by decide) (by decide) rfl closes length).1

/-- What stands in brackets. The scans take a bracket for any other character. -/
theorem bracketed (passed : IsPassed text) : IsPassed ('[' :: (text ++ [']'])) := by
  have opening : Joins ['['] (text ++ [']']) := joins_of_last rfl (by decide) (by decide) (by decide) _
  have closing : Joins text [']'] := joins_of_head (by decide) (by decide) (by decide) text []
  exact (single rfl).append (passed.append (single rfl) closing) opening

end IsPassed

section Quoted
variable {last : Char}

/-- A quotation stays open as long as its mark does not come. -/
theorem after_quoted (absent : mark ∉ text) (rest : Text) : (Region.quoted mark last).after (text ++ rest) =
    (Region.quoted mark (text.getLast?.getD last)).after rest := by
  induction text generalizing last with
  | nil => rfl
  | cons c text ih =>
    have other : (c == mark) = false := beq_eq_false_iff_ne.mpr (List.ne_of_not_mem_cons absent).symm
    have stays : (if c == mark && last != '\\' then .code else .quoted mark c : Region) = .quoted mark c := by
      simp [other]
    rw [List.cons_append, Region.after, stays, ih (List.not_mem_of_not_mem_cons absent), List.getLast?_cons]
    rfl

theorem isQuoted_of_closed (closed : mark ∉ text) (unescaped : text.getLast?.getD mark ≠ '\\') :
    IsQuoted mark text := by
  refine ⟨fun part among => ?_, ?_⟩
  · have ahead := (List.mem_inits _ _).mp among
    have open_part : (Region.quoted mark mark).after (part ++ []) = _ :=
      after_quoted (fun member => closed (ahead.subset member)) []
    rw [List.append_nil] at open_part
    rw [open_part]
    rfl
  · rw [after_quoted closed, Region.after]
    simp [unescaped, Region.after]

theorem step_within (other : c ≠ mark) (depth : Nat) (last : Option Char) :
    (⟨some mark, depth, last⟩ : Nesting).step c = ⟨some mark, depth, some c⟩ ∧
      (⟨some mark, depth, last⟩ : Nesting).weight c = 0 := by
  have stays : (⟨some mark, depth, last⟩ : Nesting).nextQuote c = some mark := by
    simp only [Nesting.nextQuote, beq_eq_false_iff_ne.mpr other, Bool.false_eq_true, ↓reduceIte, ite_self]
  simp [Nesting.step, Nesting.weight, stays]

/-- A scan that comes to a quotation is outside behind it, and separates nothing in it. -/
theorem balances_quoted (marks : isQuotationMark mark = true) (closed : mark ∉ text)
    (unescaped : text.getLast?.getD last ≠ '\\') : (⟨some mark, 0, some last⟩ : Nesting).Balances (text ++ [mark]) ∧
      ∀ separator ∈ [';', ','], pieces separator ⟨some mark, 0, some last⟩ (text ++ [mark]) = [text ++ [mark]] := by
  induction text generalizing last with
  | nil =>
    have counts : (some last != some '\\') = true := bne_iff_ne.mpr fun same => unescaped (Option.some.inj same)
    have out : (⟨some mark, 0, some last⟩ : Nesting).nextQuote mark = none := by
      simp [Nesting.nextQuote, marks, counts]
    have flat : mark ≠ '(' ∧ mark ≠ ')' := by constructor <;> (rintro rfl; cases marks)
    have weightless : (⟨some mark, 0, some last⟩ : Nesting).weight mark = 0 := by
      simp [Nesting.weight, out, flat.1, flat.2]
    have next : (⟨some mark, 0, some last⟩ : Nesting).step mark = ⟨none, 0, some mark⟩ := by
      simp [Nesting.step, out, flat.1, flat.2]
    refine ⟨?_, fun separator among => ?_⟩
    · rw [List.nil_append, Nesting.balances_cons_iff, weightless, next, Nesting.balances_nil_iff]
      exact ⟨Int.le_refl 0, rfl⟩
    · have other : (mark == separator) = false := by
        rw [beq_eq_false_iff_ne]
        rintro rfl
        simp only [List.mem_cons, List.not_mem_nil, or_false] at among
        rcases among with rfl | rfl <;> cases marks
      rw [List.nil_append, pieces_cons (by rw [other, Bool.false_and])]
      rfl
  | cons c text ih =>
    obtain ⟨next, weightless⟩ := step_within (List.ne_of_not_mem_cons closed).symm 0 (some last)
    rw [List.getLast?_cons] at unescaped
    obtain ⟨balances, whole⟩ := ih (List.not_mem_of_not_mem_cons closed) unescaped
    refine ⟨?_, fun separator among => ?_⟩
    · rw [List.cons_append, Nesting.balances_cons_iff, weightless, next]
      exact ⟨Int.le_refl 0, balances⟩
    · have inside : (⟨some mark, 0, some c⟩ : Nesting).isTop = false := rfl
      rw [List.cons_append, pieces_cons (by rw [next, inside, Bool.and_false]), next, whole separator among]
      rfl

/-- What stands between quotation marks, without the mark itself and with no backslash at its end. -/
theorem IsPassed.quoted (marks : isQuotationMark mark = true) (closed : mark ∉ text)
    (unescaped : text.getLast? ≠ some '\\') : IsPassed (mark :: (text ++ [mark])) := by
  have plain : text.getLast?.getD mark ≠ '\\' := by
    cases last : text.getLast? with
    | none => rintro rfl; cases marks
    | some c => exact fun same => unescaped (last.trans (congrArg some same))
  have quoted := isQuoted_of_closed closed plain
  have inner := commentless_of_inside (fun part ahead => quoted.inside part ((List.mem_inits _ _).mpr ahead)) mark
  have opens : Region.code.step mark = .quoted mark mark := by simp [Region.step, marks]
  have begins : opensComment mark (text ++ [mark]) = false :=
    opensComment_of_ne (by rintro rfl; cases marks) (by rintro rfl; cases marks) _
  have bare : Commentless .code (mark :: (text ++ [mark])) := .code begins (opens.symm ▸ inner)
  obtain ⟨balances, whole⟩ := balances_quoted marks closed plain
  have entered : Nesting.outside.nextQuote mark = some mark := by simp [Nesting.nextQuote, Nesting.outside, marks]
  have next : Nesting.outside.step mark = ⟨some mark, 0, some mark⟩ := by
    simp only [Nesting.step, entered, Option.isSome_some, ↓reduceIte]
    rfl
  have weightless : Nesting.outside.weight mark = 0 := by simp [Nesting.weight, entered]
  refine ⟨bare, ?_, ?_, fun separator among => ?_⟩
  · rw [bare.after_eq, List.foldl_cons, opens, ← inner.after_eq, quoted.closes]
  · rw [Nesting.balances_cons_iff, weightless, next]
    exact ⟨Int.le_refl 0, balances⟩
  · have inside : (⟨some mark, 0, some mark⟩ : Nesting).isTop = false := rfl
    rw [pieces_cons (by rw [next, inside, Bool.and_false]), next, whole separator among]
    rfl

end Quoted

section Whole

theorem IsPassed.isTop (passed : IsPassed text) : (standing text).isTop = true := by
  rw [standing, passed.balanced.foldl_eq]
  rfl

/-- A text that is passed is one statement. -/
theorem IsPassed.statements_eq (passed : IsPassed text) (filled : text ≠ []) (trimmed : Text.trim text = text) :
    statements text = [text] := by
  rw [statements, splitTop, passed.whole ';' (by simp), List.map_singleton, trimmed]
  simpa using filled

/-- And it is one clause. -/
theorem IsPassed.clauses_eq (passed : IsPassed text) (filled : text ≠ []) (trimmed : Text.trim text = text) :
    clauses text = [text] := by
  have visible : isAllBlank text = false := Bool.eq_false_iff.mpr fun blank =>
    filled (trimmed.symm.trans (trim_of_blank blank))
  rw [clauses, visible, splitTop, passed.whole ',' (by simp), List.map_singleton, trimmed]
  rfl

/-- What is passed is a whole group. -/
theorem IsPassed.group?_eq (passed : IsPassed text) (before rest : Text) :
    group? (before ++ '(' :: (text ++ ')' :: rest)) before.length =
      some (text, before.length + 1 + text.length) := by
  rw [group?_of_opening, passed.balanced.closing? rest, Option.map_some, List.take_left]

end Whole
end Script
end SchemaAtlas
