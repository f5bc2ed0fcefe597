import SchemaAtlas.Clause.DefaultValue
import SchemaAtlas.Proofs.Script.Layout
import SchemaAtlas.Proofs.Script.Quotation
/-!
Tokens of the reader of values. A text in which no blank stands outside quotation marks and parentheses, and all of
these close, is one token wherever a blank or the end follows.
-/
namespace SchemaAtlas.DefaultValue
open Text TokenState
variable {state : TokenState} {front rest text other : Text} {c : Char}

/-- No token that goes on from the state ends within the text. -/
def Unbroken (state : TokenState) (text : Text) : Prop :=
  ∀ front c back, text = front ++ c :: back → (front.foldl step state).endsAt c = false

theorem unbroken_nil (state : TokenState) : Unbroken state [] := by
  intro front c back same
  cases front <;> cases same

theorem unbroken_cons : Unbroken state (c :: text) ↔ state.endsAt c = false ∧ Unbroken (state.step c) text := by
  constructor
  · intro unbroken
    exact ⟨unbroken [] c text rfl, fun front d back same => unbroken (c :: front) d back (by rw [same]; rfl)⟩
  · rintro ⟨here, later⟩ front d back same
    cases front with
    | nil =>
      obtain ⟨rfl, _⟩ := List.cons.inj same
      exact here
    | cons _ front =>
      obtain ⟨rfl, behind⟩ := List.cons.inj same
      exact later front d back behind

theorem unbroken_append : Unbroken state (front ++ rest) ↔
    Unbroken state front ∧ Unbroken (front.foldl step state) rest := by
  induction front generalizing state with
  | nil => simp [unbroken_nil]
  | cons c front ih => rw [List.cons_append, unbroken_cons, unbroken_cons, ih, List.foldl_cons, and_assoc]

instance decidableUnbroken : (state : TokenState) → (text : Text) → Decidable (Unbroken state text)
  | state, [] => .isTrue (unbroken_nil state)
  | state, c :: text =>
    have := decidableUnbroken (state.step c) text
    decidable_of_iff _ unbroken_cons.symm

/-- One expression: no blank stands outside quotation marks and parentheses, and all of these close. -/
structure IsExpression (text : Text) : Prop where
  filled : text ≠ []
  unbroken : Unbroken .fresh text
  closed : text.foldl step .fresh = .fresh

instance (text : Text) : Decidable (IsExpression text) :=
  decidable_of_iff (text ≠ [] ∧ Unbroken .fresh text ∧ text.foldl step .fresh = .fresh)
    ⟨fun ⟨filled, unbroken, closed⟩ => ⟨filled, unbroken, closed⟩,
      fun ⟨filled, unbroken, closed⟩ => ⟨filled, unbroken, closed⟩⟩

/-- A text that is an expression in its parentheses. -/
def IsGrouped (text : Text) : Prop := IsExpression ('(' :: (text ++ [')']))

instance (text : Text) : Decidable (IsGrouped text) := inferInstanceAs (Decidable (IsExpression _))

theorem endsAt_fresh (c : Char) : TokenState.fresh.endsAt c = isBlank c := rfl

theorem IsExpression.append (first : IsExpression text) (second : IsExpression other) :
    IsExpression (text ++ other) where
  filled := List.append_ne_nil_of_left_ne_nil first.filled other
  unbroken := unbroken_append.mpr ⟨first.unbroken, by rw [first.closed]; exact second.unbroken⟩
  closed := by rw [List.foldl_append, first.closed, second.closed]

theorem IsExpression.start (expression : IsExpression text) (rest : Text) :
    (text ++ rest).head?.any isBlank = false := by
  obtain ⟨c, more, rfl⟩ := List.exists_cons_of_ne_nil expression.filled
  exact (unbroken_cons.mp expression.unbroken).1

/-- A blank neither opens nor closes anything. -/
theorem step_of_isBlank (marked : ∀ mark ∈ state.quote, Script.isQuotationMark mark = true)
    (blank : isBlank c = true) : state.step c = state := by
  have parenthesis {mark : Char} (solid : isBlank mark = false) : (c == mark) = false := by
    apply beq_eq_false_iff_ne.mpr
    rintro rfl
    rw [blank] at solid
    cases solid
  have mark := Script.isQuotationMark_of_isBlank blank
  obtain ⟨quote, depth⟩ := state
  cases quote with
  | none =>
    simp only [step, mark, parenthesis (show isBlank '(' = false by decide),
      parenthesis (show isBlank ')' = false by decide), Bool.false_eq_true, ↓reduceIte]
  | some opened =>
    have other : (c == opened) = false := by
      apply beq_eq_false_iff_ne.mpr
      rintro rfl
      rw [marked c rfl] at mark
      cases mark
    simp only [step, other, Bool.false_eq_true, ↓reduceIte]

/-- A blank at the end would stand outside. -/
theorem IsExpression.stop (expression : IsExpression text) : text.getLast?.any isBlank = false := by
  obtain rfl | ⟨front, c, rfl⟩ := List.eq_nil_or_concat text
  · rfl
  · rw [List.concat_eq_append] at expression ⊢
    rw [List.getLast?_concat, Option.any_some]
    by_contra solid
    have blank := Bool.of_not_eq_false solid
    have closed := expression.closed
    rw [List.foldl_append, List.foldl_cons, List.foldl_nil,
      step_of_isBlank (fun _ quoted => Script.isQuotationMark_of_valueQuote quoted) blank] at closed
    have stays := expression.unbroken front c [] rfl
    rw [closed, endsAt_fresh, blank] at stays
    cases stays

section Tokens

theorem tokens_gap {gap : Text} (blank : ∀ c ∈ gap, isBlank c = true) (rest : Text) :
    tokens none (gap ++ rest) = tokens none rest := by
  induction gap with
  | nil => rfl
  | cons c gap ih =>
    obtain ⟨here, later⟩ := List.forall_mem_cons.mp blank
    rw [List.cons_append, tokens, if_pos here, ih later]

theorem tokens_some (unbroken : Unbroken state text) {others : List Text}
    (ends : tokens (some (text.foldl step state)) rest = [] :: others) :
    tokens (some state) (text ++ rest) = text :: others := by
  induction text generalizing state with
  | nil => exact ends
  | cons c text ih =>
    obtain ⟨stays, later⟩ := unbroken_cons.mp unbroken
    rw [List.cons_append, tokens, stays, if_neg Bool.false_ne_true, ih later ends, extendFirst]

/-- A blank comes next, or nothing. -/
def Stops (rest : Text) : Prop := ∀ c ∈ rest.head?, isBlank c = true

theorem Stops.outside (stops : Stops rest) : beginsWord rest = false := by
  cases rest with
  | nil => rfl
  | cons c rest => exact isWordCharacter_of_isBlank (stops c rfl)

/-- A token in front of the rest, which begins with a blank outside quotation marks and parentheses, as the token itself
has none, or is empty. Other than in an expression something may be left open, or closed once too often. -/
structure IsToken (text rest : Text) : Prop where
  filled : text ≠ []
  unbroken : Unbroken .fresh text
  ends : ∀ c ∈ rest.head?, (text.foldl step .fresh).endsAt c = true

theorem IsExpression.isToken (expression : IsExpression text) (stops : Stops rest) : IsToken text rest :=
  ⟨expression.filled, expression.unbroken, fun c first => by rw [expression.closed]; exact stops c first⟩

theorem tokens_ends (ends : ∀ c ∈ rest.head?, state.endsAt c = true) :
    tokens (some state) rest = [] :: tokens none rest := by
  cases rest with
  | nil => rfl
  | cons c rest =>
    have here : state.endsAt c = true := ends c rfl
    have blank : isBlank c = true := (Bool.and_eq_true_iff.mp here).2
    simp only [DefaultValue.tokens, here, blank, ↓reduceIte]

theorem IsToken.tokens (token : IsToken text rest) : tokens none (text ++ rest) = text :: tokens none rest := by
  have whole := tokens_some token.unbroken (tokens_ends token.ends)
  have unbroken := token.unbroken
  obtain ⟨c, more, rfl⟩ := List.exists_cons_of_ne_nil token.filled
  have solid : isBlank c = false := (unbroken_cons.mp unbroken).1
  rw [List.cons_append, DefaultValue.tokens, endsAt_fresh, solid, if_neg Bool.false_ne_true] at whole
  rw [List.cons_append, DefaultValue.tokens, solid, if_neg Bool.false_ne_true, whole]

theorem IsExpression.tokens (expression : IsExpression text) (stops : Stops rest) :
    tokens none (text ++ rest) = text :: tokens none rest := (expression.isToken stops).tokens

end Tokens

/-- Characters that the reader of values passes over. -/
def IsNeutral (c : Char) : Prop := Script.isQuotationMark c = false ∧ c ≠ '(' ∧ c ≠ ')'

instance (c : Char) : Decidable (IsNeutral c) := inferInstanceAs (Decidable (_ ∧ _))

theorem step_of_isNeutral (neutral : IsNeutral c) (depth : Int) : TokenState.step ⟨none, depth⟩ c = ⟨none, depth⟩ := by
  obtain ⟨unmarked, opening, closing⟩ := neutral
  simp [step, unmarked, opening, closing]

theorem foldl_of_isNeutral (neutral : ∀ c ∈ text, IsNeutral c) (depth : Int) :
    text.foldl step ⟨none, depth⟩ = ⟨none, depth⟩ := by
  induction text with
  | nil => rfl
  | cons c text ih =>
    obtain ⟨here, later⟩ := List.forall_mem_cons.mp neutral
    rw [List.foldl_cons, step_of_isNeutral here, ih later]

theorem unbroken_of_isNeutral (neutral : ∀ c ∈ text, IsNeutral c) {depth : Int}
    (inside : 0 < depth ∨ ∀ c ∈ text, isBlank c = false) : Unbroken ⟨none, depth⟩ text := by
  induction text with
  | nil => exact unbroken_nil _
  | cons c text ih =>
    obtain ⟨here, later⟩ := List.forall_mem_cons.mp neutral
    rw [unbroken_cons, step_of_isNeutral here]
    refine ⟨?_, ih later (inside.imp_right fun solid d member => solid d (List.mem_cons_of_mem c member))⟩
    rcases inside with deep | solid
    · simp [endsAt, Int.not_le.mpr deep]
    · simp [endsAt, solid c List.mem_cons_self]

theorem isNeutral_of_isPlain (plain : isPlain c = true) : IsNeutral c :=
  ascii_induction (fun c => isPlain c = true → IsNeutral c) (by decide) (ascii_of_isPlain plain) plain

theorem isExpression_of_bare (bare : IsBare text) : IsExpression text where
  filled := bare.1
  unbroken := unbroken_of_isNeutral (fun c member => isNeutral_of_isPlain (bare.2 c member))
    (Or.inr fun c member => isBlank_of_isPlain (bare.2 c member))
  closed := foldl_of_isNeutral (fun c member => isNeutral_of_isPlain (bare.2 c member)) 0

theorem isGrouped_of_isNeutral (neutral : ∀ c ∈ text, IsNeutral c) : IsGrouped text where
  filled := List.cons_ne_nil _ _
  unbroken := by
    have inside := unbroken_of_isNeutral neutral (Or.inl Int.zero_lt_one)
    refine unbroken_cons.mpr ⟨by decide, unbroken_append.mpr ⟨inside, ?_⟩⟩
    change Unbroken (text.foldl step ⟨none, 1⟩) [')']
    rw [foldl_of_isNeutral neutral]
    decide
  closed := by
    rw [List.foldl_cons, List.foldl_append]
    change (text.foldl step ⟨none, 1⟩).step ')' = _
    rw [foldl_of_isNeutral neutral]
    rfl

/-- No keyword has a parenthesis in it. -/
theorem not_isStopWord_of_mem (member : '(' ∈ text) : isStopWord text = false := by
  have capital : '(' ∈ uppercase text := List.mem_flatMap.mpr ⟨'(', member, by decide⟩
  have kept : '(' ∈ ((uppercase text).reverse.dropWhile (· == ',')).reverse := by
    rw [List.mem_reverse]
    have reversed : '(' ∈ (uppercase text).reverse := List.mem_reverse.mpr capital
    rw [← List.takeWhile_append_dropWhile (p := (· == ',')) (l := (uppercase text).reverse)] at reversed
    rcases List.mem_append.mp reversed with comma | later
    · exact absurd (List.all_eq_true.mp List.all_takeWhile '(' comma) (by decide)
    · exact later
  have none_of : ∀ word ∈ stopWords, '(' ∉ word.toList := by decide
  rw [← Bool.not_eq_true]
  intro stop
  refine none_of _ (List.contains_iff_mem.mp stop) ?_
  rw [String.toList_ofList]
  exact kept

end SchemaAtlas.DefaultValue
