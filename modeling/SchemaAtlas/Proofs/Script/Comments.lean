import SchemaAtlas.Proofs.Script.Layout
/-!
The reader of comments. A script may be read in two parts if no mark of a comment goes over the joint. What is
read holds no comment any more, so reading it again changes nothing.
-/
namespace SchemaAtlas.Script
open Text

/-- Where the reader of comments stands behind a text. -/
def Region.after : Region → Text → Region
  | region, [] => region
  | .code, '-' :: '-' :: rest => after .lineComment rest
  | .code, '/' :: '*' :: rest => after .blockComment rest
  | .code, c :: rest => after (if isQuotationMark c then .quoted c c else .code) rest
  | .quoted mark last, c :: rest => after (if c == mark && last != '\\' then .code else .quoted mark c) rest
  | .lineComment, c :: rest => if c == '\n' then after .code rest else after .lineComment rest
  | .blockComment, '*' :: '/' :: rest => after .code rest
  | .blockComment, _ :: rest => after .blockComment rest

section Joint
variable {region later : Region} {front text rest : Text}

/-- No mark of a comment goes over the joint of two texts. -/
structure Apart (region : Region) (text rest : Text) : Prop where
  line : text.getLast? = some '-' → rest.head? ≠ some '-'
  opening : text.getLast? = some '/' → rest.head? ≠ some '*'
  closing : text.getLast? = some '*' → rest.head? = some '/' → region.after text ≠ .blockComment

theorem Apart.of_append (front : Text) (same : region.after (front ++ text) = later.after text)
    (apart : Apart region (front ++ text) rest) : Apart later text rest := by
  have last {c : Char} (found : text.getLast? = some c) : (front ++ text).getLast? = some c := by
    rw [List.getLast?_append, found]
    rfl
  exact ⟨fun found => apart.line (last found), fun found => apart.opening (last found),
    fun found first behind => apart.closing (last found) first (same.trans behind)⟩

/-- What both texts begin with is in the first one, if it is not the second one that begins so. -/
theorem exists_eq_cons {c : Char} {others : Text} (same : text ++ rest = c :: others)
    (differs : text = [] → rest.head? ≠ some c) : ∃ more, text = c :: more := by
  cases text with
  | nil =>
    rw [← List.nil_append rest, same] at differs
    exact absurd rfl (differs rfl)
  | cons d more => exact ⟨more, by rw [(List.cons.inj same).1]⟩

/-- Comments are read in two parts, if no mark of a comment goes over the joint. -/
theorem uncomment_append_of_apart (apart : Apart region text rest) :
    uncomment region (text ++ rest) = uncomment region text ++ uncomment (region.after text) rest := by
  fun_induction Region.after region text with
  | case1 region => cases region <;> simp [uncomment]
  | case2 text ih => simpa [uncomment] using ih (apart.of_append ['-', '-'] rfl)
  | case3 text ih => simpa [uncomment] using ih (apart.of_append ['/', '*'] rfl)
  | case4 c text line block ih =>
    have next : Region.code.after ([c] ++ text) =
        (if isQuotationMark c then .quoted c c else .code : Region).after text := by
      rw [List.cons_append, List.nil_append, Region.after]
      · exact line
      · exact block
    rw [List.cons_append, uncomment, uncomment, ih (apart.of_append [c] next), List.cons_append]
    · exact line
    · exact block
    · rintro others rfl there
      obtain ⟨more, same⟩ := exists_eq_cons there (by rintro rfl; exact apart.line rfl)
      exact line more rfl same
    · rintro others rfl there
      obtain ⟨more, same⟩ := exists_eq_cons there (by rintro rfl; exact apart.opening rfl)
      exact block more rfl same
  | case5 mark last c text ih => simpa [uncomment] using ih (apart.of_append [c] (by simp [Region.after]))
  | case6 c text ends ih =>
    simpa [uncomment, ends] using ih (apart.of_append [c] (by simp [Region.after, ends]))
  | case7 c text stays ih =>
    simpa [uncomment, stays] using ih (apart.of_append [c] (by simp [Region.after, stays]))
  | case8 text ih => simpa [uncomment] using ih (apart.of_append ['*', '/'] rfl)
  | case9 c text stays ih =>
    have next : Region.blockComment.after ([c] ++ text) = Region.blockComment.after text := by
      rw [List.cons_append, List.nil_append, Region.after]
      exact stays
    rw [List.cons_append, uncomment, uncomment, ih (apart.of_append [c] next)]
    · exact stays
    · rintro others rfl there
      obtain ⟨more, same⟩ := exists_eq_cons there (by rintro rfl first; exact apart.closing rfl first rfl)
      exact stays more rfl same

/-- What follows a text does not begin with a character of a comment mark. -/
def IsClear (rest : Text) : Prop := ∀ c ∈ rest.head?, c ≠ '-' ∧ c ≠ '*' ∧ c ≠ '/'

theorem IsClear.apart (clear : IsClear rest) (region : Region) (text : Text) : Apart region text rest := by
  refine ⟨fun _ first => ?_, fun _ first => ?_, fun _ first => ?_⟩
  · exact absurd rfl (clear _ first).1
  · exact absurd rfl (clear _ first).2.1
  · exact absurd rfl (clear _ first).2.2

theorem uncomment_append (clear : IsClear rest) (region : Region) (text : Text) :
    uncomment region (text ++ rest) = uncomment region text ++ uncomment (region.after text) rest :=
  uncomment_append_of_apart (clear.apart region text)

end Joint

section Comment
variable {inner : Text}

/-- A block comment ends with the first mark that closes it. -/
theorem uncomment_block (unclosed : ¬['*', '/'] <:+: inner) (behind : Text) :
    uncomment .blockComment (inner ++ '*' :: '/' :: behind) = uncomment .code behind := by
  induction inner with
  | nil => simp [uncomment]
  | cons c inner ih =>
    rw [List.cons_append, uncomment, ih fun inside => unclosed (List.infix_cons inside)]
    rintro others rfl there
    cases inner with
    | nil => simp at there
    | cons d inner =>
      obtain ⟨rfl, _⟩ := List.cons.inj there
      exact unclosed ⟨[], inner, rfl⟩

/-- A line comment ends with its line, and the line break stays. -/
theorem uncomment_line (unbroken : '\n' ∉ inner) (behind : Text) :
    uncomment .lineComment (inner ++ '\n' :: behind) = '\n' :: uncomment .code behind := by
  induction inner with
  | nil => simp [uncomment]
  | cons c inner ih =>
    have other : ¬(c == '\n') = true := by simpa using (List.ne_of_not_mem_cons unbroken).symm
    rw [List.cons_append, uncomment, if_neg other, ih (List.not_mem_of_not_mem_cons unbroken)]

end Comment

/-- One character further, where no comment is or begins. -/
def Region.step : Region → Char → Region
  | .code, c => if isQuotationMark c then .quoted c c else .code
  | .quoted mark last, c => if c == mark && last != '\\' then .code else .quoted mark c
  | region, _ => region

def Region.isComment : Region → Bool
  | .code | .quoted _ _ => false
  | .lineComment | .blockComment => true

/-- The quotation mark that is open. -/
def Region.mark? : Region → Option Char
  | .quoted mark _ => some mark
  | _ => none

theorem isComment_step (region : Region) (c : Char) : (region.step c).isComment = region.isComment := by
  cases region with
  | code => simp only [Region.step]; split <;> rfl
  | quoted mark last => simp only [Region.step]; split <;> rfl
  | lineComment => rfl
  | blockComment => rfl

/-- A comment begins with the character, in view of what follows it. -/
def opensComment (c : Char) (rest : Text) : Bool :=
  (c == '-' && rest.head? == some '-') || (c == '/' && rest.head? == some '*')

theorem opensComment_iff {c : Char} {rest : Text} : opensComment c rest = true ↔
    (c = '-' ∧ ∃ others, rest = '-' :: others) ∨ (c = '/' ∧ ∃ others, rest = '*' :: others) := by
  simp only [opensComment, Bool.or_eq_true, Bool.and_eq_true, beq_iff_eq, List.head?_eq_some_iff]

theorem opensComment_of_ne {c : Char} (line : c ≠ '-') (block : c ≠ '/') (rest : Text) :
    opensComment c rest = false := by
  rw [opensComment, beq_eq_false_iff_ne.mpr line, beq_eq_false_iff_ne.mpr block]
  rfl

/-- Of what follows, only the first character matters, and only if it is the second one of a mark. -/
theorem opensComment_of_head {c : Char} {text other : Text} (here : opensComment c text = false)
    (heads : ∀ d, d = '-' ∨ d = '*' → other.head? = some d → text.head? = some d) :
    opensComment c other = false := by
  simp only [opensComment, Bool.or_eq_false_iff, Bool.and_eq_false_iff, beq_eq_false_iff_ne] at here ⊢
  exact ⟨here.1.imp_right fun differs first => differs (heads _ (Or.inl rfl) first),
    here.2.imp_right fun differs first => differs (heads _ (Or.inr rfl) first)⟩

/-- A text without comments, as the reader sees it that comes to it in a region. -/
inductive Commentless : Region → Text → Prop where
  | nil {region : Region} (outside : region.isComment = false) : Commentless region []
  | code {c : Char} {rest : Text} (here : opensComment c rest = false)
    (later : Commentless (Region.code.step c) rest) : Commentless .code (c :: rest)
  | quoted {mark last c : Char} {rest : Text} (later : Commentless ((Region.quoted mark last).step c) rest) :
    Commentless (.quoted mark last) (c :: rest)

section Reading
variable {region : Region} {c : Char} {text front rest : Text}

/-- Only quotation marks are ever open. -/
theorem isQuotationMark_after (region : Region) (text : Text)
    (marked : ∀ mark ∈ region.mark?, isQuotationMark mark = true) :
    ∀ mark ∈ (region.after text).mark?, isQuotationMark mark = true := by
  fun_induction Region.after region text with
  | case1 region => exact marked
  | case2 text ih => exact ih (by simp [Region.mark?])
  | case3 text ih => exact ih (by simp [Region.mark?])
  | case4 c text line block ih =>
    apply ih
    by_cases marks : isQuotationMark c = true <;> simp [Region.mark?, marks]
  | case5 mark last c text ih =>
    apply ih
    split
    · simp [Region.mark?]
    · exact marked
  | case6 c text ends ih => exact ih (by simp [Region.mark?])
  | case7 c text stays ih => exact ih (by simp [Region.mark?])
  | case8 text ih => exact ih (by simp [Region.mark?])
  | case9 c text stays ih => exact ih (by simp [Region.mark?])

theorem uncomment_code (here : opensComment c rest = false) :
    uncomment .code (c :: rest) = c :: uncomment (Region.code.step c) rest := by
  rw [uncomment]
  · rfl
  · rintro others rfl rfl
    cases here
  · rintro others rfl rfl
    cases here

theorem Commentless.uncomment_eq (commentless : Commentless region text) : uncomment region text = text := by
  induction commentless with
  | @nil region _ => cases region <;> rfl
  | code here _ ih => rw [uncomment_code here, ih]
  | quoted _ ih => rw [uncomment]; exact congrArg _ ih

theorem length_uncomment_le (region : Region) (text : Text) : (uncomment region text).length ≤ text.length := by
  fun_induction uncomment region text <;> simp_all <;> omega

theorem length_opened (opens : opensComment c rest = true) :
    (uncomment .code (c :: rest)).length < (c :: rest).length := by
  rcases opensComment_iff.mp opens with ⟨rfl, others, rfl⟩ | ⟨rfl, others, rfl⟩
  · have short := length_uncomment_le .lineComment others
    simp only [uncomment, List.length_cons]
    omega
  · have short := length_uncomment_le .blockComment others
    simp only [uncomment, List.length_cons]
    omega

/-- Only a text without comments is left as it is. -/
theorem commentless_of_uncomment_eq (outside : region.isComment = false) (same : uncomment region text = text) :
    Commentless region text := by
  induction text generalizing region with
  | nil => exact .nil outside
  | cons c text ih =>
    have next : (region.step c).isComment = false := (isComment_step region c).trans outside
    cases region with
    | code =>
      cases opens : opensComment c text with
      | true =>
        have short := length_opened opens
        rw [same] at short
        exact absurd short (Nat.lt_irrefl _)
      | false =>
        rw [uncomment_code opens] at same
        exact .code opens (ih next (List.cons.inj same).2)
    | quoted mark last =>
      rw [uncomment] at same
      exact .quoted (ih next (List.cons.inj same).2)
    | lineComment => cases outside
    | blockComment => cases outside

theorem head_uncomment_line {d : Char} (first : (uncomment .lineComment text).head? = some d) : d = '\n' := by
  induction text with
  | nil => cases first
  | cons c text ih =>
    rw [uncomment] at first
    split at first
    · next breaks => rw [← Option.some.inj first, beq_iff_eq.mp breaks]
    · exact ih first

/-- The second character of a comment mark does not move up to the first one. -/
theorem head_uncomment (d : Char) (second : d = '-' ∨ d = '*') (first : (uncomment .code text).head? = some d) :
    text.head? = some d := by
  have other : d ≠ '\n' ∧ d ≠ ' ' := by rcases second with rfl | rfl <;> decide
  cases text with
  | nil => cases first
  | cons c text =>
    cases opens : opensComment c text with
    | false => rwa [uncomment_code opens] at first
    | true =>
      rcases opensComment_iff.mp opens with ⟨rfl, others, rfl⟩ | ⟨rfl, others, rfl⟩
      · exact absurd (head_uncomment_line (by simpa only [uncomment] using first)) other.1
      · simp only [uncomment, List.head?_cons, Option.some.injEq] at first
        exact absurd first.symm other.2

/-- What is read behind a comment is code. -/
def Region.resumed (region : Region) : Region := if region.isComment then .code else region

theorem Commentless.of_resumed (outside : region.isComment = false) (commentless : Commentless region.resumed text) :
    Commentless region text := by
  rwa [Region.resumed, outside] at commentless

/-- What has been read holds no comment. -/
theorem commentless_uncomment (region : Region) (text : Text) :
    Commentless region.resumed (uncomment region text) := by
  have breaks : Region.code.step '\n' = .code := rfl
  fun_induction uncomment region text with
  | case1 region => exact .nil (by cases region <;> rfl)
  | case2 text ih => exact ih
  | case3 text ih => exact .code rfl ih
  | case4 c text line block ih =>
    have kept : opensComment c text = false := by
      refine Bool.eq_false_iff.mpr fun opens => ?_
      rcases opensComment_iff.mp opens with ⟨here, others, same⟩ | ⟨here, others, same⟩
      · exact line others here same
      · exact block others here same
    have later : Commentless (Region.code.step c) (uncomment (Region.code.step c) text) :=
      .of_resumed (isComment_step .code c) ih
    refine .code ?_ later
    by_cases marks : isQuotationMark c = true
    · exact opensComment_of_ne (by rintro rfl; cases marks) (by rintro rfl; cases marks) _
    · rw [if_neg marks]
      exact opensComment_of_head kept head_uncomment
  | case5 mark last c text ih =>
    have outside := isComment_step (.quoted mark last) c
    exact .quoted (.of_resumed outside ih)
  | case6 c text ends ih =>
    obtain rfl := beq_iff_eq.mp ends
    exact .code rfl (breaks ▸ ih)
  | case7 c text stays ih => exact ih
  | case8 text ih => exact ih
  | case9 c text stays ih => exact ih

namespace Commentless

theorem outside (commentless : Commentless region text) : region.isComment = false := by
  cases commentless with
  | nil outside => exact outside
  | code => rfl
  | quoted => rfl

theorem of_append (commentless : Commentless region (text ++ rest)) : Commentless region text := by
  induction text generalizing region with
  | nil => exact .nil commentless.outside
  | cons c text ih =>
    cases commentless with
    | quoted later => exact .quoted (ih later)
    | code here later =>
      have heads {d : Char} (first : text.head? = some d) : (text ++ rest).head? = some d := by
        rw [List.head?_append, first]
        rfl
      exact .code (opensComment_of_head here fun d _ first => heads first) (ih later)

theorem behind (commentless : Commentless region (text ++ rest)) :
    Commentless (text.foldl Region.step region) rest := by
  induction text generalizing region with
  | nil => exact commentless
  | cons c text ih =>
    cases commentless with
    | code _ later => exact ih later
    | quoted later => exact ih later

/-- In a text without comments the reader takes one character after the other. -/
theorem after_eq (commentless : Commentless region text) : region.after text = text.foldl Region.step region := by
  induction commentless with
  | nil => rw [Region.after]; rfl
  | @code c text here later ih =>
    rw [List.foldl_cons, ← ih, Region.after]
    · rfl
    · rintro others rfl rfl
      cases here
    · rintro others rfl rfl
      cases here
  | quoted later ih => rw [List.foldl_cons, ← ih, Region.after]; rfl

/-- Outside quotation marks no mark of a comment stands in it. -/
theorem opens_nowhere {c : Char} (commentless : Commentless region (front ++ c :: rest))
    (code : region.after front = .code) : opensComment c rest = false := by
  have there := commentless.behind
  rw [← commentless.of_append.after_eq, code] at there
  cases there with
  | code here _ => exact here

end Commentless

end Reading
end SchemaAtlas.Script
