import SchemaAtlas.Proofs.Clause.ColumnReading
import SchemaAtlas.Proofs.Script.Keywords
import SchemaAtlas.Proofs.Text.Decimal
/-!
Why a number in a column clause cannot be read. The arguments of a type are read as numbers when they
consist of digits, which lets digits without a place value in, and the numbers of an identity consist
of decimal digits. So a number is too long, or it is an argument with a digit that is no decimal digit.
-/
namespace SchemaAtlas
open Text Pattern Cursor

/-- What an unreadable number must look like. -/
def NumeralError.HasCause : NumeralError → Prop
  | .malformed text => DataType.isDigits text = true ∧ ∃ c ∈ text, isDecimalDigit c = false
  | .tooLong digits => Numeral.mostDigits < digits

namespace Numeral

theorem isDecimalDigit_of_isBlank {c : Char} (blank : isBlank c = true) : isDecimalDigit c = false := by
  have each : ∀ point ∈ blankPoints, isDecimalDigit (Char.ofNat point) = false := by decide
  have here := each c.toNat (mem_blankPoints blank)
  rwa [Char.ofNat_toNat] at here

section Decimal
variable {c : Char} (decimal : isDecimalDigit c = true)
include decimal

theorem not_isMargin_of_decimal : ¬isMargin c = true := by
  intro margin
  have blank : isBlank c = true := (Bool.and_eq_true_iff.mp margin).1
  rw [isDecimalDigit_of_isBlank blank] at decimal
  cases decimal

theorem ne_of_decimal {mark : Char} (other : isDecimalDigit mark = false) : c ≠ mark := by
  rintro rfl
  rw [decimal] at other
  cases other

end Decimal

theorem isGrouped_of_decimal {run : Text} (all : ∀ c ∈ run, isDecimalDigit c = true) (afterDigit : Bool) :
    isGrouped afterDigit run = (!run.isEmpty || afterDigit) := by
  induction run generalizing afterDigit with
  | nil => rfl
  | cons c run ih =>
    have other : (c == '_') = false :=
      beq_eq_false_iff_ne.mpr (ne_of_decimal (all c List.mem_cons_self) (by decide))
    rw [isGrouped, other, if_neg Bool.false_ne_true, ih fun d member => all d (List.mem_cons_of_mem c member)]
    simp

theorem error_of_read {text : Text} {error : NumeralError} (failed : Numeral.read text = .error error) :
    error = .malformed text ∨ ∃ digits, error = .tooLong digits ∧ mostDigits < digits := by
  simp only [Numeral.read] at failed
  split at failed
  · cases failed
    exact Or.inl rfl
  split at failed
  · next long =>
    cases failed
    exact Or.inr ⟨_, rfl, long⟩
  split at failed
  · cases failed
    exact Or.inl rfl
  · cases failed

/-- Decimal digits behind an optional sign make a numeral, so that nothing but its length can be wrong. -/
theorem read_of_decimal {sign digits : Text} (signed : sign = [] ∨ sign = ['-'])
    (filled : digits ≠ []) (all : ∀ c ∈ digits, isDecimalDigit c = true) :
    ∃ value, Numeral.read (sign ++ digits) =
      if mostDigits < (places digits).length then .error (.tooLong (places digits).length) else .ok value := by
  have place : ∀ c ∈ digits, isPlace c = true := fun c member => by simp [isPlace, all c member]
  have taken : digits.takeWhile isPlace = digits := by
    have whole : (digits ++ []).takeWhile isPlace = _ := List.takeWhile_append_of_pos place
    simpa using whole
  have dropped : digits.dropWhile isPlace = [] := by
    have whole : (digits ++ []).dropWhile isPlace = _ := List.dropWhile_append_of_pos place
    simpa using whole
  have grouped : isGrouped false digits = true := by
    rw [isGrouped_of_decimal all]
    simp [filled]
  have split : ∃ negative, splitSign ((sign ++ digits).dropWhile isMargin) = (negative, digits) := by
    obtain ⟨c, others, rfl⟩ := List.exists_cons_of_ne_nil filled
    have decimal := all c List.mem_cons_self
    rcases signed with rfl | rfl
    · refine ⟨false, ?_⟩
      rw [List.nil_append, List.dropWhile_cons_of_neg (not_isMargin_of_decimal decimal)]
      simp [splitSign, ne_of_decimal decimal (show isDecimalDigit '-' = false by decide),
        ne_of_decimal decimal (show isDecimalDigit '+' = false by decide)]
    · refine ⟨true, ?_⟩
      rw [List.singleton_append, List.dropWhile_cons_of_neg (by decide)]
      rfl
  obtain ⟨negative, split⟩ := split
  refine ⟨if negative then -(magnitude digits : Int) else magnitude digits, ?_⟩
  unfold Numeral.read
  simp only [split, taken, dropped, grouped, Bool.not_true, Bool.false_eq_true, ↓reduceIte, List.all_nil]

theorem not_malformed_of_decimal {sign digits text : Text} (signed : sign = [] ∨ sign = ['-'])
    (filled : digits ≠ []) (all : ∀ c ∈ digits, isDecimalDigit c = true) :
    Numeral.read (sign ++ digits) ≠ .error (.malformed text) := by
  obtain ⟨value, read⟩ := read_of_decimal signed filled all
  rw [read]
  split <;> simp

/-- Decimal digits, perhaps with a sign. -/
def IsSigned (text : Text) : Prop :=
  ∃ sign digits, text = sign ++ digits ∧ (sign = [] ∨ sign = ['-']) ∧ digits ≠ [] ∧
    ∀ c ∈ digits, isDecimalDigit c = true

theorem exists_read_of_signed {text : Text} (signed : IsSigned text)
    (short : text.countP isDecimalDigit ≤ mostDigits) : ∃ value, Numeral.read text = .ok value := by
  obtain ⟨sign, digits, rfl, sign_only, filled, all⟩ := signed
  obtain ⟨value, read⟩ := read_of_decimal sign_only filled all
  have count : (places digits).length ≤ mostDigits := by
    rw [List.countP_append, List.countP_eq_length.mpr all] at short
    exact Nat.le_trans (List.length_filterMap_le _ _) (Nat.le_trans (Nat.le_add_left _ _) short)
  exact ⟨value, by rw [read, if_neg (Nat.not_lt.mpr count)]⟩

theorem IsSigned.start {text : Text} (signed : IsSigned text) (rest : Text) :
    (text ++ rest).head?.any isBlank = false := by
  obtain ⟨sign, digits, rfl, rfl | rfl, filled, all⟩ := signed
  · obtain ⟨c, others, rfl⟩ := List.exists_cons_of_ne_nil filled
    have decimal := all c List.mem_cons_self
    by_contra blank
    rw [isDecimalDigit_of_isBlank (Bool.of_not_eq_false blank)] at decimal
    cases decimal
  · rfl

theorem isSigned_written (value : Int) : IsSigned (written value) := by
  have decimal (number : Nat) : ∀ c ∈ digits number, isDecimalDigit c = true :=
    fun c member => isDecimalDigit_of_isDigit (isDigit_of_mem member)
  cases value with
  | ofNat number => exact ⟨[], digits number, rfl, Or.inl rfl, (bare_digits number).1, decimal number⟩
  | negSucc number =>
    exact ⟨['-'], digits (number + 1), rfl, Or.inr rfl, (bare_digits (number + 1)).1, decimal (number + 1)⟩

/-- An argument of digits that cannot be read has a digit without a place value, or is too long. -/
theorem hasCause_of_isDigits {text : Text} {error : NumeralError} (digits : DataType.isDigits text = true)
    (failed : Numeral.read text = .error error) : error.HasCause := by
  rcases error_of_read failed with rfl | ⟨count, rfl, long⟩
  · refine ⟨digits, ?_⟩
    by_contra none_other
    have all : ∀ c ∈ text, isDecimalDigit c = true := by
      intro c member
      by_contra other
      exact none_other ⟨c, member, Bool.eq_false_iff.mpr other⟩
    have filled : text ≠ [] := by
      rintro rfl
      cases digits
    exact not_malformed_of_decimal (Or.inl rfl) filled all failed
  · exact long

/-- A numeral of decimal digits that cannot be read is too long. -/
theorem hasCause_of_decimal {sign digits : Text} {error : NumeralError} (signed : sign = [] ∨ sign = ['-'])
    (filled : digits ≠ []) (all : ∀ c ∈ digits, isDecimalDigit c = true)
    (failed : Numeral.read (sign ++ digits) = .error error) : error.HasCause := by
  rcases error_of_read failed with rfl | ⟨count, rfl, long⟩
  · exact absurd failed (not_malformed_of_decimal signed filled all)
  · exact long

end Numeral

theorem DataType.hasCause_of_read {name : Text} {arguments : Option Text} {error : NumeralError}
    (failed : DataType.read name arguments = .error error) : error.HasCause := by
  unfold DataType.read at failed
  cases given : arguments.map splitArguments with
  | none => simp [given, pure, Except.pure] at failed
  | some texts =>
    simp only [given] at failed
    split at failed
    · cases failed
    · next all_digits =>
      have digits : ∀ argument ∈ texts, isDigits argument = true := by simpa using all_digits
      split at failed
      · next size =>
        cases read : Numeral.read size with
        | error cause =>
          simp only [read, bind, Except.bind, Except.error.injEq] at failed
          subst failed
          exact Numeral.hasCause_of_isDigits (digits size (by simp)) read
        | ok value => simp [read, bind, Except.bind, pure, Except.pure] at failed
      · next size scale =>
        cases read : Numeral.read size with
        | error cause =>
          simp only [read, bind, Except.bind, Except.error.injEq] at failed
          subst failed
          exact Numeral.hasCause_of_isDigits (digits size (by simp)) read
        | ok value =>
          cases also_read : Numeral.read scale with
          | error cause =>
            simp only [read, also_read, bind, Except.bind, Except.error.injEq] at failed
            subst failed
            exact Numeral.hasCause_of_isDigits (digits scale (by simp)) also_read
          | ok other => simp [read, also_read, bind, Except.bind, pure, Except.pure] at failed
      · cases failed

namespace Phrase

theorem run_signedDigits {α : Type} {before text rest : Text} {parts : List (Part × Span)}
    {next : Cursor → List (Part × Span) → Option α} {result : α} (signed : Numeral.IsSigned text)
    (stops : rest.head?.any isDecimalDigit = false) (goes : next (after (before ++ text) rest) parts = some result) :
    run signedDigits (after before (text ++ rest)) parts next = some result := by
  obtain ⟨sign, digits, rfl, rfl | rfl, filled, all⟩ := signed
  · have signless : run (exactly '-') (after before (digits ++ rest)) parts
        (fun middle parts => run (several isDecimalDigit) middle parts next) = none := by
      obtain ⟨c, others, rfl⟩ := List.exists_cons_of_ne_nil filled
      exact run_exactly_ne (Numeral.ne_of_decimal (all c List.mem_cons_self) (by decide))
    unfold signedDigits
    rw [run_followed, List.nil_append, run_optional_none signless]
    exact run_several filled all stops goes
  · unfold signedDigits
    rw [run_followed, List.append_assoc, List.singleton_append]
    apply run_optional_of_some
    rw [run_exactly]
    apply run_several filled all stops
    simpa using goes

theorem run_signedDigits_some {α : Type} {before rest : Text} {parts : List (Part × Span)}
    {next : Cursor → List (Part × Span) → Option α} {result : α}
    (found : run signedDigits (after before rest) parts next = some result) :
    ∃ sign digits tail, rest = sign ++ digits ++ tail ∧ (sign = [] ∨ sign = ['-']) ∧ digits ≠ [] ∧
      (∀ c ∈ digits, isDecimalDigit c = true) ∧
      next (after (before ++ (sign ++ digits)) tail) parts = some result := by
  unfold signedDigits at found
  rw [run_followed] at found
  rcases run_optional_some found with signed | goes
  · obtain ⟨tail, rfl, goes⟩ := run_exactly_some signed
    obtain ⟨digits, tail, rfl, filled, all, goes⟩ := run_several_some goes
    exact ⟨['-'], digits, tail, by simp, Or.inr rfl, filled, all, by simpa using goes⟩
  · obtain ⟨digits, tail, rfl, filled, all, goes⟩ := run_several_some goes
    exact ⟨[], digits, tail, by simp, Or.inl rfl, filled, all, by simpa using goes⟩

/-- The seed and the increment are found where they stand. -/
theorem matchAt_identity {before letters seed increment : Text} (seed_signed : Numeral.IsSigned seed)
    (increment_signed : Numeral.IsSigned increment) (tail : Text) (spelled : Spells "IDENTITY" letters)
    (start : endsWord before = false) :
    let numbers := seed ++ ',' :: increment
    let whole := before ++ (letters ++ '(' :: (numbers ++ ')' :: tail))
    ∃ found, identity.findAfter before (letters ++ '(' :: (numbers ++ ')' :: tail)) = some found ∧
      found.text? .seed whole = some seed ∧ found.text? .increment whole = some increment := by
  intro numbers whole
  have bare := bare_of_spells (by decide) spelled
  have closed : ∀ tail, endsWord (before ++ letters) ≠ beginsWord ('(' :: tail) := fun _ => bare.closes rfl before
  have here : ∃ span, identity.matchAt (after before (letters ++ '(' ::
      (seed ++ ',' :: (increment ++ ')' :: tail)))) =
        some ⟨span, [(.increment, Span.behind (before ++ letters ++ ['('] ++ seed ++ [',']) increment),
          (.seed, Span.behind (before ++ letters ++ ['(']) seed)]⟩ := by
    refine ⟨?span, ?reads⟩
    case reads =>
      unfold matchAt identity standalone
      rw [run_followed, run_followed, run_followed, run_edge (bare.opens start _), run_word spelled,
        run_edge (closed _)]
      apply run_optional_of_some
      rw [run_followed, run_followed, run_followed, run_followed, run_followed, run_followed, run_followed,
        run_followed, run_followed, run_perhapsBlanks_none rfl, run_exactly,
        run_perhapsBlanks_none (seed_signed.start _), run_named]
      apply run_signedDigits seed_signed rfl
      rw [run_perhapsBlanks_none rfl, run_exactly, run_perhapsBlanks_none (increment_signed.start _), run_named]
      apply run_signedDigits increment_signed rfl
      rw [run_perhapsBlanks_none rfl, run_exactly]
      rfl
  obtain ⟨span, here⟩ := here
  have same : numbers ++ ')' :: tail = seed ++ ',' :: (increment ++ ')' :: tail) := by simp [numbers]
  rw [← same] at here
  refine ⟨_, findAfter_of_matchAt here, ?_, ?_⟩
  · exact Match.text?_of_part _ (',' :: (increment ++ ')' :: tail)) rfl (by simp [whole, same])
  · exact Match.text?_of_part _ (')' :: tail) rfl (by simp [whole, same])

/-- The numbers of an identity are decimal digits, perhaps with a sign. -/
theorem identity_number {before rest text : Text} {found : Match} {part : Part}
    (here : identity.matchAt (after before rest) = some found)
    (given : found.text? part (before ++ rest) = some text) : Numeral.IsSigned text := by
  unfold matchAt identity standalone at here
  simp only [run_followed] at here
  obtain ⟨_, here⟩ := run_edge_some here
  obtain ⟨letters, rest, rfl, _, here⟩ := run_word_some here
  obtain ⟨_, here⟩ := run_edge_some here
  rcases run_optional_some here with numbered | bare
  · simp only [run_followed] at numbered
    obtain ⟨gap, rest, rfl, _, numbered⟩ := run_many_some numbered
    obtain ⟨rest, rfl, numbered⟩ := run_exactly_some numbered
    obtain ⟨gap_inside, rest, rfl, _, numbered⟩ := run_many_some numbered
    obtain ⟨seed_sign, seed, rest, rfl, seed_signed, seed_filled, seed_digits, numbered⟩ :=
      run_signedDigits_some numbered
    obtain ⟨gap_behind, rest, rfl, _, numbered⟩ := run_many_some numbered
    obtain ⟨rest, rfl, numbered⟩ := run_exactly_some numbered
    obtain ⟨gap_between, rest, rfl, _, numbered⟩ := run_many_some numbered
    obtain ⟨other_sign, increment, rest, rfl, sign, filled, digits, numbered⟩ :=
      run_signedDigits_some numbered
    obtain ⟨gap_last, rest, rfl, _, numbered⟩ := run_many_some numbered
    obtain ⟨rest, rfl, numbered⟩ := run_exactly_some numbered
    cases numbered
    by_cases last : part = .increment
    · subst last
      refine ⟨other_sign, increment, ?_, sign, filled, digits⟩
      rw [Match.text?_of_part (before ++ letters ++ gap ++ ['('] ++ gap_inside ++ (seed_sign ++ seed) ++
        gap_behind ++ [','] ++ gap_between) (gap_last ++ ')' :: rest) rfl (by simp)] at given
      exact (Option.some.inj given).symm
    by_cases first : part = .seed
    · subst first
      refine ⟨seed_sign, seed, ?_, seed_signed, seed_filled, seed_digits⟩
      rw [Match.text?_of_part (before ++ letters ++ gap ++ ['('] ++ gap_inside) (gap_behind ++ ',' ::
        (gap_between ++ (other_sign ++ increment ++ (gap_last ++ ')' :: rest)))) rfl (by simp)] at given
      exact (Option.some.inj given).symm
    · -- The match names no other part.
      cases part <;> first | exact absurd rfl last | exact absurd rfl first | cases given
  · cases bare
    cases given

end Phrase

namespace Attributes

theorem Scope.hasCause_of_identityNumber {scope : Scope} {found : Match} {part : Part} {error : NumeralError}
    (here : Phrase.identity.find? scope.masked = some found)
    (failed : scope.identityNumber found part = .error error) : error.HasCause := by
  rw [find?_eq_findAfter] at here
  obtain ⟨passed, tail, same, place⟩ := findAfter_some here
  unfold Scope.identityNumber at failed
  cases given : found.text? part scope.masked with
  | none => simp [given] at failed
  | some text =>
    rw [given] at failed
    rw [same] at given
    obtain ⟨sign, digits, rfl, signed, filled, all⟩ := Phrase.identity_number place given
    exact Numeral.hasCause_of_decimal signed filled all failed

theorem hasCause_of_apply {column : Column} {text : Text} {error : NumeralError}
    (failed : Attributes.apply column text = .error error) : error.HasCause := by
  unfold Attributes.apply at failed
  split at failed
  · cases failed
  · cases identity : (scope text).applyIdentity ((scope text).applyFlags column) with
    | ok numbered => simp [identity, bind, Except.bind, pure, Except.pure] at failed
    | error cause =>
      simp only [identity, bind, Except.bind, Except.error.injEq] at failed
      subst failed
      unfold Scope.applyIdentity at identity
      split at identity
      · next found here =>
        cases seed : (scope text).identityNumber found .seed with
        | error other =>
          simp only [seed, bind, Except.bind, Except.error.injEq] at identity
          exact identity ▸ Scope.hasCause_of_identityNumber here seed
        | ok first =>
          cases increment : (scope text).identityNumber found .increment with
          | error other =>
            simp only [seed, increment, bind, Except.bind, Except.error.injEq] at identity
            exact identity ▸ Scope.hasCause_of_identityNumber here increment
          | ok second => simp [seed, increment, bind, Except.bind, pure, Except.pure] at identity
      · cases identity

end Attributes

theorem Column.hasCause_of_read {taken : Roster Column} {clause : Text} {error : NumeralError}
    (failed : Column.read taken clause = .unreadable error) : error.HasCause := by
  obtain ⟨name, found, _, _, _, reading⟩ := of_unreadable failed
  unfold readMatch at reading
  cases type : DataType.read ((found.text? .type clause).getD []) (found.text? .arguments clause) with
  | error cause =>
    simp only [type, bind, Except.bind, Except.error.injEq] at reading
    exact reading ▸ DataType.hasCause_of_read type
  | ok typed =>
    simp only [type, bind, Except.bind] at reading
    exact Attributes.hasCause_of_apply reading

end SchemaAtlas
