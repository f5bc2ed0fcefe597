import SchemaAtlas.Proofs.Clause.ColumnHead
/-!
Names in delimiters. Such a name is an identifier up to its closing delimiter, whatever else stands in it, and
cleaning takes off the delimiters and nothing else.
-/
namespace SchemaAtlas
open Text Pattern Cursor

namespace Name
variable {opening closing : Char} {name rest : Text}

/-- A name as it stands in its delimiters. -/
def enclosed (opening closing : Char) (name : Text) : Text := opening :: (name ++ [closing])

theorem enclosed_append (opening closing : Char) (name rest : Text) :
    enclosed opening closing name ++ rest = opening :: (name ++ closing :: rest) := by simp [enclosed]

theorem areDelimiters_iff : areDelimiters opening closing = true ↔
    (opening, closing) ∈ [('[', ']'), ('"', '"'), ('\x60', '\x60'), ('\'', '\'')] := by
  simp only [areDelimiters, decide_eq_true_eq, List.mem_cons, List.not_mem_nil, or_false]
  tauto

/-- A pair of delimiters is brackets or one of the quotation marks twice. -/
theorem areDelimiters_cases (pair : areDelimiters opening closing = true) :
    (opening = '[' ∧ closing = ']') ∨ (Script.isQuotationMark opening = true ∧ closing = opening) := by
  simp only [areDelimiters_iff, List.mem_cons, Prod.mk.injEq, List.not_mem_nil, or_false] at pair
  rcases pair with ⟨rfl, rfl⟩ | ⟨rfl, rfl⟩ | ⟨rfl, rfl⟩ | ⟨rfl, rfl⟩
  · exact Or.inl ⟨rfl, rfl⟩
  all_goals exact Or.inr ⟨rfl, rfl⟩

/-- Delimiters are neither blank nor part of a word, and the first one tells the second one. -/
theorem areDelimiters_spec (pair : areDelimiters opening closing = true) :
    isBlank opening = false ∧ isBlank closing = false ∧ isWordCharacter opening = false ∧
      ∀ other, areDelimiters opening other = true → other = closing := by
  simp only [areDelimiters_iff, List.mem_cons, Prod.mk.injEq, List.not_mem_nil, or_false] at pair ⊢
  rcases pair with ⟨rfl, rfl⟩ | ⟨rfl, rfl⟩ | ⟨rfl, rfl⟩ | ⟨rfl, rfl⟩ <;>
    exact ⟨by decide, by decide, by decide, by simp⟩

theorem trim_enclosed (pair : areDelimiters opening closing = true) (name : Text) :
    Text.trim (enclosed opening closing name) = enclosed opening closing name := by
  obtain ⟨solid, closing_solid, _⟩ := areDelimiters_spec pair
  have last : (enclosed opening closing name).getLast? = some closing :=
    List.getLast?_concat (l := opening :: name)
  exact trim_eq_self solid (by rw [last]; exact closing_solid)

theorem clean_enclosed (pair : areDelimiters opening closing = true) (trimmed : Text.trim name = name) :
    clean (enclosed opening closing name) = name := by
  have inner : undelimited (enclosed opening closing name) = name := by
    obtain ⟨second, rest, same⟩ := List.exists_cons_of_ne_nil (List.concat_ne_nil closing name)
    have last : (second :: rest).getLast (List.cons_ne_nil second rest) = closing := by simp [← same]
    have dropped : (second :: rest).dropLast = name := by simp [← same]
    unfold enclosed
    rw [same]
    simp only [undelimited, last, pair, ↓reduceIte, dropped]
  rw [clean, trim_enclosed pair, inner, trimmed]

end Name

namespace Phrase
open Name
variable {α : Type} {before rest name : Text} {opening closing : Char} {parts : List (Part × Span)}
  {next : Cursor → List (Part × Span) → Option α} {result : α}

theorem spelled_enclosed (pair : areDelimiters opening closing = true) (filled : name ≠ []) (closed : closing ∉ name) :
    IsIdentifier (enclosed opening closing name) := .delimited (areDelimiters_iff.mp pair) filled closed

theorem run_delimited_some
    (found : run (delimited opening closing) (after before rest) parts next = some result) :
    ∃ inner tail, rest = enclosed opening closing inner ++ tail ∧ closing ∉ inner ∧
      next (after (before ++ enclosed opening closing inner) tail) parts = some result := by
  unfold delimited at found
  rw [run_followed, run_followed] at found
  obtain ⟨_, rfl, inside⟩ := run_exactly_some found
  obtain ⟨inner, _, rfl, _, fits, behind⟩ := run_several_some inside
  obtain ⟨tail, rfl, goes⟩ := run_exactly_some behind
  refine ⟨inner, tail, (enclosed_append ..).symm, fun member => ?_, by simpa [enclosed] using goes⟩
  exact bne_iff_ne.mp (fits closing member) rfl

/-- Where a name ends in the text, if it is known not to hold the delimiter. -/
theorem enclosed_unique {inner tail : Text} (closed : closing ∉ name) (other_closed : closing ∉ inner)
    (same : enclosed opening closing name ++ rest = enclosed opening closing inner ++ tail) :
    name = inner ∧ rest = tail := by
  rw [enclosed_append, enclosed_append] at same
  rcases List.append_eq_append_iff.mp (List.cons.inj same).2 with ⟨more, rfl, behind⟩ | ⟨more, rfl, behind⟩
  · cases more with
    | nil => exact ⟨(List.append_nil name).symm, (List.cons.inj behind).2⟩
    | cons c more =>
      obtain rfl := (List.cons.inj behind).1
      exact absurd (by simp) other_closed
  · cases more with
    | nil => exact ⟨List.append_nil inner, (List.cons.inj behind).2.symm⟩
    | cons c more =>
      obtain rfl := (List.cons.inj behind).1
      exact absurd (by simp) closed

/-- An identifier that begins with a delimiter ends with the closing one. -/
theorem run_identifier_enclosed_some (pair : areDelimiters opening closing = true) (closed : closing ∉ name)
    (found : run identifier (after before (enclosed opening closing name ++ rest)) parts next = some result) :
    next (after (before ++ enclosed opening closing name) rest) parts = some result := by
  obtain ⟨_, _, outside, paired⟩ := areDelimiters_spec pair
  have tried {first last : Char} (delimiters : areDelimiters first last = true)
      (found : run (delimited first last) (after before (enclosed opening closing name ++ rest)) parts next =
        some result) : next (after (before ++ enclosed opening closing name) rest) parts = some result := by
    obtain ⟨inner, tail, same, other_closed, goes⟩ := run_delimited_some found
    obtain rfl : opening = first := (List.cons.inj same).1
    obtain rfl := paired last delimiters
    obtain ⟨rfl, rfl⟩ := enclosed_unique closed other_closed same
    exact goes
  unfold identifier at found
  rcases run_either_some found with found | found
  · exact tried rfl found
  rcases run_either_some found with found | found
  · exact tried rfl found
  rcases run_either_some found with found | found
  · exact tried rfl found
  rcases run_either_some found with found | found
  · exact tried rfl found
  have no_word : (enclosed opening closing name ++ rest).head?.any isWordCharacter = false := outside
  unfold plainWord at found
  rw [run_several_ne no_word] at found
  cases found

theorem run_qualifier_enclosed_none (pair : areDelimiters opening closing = true) (closed : closing ∉ name)
    (dotless : ¬DotAhead rest) :
    run qualifier (after before (enclosed opening closing name ++ rest)) parts next = none := by
  by_contra found
  obtain ⟨_, found⟩ := Option.ne_none_iff_exists'.mp found
  unfold qualifier at found
  rw [run_followed, run_followed, run_followed] at found
  obtain ⟨gap, tail, rfl, blank, found⟩ := run_many_some (run_identifier_enclosed_some pair closed found)
  obtain ⟨tail, rfl, _⟩ := run_exactly_some found
  exact dotless ⟨gap, tail, rfl, blank⟩

theorem run_qualified_enclosed (pair : areDelimiters opening closing = true) (filled : name ≠ [])
    (closed : closing ∉ name) (outside : beginsWord rest = false) (dotless : ¬DotAhead rest)
    (goes : next (after (before ++ enclosed opening closing name) rest) parts = some result) :
    run qualified (after before (enclosed opening closing name ++ rest)) parts next = some result := by
  unfold qualified
  rw [run_followed, run_optional_none (run_qualifier_enclosed_none pair closed dotless)]
  exact run_identifier_spelled (spelled_enclosed pair filled closed) outside goes

theorem run_ifNotExists_of_outside (outside : beginsWord rest = false) :
    run ifNotExists (after before rest) parts next = next (after before rest) parts := by
  unfold ifNotExists
  apply run_optional_none
  rw [run_followed, run_followed, run_followed, run_word_none (by decide) outside]

end Phrase

namespace Name
variable {opening closing : Char} {name : Text}

theorem wholeName_enclosed (pair : areDelimiters opening closing = true) (filled : name ≠ [])
    (closed : closing ∉ name) :
    Phrase.wholeName.match? (enclosed opening closing name) =
      some ⟨⟨0, (enclosed opening closing name).length⟩,
        [(.name, Span.behind [] (enclosed opening closing name))]⟩ := by
  have dotless : ¬Phrase.DotAhead [] := Phrase.not_dotAhead_of_not_mem List.not_mem_nil
  rw [match?_eq_matchAt]
  nth_rewrite 1 [← List.append_nil (enclosed opening closing name)]
  unfold matchAt Phrase.wholeName
  rw [run_followed, run_followed, run_optional_none (Phrase.run_qualifier_enclosed_none pair closed dotless), run_named]
  apply Phrase.run_identifier_spelled (Phrase.spelled_enclosed pair filled closed) rfl
  rw [run_ending]
  rfl

theorem cleanQualified_enclosed (pair : areDelimiters opening closing = true) (filled : name ≠ [])
    (closed : closing ∉ name) (trimmed : Text.trim name = name) :
    cleanQualified (enclosed opening closing name) = name := by
  have part : (⟨⟨0, (enclosed opening closing name).length⟩,
      [(.name, Span.behind [] (enclosed opening closing name))]⟩ : Match).text? .name
        (enclosed opening closing name) = some (enclosed opening closing name) :=
    Match.text?_of_part [] [] rfl (by simp)
  unfold cleanQualified
  simp only [trim_enclosed pair, wholeName_enclosed pair filled closed, Option.bind_some, part]
  exact clean_enclosed pair trimmed

end Name
end SchemaAtlas
