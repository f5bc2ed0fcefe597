import SchemaAtlas.Clause.Column
import SchemaAtlas.Proofs.Roster
/-!
What reading a column clause can come to. A clause that gives no name has an outcome of its own, the
same for every table; a clause with a name is read by itself, unless the table has that name already.
-/
namespace SchemaAtlas.Column

/-- The name that a clause gives its column, whether or not the table has it already. -/
def givenName? (clause : Text) : Option String :=
  if (Phrase.foreignKeyClause.match? (Text.trim clause)).isSome then none
  else if Text.isAllBlank clause then none
  else match Phrase.columnDefinition.match? clause with
    | none => none
    | some found =>
      let name := String.ofList (Name.clean ((found.text? .column clause).getD []))
      if name == "" then none else some name

/-- What a definition says of the column behind its name. -/
def readMatch (name : String) (found : Match) (clause : Text) : Except NumeralError (Column × Option Text) := do
  let type ← DataType.read ((found.text? .type clause).getD []) (found.text? .arguments clause)
  Attributes.apply (.plain name type) ((found.text? .body clause).getD [])

section Read
variable {clause : Text}

theorem read_of_nameless (nameless : givenName? clause = none) :
    ∃ outcome, (∀ taken, read taken clause = outcome) ∧ (∀ error, outcome ≠ .unreadable error) ∧
      ∀ column check, outcome ≠ .accepted column check := by
  unfold givenName? at nameless
  by_cases foreign : (Phrase.foreignKeyClause.match? (Text.trim clause)).isSome = true
  · exact ⟨.foreignKeyClause, fun _ => by rw [read, if_pos foreign], by simp, by simp⟩
  rw [if_neg foreign] at nameless
  by_cases blank : Text.isAllBlank clause = true
  · exact ⟨.blank, fun _ => by rw [read, if_neg foreign, if_pos blank], by simp, by simp⟩
  rw [if_neg blank] at nameless
  cases matched : Phrase.columnDefinition.match? clause with
  | none =>
    refine ⟨.unrecognized, fun _ => ?_, by simp, by simp⟩
    rw [read, if_neg foreign, if_neg blank]
    simp only [matched]
  | some found =>
    refine ⟨.nameless, fun _ => ?_, by simp, by simp⟩
    simp only [matched, ite_eq_left_iff, reduceCtorEq, imp_false, Bool.not_eq_true, Bool.not_eq_false]
      at nameless
    rw [read, if_neg foreign, if_neg blank]
    simp only [matched, nameless, ↓reduceIte]

theorem read_of_named {name : String} (named : givenName? clause = some name) :
    name ≠ "" ∧ ∃ found, Phrase.columnDefinition.match? clause = some found ∧
      ∀ taken, read taken clause =
        if taken.has name then .duplicate name else .ofReading (readMatch name found clause) := by
  unfold givenName? at named
  by_cases foreign : (Phrase.foreignKeyClause.match? (Text.trim clause)).isSome = true
  · simp [foreign] at named
  rw [if_neg foreign] at named
  by_cases blank : Text.isAllBlank clause = true
  · simp [blank] at named
  rw [if_neg blank] at named
  cases matched : Phrase.columnDefinition.match? clause with
  | none => simp [matched] at named
  | some found =>
    simp only [matched] at named
    split at named
    · cases named
    · next filled =>
      cases named
      refine ⟨fun empty => filled (by simp [empty]), found, rfl, fun taken => ?_⟩
      rw [read, if_neg foreign, if_neg blank]
      simp only [matched]
      rw [if_neg filled]
      rfl

/-- A clause is read alike for tables that both have its name or both lack it. -/
theorem read_congr {taken other : Roster Column}
    (same : ∀ name, givenName? clause = some name → taken.has name = other.has name) :
    read taken clause = read other clause := by
  cases given : givenName? clause with
  | none =>
    obtain ⟨outcome, reads, _⟩ := read_of_nameless given
    rw [reads taken, reads other]
  | some name =>
    obtain ⟨_, found, _, reads⟩ := read_of_named given
    rw [reads taken, reads other, same name given]

/-- A clause with an unreadable number has a name that is free. -/
theorem of_unreadable {taken : Roster Column} {error : NumeralError}
    (failed : read taken clause = .unreadable error) :
    ∃ name found, givenName? clause = some name ∧ taken.has name = false ∧
      Phrase.columnDefinition.match? clause = some found ∧ readMatch name found clause = .error error := by
  cases given : givenName? clause with
  | none =>
    obtain ⟨outcome, reads, readable, _⟩ := read_of_nameless given
    exact absurd ((reads taken).symm.trans failed) (readable error)
  | some name =>
    obtain ⟨_, found, matched, reads⟩ := read_of_named given
    rw [reads taken] at failed
    split at failed
    · cases failed
    · next fresh =>
      refine ⟨name, found, rfl, Bool.eq_false_iff.mpr fresh, matched, ?_⟩
      cases reading : readMatch name found clause with
      | error cause =>
        rw [reading] at failed
        cases failed
        rfl
      | ok pair => rw [reading] at failed; cases failed

/-- A clause that gives a column has a name that is free. -/
theorem of_accepted {taken : Roster Column} {column : Column} {check : Option String}
    (accepted : read taken clause = .accepted column check) :
    ∃ name found condition, givenName? clause = some name ∧ name ≠ "" ∧ taken.has name = false ∧
      Phrase.columnDefinition.match? clause = some found ∧
      readMatch name found clause = .ok (column, condition) := by
  cases given : givenName? clause with
  | none =>
    obtain ⟨outcome, reads, _, columnless⟩ := read_of_nameless given
    exact absurd ((reads taken).symm.trans accepted) (columnless column check)
  | some name =>
    obtain ⟨filled, found, matched, reads⟩ := read_of_named given
    rw [reads taken] at accepted
    split at accepted
    · cases accepted
    · next fresh =>
      cases reading : readMatch name found clause with
      | error cause => rw [reading] at accepted; cases accepted
      | ok pair =>
        obtain ⟨result, condition⟩ := pair
        rw [reading] at accepted
        cases accepted
        exact ⟨name, found, condition, rfl, filled, Bool.eq_false_iff.mpr fresh, matched, reading⟩

end Read
end SchemaAtlas.Column
