import SchemaAtlas.Proofs.Clause.ColumnReading
/-!
The flags of one column agree with each other, and a column clause gives a column only with flags that
agree and under a name that is new to its table.
-/
namespace SchemaAtlas

namespace Column

/-- The flags of a column agree with the data that they speak of. -/
structure Coherent (column : Column) : Prop where
  named : column.name ≠ ""
  key_not_null : column.isPrimaryKey = true → column.isNullable = false
  foreign_iff : column.isForeignKey = true ↔ column.references.isSome = true
  identity_iff : column.isIdentity = true ↔
    column.identitySeed.isSome = true ∧ column.identityIncrement.isSome = true

variable {column : Column}

theorem coherent_plain {name : String} (named : name ≠ "") (type : DataType) :
    (plain name type).Coherent :=
  ⟨named, by simp [plain], by simp [plain], by simp [plain]⟩

theorem Coherent.markPrimaryKey (coherent : column.Coherent) : column.markPrimaryKey.Coherent :=
  { coherent with key_not_null := fun _ => rfl }

theorem Coherent.markUnique (coherent : column.Coherent) : column.markUnique.Coherent :=
  { coherent with }

theorem Coherent.markForeignKey (coherent : column.Coherent) (target : Reference) :
    (column.markForeignKey target).Coherent :=
  { coherent with foreign_iff := by simp [Column.markForeignKey] }

theorem Coherent.markIdentity (coherent : column.Coherent) (seed increment : Int) :
    (column.markIdentity (some seed) (some increment)).Coherent :=
  { coherent with identity_iff := by simp [Column.markIdentity] }

theorem Coherent.notNull (coherent : column.Coherent) :
    { column with isNullable := false }.Coherent :=
  { coherent with key_not_null := fun _ => rfl }

theorem Coherent.default (coherent : column.Coherent) (value : Option String) :
    { column with defaultValue := value }.Coherent :=
  { coherent with }

theorem Coherent.either {marked : Column} (coherent : marked.Coherent) (mark : Bool)
    (unmarked : column.Coherent) : (if mark then marked else column).Coherent := by
  split
  · exact coherent
  · exact unmarked

end Column

namespace Attributes.Scope
variable (scope : Scope) {column result : Column}

theorem applyFlags_coherent (coherent : column.Coherent) : (scope.applyFlags column).Coherent := by
  -- NOT NULL comes before PRIMARY KEY, which rules out null by itself.
  have checked := coherent.notNull.either (Phrase.notNull.occurs scope.masked) coherent
  have keyed :=
    checked.markPrimaryKey.either (Phrase.primaryKeyKeyword.occurs scope.masked) checked
  exact keyed.markUnique.either (Phrase.uniqueKeyword.occurs scope.masked) keyed

theorem applyFlags_name : (scope.applyFlags column).name = column.name := by
  unfold applyFlags
  split <;> split <;> split <;> rfl

theorem applyIdentity_coherent (coherent : column.Coherent)
    (success : scope.applyIdentity column = .ok result) :
    result.Coherent ∧ result.name = column.name := by
  unfold applyIdentity at success
  split at success
  · next found _ =>
    cases seed : scope.identityNumber found .seed with
    | error cause => simp [seed, bind, Except.bind] at success
    | ok first =>
      cases increment : scope.identityNumber found .increment with
      | error cause => simp [seed, increment, bind, Except.bind] at success
      | ok second =>
        simp only [seed, increment, bind, Except.bind, pure, Except.pure, Except.ok.injEq] at success
        subst success
        exact ⟨coherent.markIdentity first second, rfl⟩
  · simp only [pure, Except.pure, Except.ok.injEq] at success
    subst success
    split
    · exact ⟨coherent.markIdentity 1 1, rfl⟩
    · exact ⟨coherent, rfl⟩

theorem applyDefault_coherent (coherent : column.Coherent) :
    (scope.applyDefault column).Coherent ∧ (scope.applyDefault column).name = column.name := by
  unfold applyDefault
  split
  · exact ⟨coherent, rfl⟩
  · exact ⟨coherent.default _, rfl⟩

theorem applyReference_coherent (coherent : column.Coherent) :
    (scope.applyReference column).Coherent ∧ (scope.applyReference column).name = column.name := by
  unfold applyReference
  split
  · exact ⟨coherent, rfl⟩
  · exact ⟨coherent.markForeignKey _, rfl⟩

end Attributes.Scope

theorem Attributes.apply_coherent {column result : Column} {text : Text} {check : Option Text}
    (coherent : column.Coherent) (success : Attributes.apply column text = .ok (result, check)) :
    result.Coherent ∧ result.name = column.name := by
  unfold Attributes.apply at success
  split at success
  · simp only [pure, Except.pure, Except.ok.injEq, Prod.mk.injEq] at success
    obtain ⟨rfl, _⟩ := success
    exact ⟨coherent, rfl⟩
  · cases identity : (Attributes.scope text).applyIdentity ((Attributes.scope text).applyFlags column)
      with
    | error cause => simp [identity, bind, Except.bind] at success
    | ok numbered =>
      simp only [identity, bind, Except.bind, pure, Except.pure, Except.ok.injEq,
        Prod.mk.injEq] at success
      obtain ⟨rfl, _⟩ := success
      obtain ⟨agree, same⟩ := Scope.applyIdentity_coherent _
        (Scope.applyFlags_coherent (Attributes.scope text) coherent) identity
      obtain ⟨agreeDefault, sameDefault⟩ := Scope.applyDefault_coherent (Attributes.scope text) agree
      obtain ⟨agreeTarget, sameTarget⟩ :=
        Scope.applyReference_coherent (Attributes.scope text) agreeDefault
      refine ⟨agreeTarget, ?_⟩
      rw [sameTarget, sameDefault, same, Scope.applyFlags_name]

namespace Column

theorem readMatch_coherent {name : String} (filled : name ≠ "") {found : Match} {clause : Text}
    {column : Column} {condition : Option Text} (reading : readMatch name found clause = .ok (column, condition)) :
    column.Coherent ∧ column.name = name := by
  unfold readMatch at reading
  cases type : DataType.read ((found.text? .type clause).getD []) (found.text? .arguments clause) with
  | error cause => simp [type, bind, Except.bind] at reading
  | ok typed =>
    simp only [type, bind, Except.bind] at reading
    exact Attributes.apply_coherent (coherent_plain filled typed) reading

/-- An accepted column has flags that agree and a name that the table did not have. -/
theorem read_accepted {taken : Roster Column} {clause : Text} {column : Column} {check : Option String}
    (accepted : read taken clause = .accepted column check) :
    column.Coherent ∧ column.name ∉ taken.names := by
  obtain ⟨name, found, condition, _, filled, fresh, _, reading⟩ := of_accepted accepted
  obtain ⟨coherent, rfl⟩ := readMatch_coherent filled reading
  refine ⟨coherent, fun member => ?_⟩
  rw [Roster.has_iff.mpr member] at fresh
  cases fresh

/-- The name of an accepted column is the one that its clause gives. -/
theorem givenName?_of_accepted {taken : Roster Column} {clause : Text} {column : Column}
    {check : Option String} (accepted : read taken clause = .accepted column check) :
    givenName? clause = some column.name := by
  obtain ⟨name, found, condition, given, filled, _, _, reading⟩ := of_accepted accepted
  obtain ⟨_, rfl⟩ := readMatch_coherent filled reading
  exact given

end Column

end SchemaAtlas
