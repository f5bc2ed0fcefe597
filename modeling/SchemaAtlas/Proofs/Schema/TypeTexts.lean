import SchemaAtlas.Proofs.Pattern.Search
import SchemaAtlas.Proofs.Schema.Lines
import SchemaAtlas.Proofs.Script.Names
/-!
Texts of column types. A type is written with word characters, or else with a closing parenthesis at its end, so no
script gives a column a type whose text ends in a backslash or in an angle bracket.
-/
namespace SchemaAtlas

namespace Text

/-- What a text may not end in, if other text is put around it. -/
def endingSigns : List Char := ['\\', '>']

/-- Ends in none of the signs. -/
def IsShut (text : Text) : Prop := ∀ c ∈ text.getLast?, c ∉ endingSigns

instance (text : Text) : Decidable (IsShut text) := text.getLast?.decidableForallMem

theorem forall_endingSigns {holds : Char → Prop} (backslash : holds '\\') (bracket : holds '>') :
    ∀ sign ∈ endingSigns, holds sign :=
  List.forall_mem_cons.mpr ⟨backslash, List.forall_mem_singleton.mpr bracket⟩

section Shut
variable {front text : Text}

theorem isShut_concat {c : Char} (plain : c ∉ endingSigns) : IsShut (front ++ [c]) := by
  unfold IsShut
  rw [List.getLast?_concat]
  intro d last
  rwa [← Option.some.inj last]

theorem IsShut.append (before : IsShut front) (behind : IsShut text) : IsShut (front ++ text) := by
  unfold IsShut at *
  rw [List.getLast?_append]
  cases last : text.getLast? with
  | none => exact before
  | some c =>
    rw [last] at behind
    exact behind

end Shut

section Capital
variable {c d : Char}

theorem plain_capitalRuns : ∀ run ∈ capitalRuns, ∀ point ∈ endingSigns.map Char.toNat,
    (run.last : Int) + run.distance < point ∨ (point : Int) < run.first + run.distance := by
  decide +kernel

theorem plain_longCapitals : ∀ entry ∈ longCapitals, ∀ point ∈ entry.2, Char.ofNat point ∉ endingSigns := by
  decide +kernel

theorem toNat_ofNat (point : Nat) : (Char.ofNat point).toNat = point ∨ (Char.ofNat point).toNat = 0 := by
  by_cases valid : point.isValidChar
  · rw [Char.ofNat, dif_pos valid]
    exact Or.inl rfl
  · rw [Char.ofNat, dif_neg valid]
    exact Or.inr rfl

/-- No other character has one of these signs for its capital. -/
theorem eq_of_mem_capital (sign : d ∈ endingSigns) (member : d ∈ capital c) : c = d := by
  simp only [capital] at member
  split at member
  · next ascii =>
    have same : d = c.toUpper := List.mem_singleton.mp member
    rw [same] at sign ⊢
    exact ascii_induction (fun c => c.toUpper ∈ endingSigns → c = c.toUpper) (by decide) ascii sign
  split at member
  · next points found =>
    obtain ⟨before, behind, table, _⟩ := List.lookup_eq_some_iff.mp found
    have entry : (c.toNat, points) ∈ longCapitals := by
      rw [table]
      exact List.mem_append_right _ List.mem_cons_self
    obtain ⟨point, inside, rfl⟩ := List.mem_map.mp member
    exact absurd sign (plain_longCapitals _ entry point inside)
  split at member
  · next run found =>
    have held := List.find?_some found
    simp only [CapitalRun.has, Bool.and_eq_true, decide_eq_true_eq] at held
    have apart := plain_capitalRuns run (List.mem_of_find?_eq_some found) d.toNat (List.mem_map_of_mem sign)
    have positive : ∀ sign ∈ endingSigns, 0 < sign.toNat := forall_endingSigns (by decide) (by decide)
    have above := positive d sign
    have shifted := toNat_ofNat ((c.toNat : Int) + run.distance).toNat
    rw [← List.mem_singleton.mp member] at shifted
    omega
  · exact (List.mem_singleton.mp member).symm

theorem not_mem_uppercase {text : Text} (sign : d ∈ endingSigns) (absent : d ∉ text) : d ∉ uppercase text := by
  intro member
  obtain ⟨c, inside, made⟩ := List.mem_flatMap.mp member
  rw [eq_of_mem_capital sign made] at inside
  exact absent inside

end Capital

end Text

namespace Phrase
open Pattern Cursor Text

/-- The text of a type is a word, perhaps in brackets. -/
def IsTypeText (text : Text) : Prop := ∀ c ∈ text, isWordCharacter c = true ∨ c = '[' ∨ c = ']'

section Trial
variable {α : Type} {before rest : Text} {parts : List (Part × Span)} {next : Cursor → List (Part × Span) → Option α}
  {result : α}

theorem run_typeText_some
    (found : run (exactly '[' ++ plainWord ++ exactly ']' <|> plainWord) (after before rest) parts next = some result) :
    ∃ text tail, rest = text ++ tail ∧ IsTypeText text ∧ next (after (before ++ text) tail) parts = some result := by
  rcases run_either_some found with bracketed | bare
  · rw [run_followed, run_followed] at bracketed
    obtain ⟨_, rfl, inside⟩ := run_exactly_some bracketed
    obtain ⟨word, _, rfl, _, fits, closes⟩ := run_several_some inside
    obtain ⟨tail, rfl, goes⟩ := run_exactly_some closes
    refine ⟨'[' :: (word ++ [']']), tail, by simp, ?_, by simpa using goes⟩
    refine List.forall_mem_cons.mpr ⟨by simp, List.forall_mem_append.mpr ⟨fun c member => Or.inl (fits c member), ?_⟩⟩
    exact List.forall_mem_singleton.mpr (Or.inr (Or.inr rfl))
  · obtain ⟨word, tail, rfl, _, fits, goes⟩ := run_several_some bare
    exact ⟨word, tail, rfl, fun c member => Or.inl (fits c member), goes⟩

end Trial

/-- Behind the type a definition names other parts only. -/
theorem isTypeText_of_match {clause : Text} {found : Match} (matched : columnDefinition.match? clause = some found) :
    IsTypeText ((found.text? .type clause).getD []) := by
  have tried : run columnDefinition (after [] clause) []
      (fun stop parts => some (Match.mk ⟨0, stop.offset⟩ parts)) = some found := matched
  rw [columnDefinition, run_followed, run_followed, run_followed] at tried
  obtain ⟨front, rest, parts, rfl, _, typed⟩ := run_some tried
  rw [run_named] at typed
  obtain ⟨text, tail, rfl, spelled, goes⟩ := run_typeText_some typed
  have named : found.part? .type = some (Span.behind front text) := by
    rcases run_optional_some goes with arguments | body
    · rw [run_followed] at arguments
      obtain ⟨_, _, rfl, _, inner⟩ := run_many_some arguments
      obtain ⟨_, _, rfl, _, body⟩ := run_parenthesized_some inner
      rw [run_named, run_remainder] at body
      rw [← Option.some.inj body]
      rfl
    · rw [run_named, run_remainder] at body
      rw [← Option.some.inj body]
      rfl
  rw [Match.text?_of_part front tail named rfl]
  exact spelled

end Phrase

namespace DataType

/-- The text of a type, as diagrams show it, ends in none of the signs. -/
def Closes (type : DataType) : Prop := Text.IsShut type.display.toList

theorem closes_parenthesis {front : String} : Text.IsShut (front ++ ")").toList := by
  have closed : (")" : String).toList = [')'] := rfl
  rw [String.toList_append, closed]
  exact Text.isShut_concat (by decide)

theorem plain_baseName {name : Text} {sign : Char} (listed : sign ∈ Text.endingSigns) (absent : sign ∉ name) :
    sign ∉ (baseName name).toList := by
  unfold baseName
  split
  · have each : ∀ sign ∈ Text.endingSigns, sign ∉ "UNKNOWN".toList :=
      Text.forall_endingSigns (by decide) (by decide)
    exact each sign listed
  · rw [String.toList_ofList]
    exact Text.not_mem_uppercase listed fun member => absent (Name.clean_subset name member)

theorem closes_read {name : Text} {arguments : Option Text} {type : DataType}
    (plain : ∀ sign ∈ Text.endingSigns, sign ∉ name) (reading : read name arguments = .ok type) : type.Closes := by
  obtain ⟨_, texts⟩ := texts_of_read reading
  unfold Closes display
  split
  · exact closes_parenthesis
  · exact closes_parenthesis
  · rcases texts with ⟨_, full⟩ | ⟨text, _, full⟩
    · rw [full]
      intro c last listed
      exact plain_baseName listed (plain c listed) (List.mem_of_getLast? last)
    · rw [full]
      exact closes_parenthesis

theorem isLine_sized {type : DataType} (line : type.SingleLine) (size : Int) :
    Text.IsLine (type.base ++ "(" ++ toString size).toList := by
  have opens : Text.IsLine "(".toList := by decide
  rw [String.toList_append, String.toList_append]
  exact (line.base.append opens).append (Text.isLine_toString size)

theorem isLine_display {type : DataType} (line : type.SingleLine) : Text.IsLine type.display.toList := by
  have comma : Text.IsLine ",".toList := by decide
  have closes : Text.IsLine ")".toList := by decide
  unfold display
  split
  · next size scale _ _ =>
    have scaled : Text.IsLine (type.base ++ "(" ++ toString size ++ "," ++ toString scale).toList := by
      rw [String.toList_append, String.toList_append]
      exact ((isLine_sized line size).append comma).append (Text.isLine_toString scale)
    rw [String.toList_append]
    exact scaled.append closes
  · next size _ _ =>
    rw [String.toList_append]
    exact (isLine_sized line size).append closes
  · exact line.full

end DataType

namespace Attributes
variable {column result : Column}

theorem Scope.applyIdentity_type {scope : Scope} (success : scope.applyIdentity column = .ok result) :
    result.type = column.type := by
  simp only [applyIdentity, bind, Except.bind, pure, Except.pure] at success
  repeat' split at success
  all_goals cases success
  all_goals rfl

/-- Attributes leave a column its type. -/
theorem apply_type {text : Text} {check : Option Text} (success : apply column text = .ok (result, check)) :
    result.type = column.type := by
  have flags (scope : Scope) (column : Column) : (scope.applyFlags column).type = column.type := by
    unfold Scope.applyFlags
    split <;> split <;> split <;> rfl
  have values (scope : Scope) (column : Column) : (scope.applyDefault column).type = column.type := by
    unfold Scope.applyDefault
    split <;> rfl
  have references (scope : Scope) (column : Column) : (scope.applyReference column).type = column.type := by
    unfold Scope.applyReference
    split <;> rfl
  simp only [apply, bind, Except.bind, pure, Except.pure] at success
  repeat' split at success
  all_goals cases success
  · rfl
  · next numbered => rw [references, values, Scope.applyIdentity_type numbered, flags]

end Attributes

namespace Column

theorem closes_read {taken : Roster Column} {clause : Text} {column : Column} {check : Option String}
    (accepted : read taken clause = .accepted column check) : column.type.Closes := by
  obtain ⟨name, found, condition, _, _, _, matched, reading⟩ := of_accepted accepted
  have spelled := Phrase.isTypeText_of_match matched
  have plain : ∀ sign ∈ Text.endingSigns, sign ∉ (found.text? .type clause).getD [] := by
    intro sign listed member
    have other : ∀ sign ∈ Text.endingSigns, ¬(Text.isWordCharacter sign = true ∨ sign = '[' ∨ sign = ']') :=
      Text.forall_endingSigns (by decide) (by decide)
    exact other sign listed (spelled sign member)
  unfold readMatch at reading
  cases typed : DataType.read ((found.text? .type clause).getD []) (found.text? .arguments clause) with
  | error cause => simp [typed, bind, Except.bind] at reading
  | ok type =>
    simp only [typed, bind, Except.bind] at reading
    rw [Attributes.apply_type reading]
    exact DataType.closes_read plain typed

end Column

namespace Table

/-- The types of all columns end as they should. -/
def TypesClose (table : Table) : Prop := ∀ column ∈ table.columns.entries, column.type.Closes

theorem TypesClose.modify {table : Table} (close : table.TypesClose) {column : String} {change : Column → Column}
    {keeps : ∀ column, (change column).name = column.name} (typed : ∀ column, (change column).type = column.type) :
    TypesClose { table with columns := table.columns.modify column change keeps } := by
  intro other member
  obtain ⟨old, inside, rfl⟩ := (Roster.mem_modify keeps).mp member
  split
  · rw [typed]
    exact close old inside
  · exact close old inside

theorem TypesClose.withOutcome {table : Table} (close : table.TypesClose) (clause : Text) :
    (table.withOutcome (Column.read table.columns clause)).TypesClose := by
  cases outcome : Column.read table.columns clause with
  | accepted column check =>
    have columns : ∀ other ∈ (table.columns.put column).entries, other.type.Closes := by
      intro other member
      rcases Roster.mem_put.mp member with rfl | ⟨old, _⟩
      · exact Column.closes_read outcome
      · exact close other old
    cases check <;> exact columns
  | _ => exact close

theorem typesClose_ofColumns (name : String) (body : Text) : (ofColumns name body).TypesClose :=
  Draft.readColumns_keeps TypesClose (fun clause _ close => close.withOutcome clause) _ _ (List.forall_mem_nil _)

theorem TypesClose.amend {table : Table} (close : table.TypesClose) (clause : Text) : (table.amend clause).TypesClose :=
  Draft.readConstraint_keeps TypesClose (fun _ _ close => close.modify fun _ => rfl)
    (fun _ _ close => close.modify fun _ => rfl) (fun _ _ _ _ _ close => close.modify fun _ => rfl)
    (fun _ _ close => close) close

end Table

/-- Whatever a script holds, the types of its columns end in none of the signs. -/
theorem Script.typesClose_of_read {script : String} {table : Table} (member : table ∈ (read script).tables.entries) :
    table.TypesClose := by
  obtain ⟨body, _, same⟩ := columns_of_read member
  have amended : ((constraintClauses table.name (statementsOf script)).foldl Table.amend
      (Table.ofColumns table.name body)).TypesClose :=
    List.foldlRecOn _ (motive := Table.TypesClose) _ (Table.typesClose_ofColumns _ body)
      fun _ close clause _ => close.amend clause
  intro column inside
  rw [same] at inside
  exact amended column inside

end SchemaAtlas
