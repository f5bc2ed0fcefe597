import SchemaAtlas.Proofs.Clause.LeadingText
import SchemaAtlas.Proofs.Clause.Numbers
import SchemaAtlas.Proofs.Script.Passage
/-!
Attributes as they are written, one after another with blanks between them. Each begins with a keyword of its own, and
no other word of it is the keyword of an attribute once the condition of a check is blanked out. So a phrase is found
at the first attribute with its keyword, or nowhere.
-/
namespace SchemaAtlas
open Text Pattern Cursor Phrase

/-- An attribute of a column. An identity may come with its numbers, and blanks may stand in front of the parenthesis
of a check. -/
inductive ColumnAttribute where
  | notNull
  | primaryKey
  | unique
  | autoIncrement
  | identity (numbers : Option (Text × Text))
  | references (table column : Text)
  | check (gap condition : Text)
deriving DecidableEq

/-- Attributes one after another, each with what stands in front of it. -/
abbrev AttributeList := List (Text × ColumnAttribute)

namespace ColumnAttribute

def keyword : ColumnAttribute → String
  | notNull => "NOT"
  | primaryKey => "PRIMARY"
  | unique => "UNIQUE"
  | autoIncrement => "AUTO_INCREMENT"
  | identity _ => "IDENTITY"
  | references _ _ => "REFERENCES"
  | check _ _ => "CHECK"

/-- What stands behind the keyword. The condition of a check is shown as the caller wants it. -/
def operands (shown : Text → Text) : ColumnAttribute → Text
  | notNull => " NULL".toList
  | primaryKey => " KEY".toList
  | unique | autoIncrement | identity none => []
  | identity (some (seed, increment)) => '(' :: (seed ++ ',' :: (increment ++ [')']))
  | references table column => ' ' :: (table ++ '(' :: (column ++ [')']))
  | check gap condition => gap ++ '(' :: (shown condition ++ [')'])

def text (item : ColumnAttribute) : Text := item.keyword.toList ++ item.operands id

/-- As many blanks as the text has characters. -/
def blanked (text : Text) : Text := List.replicate text.length ' '

def masked (item : ColumnAttribute) : Text := item.keyword.toList ++ item.operands blanked

/-- The words of letters that the phrases of attributes begin with. -/
def openers : List String := ["NOT", "PRIMARY", "UNIQUE", "IDENTITY", "REFERENCES", "CHECK", "DEFAULT"]

def keywords : List String := openers ++ ["AUTO_INCREMENT", "AUTOINCREMENT"]

/-- A name that is none of the keywords in any letter case. -/
def IsName (text : Text) : Prop := IsBare text ∧ ∀ keyword ∈ keywords, capitals text ≠ keyword.toList

instance (text : Text) : Decidable (IsName text) := inferInstanceAs (Decidable (_ ∧ _))

/-- The numbers are numbers, the names are names, and the condition is closed in the sense of the caller. -/
def IsSound (closed : Text → Prop) : ColumnAttribute → Prop
  | identity (some (seed, increment)) => Numeral.IsSigned seed ∧ Numeral.IsSigned increment
  | references table column => IsName table ∧ IsName column
  | check gap condition => (∀ c ∈ gap, isBlank c = true) ∧ closed condition
  | _ => True

/-- No phrase of an attribute begins with the word. -/
structure IsFree (word : Text) : Prop where
  keyed : ∀ keyword ∈ openers, ¬Keyed keyword word
  counted : ¬IsAutoIncrement word

section Words
variable {word : Text}

theorem isKeyword_of_opener {keyword : String} (member : keyword ∈ openers) : IsKeyword keyword := by
  have each : ∀ keyword ∈ openers, IsKeyword keyword := by decide
  exact each keyword member

theorem isFree_of_name (name : IsName word) : IsFree word where
  keyed := by
    intro keyword member keyed
    have spelled : Spells keyword word :=
      spells_of_folds (isKeyword_of_opener member) (fun c inside => ascii_of_isPlain (name.1.2 c inside)) keyed
    exact name.2 keyword (List.mem_append_left _ member) spelled
  counted := by
    rintro ⟨first, gap, second, rfl, auto, between, increment⟩
    have ascii : ∀ c ∈ first ++ (gap ++ second), c.toNat < 128 := fun c inside => ascii_of_isPlain (name.1.2 c inside)
    have auto_capitals : capitals first = "AUTO".toList :=
      spells_of_folds (by decide) (fun c inside => ascii c (List.mem_append_left _ inside)) auto
    have increment_capitals : capitals second = "INCREMENT".toList :=
      spells_of_folds (by decide)
        (fun c inside => ascii c (List.mem_append_right _ (List.mem_append_right _ inside))) increment
    have whole : capitals (first ++ (gap ++ second)) = "AUTO".toList ++ (capitals gap ++ "INCREMENT".toList) := by
      rw [← auto_capitals, ← increment_capitals]
      simp [capitals]
    rcases between with rfl | rfl
    · exact name.2 "AUTOINCREMENT" (by decide) whole
    · exact name.2 "AUTO_INCREMENT" (by decide) whole

/-- A letter of a keyword is neither a digit nor a sign. -/
theorem not_signed_of_isLetter {letter c : Char} (upper : letter.isUpper = true) (folds : isLetter letter c = true) :
    isDecimalDigit c = false ∧ c ≠ '-' := by
  rcases isLetter_cases folds with rfl | rfl | other
  · exact ascii_induction (fun c => c.isUpper = true → isDecimalDigit c = false ∧ c ≠ '-') (by decide)
      (ascii_of_isUpper upper) upper
  · exact ascii_induction (fun letter => letter.isUpper = true →
      isDecimalDigit letter.toLower = false ∧ letter.toLower ≠ '-') (by decide) (ascii_of_isUpper upper) upper
  · simp only [List.mem_cons, List.not_mem_nil, or_false] at other
    rcases other with rfl | rfl | rfl | rfl <;> decide

/-- A keyword does not begin where a digit or a sign stands. -/
theorem not_keyed_of_signed {keyword : String} (key : IsKeyword keyword) {first : Text}
    (signed : ∀ c ∈ first, isDecimalDigit c = true ∨ c = '-') : ¬Keyed keyword first := by
  intro keyed
  obtain ⟨letter, others, same⟩ : ∃ letter others, keyword.toList = letter :: others := by
    apply List.exists_cons_of_ne_nil
    exact fun empty => key.1 (String.toList_inj.mp empty)
  unfold Keyed Folds at keyed
  rw [same] at keyed
  cases keyed with
  | cons folds _ =>
    obtain ⟨undigit, unsigned⟩ := not_signed_of_isLetter (key.2 letter (same ▸ List.mem_cons_self)) folds
    rcases signed _ List.mem_cons_self with digit | minus
    · rw [digit] at undigit
      cases undigit
    · exact unsigned minus

theorem isFree_of_signed {text : Text} (signed : Numeral.IsSigned text) (member : word ∈ words text) : IsFree word := by
  obtain ⟨sign, digits, rfl, sign_only, _, all⟩ := signed
  have each : ∀ c ∈ word, isDecimalDigit c = true ∨ c = '-' := by
    intro c inside
    rcases List.mem_append.mp (mem_of_mem_words member inside) with here | there
    · rcases sign_only with rfl | rfl
      · cases here
      · exact Or.inr (List.mem_singleton.mp here)
    · exact Or.inl (all c there)
  refine ⟨fun keyword opens => not_keyed_of_signed (isKeyword_of_opener opens) each, ?_⟩
  rintro ⟨first, gap, second, rfl, auto, _⟩
  exact not_keyed_of_signed (by decide) (fun c inside => each c (List.mem_append_left _ inside)) auto

end Words

theorem keyword_mem (item : ColumnAttribute) : item.keyword ∈ keywords := by
  cases item <;> simp [keyword, keywords, openers]

theorem bare_keyword (item : ColumnAttribute) : IsBare item.keyword.toList := by
  have each : ∀ keyword ∈ keywords, IsBare keyword.toList := by decide
  exact each item.keyword item.keyword_mem

/-- The attributes that have one text. -/
def flags : List ColumnAttribute := [notNull, primaryKey, unique, autoIncrement]

theorem stop_text (item : ColumnAttribute) : item.text.getLast?.any isBlank = false := by
  have closing (before : Text) (same : item.text = before ++ [')']) : item.text.getLast?.any isBlank = false := by
    rw [same, List.getLast?_concat]
    decide
  cases item with
  | notNull | primaryKey | unique | autoIncrement => decide
  | identity numbers =>
    cases numbers with
    | none => decide
    | some numbers =>
      exact closing ("IDENTITY".toList ++ '(' :: (numbers.1 ++ ',' :: numbers.2)) (by simp [text, operands, keyword])
  | references table column =>
    exact closing ("REFERENCES".toList ++ ' ' :: (table ++ '(' :: column)) (by simp [text, operands, keyword])
  | check gap condition =>
    exact closing ("CHECK".toList ++ (gap ++ '(' :: condition)) (by simp [text, operands, keyword])

theorem eq_of_keyword {item other : ColumnAttribute} (flag : item ∈ flags) (same : other.keyword = item.keyword) :
    other = item := by
  simp only [flags, List.mem_cons, List.not_mem_nil, or_false] at flag
  revert same
  rcases flag with rfl | rfl | rfl | rfl <;> cases other <;> simp [keyword]

section Sound
variable {closed : Text → Prop} {item : ColumnAttribute} (sound : item.IsSound closed)

theorem words_blanked (text : Text) (rest : Text) : words (blanked text ++ rest) = words rest := by
  apply words_of_blank
  intro c member
  rw [List.eq_of_mem_replicate member]
  decide

include sound in
/-- The keyword stands as a whole word. -/
theorem beginsWord_operands (shown : Text → Text) {tail : Text} (stop : beginsWord tail = false) :
    beginsWord (item.operands shown ++ tail) = false := by
  cases item with
  | notNull | primaryKey | references => rfl
  | unique | autoIncrement => exact stop
  | identity numbers =>
    cases numbers with
    | none => exact stop
    | some numbers => rfl
  | check gap condition =>
    cases gap with
    | nil => rfl
    | cons c gap => exact isWordCharacter_of_isBlank (sound.1 c List.mem_cons_self)

theorem isFree_append {text tail : Text} (name : IsName text) (stop : beginsWord tail = false)
    (free : ∀ word ∈ words tail, IsFree word) : ∀ word ∈ words (text ++ tail), IsFree word := by
  rw [words_append stop, words_self name.1.1 name.1.fits]
  intro word member
  rcases List.mem_append.mp member with here | there
  · exact List.mem_singleton.mp here ▸ isFree_of_name name
  · exact free word there

include sound in
theorem isFree_operands : ∀ word ∈ words (item.operands blanked), IsFree word := by
  have space : isWordCharacter ' ' = false := by decide
  have opening : isWordCharacter '(' = false := by decide
  have closing : isWordCharacter ')' = false := by decide
  have comma : isWordCharacter ',' = false := by decide
  have nothing : ∀ word ∈ words [], IsFree word := by
    rw [words_nil]
    exact fun _ member => absurd member List.not_mem_nil
  have last : ∀ word ∈ words [')'], IsFree word := by rwa [words_cons _ closing]
  cases item with
  | notNull =>
    have split : operands blanked notNull = ' ' :: ("NULL".toList ++ []) := rfl
    rw [split, words_cons _ space]
    exact isFree_append (by decide) rfl nothing
  | primaryKey =>
    have split : operands blanked primaryKey = ' ' :: ("KEY".toList ++ []) := rfl
    rw [split, words_cons _ space]
    exact isFree_append (by decide) rfl nothing
  | unique | autoIncrement => exact nothing
  | identity numbers =>
    cases numbers with
    | none => exact nothing
    | some numbers =>
      obtain ⟨seed, increment⟩ := numbers
      rw [operands, words_cons _ opening, words_append_cons _ _ comma, words_append_cons _ _ closing, words_nil,
        List.append_nil]
      intro word member
      exact (List.mem_append.mp member).elim (isFree_of_signed sound.1) (isFree_of_signed sound.2)
  | references table column =>
    rw [operands, words_cons _ space]
    refine isFree_append sound.1 rfl ?_
    rw [words_cons _ opening]
    exact isFree_append sound.2 rfl last
  | check gap condition =>
    rw [operands, words_of_blank sound.1, words_cons _ opening, words_blanked]
    exact last

include sound in
/-- The words of an attribute are its keyword, and words that begin no phrase. -/
theorem mem_words_masked {word : Text} (member : word ∈ words item.masked) :
    word = item.keyword.toList ∨ IsFree word := by
  have bare := item.bare_keyword
  have outside : beginsWord (item.operands blanked ++ []) = false := beginsWord_operands sound blanked rfl
  rw [List.append_nil] at outside
  rw [masked, words_append outside, words_self bare.1 bare.fits] at member
  rcases List.mem_append.mp member with here | there
  · exact Or.inl (List.mem_singleton.mp here)
  · exact Or.inr (isFree_operands sound word there)

end Sound

/-- Among the keywords of attributes the property picks one, and it picks none of the words that are free. -/
structure Picks (leads : Text → Prop) (keyword : String) : Prop where
  free : ∀ word, IsFree word → ¬leads word
  others : ∀ item : ColumnAttribute, item.keyword ≠ keyword → ¬leads item.keyword.toList

theorem picks_keyed {keyword : String} (opens : keyword ∈ openers) : Picks (Keyed keyword) keyword where
  free word free := free.keyed keyword opens
  others item different := by
    have each : ∀ keyword ∈ openers, ∀ other ∈ keywords, other ≠ keyword → ¬Keyed keyword other.toList := by decide
    exact each keyword opens item.keyword item.keyword_mem different

/-- Both spellings begin with the letter A. -/
theorem head_of_isAutoIncrement {word : Text} (counted : IsAutoIncrement word) :
    word.head?.any (isLetter 'A') = true := by
  obtain ⟨first, gap, second, rfl, auto, _⟩ := counted
  cases auto with
  | cons folds _ => exact folds

theorem picks_autoIncrement : Picks IsAutoIncrement "AUTO_INCREMENT" where
  free word free := free.counted
  others item different counted := by
    have each : ∀ other ∈ keywords, other.toList.head?.any (isLetter 'A') = true →
        other = "AUTO_INCREMENT" ∨ other = "AUTOINCREMENT" := by decide
    rcases each item.keyword item.keyword_mem (head_of_isAutoIncrement counted) with same | same
    · exact different same
    · cases item <;> simp [keyword] at same

end ColumnAttribute

namespace Attributes

/-- The attributes are written as the caller wants it. -/
def joined (write : ColumnAttribute → Text) (pieces : AttributeList) : Text :=
  pieces.flatMap fun piece => piece.1 ++ write piece.2

def written : AttributeList → Text := joined ColumnAttribute.text

/-- The conditions of checks are blanked out. -/
def shown : AttributeList → Text := joined ColumnAttribute.masked

/-- There are blanks between the attributes, and perhaps in front of the first. -/
structure Joined (closed : Text → Prop) (pieces : AttributeList) : Prop where
  blank : ∀ piece ∈ pieces, ∀ c ∈ piece.1, isBlank c = true
  apart : ∀ piece ∈ pieces.tail, piece.1 ≠ []
  sound : ∀ piece ∈ pieces, piece.2.IsSound closed

section Joined
variable {closed : Text → Prop} {write : ColumnAttribute → Text} {piece : Text × ColumnAttribute}
  {pieces front back : AttributeList}

theorem joined_append (write : ColumnAttribute → Text) (front back : AttributeList) :
    joined write (front ++ back) = joined write front ++ joined write back := List.flatMap_append

theorem joined_split (write : ColumnAttribute → Text) (front : AttributeList) (piece : Text × ColumnAttribute)
    (back : AttributeList) : joined write (front ++ piece :: back) =
      (joined write front ++ piece.1) ++ (write piece.2 ++ joined write back) := by
  rw [joined_append, joined, joined, List.flatMap_cons, joined]
  simp only [List.append_assoc]

theorem Joined.of_cons (all : Joined closed (piece :: back)) : Joined closed back where
  blank other member := all.blank other (List.mem_cons_of_mem piece member)
  apart other member := all.apart other (List.mem_of_mem_tail member)
  sound other member := all.sound other (List.mem_cons_of_mem piece member)

theorem Joined.of_append (all : Joined closed (front ++ back)) : Joined closed front where
  blank other member := all.blank other (List.mem_append_left back member)
  apart other member := by
    cases front with
    | nil => cases member
    | cons first front => exact all.apart other (List.mem_append_left back member)
  sound other member := all.sound other (List.mem_append_left back member)

theorem Joined.of_append_right (all : Joined closed (front ++ back)) : Joined closed back := by
  induction front with
  | nil => exact all
  | cons first front ih => exact ih all.of_cons

/-- No word goes on from an attribute into the next one. -/
theorem Joined.stop (all : Joined closed (piece :: back)) (write : ColumnAttribute → Text) :
    beginsWord (joined write back) = false := by
  cases back with
  | nil => rfl
  | cons next back =>
    rw [joined, List.flatMap_cons, List.append_assoc]
    have member : next ∈ next :: back := List.mem_cons_self
    exact beginsWord_of_isBlank (all.apart next member) (all.blank next (List.mem_cons_of_mem piece member)) _

/-- No parenthesis opens behind an attribute. -/
theorem Joined.unopened (all : Joined closed pieces) (write : ColumnAttribute → Text)
    (keyed : ∀ item, ∃ operands, write item = item.keyword.toList ++ operands) {gap rest : Text}
    (blank : ∀ c ∈ gap, isBlank c = true) : joined write pieces ≠ gap ++ '(' :: rest := by
  intro same
  cases pieces with
  | nil => exact List.append_ne_nil_of_right_ne_nil gap (List.cons_ne_nil _ _) same.symm
  | cons piece back =>
    obtain ⟨operands, written⟩ := keyed piece.2
    have bare := piece.2.bare_keyword
    rw [joined, List.flatMap_cons, written, List.append_assoc, List.append_assoc] at same
    have opening := gap_unique (all.blank piece List.mem_cons_self) blank (bare.start _) rfl same
    obtain ⟨c, letters, letter⟩ := List.exists_cons_of_ne_nil bare.1
    have plain := bare.2 c (letter ▸ List.mem_cons_self)
    rw [letter, List.cons_append] at opening
    rw [(List.cons.inj opening).1] at plain
    exact absurd plain (by decide)

theorem Joined.start (all : Joined closed (front ++ piece :: back)) (write : ColumnAttribute → Text) :
    endsWord (joined write front ++ piece.1) = false := by
  have blank := all.blank piece (List.mem_append_right front List.mem_cons_self)
  cases front with
  | nil => exact endsWord_of_blank blank
  | cons first front =>
    have apart : piece.1 ≠ [] := all.apart piece (List.mem_append_right front List.mem_cons_self)
    rw [endsWord_append apart]
    exact endsWord_of_blank blank

theorem Joined.stop_behind (all : Joined closed (front ++ piece :: back)) (write : ColumnAttribute → Text) :
    beginsWord (joined write back) = false := all.of_append_right.stop write

/-- No blank ends the attributes. -/
theorem stop_written (pieces : AttributeList) : (written pieces).getLast?.any isBlank = false := by
  induction pieces with
  | nil => rfl
  | cons piece pieces ih =>
    have filled : piece.2.text ≠ [] := List.append_ne_nil_of_left_ne_nil piece.2.bare_keyword.1 _
    refine stop_append ?_ ih
    rw [List.getLast?_append_of_ne_nil _ filled]
    exact piece.2.stop_text

theorem mem_words_shown (all : Joined closed pieces) {word : Text} (member : word ∈ words (shown pieces)) :
    ∃ piece ∈ pieces, word ∈ words piece.2.masked := by
  induction pieces with
  | nil =>
    rw [shown, joined, List.flatMap_nil, words_nil] at member
    cases member
  | cons piece pieces ih =>
    have stop : beginsWord (shown pieces) = false := all.stop ColumnAttribute.masked
    have split : shown (piece :: pieces) = piece.1 ++ (piece.2.masked ++ shown pieces) := List.append_assoc ..
    rw [split, words_of_blank (all.blank piece List.mem_cons_self), words_append stop] at member
    rcases List.mem_append.mp member with here | later
    · exact ⟨piece, List.mem_cons_self, here⟩
    · obtain ⟨other, inside, there⟩ := ih all.of_cons later
      exact ⟨other, List.mem_cons_of_mem piece inside, there⟩

end Joined

section Search
variable {closed : Text → Prop} {leads : Text → Prop} {keyword : String} (picks : ColumnAttribute.Picks leads keyword)
  {pattern : Pattern} (led : LedBy leads pattern)
  {piece : Text × ColumnAttribute} {pieces front back : AttributeList}
include picks

theorem not_leads_shown (all : Joined closed pieces) (absent : ∀ piece ∈ pieces, piece.2.keyword ≠ keyword) :
    ∀ word ∈ words (shown pieces), ¬leads word := by
  intro word member
  obtain ⟨piece, inside, here⟩ := mem_words_shown all member
  rcases ColumnAttribute.mem_words_masked (all.sound piece inside) here with rfl | free
  · exact picks.others piece.2 (absent piece inside)
  · exact picks.free word free

include led

/-- A phrase is not found where no attribute has its keyword. -/
theorem find?_shown_eq_none (all : Joined closed pieces) (absent : ∀ piece ∈ pieces, piece.2.keyword ≠ keyword) :
    pattern.find? (shown pieces) = none := find?_eq_none_of_words led (not_leads_shown picks all absent)

/-- Attributes with other keywords are passed. -/
theorem find?_shown_append (all : Joined closed (front ++ piece :: back))
    (absent : ∀ piece ∈ front, piece.2.keyword ≠ keyword) :
    pattern.find? (shown (front ++ piece :: back)) =
      (pattern.find? (piece.2.masked ++ shown back)).map (Match.shift (shown front ++ piece.1).length) := by
  have blank := all.blank piece (List.mem_append_right front List.mem_cons_self)
  rw [shown, joined_split]
  apply find?_append_of_led led _ (Or.inl (all.start ColumnAttribute.masked))
  rw [words_append_of_blank _ blank]
  exact not_leads_shown picks all.of_append absent

end Search

theorem occurs_shown_iff {closed : Text → Prop} {leads : Text → Prop} {pattern : Pattern} {item : ColumnAttribute}
    {pieces : AttributeList} (flag : item ∈ ColumnAttribute.flags)
    (picks : ColumnAttribute.Picks leads item.keyword)
    (led : LedBy leads pattern) (all : Joined closed pieces)
    (here : ∀ before tail, endsWord before = false → beginsWord tail = false →
      (pattern.matchAt (after before (item.masked ++ tail))).isSome = true) :
    pattern.occurs (shown pieces) = true ↔ item ∈ pieces.map Prod.snd := by
  constructor
  · intro occurs
    by_contra none_there
    have absent : ∀ piece ∈ pieces, piece.2.keyword ≠ item.keyword := fun piece member same =>
      none_there (ColumnAttribute.eq_of_keyword flag same ▸ List.mem_map_of_mem member)
    rw [occurs_eq_false (find?_shown_eq_none picks led all absent)] at occurs
    cases occurs
  · intro member
    obtain ⟨piece, inside, rfl⟩ := List.mem_map.mp member
    obtain ⟨front, back, rfl⟩ := List.append_of_mem inside
    rw [shown, joined_split]
    exact occurs_of_matchAt (here _ _ (all.start _) (all.stop_behind _))

end Attributes
end SchemaAtlas
