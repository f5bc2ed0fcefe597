import SchemaAtlas.Text.Basic
/-!
Offsets into a text. A negative one counts from the end, but not beyond the beginning.
-/
namespace SchemaAtlas

/-- Why there is nothing to look at. -/
inductive OffsetFault where
  | outOfRange
  | tooLarge
deriving DecidableEq, Repr

def OffsetFault.message : OffsetFault → String
  | .outOfRange => "string index out of range"
  | .tooLarge => "cannot fit 'int' into an index-sized integer"

namespace Text

/-- How far before the end the offset `-1 - before` lies. An offset has sixty-four bits. -/
def distance (text : Text) (before : Nat) : Except OffsetFault Nat :=
  if Nat.pow 2 63 ≤ before then .error .tooLarge
  else if text.length ≤ before then .error .outOfRange
  else .ok (before + 1)

/-- What is met from a negative offset on. Offsets below zero go on to zero, so after the end of the
text comes the whole text again. -/
def turned (text : Text) (distance : Nat) : Text := text.drop (text.length - distance) ++ text

/-- An offset counted from the beginning. -/
def place (text : Text) (offset : Int) : Nat :=
  if offset < 0 then (text.length + offset).toNat else offset.toNat

def slice (text : Text) (start stop : Int) : Text :=
  (text.take (place text stop)).drop (place text start)

end Text
end SchemaAtlas
