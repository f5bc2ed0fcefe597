import SchemaAtlas.Text.Basic
import SchemaAtlas.Text.Hexadecimal
/-!
Code points of bytes: UTF-8, UTF-16 and UTF-32. Halves of surrogate pairs are code points here, and
UTF-8 may let them pass or refuse them.
-/
namespace SchemaAtlas.Encoding

inductive Utf8Reason where
  | invalidStart
  | invalidContinuation
  | unexpectedEnd
deriving DecidableEq, Repr

/-- The bytes at fault: the offset of the first, the first itself, and how many there are. -/
structure Utf8Fault where
  offset : Nat
  byte : Nat
  length : Nat
  reason : Utf8Reason
deriving DecidableEq, Repr

def Utf8Reason.message : Utf8Reason → String
  | .invalidStart => "invalid start byte"
  | .invalidContinuation => "invalid continuation byte"
  | .unexpectedEnd => "unexpected end of data"

def Utf8Fault.message (fault : Utf8Fault) : String :=
  let place :=
    if fault.length == 1 then
      s!"byte 0x{String.ofList (Text.hexadecimal 2 fault.byte)} in position {fault.offset}"
    else s!"bytes in position {fault.offset}-{fault.offset + fault.length - 1}"
  s!"'utf-8' codec can't decode {place}: {fault.reason.message}"

/-- A character of which some bytes are read: where it began and with which byte, how many are read,
their bits, how many are to come, and the bounds of the next. -/
structure Pending where
  offset : Nat
  byte : Nat
  taken : Nat
  bits : Nat
  missing : Nat
  least : Nat
  most : Nat
deriving DecidableEq, Repr

def Pending.fault (pending : Pending) (reason : Utf8Reason) : Utf8Fault :=
  ⟨pending.offset, pending.byte, pending.taken, reason⟩

-- The bounds of the second byte keep out longer forms of shorter characters, code points beyond
-- the last one, and, where they are refused, halves of pairs.
/-- The character that a leading byte opens. -/
def pending? (surrogates : Bool) (offset byte : Nat) : Option Pending :=
  let begun := fun bits missing least most =>
    some (⟨offset, byte, 1, bits, missing, least, most⟩ : Pending)
  if 0xC2 ≤ byte ∧ byte ≤ 0xDF then begun (byte - 0xC0) 1 0x80 0xBF
  else if byte = 0xE0 then begun 0 2 0xA0 0xBF
  else if byte = 0xED then begun 0xD 2 0x80 (if surrogates then 0xBF else 0x9F)
  else if 0xE1 ≤ byte ∧ byte ≤ 0xEF then begun (byte - 0xE0) 2 0x80 0xBF
  else if byte = 0xF0 then begun 0 3 0x90 0xBF
  else if 0xF1 ≤ byte ∧ byte ≤ 0xF3 then begun (byte - 0xF0) 3 0x80 0xBF
  else if byte = 0xF4 then begun 4 3 0x80 0x8F
  else none

def utf8From (surrogates : Bool) (offset : Nat) : Option Pending → List Nat →
    Except Utf8Fault (List Nat)
  | none, [] => .ok []
  | some pending, [] => .error (pending.fault .unexpectedEnd)
  | none, byte :: rest =>
    if byte < 0x80 then (utf8From surrogates (offset + 1) none rest).map (byte :: ·)
    else match pending? surrogates offset byte with
      | none => .error ⟨offset, byte, 1, .invalidStart⟩
      | some pending => utf8From surrogates (offset + 1) pending rest
  | some pending, byte :: rest =>
    if byte < pending.least ∨ pending.most < byte then
      .error (pending.fault .invalidContinuation)
    else
      let bits := pending.bits * 0x40 + (byte - 0x80)
      if pending.missing = 1 then
        (utf8From surrogates (offset + 1) none rest).map (bits :: ·)
      else
        utf8From surrogates (offset + 1)
          (some { pending with
            taken := pending.taken + 1, bits, missing := pending.missing - 1,
            least := 0x80, most := 0xBF })
          rest

/-- The code points of bytes in UTF-8. -/
def utf8 (surrogates : Bool) (bytes : List Nat) : Except Utf8Fault (List Nat) :=
  utf8From surrogates 0 none bytes

/-- Units of two or of four bytes, the first byte being the greatest or the least. -/
def units16 (greatestFirst : Bool) : List Nat → Option (List Nat)
  | [] => some []
  | [_] => none
  | first :: second :: rest =>
    (units16 greatestFirst rest).map
      ((if greatestFirst then first * 0x100 + second else second * 0x100 + first) :: ·)

def units32 (greatestFirst : Bool) (bytes : List Nat) : Option (List Nat) := do
  let halves ← units16 greatestFirst bytes
  let rec join : List Nat → Option (List Nat)
    | [] => some []
    | [_] => none
    | first :: second :: rest =>
      (join rest).map
        ((if greatestFirst then first * 0x10000 + second else second * 0x10000 + first) :: ·)
  join halves

def isHighSurrogate (unit : Nat) : Bool := 0xD800 ≤ unit && unit ≤ 0xDBFF

def isLowSurrogate (unit : Nat) : Bool := 0xDC00 ≤ unit && unit ≤ 0xDFFF

def isSurrogate (unit : Nat) : Bool := 0xD800 ≤ unit && unit ≤ 0xDFFF

def pairPoint (high low : Nat) : Nat := 0x10000 + (high - 0xD800) * 0x400 + (low - 0xDC00)

/-- Joins the halves of surrogate pairs; a half without its other stays. -/
def joinPairs : List Nat → List Nat
  | [] => []
  | [unit] => [unit]
  | high :: low :: rest =>
    if isHighSurrogate high && isLowSurrogate low then pairPoint high low :: joinPairs rest
    else high :: joinPairs (low :: rest)

def utf16 (greatestFirst : Bool) (bytes : List Nat) : Option (List Nat) :=
  (units16 greatestFirst bytes).map joinPairs

def utf32 (greatestFirst : Bool) (bytes : List Nat) : Option (List Nat) :=
  (units32 greatestFirst bytes).filter (·.all (· ≤ 0x10FFFF))

/-- The code points of bytes in whichever encoding a byte order mark or the zero bytes at the
beginning tell. -/
def detected (bytes : List Nat) : Option (List Nat) :=
  match bytes with
  | 0x00 :: 0x00 :: 0xFE :: 0xFF :: rest => utf32 true rest
  | 0xFF :: 0xFE :: 0x00 :: 0x00 :: rest => utf32 false rest
  | 0xFE :: 0xFF :: rest => utf16 true rest
  | 0xFF :: 0xFE :: rest => utf16 false rest
  | 0xEF :: 0xBB :: 0xBF :: rest => (utf8 true rest).toOption
  | 0 :: 0 :: _ :: _ :: _ => utf32 true bytes
  | 0 :: _ :: _ :: _ :: _ => utf16 true bytes
  | _ :: 0 :: 0 :: 0 :: _ => utf32 false bytes
  | _ :: 0 :: _ :: _ :: _ => utf16 false bytes
  | [0, _] => utf16 true bytes
  | [_, 0] => utf16 false bytes
  | _ => (utf8 true bytes).toOption

/-- The text of code points, unless one of them is half of a pair. -/
def text? (points : List Nat) : Option Text :=
  points.mapM fun point => if point.isValidChar then some (Char.ofNat point) else none

end SchemaAtlas.Encoding
