import SchemaAtlas.Text.Hexadecimal
import SchemaAtlas.Text.Numeral
/-!
Hosts in addresses: a name of labels between dots or a number in brackets, with a user in front of an
at sign and a port behind a colon where the address gives them.
-/
namespace SchemaAtlas.Service

/-- Why no host stands where one is written. -/
inductive HostFault where
  | loneBracket
  | futureNumber
  | shortNumber
  | number (text : Text)
  | label
  | lastLabel
  | port (text : Text)
  | portNumeral (cause : NumeralError)
  | portRange
deriving DecidableEq, Repr

def HostFault.message : HostFault → String
  | .loneBracket => "Invalid IPv6 URL"
  | .futureNumber => "IPvFuture address is invalid"
  | .shortNumber => "An IPv4 address cannot be in brackets"
  | .number text => String.ofList (Text.quoted text) ++ " does not appear to be an IPv4 or IPv6 address"
  | .label => "encoding with 'idna' codec failed (UnicodeError: label empty or too long)"
  | .lastLabel => "encoding with 'idna' codec failed (UnicodeError: label too long)"
  | .port text => "Port could not be cast to integer value as " ++ String.ofList (Text.quoted text)
  | .portNumeral cause => cause.message
  | .portRange => "Port out of range 0-65535"

namespace Host

/-- A number up to 255 without zeros in front. -/
def isByte (part : Text) : Bool :=
  part != [] && part.length ≤ 3 && part.all Char.isDigit &&
    (part.length == 1 || part.head? != some '0') && Numeral.magnitude part ≤ 255

/-- Four of them between dots. -/
def isShortNumber (text : Text) : Bool :=
  let bytes := Text.fields '.' text
  bytes.length == 4 && bytes.all isByte

/-- Up to four digits in base sixteen. -/
def isGroup (part : Text) : Bool :=
  part != [] && part.length ≤ 4 && part.all fun c => (Text.hexValue? c).isSome

/-- How many groups stand in a row. At the end of a number a short one fills the room of two. -/
def groupCount? (final : Bool) : List Text → Option Nat
  | [] => some 0
  | part :: rest =>
    if isGroup part then (groupCount? final rest).map (· + 1)
    else if final && rest == [] && isShortNumber part then some 2
    else none

/-- The groups between the colons; an empty text has none. -/
def groups (text : Text) : List Text := if text == [] then [] else Text.fields ':' text

/-- What stands around the first double colon. -/
def splitGap : Text → Option (Text × Text)
  | ':' :: ':' :: rest => some ([], rest)
  | c :: rest => (splitGap rest).map fun parts => (c :: parts.1, parts.2)
  | [] => none

/-- Eight groups, of which a double colon stands for one or more. -/
def isLongNumber (text : Text) : Bool :=
  match splitGap text with
  | none => groupCount? true (groups text) == some 8
  | some (front, back) =>
    match groupCount? false (groups front), groupCount? true (groups back) with
    | some front, some back => front + back ≤ 7
    | _, _ => false

/-- A zone may follow a percent sign. -/
def isZonedNumber (text : Text) : Bool :=
  isLongNumber (text.takeWhile (· != '%')) &&
    match text.dropWhile (· != '%') with
    | [] => true
    | _ :: zone => zone != [] && !zone.contains '%'

/-- A number of a kind to come: its version in base sixteen, a dot and more. -/
def isFutureNumber (text : Text) : Bool :=
  let isDigit := fun c => (Text.hexValue? c).isSome
  (text.takeWhile isDigit) != [] &&
    match text.dropWhile isDigit with
    | '.' :: rest => rest != []
    | _ => false

/-- What is wrong with the number between the first brackets. -/
def numberFault? (number : Text) : Option HostFault :=
  match number with
  | 'v' :: rest => if isFutureNumber rest then none else some .futureNumber
  | number =>
    if isShortNumber number then some .shortNumber
    else if isZonedNumber number then none
    else some (.number number)

/-- What is wrong with the brackets of a host. -/
def bracketFault? (host : Text) : Option HostFault :=
  match host.contains '[', host.contains ']' with
  | false, false => none
  | true, true => numberFault? (((host.dropWhile (· != '[')).drop 1).takeWhile (· != ']'))
  | _, _ => some .loneBracket

def longestLabel : Nat := 63

-- Labels of other scripts are written in ASCII first, so their length says nothing.
/-- What is wrong with the labels of an ASCII name. Only the last one may be empty. -/
def labelFault? (name : Text) : Option HostFault :=
  let labels := Text.fields '.' name
  if !name.all fun c => c.toNat < 0x80 then none
  else if labels.dropLast.any fun label => label == [] || longestLabel < label.length then some .label
  else if labels.getLast?.any (longestLabel < ·.length) then some .lastLabel
  else none

def portFault? (port : Text) : Option HostFault :=
  if port == [] then none
  else if !port.all Char.isDigit then some (.port port)
  else match Numeral.read port with
    | .error cause => some (.portNumeral cause)
    | .ok number => if 65535 < number then some .portRange else none

end Host

/-- The parts of a host. The at sign belongs to the user. -/
structure Host where
  user : Text
  name : Text
  port : Text
deriving DecidableEq, Repr

namespace Host

/-- A number in brackets may hold colons, a name ends at the first one. -/
def ofText (text : Text) : Host :=
  let bare := (text.reverse.takeWhile (· != '@')).reverse
  let user := text.take (text.length - bare.length)
  match bare.dropWhile (· != '[') with
  | _ :: inner =>
    let behind := inner.dropWhile (· != ']')
    ⟨user, inner.takeWhile (· != ']'), (behind.dropWhile (· != ':')).drop 1⟩
  | [] => ⟨user, bare.takeWhile (· != ':'), (bare.dropWhile (· != ':')).drop 1⟩

def fault? (host : Host) : Option HostFault := (labelFault? host.name).or (portFault? host.port)

/-- The name in small letters, apart from its zone. -/
def plainName (host : Host) : Text :=
  (host.name.takeWhile (· != '%')).map Char.toLower ++ host.name.dropWhile (· != '%')

/-- A user without a name and the port zero are left out. -/
def render (host : Host) : Text :=
  let nameless := host.user.length ≤ 1 || host.user.head? == some ':'
  let name := host.plainName
  (if nameless then [] else host.user) ++
    (if name.contains ':' then '[' :: name ++ [']'] else name) ++
    (if host.port.all (· == '0') then [] else ':' :: host.port)

end Host
end SchemaAtlas.Service
