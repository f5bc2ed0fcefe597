import SchemaAtlas.Service.Host
/-!
Addresses of requests. The service is told the host, whether the protocol is that of sockets, and a
path that begins with one slash.
-/
namespace SchemaAtlas.Service

/-- The protocol keeps its colon. -/
structure Address where
  scheme : Text
  host : Text
  path : Text
deriving DecidableEq, Repr

/-- A percent sign and two digits stand for the character of that number. -/
def unescape : Text → Text
  | '%' :: high :: low :: rest =>
    match Text.hexValue? high, Text.hexValue? low with
    | some high, some low => Char.ofNat (16 * high + low) :: unescape rest
    | _, _ => '%' :: unescape (high :: low :: rest)
  | c :: rest => c :: unescape rest
  | [] => []

namespace Address

/-- Control characters and the space, which do not count in front of an address. -/
def dropMargin (text : Text) : Text := text.dropWhile (·.toNat ≤ 0x20)

def isBreak (c : Char) : Bool := c == '\t' || c == '\n' || c == '\r'

def isSchemeCharacter (c : Char) : Bool := c.isAlphanum || c == '+' || c == '-' || c == '.'

/-- The name of a protocol with its colon, where an address begins with one, and the rest. -/
def splitScheme (text : Text) : Text × Text :=
  let scheme := text.takeWhile (· != ':')
  match text.dropWhile (· != ':') with
  | colon :: rest =>
    if scheme.head?.any Char.isAlpha && scheme.all isSchemeCharacter then
      (scheme.map Char.toLower ++ [colon], rest)
    else ([], text)
  | [] => ([], text)

/-- The host behind two slashes, and the rest. -/
def splitHost : Text → Text × Text
  | '/' :: '/' :: rest => (rest.takeWhile (· != '/'), rest.dropWhile (· != '/'))
  | text => ([], text)

/-- The parts of an address without its query and its fragment. -/
def read (text : Text) : Except HostFault Address :=
  let (scheme, rest) := splitScheme ((dropMargin text).filter (!isBreak ·))
  let (host, path) := splitHost (rest.takeWhile fun c => c != '#' && c != '?')
  match Host.bracketFault? host with
  | some fault => .error fault
  | none => .ok ⟨scheme, host, path⟩

/-- The host as the service is told it. -/
def plainHost (address : Address) : Except HostFault Text :=
  let host := Host.ofText address.host
  match host.fault? with
  | some fault => .error fault
  | none => .ok host.render

def render (address : Address) : Except HostFault Text := do
  if address.host == [] then return address.scheme ++ address.path
  return address.scheme ++ '/' :: '/' :: (← address.plainHost) ++ address.path

-- The path of an address is read as an address twice more, so a second protocol or host goes too.
/-- The address as the service is told it. Its path begins with one slash. -/
def resolve (text : Text) : Except HostFault Address := do
  let address ← read text
  let inner ← read address.path
  let path ← (← read inner.path).render
  return ⟨address.scheme, ← address.plainHost, '/' :: (unescape path).dropWhile (· == '/')⟩

def isSocket (address : Address) : Bool :=
  address.scheme == "ws:".toList || address.scheme == "wss:".toList

/-- The text in front of the first colon has to be made of labels. -/
def hasServer (address : Address) : Bool :=
  (Host.labelFault? (address.host.takeWhile (· != ':'))).isNone

end Address
end SchemaAtlas.Service
