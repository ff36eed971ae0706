import ExamPress.Host.Label
import ExamPress.Host.Numeric
import ExamPress.Number.Whole
import ExamPress.Text.Lower

/-! # Addresses

An address is read from a text in two steps: the text is cut into its parts at the marks between
them, and the parts are brought to a normal form or refused. Scheme and host are in lower case, the
number after the host is left out if the scheme implies it, dot segments are resolved, and
characters that can not stand in an address are percent encoded. The address of a request has the
key as its whole query. An address without scheme or host is a path below the root. -/

namespace ExamPress.Exchange

/-- An address in normal form. An empty part is missing; query and fragment may also be there and
empty. -/
structure Address where
  scheme : Text
  user : Text
  host : Text
  number : Option Int
  path : Text
  query : Option Text
  fragment : Option Text
deriving DecidableEq, Repr

/-- The forms of a host that are checked. -/
inductive HostKind where
  | dotted
  | bracketed
  | international
deriving DecidableEq, Repr

/-- Why a text is no address. -/
inductive Unusable where
  | tooLong
  | partTooLong (part : String)
  | controlCharacter (c : CodePoint) (position : Nat)
  | number (text : Text)
  | host (kind : HostKind) (text : Text)
  | pathAfterHost
  | pathStart (start : String)
  | unwritable (fault : Text.Unencodable)
deriving DecidableEq, Repr

/-- The wording for a text that is no address. -/
def Unusable.message : Unusable → Text
  | tooLong => "URL too long".toText
  | partTooLong part => s!"URL component '{part}' too long".toText
  | controlCharacter c position =>
    "Invalid non-printable ASCII character in URL, ".toText ++ Text.Quoted.quote [c] ++
      s!" at position {position}.".toText
  | number text => "Invalid port: ".toText ++ Text.Quoted.quote text
  | host .dotted text => "Invalid IPv4 address: ".toText ++ Text.Quoted.quote text
  | host .bracketed text => "Invalid IPv6 address: ".toText ++ Text.Quoted.quote text
  | host .international text => "Invalid IDNA hostname: ".toText ++ Text.Quoted.quote text
  | pathAfterHost => "For absolute URLs, path must be empty or begin with '/'".toText
  | pathStart start => s!"Relative URLs cannot have a path starting with '{start}'".toText
  | unwritable fault => fault.message

/-! ### Parts of a text -/

/-- The parts of a text between their marks. -/
structure Parts where
  scheme : Text
  authority : Text
  path : Text
  query : Option Text
  fragment : Option Text
deriving DecidableEq, Repr

/-- Whether a character can stand in a scheme after its first letter. -/
def isSchemeChar (c : CodePoint) : Bool := c.isAlphanum || c == '+' || c == '.' || c == '-'

/-- The scheme at the front of a text, and the rest. -/
def splitScheme (s : Text) : Text × Text :=
  let name := s.takeWhile isSchemeChar
  match s.drop name.length with
  | .char ':' :: rest => if name.head?.all CodePoint.isAlpha then (name, rest) else ([], s)
  | _ => ([], s)

/-- Whether a character ends the authority of an address. -/
def endsAuthority (c : CodePoint) : Bool := c == '/' || c == '?' || c == '#'

/-- The authority at the front of a text, and the rest. -/
def splitAuthority (s : Text) : Text × Text :=
  match s with
  | .char '/' :: .char '/' :: rest =>
    (rest.takeWhile fun c => !endsAuthority c, rest.dropWhile fun c => !endsAuthority c)
  | _ => ([], s)

/-- A text up to a mark, and what follows the mark if it is there. -/
def splitAt (mark : CodePoint) (s : Text) : Text × Option Text :=
  let front := s.takeWhile (· != mark)
  match s.drop front.length with
  | _ :: rest => (front, some rest)
  | [] => (front, none)

/-- The parts of a text. -/
def Parts.ofText (s : Text) : Parts :=
  let (scheme, s) := splitScheme s
  let (authority, s) := splitAuthority s
  let (s, fragment) := splitAt '#' s
  let (path, query) := splitAt '?' s
  { scheme, authority, path, query, fragment }

/-- An authority cut into the user up to the last at sign, the host, and the text of the number
after it. A host may be in brackets. -/
def splitHost (authority : Text) : Text × Text × Text :=
  let location := (authority.reverse.takeWhile fun (c : CodePoint) => c != '@').reverse
  let user := authority.take (authority.length - location.length - 1)
  let bracketed := match location with
    | .char '[' :: _ => (location.reverse.dropWhile fun (c : CodePoint) => c != ']').reverse
    | _ => []
  let host :=
    if bracketed.isEmpty then location.takeWhile fun (c : CodePoint) => c != ':' else bracketed
  let digits := match location.drop host.length with
    | .char ':' :: digits => digits
    | digits => digits
  (user, host, digits)

/-! ### Normal forms -/

/-- Whether a character stands for itself in any part of an address after the host. -/
def isQueryChar (c : CodePoint) : Bool :=
  c.isBetween '!' '~' && !(['"', '#', '<', '>'] : Text).contains c

/-- Whether a character stands for itself in a path. -/
def isPathChar (c : CodePoint) : Bool :=
  isQueryChar c && !(['?', '\x60', '\x7b', '\x7d'] : Text).contains c

/-- Whether a character stands for itself in a user. -/
def isUserChar (c : CodePoint) : Bool :=
  isPathChar c && !(['/', ';', '=', '@', '[', '\\', ']', '^', '|'] : Text).contains c

/-- Whether a character stands for itself in a fragment. -/
def isFragmentChar (c : CodePoint) : Bool :=
  c.isBetween '!' '~' && !(['"', '<', '>', '\x60'] : Text).contains c

/-- Whether a character stands for itself in the name of a host. -/
def isHostChar (c : CodePoint) : Bool :=
  Text.Percent.isUnreserved c || "!$&'()*+,;=\"\x60\x7b\x7d%|\\".toText.contains c

/-- The normal form of a host: a number as it is, and a name in ASCII and in lower case, which the
digits of encoded characters are in too. A number in brackets loses them. -/
def normalHost (host : Text) : Except Unusable Text :=
  if Host.looksNumeric host then
    if Host.isDottedNumber host then .ok host else .error (.host .dotted host)
  else if host.head? = some (.char '[') ∧ host.length > 1 ∧ host.getLast? = some (.char ']') then
    let number := (host.drop 1).dropLast
    if Host.isColonNumber number then .ok number else .error (.host .bracketed host)
  else if host.all Host.Punycode.isBasic then
    .ok (Text.lowerAscii (Text.Percent.encode isHostChar host))
  else
    match Host.nameInAscii? (Text.lower host) with
    | some name => .ok name
    | none => .error (.host .international host)

/-- The number after the host that a scheme implies. -/
def impliedNumber? (scheme : Text) : Option Int :=
  (([("ftp", 21), ("http", 80), ("https", 443), ("ws", 80), ("wss", 443)] :
    List (String × Int)).find? fun entry => entry.1.toText = scheme).map Prod.snd

/-- The number after the host that some digits stand for. -/
def numberOf (digits : Text) : Except Unusable (Option Int) :=
  if digits.isEmpty then .ok none
  else
    match Whole.read 10 digits with
    | .ok n => .ok (some n)
    | .error _ => .error (.number digits)

/-- The segments of a path without its dot segments, after segments that were read before, last one
first. -/
def resolveDots (acc : List Text) : List Text → List Text
  | [] => acc.reverse
  | segment :: rest =>
    if segment = ".".toText then resolveDots acc rest
    else if segment = "..".toText then
      resolveDots (if acc = [[]] then acc else acc.drop 1) rest
    else resolveDots (segment :: acc) rest

/-- A path without dot segments. -/
def normalPath (path : Text) : Text :=
  Text.joinWith "/".toText (resolveDots [] (Text.splitOn '/' path))

/-- What is wrong with a path after, or without, a scheme and an authority. -/
def pathFault? (hasScheme hasAuthority : Bool) (path : Text) : Option Unusable :=
  if hasAuthority then
    if path.isEmpty || path.head? == some (.char '/') then none else some .pathAfterHost
  else if hasScheme then none
  else if path.startsWith "//".toText then some (.pathStart "//")
  else if path.startsWith ":".toText then some (.pathStart ":")
  else none

/-- The address of some parts, in which the host may be replaced. -/
def Parts.normal (p : Parts) (otherHost : Option Text) : Except Unusable Address := do
  let (user, host, digits) := splitHost p.authority
  let scheme := Text.lowerAscii p.scheme
  let host ← normalHost (otherHost.getD host)
  let number ← numberOf digits
  let number := if number = impliedNumber? scheme then none else number
  let hasScheme := !scheme.isEmpty
  let hasAuthority := !user.isEmpty || !host.isEmpty || number.isSome
  if let some fault := pathFault? hasScheme hasAuthority p.path then throw fault
  let path := if hasScheme || hasAuthority then normalPath p.path else p.path
  return {
    scheme, host, number
    user := Text.Percent.encode isUserChar user
    path := Text.Percent.encode isPathChar path
    query := p.query.map (Text.Percent.encode isQueryChar)
    fragment := p.fragment.map (Text.Percent.encode isFragmentChar) }

/-- The largest length of an address, and of a part of one. -/
def maxAddressLength : Nat := 65536

/-- Whether a character is a control character of ASCII. -/
def isControl (c : CodePoint) : Bool := c.toNat < 0x20 || c.toNat == 0x7f

namespace Address

/-- The address that a text stands for. -/
def ofText (s : Text) : Except Unusable Address :=
  if maxAddressLength < s.length then .error .tooLong
  else
    match s.zipIdx.find? fun (c, _) => isControl c with
    | some (c, position) => .error (.controlCharacter c position)
    | none => (Parts.ofText s).normal none

/-- The host of an address, in brackets if it has a colon, and the number after it. -/
def location (a : Address) : Text :=
  (if a.host.contains ':' then "[".toText ++ a.host ++ "]".toText else a.host) ++
    match a.number with
    | some n => ":".toText ++ Text.ofInt n
    | none => []

/-- User, host and number of an address. -/
def authority (a : Address) : Text :=
  (if a.user.isEmpty then [] else a.user ++ "@".toText) ++ a.location

/-- The text of an address. -/
def write (a : Address) : Text :=
  (if a.scheme.isEmpty then [] else a.scheme ++ ":".toText) ++
    (if a.authority.isEmpty then [] else "//".toText ++ a.authority) ++ a.path ++
    (match a.query with
      | some query => "?".toText ++ query
      | none => []) ++
    match a.fragment with
    | some fragment => "#".toText ++ fragment
    | none => []

/-- Whether an address says where to send a request. -/
def isAbsolute (a : Address) : Bool := !a.scheme.isEmpty && !a.host.isEmpty

/-- The address of a request: one that does not say where to send it becomes a path below the root,
and the key is the query. -/
def withKey (key : Text) (a : Address) : Except Unusable Address := do
  let query := "key=".toText ++ Text.Percent.encodeForm key
  let a :=
    if a.isAbsolute then { a with query := some query }
    else ⟨[], [], [], none, "/".toText ++ a.path.dropWhile (· == .char '/'), some query, none⟩
  let parts := [("authority", a.authority), ("path", a.path), ("query", query),
    ("fragment", a.fragment.getD [])]
  if let some (part, _) := parts.find? fun entry => maxAddressLength < entry.2.length then
    throw (.partTooLong part)
  let _ ← (Text.Repertoire.ascii.check a.location).mapError .unwritable
  return a

end Address

/-- The address of a place below a base, with a key. -/
def address (base place key : Text) : Except Unusable Address := do
  (← Address.ofText (base ++ place)).withKey key

/-! ### Locations -/

/-- Why an answer can not send a client to a location: the text is no address, or the address lacks
a host and can not take the one of the request. -/
inductive Misdirection where
  | unreadable (fault : Unusable)
  | unusable (fault : Unusable)
deriving DecidableEq, Repr

/-- Checks the location to which an answer from a host sends a client. -/
def checkLocation (host location : Text) : Except Misdirection Unit := do
  let a ← (Address.ofText location).mapError .unreadable
  if !a.scheme.isEmpty && a.host.isEmpty then
    let parts : Parts := ⟨a.scheme, a.authority, a.path, a.query, a.fragment⟩
    let host := if host.contains ':' then "[".toText ++ host ++ "]".toText else host
    let _ ← (parts.normal (some host)).mapError .unusable

end ExamPress.Exchange
