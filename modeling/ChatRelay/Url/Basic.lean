/-
  Addresses of resources.

  An address has a scheme, a user, a host, a port, a path, a query and a
  fragment, of which each may be missing.  It is kept in ASCII: the name of a
  host is written as names of hosts are, and elsewhere the characters that a part
  may not hold are written with percent signs.

  * `Url.make` brings the parts of an address into this form, `Url.parse` takes
    an address apart, `Url.text` writes it;
  * `Url.Flaw` is what is wrong with an address;
  * `Url.hostName` is the name that the host stands for, `Url.below` places a
    path below an address.
-/
import ChatRelay.Host.Address
import ChatRelay.Host.Label
import ChatRelay.Number.Numeral
import ChatRelay.Text.Case
import ChatRelay.Text.Percent

namespace ChatRelay

open Text

/-- An address of a resource. -/
structure Url where
  scheme : String := ""
  user : String := ""
  host : String := ""
  port : Option Int := none
  path : String := ""
  query : Option String := none
  fragment : Option String := none
deriving DecidableEq

namespace Url

/-! ## Flaws -/

/-- What is wrong with an address; a part is named if the address is put together
    from parts. -/
inductive Flaw where
  | tooLong (part : Option String)
  /-- an ASCII character that does not print, at its place -/
  | unprintable (part : Option String) (c : Char) (place : Nat)
  | shortAddress (host : String)
  | longAddress (host : String)
  | hostName (host : String)
  | port (port : String)
  /-- a path after a host that does not begin with a slash -/
  | pathAfterHost
  /-- a path on its own that begins with two slashes -/
  | doubleSlash
  /-- a path on its own that begins with a colon -/
  | colon
deriving DecidableEq

/-- A flaw in words. -/
def Flaw.message : Flaw → String
  | tooLong none => "URL too long"
  | tooLong (some part) => s!"URL component '{part}' too long"
  | unprintable part c n =>
    let place := part.elim "" fun part => s!" {part} component"
    s!"Invalid non-printable ASCII character in URL{place}, {quoted (String.singleton c)} at " ++
      s!"position {n}."
  | shortAddress host => s!"Invalid IPv4 address: {quoted host}"
  | longAddress host => s!"Invalid IPv6 address: {quoted host}"
  | hostName host => s!"Invalid IDNA hostname: {quoted host}"
  | port p => s!"Invalid port: {quoted p}"
  | pathAfterHost => "For absolute URLs, path must be empty or begin with '/'"
  | doubleSlash => "Relative URLs cannot have a path starting with '//'"
  | colon => "Relative URLs cannot have a path starting with ':'"

/-- The greatest number of characters of an address or a part. -/
def maxLength : Nat := 65536

/-- An ASCII character that does not print. -/
def isControl (c : Char) : Bool := c.toNat < 0x20 || c = '\x7f'

/-- Checks the characters of an address or a part. -/
def checkText (part : Option String) (s : String) : Except Flaw Unit :=
  if maxLength < s.length then .error (.tooLong part)
  else match s.toList.zipIdx.find? (isControl ·.1) with
    | some (c, n) => .error (.unprintable part c n)
    | none => .ok ()

/-! ## Characters of parts -/

/-- The character prints and is ASCII, and is none of the given ones. -/
def isPlain (but : String) (c : Char) : Bool :=
  '!' ≤ c && c ≤ '~' && !but.toList.contains c

/-- The characters of a query. -/
def isQueryChar : Char → Bool := isPlain "\"#<>"

/-- The characters of a path. -/
def isPathChar : Char → Bool := isPlain "\"#<>?\x60\x7b\x7d"

/-- The characters of a fragment. -/
def isFragmentChar : Char → Bool := isPlain "\"<>\x60"

/-- The characters of a user. -/
def isUserChar : Char → Bool := isPlain "\"#<>?\x60\x7b\x7d/;=@[\\]^|"

/-- The characters of a host. -/
def isHostChar : Char → Bool := isPlain "#/:<>?@[]^"

/-! ## Making -/

/-- A host in ASCII. -/
def encodeHost (host : String) : Except Flaw String :=
  let cs := host.toList
  if host.isEmpty then .ok ""
  else if Host.looksShort cs then
    if Host.isShort cs then .ok host else .error (.shortAddress host)
  else if cs.head? = some '[' && cs.getLast? = some ']' then
    let address := (cs.drop 1).dropLast
    if Host.isLong address then .ok (String.ofList address) else .error (.longAddress host)
  else if cs.all (·.toNat < 0x80) then .ok (Percent.encode isHostChar (lowerCased host))
  else match Host.writeName? (Case.lower host) with
    | some name => .ok name
    | none => .error (.hostName host)

/-- The ports that are not written after a scheme. -/
def usualPorts : List (String × Int) := [
  ("ftp", 21), ("http", 80), ("https", 443), ("ws", 80), ("wss", 443)]

/-- The number of a port, unless it is the usual one or missing. -/
def readPort (scheme port : String) : Except Flaw (Option Int) :=
  if port.isEmpty then .ok none
  else match readInteger port with
    | .ok n => .ok (if usualPorts.lookup scheme = some n then none else some n)
    | .error _ => .error (.port port)

/-- Takes a segment of a path: a single dot is passed over, a double one takes
    back the segment before. -/
def addSegment (kept : List (List Char)) (segment : List Char) : List (List Char) :=
  if segment = ['.'] then kept
  else if segment = ['.', '.'] then
    if kept = [] || kept = [[]] then kept else kept.dropLast
  else kept ++ [segment]

/-- A path without dot segments. -/
def withoutDots (path : String) : String :=
  String.ofList (['/'].intercalate ((splitChars '/' path.toList).foldl addSegment []))

/-- What is wrong with a path, given what stands before it. -/
def pathFlaw? (hasScheme hasAuthority : Bool) (path : String) : Option Flaw :=
  if hasAuthority && !path.isEmpty && !path.startsWith "/" then some .pathAfterHost
  else if hasScheme || hasAuthority then none
  else if path.startsWith "//" then some .doubleSlash
  else if path.startsWith ":" then some .colon
  else none

/-- An address of given parts, the port as a text. -/
def make (scheme user host port path : String) (query fragment : Option String) :
    Except Flaw Url := do
  let encoded ← encodeHost host
  let number ← readPort scheme port
  let user := Percent.encode isUserChar user
  let hasAuthority := !user.isEmpty || !encoded.isEmpty || number.isSome
  if let some flaw := pathFlaw? (!scheme.isEmpty) hasAuthority path then throw flaw
  let path := if !scheme.isEmpty || hasAuthority then withoutDots path else path
  return {
    scheme := lowerCased scheme
    user
    host := encoded
    port := number
    path := Percent.encode isPathChar path
    query := query.map (Percent.encode isQueryChar)
    fragment := fragment.map (Percent.encode isFragmentChar) }

/-! ## Parsing -/

/-- A character of a scheme after its first letter. -/
def isSchemeChar (c : Char) : Bool := c.isAlphanum || c = '+' || c = '.' || c = '-'

/-- The scheme before the first colon, if one stands there, and the rest. -/
def splitScheme (cs : List Char) : List Char × List Char :=
  let name := if cs.head?.any Char.isAlpha then cs.takeWhile isSchemeChar else []
  match cs.drop name.length with
  | ':' :: rest => (name, rest)
  | _ => ([], cs)

/-- What follows two slashes up to the path, and the rest. -/
def splitAuthority : List Char → List Char × List Char
  | '/' :: '/' :: rest => rest.span fun c => c != '/' && c != '?' && c != '#'
  | cs => ([], cs)

/-- What follows a mark at the front up to an end, and the rest. -/
def splitMarked (mark : Char) (ends : Char → Bool) : List Char → Option (List Char) × List Char
  | [] => (none, [])
  | c :: rest =>
    if c = mark then
      let (part, rest) := rest.span (!ends ·)
      (some part, rest)
    else (none, c :: rest)

/-- The characters after the last occurrence of one. -/
def afterLast (mark : Char) (cs : List Char) : List Char :=
  (cs.reverse.takeWhile (· != mark)).reverse

/-- A host, which may stand between brackets, and what follows it. -/
def splitHost (cs : List Char) : List Char × List Char :=
  if cs.head? = some '[' && cs.contains ']' then
    let rest := afterLast ']' cs
    (cs.take (cs.length - rest.length), rest)
  else cs.span (· != ':')

/-- Takes an address apart. -/
def parse (s : String) : Except Flaw Url := do
  checkText none s
  let (scheme, rest) := splitScheme s.toList
  let (authority, rest) := splitAuthority rest
  let (path, rest) := rest.span fun c => c != '?' && c != '#'
  let (query, rest) := splitMarked '?' (· = '#') rest
  let (fragment, _) := splitMarked '#' (fun _ => false) rest
  let place := afterLast '@' authority
  let (host, port) := splitHost place
  make (String.ofList scheme) (String.ofList (authority.take (authority.length - place.length - 1)))
    (String.ofList host) (String.ofList (if port.head? = some ':' then port.drop 1 else port))
    (String.ofList path) (query.map String.ofList) (fragment.map String.ofList)

/-! ## Views -/

/-- The address names a host and how to reach it. -/
def isAbsolute (u : Url) : Bool := !u.scheme.isEmpty && !u.host.isEmpty

/-- The port as a text, empty if there is none. -/
def portText (u : Url) : String := u.port.elim "" toString

/-- The host as it is written: an address with colons stands between brackets. -/
def writtenHost (host : String) : String :=
  if host.toList.contains ':' then s!"[{host}]" else host

/-- The host and the port. -/
def place (u : Url) : String := writtenHost u.host ++ u.port.elim "" fun n => s!":{n}"

/-- The user, the host and the port. -/
def authority (u : Url) : String := (if u.user.isEmpty then "" else u.user ++ "@") ++ u.place

/-- The path, or a slash, and the query. -/
def target (u : Url) : String :=
  (if u.path.isEmpty then "/" else u.path) ++ u.query.elim "" ("?" ++ ·)

/-- The address as a text. -/
def text (u : Url) : String :=
  (if u.scheme.isEmpty then "" else u.scheme ++ ":") ++
    (if u.authority.isEmpty then "" else "//" ++ u.authority) ++
    u.path ++ u.query.elim "" ("?" ++ ·) ++ u.fragment.elim "" ("#" ++ ·)

/-- The name that the host stands for; only a name written in ASCII is read. -/
def hostName (u : Url) : Except Host.Flaw String :=
  if u.host.startsWith (String.ofList Host.mark) then Host.readName u.host else .ok u.host

/-- An address for which another one stands in where it is not whole: it then
    gives a path and a query below the root of that one. -/
def below (base part : Url) : Except Flaw Url :=
  if part.isAbsolute then .ok part
  else
    let path := String.ofList ('/' :: part.path.toList.dropWhile (· == '/'))
    make base.scheme base.user (writtenHost base.host) base.portText path part.query none

/-- The fragment with the percent signs read. -/
def fragmentText (u : Url) : String := Percent.decode (u.fragment.getD "")

end Url

end ChatRelay
