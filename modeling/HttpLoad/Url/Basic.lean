import HttpLoad.Url.Host

/-!
# Addresses of resources

The parts of an address of a resource: who is spoken to, which stands behind two slashes, and the
path with what follows it.

## Main definitions

* `Segment.isHere`, `Segment.isAbove`, `Segment.isDrive`: segments with a meaning
* `walkSegments`: segments with dots resolved
* `Tail`, `Tail.ofChars`: path, query and fragment as they are written
* `Url`: the address of a resource on a host
* `Url.chars`, `Url.targetChars`: its text, and the part of it that a request names
* `Url.bare`, `Url.anonymous`: an address without its fragment, without name and password
* `Peer`, `Url.peer`: who is spoken to
* `Authority`: what an authority says
* `Authority.read`: an authority, and what follows it
-/

namespace HttpLoad

/-!
## Paths

A path is a list of segments. Segments that stand for the place itself or for the place above are
resolved when the path is read, and so are their coded spellings.
-/

namespace Segment

/-- Whether a segment stands for the place itself. -/
def isHere (segment : List Char) : Bool :=
  let s := segment.map Char.toLower
  s == ['.'] || s == ['%', '2', 'e']

/-- Whether a segment stands for the place above. -/
def isAbove (segment : List Char) : Bool :=
  let s := segment.map Char.toLower
  s == ['.', '.'] || s == ['.', '%', '2', 'e'] || s == ['%', '2', 'e', '.']
    || s == ['%', '2', 'e', '%', '2', 'e']

/-- Whether a segment is a drive letter: a letter and a colon or a bar. -/
def isDrive : List Char → Bool
  | [c, d] => c.isAlpha && (d == ':' || d == '|')
  | _ => false

/-- The segments that are left when the place above is entered: all but the last one, unless that
is a drive letter. -/
def above (before : List (List Char)) : List (List Char) :=
  if before.getLast?.any isDrive then before else before.dropLast

end Segment

/-- **Segments of a path with dots resolved**, put behind those before: a segment for the place
itself is dropped, one for the place above takes the segment before with it, and every other one is
coded. Where the last segment is dropped, the path still ends in a slash. -/
def walkSegments (before : List (List Char)) : List (List Char) → List (List Char)
  | [] => before
  | s :: rest =>
    let ending := if rest.isEmpty then [[]] else []
    if Segment.isAbove s then walkSegments (Segment.above before ++ ending) rest
    else if Segment.isHere s then walkSegments (before ++ ending) rest
    else walkSegments (before ++ [Percent.encode Percent.inPath s]) rest

/-- The segments of a path: what stands between slashes. -/
def segments (isSlash : Char → Bool) (cs : List Char) : List (List Char) := cs.splitOnP isSlash

/-- **Path, query and fragment as they are written**, the marks in front of them left out. -/
structure Tail where
  path : List Char
  query : Option (List Char)
  fragment : Option (List Char)
deriving DecidableEq, Repr

namespace Tail

/-- A fragment behind its mark, if there is one. -/
def fragmentOf : List Char → Option (List Char)
  | '#' :: fragment => some fragment
  | _ => none

/-- **Characters in their parts**: a path ends at a question mark, and all ends at a hash. -/
def ofChars (cs : List Char) : Tail :=
  let path := cs.takeWhile fun c => c != '?' && c != '#'
  match cs.drop path.length with
  | '?' :: rest =>
    let query := rest.takeWhile (· != '#')
    ⟨path, some query, fragmentOf (rest.drop query.length)⟩
  | rest => ⟨path, none, fragmentOf rest⟩

end Tail

/-! ## Addresses -/

/-- **The address of a resource on a host.** -/
structure Url where
  scheme : String
  user : List Char
  password : List Char
  host : Host
  /-- The port, unless it is the one that belongs to the scheme. -/
  port : Option Nat
  /-- The segments of the path, each behind a slash. -/
  path : List (List Char)
  query : Option (List Char)
  /-- What is meant within the resource. No request carries it. -/
  fragment : Option (List Char)
deriving DecidableEq, Repr

/-- The port that belongs to a scheme. -/
def defaultPort? (scheme : String) : Option Nat :=
  if scheme = "http" ∨ scheme = "ws" then some 80
  else if scheme = "https" ∨ scheme = "wss" then some 443
  else if scheme = "ftp" then some 21
  else none

/-- **Who is spoken to**: a host and a port, and how. -/
structure Peer where
  scheme : String
  host : Host
  port : Nat
deriving DecidableEq, Repr

namespace Url

/-- Name and password, before the host. -/
def userChars (u : Url) : List Char :=
  if u.user.isEmpty && u.password.isEmpty then []
  else u.user ++ (if u.password.isEmpty then [] else ':' :: u.password) ++ ['@']

/-- The host, and the port unless it goes without saying. -/
def authorityChars (u : Url) : List Char :=
  u.host.chars ++ (match u.port with
    | some p => ':' :: decimalDigits p
    | none => [])

def pathChars (u : Url) : List Char := u.path.flatMap fun segment => '/' :: segment

def queryChars (u : Url) : List Char :=
  match u.query with
  | some q => '?' :: q
  | none => []

def fragmentChars (u : Url) : List Char :=
  match u.fragment with
  | some f => '#' :: f
  | none => []

/-- **The part of an address that a request names**: path and query. -/
def targetChars (u : Url) : List Char := u.pathChars ++ u.queryChars

/-- **The text of an address.** -/
def chars (u : Url) : List Char :=
  u.scheme.toList ++ [':', '/', '/'] ++ u.userChars ++ u.authorityChars ++ u.targetChars
    ++ u.fragmentChars

/-- An address without its fragment. -/
def bare (u : Url) : Url := { u with fragment := none }

/-- An address without name and password. -/
def anonymous (u : Url) : Url := { u with user := [], password := [] }

/-- Whether an address is one of the web. -/
def isWeb (u : Url) : Bool := u.scheme == "http" || u.scheme == "https"

/-- The port that is connected to. -/
def effectivePort (u : Url) : Nat := u.port.getD ((defaultPort? u.scheme).getD 0)

/-- The host itself as the one who is spoken to. -/
def peer (u : Url) : Peer := ⟨u.scheme, u.host, u.effectivePort⟩

end Url

/-!
## Authorities

An authority stands behind two slashes: a name and a password, a host, and a port, of which only the
host is needed.
-/

/-- What an authority says: name and password, host, port. -/
structure Authority where
  user : List Char
  password : List Char
  host : Host
  port : Option Nat

/-- Whether a scheme is one whose addresses have a host that is looked up. -/
def looksUp (scheme : String) : Bool := (defaultPort? scheme).isSome

/-- A slash of either direction. -/
def isSlash (c : Char) : Bool := c == '/' || c == '\\'

namespace Authority

/-- Whether the host ends here. A backslash counts as a slash where hosts are looked up. -/
def isEnd (special : Bool) (c : Char) : Bool :=
  c == '/' || c == '?' || c == '#' || (special && c == '\\')

/-- Name and password before the last at-sign of an authority, if there is one, and what follows. -/
def splitUser (special : Bool) (cs : List Char) : Option (List Char) × List Char :=
  let authority := cs.takeWhile (!isEnd special ·)
  let rest := cs.drop authority.length
  if authority.contains '@' then
    let behind := (authority.reverse.takeWhile (· != '@')).reverse
    (some (authority.take (authority.length - behind.length - 1)), behind ++ rest)
  else (none, cs)

/-- The characters of a host, up to a colon outside of brackets or the end of the authority. -/
def hostChars (special : Bool) : Bool → List Char → List Char
  | _, [] => []
  | inside, c :: cs =>
    if c = ':' ∧ !inside then []
    else if isEnd special c then []
    else if c = '[' then c :: hostChars special true cs
    else if c = ']' then c :: hostChars special false cs
    else c :: hostChars special inside cs

/-- The greatest port. -/
def portMax : Nat := 65535

/-- A port behind its colon, and what follows; an empty one is none. -/
def readPort (cs : List Char) : Except UrlFault (Option Nat × List Char) :=
  let digits := cs.takeWhile Char.isDigit
  let rest := cs.drop digits.length
  if portMax < digitsValue digits then .error .badPort
  else
    match rest with
    | [] => .ok (if digits.isEmpty then none else some (digitsValue digits), [])
    | c :: _ =>
      if c = '/' ∨ c = '\\' ∨ c = '?' ∨ c = '#' then
        .ok (if digits.isEmpty then none else some (digitsValue digits), rest)
      else .error .badPort

/-- The name and the password around the first colon, coded. -/
def userParts (cs : List Char) : List Char × List Char :=
  let user := cs.takeWhile (· != ':')
  (Percent.encode Percent.inUser user,
    Percent.encode Percent.inUser ((cs.drop user.length).drop 1))

/-- **The authority** behind two slashes, and what follows it. -/
def read (scheme : String) (cs : List Char) : Except UrlFault (Authority × List Char) := do
  let special := looksUp scheme
  let (userinfo, rest) := splitUser special cs
  if userinfo = some [] ∧ rest.head?.any (isEnd special) then throw .emptyHost
  let name := hostChars special false rest
  let rest := rest.drop name.length
  if name.isEmpty && special then throw .emptyHost
  let host ← if special then Host.parse name else Host.parseOpaque name
  if name.isEmpty ∧ rest.head? = some ':' then throw .emptyHost
  let (port, rest) ← match rest with
    | ':' :: rest => readPort rest
    | rest => pure (none, rest)
  let (user, password) := userParts (userinfo.getD [])
  if name.isEmpty ∧ !(user.isEmpty && password.isEmpty) then throw .emptyHost
  let port := if port = defaultPort? scheme then none else port
  return (⟨user, password, host, port⟩, rest)

end Authority

end HttpLoad
