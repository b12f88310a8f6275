import HttpLoad.Url.Basic

/-!
# Addresses and references

An address is read the way browsers read it: blanks around it and line breaks in it are dropped,
the scheme is looked at first, and what follows is repaired as far as that is possible. Seen from
another address, a part of one is enough: what it leaves out is taken from the other one.

## Main definitions

* `Address`: any address
* `Address.parse`: an address from its text
* `Address.join`: an address from its text, seen from another one
* `Address.bareChars`: the text of an address without its fragment
* `AuthorityScan`: what has been seen of an authority
* `Uri`, `Uri.parse?`: an address as a request carries it
* `Uri.isLoneAuthority`: texts that name nothing but an authority
-/

namespace HttpLoad

/-! ## Addresses -/

/-- **Any address.** -/
inductive Address where
  | web (url : Url)
  /-- An address of another scheme that names a host. -/
  | foreign (url : Url)
  /-- An address of another scheme that names none; `rest` is what follows the colon. -/
  | hostless (scheme : String) (rest : List Char)
deriving DecidableEq, Repr

namespace Address

def scheme : Address → String
  | web url => url.scheme
  | foreign url => url.scheme
  | hostless scheme _ => scheme

/-- **The text of an address** without its fragment. -/
def bareChars : Address → List Char
  | web url => url.bare.chars
  | foreign url => url.bare.chars
  | hostless scheme rest => scheme.toList ++ ':' :: rest

/-! ### Characters and schemes -/

/-- The characters that are dropped wherever they stand. -/
def isDropped (c : Char) : Bool := c == '\t' || c == '\n' || c == '\r'

/-- The characters that are dropped at both ends. -/
def isOuter (c : Char) : Bool := c.toNat ≤ 0x20

/-- An address without what is dropped from it. -/
def clean (cs : List Char) : List Char :=
  (((cs.dropWhile isOuter).reverse.dropWhile isOuter).reverse).filter (!isDropped ·)

def isSchemeChar (c : Char) : Bool := c.isAlphanum || c == '+' || c == '-' || c == '.'

/-- The scheme in front of the first colon, in small letters, and what follows the colon. -/
def scheme? (cs : List Char) : Option (String × List Char) :=
  match cs.takeWhile isSchemeChar, cs.dropWhile isSchemeChar with
  | c :: name, ':' :: rest =>
    if c.isAlpha then some (String.ofList ((c :: name).map Char.toLower), rest) else none
  | _, _ => none

/-! ### Addresses with a host -/

/-- A fragment, coded. -/
def codedFragment (tail : Tail) : Option (List Char) :=
  tail.fragment.map (Percent.encode Percent.inFragment)

/-- A query of an address with a scheme, coded. -/
def codedQuery (scheme : String) (tail : Tail) : Option (List Char) :=
  tail.query.map (Percent.encode
    (if looksUp scheme then Percent.inQuery else Percent.inPlainQuery))

/-- An address with another path, query and fragment. The path is put behind the segments before. -/
def withTail (url : Url) (before : List (List Char)) (path : List Char) (tail : Tail) : Url :=
  { url with
    path := walkSegments before (segments isSlash path)
    query := codedQuery url.scheme tail
    fragment := codedFragment tail }

/-- A path without the slash that it starts with. -/
def withoutFirst (isSlash : Char → Bool) : List Char → List Char
  | c :: rest => if isSlash c then rest else c :: rest
  | [] => []

/-- The path of an address behind its authority. It may be missing where hosts are not looked up. -/
def hostedPath (scheme : String) (path : List Char) : List (List Char) :=
  if looksUp scheme then walkSegments [] (segments isSlash (withoutFirst isSlash path))
  else if path.isEmpty then []
  else walkSegments [] (segments (· == '/') (withoutFirst (· == '/') path))

/-- **An address with a host**, behind two slashes. -/
def hosted (scheme : String) (cs : List Char) : Except UrlFault Address := do
  let (authority, rest) ← Authority.read scheme cs
  let tail := Tail.ofChars rest
  let url : Url := {
    scheme := scheme
    user := authority.user
    password := authority.password
    host := authority.host
    port := authority.port
    path := hostedPath scheme tail.path
    query := codedQuery scheme tail
    fragment := codedFragment tail }
  return if url.isWeb then .web url else .foreign url

/-! ### Addresses of files -/

/-- The scheme of files. -/
def fileScheme : String := "file"

/-- The path of a file. Empty segments in front are dropped, and a drive letter has a colon. -/
def filePath (path : List Char) : List (List Char) :=
  match (walkSegments [] (segments isSlash (withoutFirst isSlash path))).dropWhile List.isEmpty with
  | [] => [[]]
  | first :: rest => (if Segment.isDrive first then first.take 1 ++ [':'] else first) :: rest

/-- The address of a file on this machine. -/
def localFile (tail : Tail) : Address :=
  let query := match codedQuery fileScheme tail with
    | some query => '?' :: query
    | none => []
  .hostless fileScheme
    (['/', '/'] ++ (filePath tail.path).flatMap (fun segment => '/' :: segment) ++ query)

/-- The address of a file on a host. A path that starts with a drive letter is on this machine. -/
def hostFile (host : Host) (tail : Tail) : Address :=
  let path := filePath tail.path
  if host == .name "localhost".toList || path.head?.any Segment.isDrive then localFile tail
  else
    .foreign {
      scheme := fileScheme
      user := []
      password := []
      host := host
      port := none
      path := path
      query := codedQuery fileScheme tail
      fragment := codedFragment tail }

/-- **The address of a file**, behind the colon. A drive letter is no host. -/
def file (cs : List Char) : Except UrlFault Address :=
  match cs with
  | a :: b :: rest =>
    if isSlash a && isSlash b then
      let name := rest.takeWhile (!Authority.isEnd true ·)
      if name.isEmpty || Segment.isDrive name then .ok (localFile (Tail.ofChars rest))
      else (Host.parse name).map fun host => hostFile host (Tail.ofChars (rest.drop name.length))
    else .ok (localFile (Tail.ofChars cs))
  | cs => .ok (localFile (Tail.ofChars cs))

/-! ### Addresses from texts -/

/-- A path behind a colon. Where it starts with two slashes, a dot keeps it from being an
authority. -/
def rootedPath (path : List Char) : List Char :=
  match walkSegments [] (segments (· == '/') path) with
  | [] :: [] => ['/']
  | [] :: rest => ['/', '.', '/'] ++ rest.flatMap fun segment => '/' :: segment
  | rest => rest.flatMap fun segment => '/' :: segment

/-- An address that names no host, behind its colon. -/
def withoutHost (scheme : String) (cs : List Char) : Address :=
  let tail := Tail.ofChars cs
  let path := match tail.path with
    | '/' :: path => rootedPath path
    | path => Percent.encode Percent.isControl path
  let query := match codedQuery scheme tail with
    | some query => '?' :: query
    | none => []
  .hostless scheme (path ++ query)

/-- **An address with a scheme**, behind its colon. Where hosts are looked up, any slashes may stand
in front of the host, or none. -/
def behindScheme (scheme : String) (cs : List Char) : Except UrlFault Address :=
  if looksUp scheme then hosted scheme (cs.dropWhile isSlash)
  else if scheme = fileScheme then file cs
  else
    match cs with
    | '/' :: '/' :: rest => hosted scheme rest
    | cs => .ok (withoutHost scheme cs)

/-- **An address from its text.** -/
def parse (text : List Char) : Except UrlFault Address :=
  match scheme? (clean text) with
  | some (scheme, rest) => behindScheme scheme rest
  | none => .error .noBase

/-- What a text without a scheme means, seen from an address of the web. -/
def relative (base : Url) (cs : List Char) : Except UrlFault Address :=
  let tail := Tail.ofChars cs
  let slashes := cs.takeWhile isSlash
  if 2 ≤ slashes.length then
    hosted base.scheme (match cs with
      | '/' :: '/' :: rest => rest
      | cs => cs.drop slashes.length)
  else if slashes.length = 1 then .ok (.web (withTail base [] (tail.path.drop 1) tail))
  else if !tail.path.isEmpty then
    .ok (.web (withTail base base.path.dropLast tail.path tail))
  else if tail.query.isSome then
    .ok (.web { base with
      query := codedQuery base.scheme tail
      fragment := codedFragment tail })
  else .ok (.web { base with fragment := codedFragment tail })

/-- **An address from its text, seen from an address of the web.** A text with the same scheme and
no more than one slash behind it is a part of an address, too. -/
def join (base : Url) (text : List Char) : Except UrlFault Address :=
  let cs := clean text
  match scheme? cs with
  | some (scheme, rest) =>
    if scheme = base.scheme ∧ (rest.takeWhile isSlash).length < 2 then relative base rest
    else behindScheme scheme rest
  | none => relative base cs

end Address

/-!
## Addresses as requests carry them

A request carries an address as it is written, and takes it apart only as far as it has to: into a
scheme, an authority and a target.
-/

/-- Whether a character may stand in any part of an address: letters, digits, and signs of two
kinds. -/
def isAddressChar (c : Char) : Bool :=
  c.isAlphanum || ['-', '.', '_', '~', ':', '/', '?', '#', '[', ']', '@', '!', '$', '&', '\'', '(',
    ')', '*', '+', ',', ';', '='].contains c

/-- **What has been seen of an authority.** An at-sign and a closing bracket make what stands before
them a name or an address, in which there are more colons and codes than elsewhere. -/
structure AuthorityScan where
  colons : Nat := 0
  hasCode : Bool := false
  isOpened : Bool := false
  isClosed : Bool := false
  /-- Whether the last character was an at-sign. -/
  isUnfinished : Bool := false
deriving DecidableEq, Repr

namespace AuthorityScan

/-- How many colons may follow each other at most. -/
def colonsMax : Nat := 8

/-- What has been seen after one more character, unless it may not stand there. -/
def step (s : AuthorityScan) (c : Char) : Option AuthorityScan :=
  let s := { s with isUnfinished := false }
  if c = ':' then
    if colonsMax ≤ s.colons then none else some { s with colons := s.colons + 1 }
  else if c = '[' then
    if s.hasCode || s.isOpened then none else some { s with isOpened := true }
  else if c = ']' then
    if !s.isOpened || s.isClosed then none
    else some { s with isClosed := true, colons := 0, hasCode := false }
  else if c = '@' then some { s with colons := 0, hasCode := false, isUnfinished := true }
  else if c = '%' then some { s with hasCode := true }
  else if isAddressChar c then some s
  else none

/-- Whether an authority may end here. -/
def isDone (s : AuthorityScan) : Bool :=
  s.isOpened == s.isClosed && s.colons ≤ 1 && !s.isUnfinished && !s.hasCode

end AuthorityScan

/-- **An address as a request carries it**: authority and target as they are written. -/
structure Uri where
  scheme : List Char
  authority : List Char
  target : List Char
deriving DecidableEq, Repr

namespace Uri

def chars (u : Uri) : List Char := u.scheme ++ [':', '/', '/'] ++ u.authority ++ u.target

/-- Whether characters are an authority. -/
def isAuthority (cs : List Char) : Bool :=
  !cs.isEmpty && (cs.foldlM AuthorityScan.step {}).any AuthorityScan.isDone

/-- The greatest lengths of an address and of a scheme. -/
def lengthMax : Nat := 65534
def schemeMax : Nat := 64

/-- A scheme as it is kept. The schemes of the web may be written in any case. -/
def schemeOf (cs : List Char) : List Char :=
  let small := cs.map Char.toLower
  if small = "http".toList ∨ small = "https".toList then small else cs

/-- Whether an authority ends here. -/
def endsAuthority (c : Char) : Bool := c == '/' || c == '?' || c == '#'

/-- A target, which starts with a slash even if only a query is written. -/
def targetOf (cs : List Char) : List Char :=
  let target := cs.takeWhile (· != '#')
  if target.head? = some '/' then target else '/' :: target

/-- **An address that a request can carry.** -/
def parse? (cs : List Char) : Option Uri :=
  let scheme := cs.takeWhile Address.isSchemeChar
  match cs.drop scheme.length with
  | ':' :: '/' :: '/' :: rest =>
    let authority := rest.takeWhile (!endsAuthority ·)
    if cs.length ≤ lengthMax && scheme.length ≤ schemeMax && !scheme.isEmpty
        && isAuthority authority then
      some ⟨schemeOf scheme, authority, targetOf (rest.drop authority.length)⟩
    else none
  | _ => none

/-- Whether a text is a lone authority, which can be carried but not be sent to. -/
def isLoneAuthority (cs : List Char) : Bool :=
  cs.length ≤ lengthMax && isAuthority cs && cs.all (!endsAuthority ·)

end Uri

end HttpLoad
