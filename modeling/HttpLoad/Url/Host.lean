import HttpLoad.Domain.Basic
import HttpLoad.Number.Text

/-!
# Hosts

A host is an address of one of two kinds, or a domain name. What ends in a number is an address.

## Main definitions

* `Percent.encode`, `Percent.decode`: characters with the bytes of a set coded, and back
* `Percent.inUser`, `Percent.inPath`, `Percent.inQuery`, `Percent.inFragment`: the sets of the parts
* `UrlFault`: what can be wrong with an address of a resource
* `Host`: a host
* `Host.parse`: a host from the characters where it stands
* `Host.chars`: the text of a host
-/

namespace HttpLoad

/-!
## Percent coding

Bytes that may not stand in a part of an address are written as a percent sign and two hexadecimal
digits. Which bytes those are depends on the part.
-/

namespace Percent

/-- A hexadecimal digit in upper case. -/
def upperDigit (n : Nat) : Char := (Nat.digitChar n).toUpper

/-- A byte behind a percent sign. -/
def code (b : UInt8) : List Char := ['%', upperDigit (b.toNat / 16), upperDigit (b.toNat % 16)]

/-- One character, coded if it is not ASCII or belongs to the set. -/
def encodeChar (coded : Char → Bool) (c : Char) : List Char :=
  if c.toNat < 0x80 && !coded c then [c] else (String.utf8EncodeChar c).flatMap code

/-- **Characters with those of a set coded.** -/
def encode (coded : Char → Bool) (cs : List Char) : List Char := cs.flatMap (encodeChar coded)

/-- The value of a byte that is a hexadecimal digit. -/
def hexByte (b : UInt8) : Option UInt8 :=
  if 0x30 ≤ b && b ≤ 0x39 then some (b - 0x30)
  else if 0x41 ≤ b && b ≤ 0x46 then some (b - 0x41 + 10)
  else if 0x61 ≤ b && b ≤ 0x66 then some (b - 0x61 + 10)
  else none

/-- **Bytes with codes resolved.** A percent sign without two digits stands for itself. -/
def decode : Bytes → Bytes
  | 0x25 :: a :: b :: rest =>
    match hexByte a, hexByte b with
    | some x, some y => (x * 16 + y) :: decode rest
    | _, _ => 0x25 :: decode (a :: b :: rest)
  | b :: rest => b :: decode rest
  | [] => []

def isControl (c : Char) : Bool := c.toNat < 0x20 || c.toNat == 0x7f

/-- The characters that are coded in a fragment. -/
def inFragment (c : Char) : Bool := isControl c || [' ', '"', '<', '>', '\x60'].contains c

/-- The characters that are coded in a path. -/
def inPath (c : Char) : Bool := inFragment c || ['#', '?', '\x7b', '\x7d'].contains c

/-- The characters that are coded in a name or password. -/
def inUser (c : Char) : Bool :=
  inPath c || ['/', ':', ';', '=', '@', '[', '\\', ']', '^', '|'].contains c

/-- The characters that are coded in a query, unless hosts are looked up. -/
def inPlainQuery (c : Char) : Bool := isControl c || [' ', '"', '#', '<', '>'].contains c

/-- The characters that are coded in a query where hosts are looked up. -/
def inQuery (c : Char) : Bool := inPlainQuery c || c == '\''

end Percent

/-! ## Hosts -/

/-- **What can be wrong with the address of a resource.** -/
inductive UrlFault where
  | noBase
  | emptyHost
  | badDomain
  | badHostCharacter
  | badPort
  | badIpv4
  | badIpv6
deriving DecidableEq, Repr

def UrlFault.message : UrlFault → String
  | noBase => "relative URL without a base"
  | emptyHost => "empty host"
  | badDomain => "invalid international domain name"
  | badHostCharacter => "invalid domain character"
  | badPort => "invalid port number"
  | badIpv4 => "invalid IPv4 address"
  | badIpv6 => "invalid IPv6 address"

/-- **A host.** -/
inductive Host where
  | name (cs : List Char)
  | ipv4 (address : Nat)
  | ipv6 (pieces : List Nat)
deriving DecidableEq, Repr

namespace Ipv4

/-- A number in the base that its first characters name: hexadecimal, octal or decimal. -/
def number? (cs : List Char) : Option Nat :=
  match cs with
  | [] => none
  | '0' :: 'x' :: ds => hex? ds
  | '0' :: 'X' :: ds => hex? ds
  | ['0'] => some 0
  | '0' :: ds =>
    if ds.all fun c => '0' ≤ c ∧ c ≤ '7' then
      some (ds.foldl (fun n c => 8 * n + digitValue c) 0)
    else none
  | ds => if ds.all Char.isDigit then some (digitsValue ds) else none
where
  hex? (ds : List Char) : Option Nat :=
    if ds.all fun c => c.isDigit || ('a' ≤ c ∧ c ≤ 'f') || ('A' ≤ c ∧ c ≤ 'F') then
      some (hexNumber ds)
    else none

/-- The parts between the dots. -/
def parts (cs : List Char) : List (List Char) := cs.splitOnP (· == '.')

/-- Whether a name ends in a number and so has to be an address. -/
def isMeant (cs : List Char) : Bool :=
  let isNumber := fun p : List Char => !p.isEmpty && (p.all Char.isDigit || (number? p).isSome)
  match (parts cs).reverse with
  | [] :: p :: _ => isNumber p
  | p :: _ => isNumber p
  | [] => false

/-- **An address** of up to four numbers; the last one fills the places that are left. -/
def parse? (cs : List Char) : Option Nat := do
  let ps := parts cs
  let ps := if ps.getLast? = some [] then ps.dropLast else ps
  if 4 < ps.length then failure
  let numbers ← ps.mapM number?
  let last ← numbers.getLast?
  let leading := numbers.dropLast
  let room := Nat.pow 256 (4 - leading.length)
  if room ≤ last then failure
  if leading.any (255 < ·) then failure
  return leading.foldl (fun n place => 256 * n + place) 0 * room + last

/-- Four numbers with dots. -/
def chars (address : Nat) : List Char :=
  (['.'] : List Char).intercalate
    ([3, 2, 1, 0].map fun i => decimalDigits (address / Nat.pow 256 i % 256))

end Ipv4

namespace Ipv6

def isHex (c : Char) : Bool := c.isDigit || ('a' ≤ c && c ≤ 'f') || ('A' ≤ c && c ≤ 'F')

/-- One number of a dotted tail: no leading zero, at most 255. -/
def tailNumber? (ds : List Char) : Option Nat :=
  match ds with
  | [] => none
  | '0' :: _ :: _ => none
  | _ => if ds.all Char.isDigit ∧ digitsValue ds ≤ 255 then some (digitsValue ds) else none

/-- A dotted tail as two pieces. -/
def tail? (cs : List Char) : Option (List Nat) := do
  match ← (Ipv4.parts cs).mapM tailNumber? with
  | [a, b, c, d] => some [a * 256 + b, c * 256 + d]
  | _ => none

/-- Pieces between colons, of which the last may be a dotted tail; none of them is empty. -/
def pieces? : List (List Char) → Option (List Nat)
  | [] => some []
  | [p] =>
    if p.contains '.' then (if p.head?.any isHex then tail? p else none)
    else (piece? p).map fun n => [n]
  | p :: ps => do
    let n ← piece? p
    let ns ← pieces? ps
    return n :: ns
where
  piece? (p : List Char) : Option Nat :=
    if !p.isEmpty ∧ p.length ≤ 4 ∧ p.all isHex then some (hexNumber p) else none

/-- The parts before and behind the first double colon. -/
def splitDouble : List Char → List Char → Option (List Char × List Char)
  | before, ':' :: ':' :: rest => some (before.reverse, rest)
  | before, c :: rest => splitDouble (c :: before) rest
  | _, [] => none

/-- The pieces of a part; an empty part has none. -/
def part? (cs : List Char) : Option (List Nat) :=
  if cs.isEmpty then some [] else pieces? (cs.splitOnP (· == ':'))

/-- **An address** of eight pieces. A double colon stands for one zero piece or more. -/
def parse? (cs : List Char) : Option (List Nat) := do
  match splitDouble [] cs with
  | none =>
    let ps ← part? cs
    if ps.length = 8 then some ps else none
  | some (before, behind) =>
    if before.contains '.' then failure
    let front ← part? before
    let back ← part? behind
    if front.length + back.length ≤ 7 then
      some (front ++ List.replicate (8 - front.length - back.length) 0 ++ back)
    else none

/-- The zeros at the start of pieces. -/
def zeroRun (ps : List Nat) : Nat := (ps.takeWhile (· == 0)).length

/-- The first longest run of zeros: where it starts and how long it is. -/
def longestRun (ps : List Nat) : Nat × Nat :=
  (List.range ps.length).foldl (fun best i =>
    let run := zeroRun (ps.drop i)
    if best.2 < run then (i, run) else best) (0, 0)

def hexChars (n : Nat) : List Char := Nat.toDigits 16 n

/-- Pieces with colons; the first longest run of two zeros or more is left out. -/
def chars (ps : List Nat) : List Char :=
  let join := fun ns : List Nat => ([':'] : List Char).intercalate (ns.map hexChars)
  let (start, run) := longestRun ps
  if run < 2 then join ps
  else join (ps.take start) ++ [':', ':'] ++ join (ps.drop (start + run))

end Ipv6

namespace Host

/-- The address inside brackets. -/
def parseBracketed (cs : List Char) : Except UrlFault Host :=
  if cs.getLast? = some ']' ∧ 2 ≤ cs.length then
    match Ipv6.parse? (cs.drop 1).dropLast with
    | some pieces => .ok (.ipv6 pieces)
    | none => .error .badIpv6
  else .error .badIpv6

/-- **A host** of a scheme that looks names up. -/
def parse (cs : List Char) : Except UrlFault Host :=
  if cs.head? = some '[' then parseBracketed cs
  else
    match Domain.toAscii? (Percent.decode (Bytes.ofChars cs)) with
    | none => .error .badDomain
    | some [] => .error .emptyHost
    | some domain =>
      if Ipv4.isMeant domain then
        match Ipv4.parse? domain with
        | some address => .ok (.ipv4 address)
        | none => .error .badIpv4
      else .ok (.name domain)

/-- The characters that no host holds, whatever the scheme. -/
def isRefused (c : Char) : Bool :=
  ['\x00', ' ', '#', '/', ':', '<', '>', '?', '@', '[', '\\', ']', '^', '|'].contains c

/-- A host of a scheme that does not look names up: it is taken as it stands. -/
def parseOpaque (cs : List Char) : Except UrlFault Host :=
  if cs.head? = some '[' then parseBracketed cs
  else if cs.any isRefused then .error .badHostCharacter
  else .ok (.name (Percent.encode Percent.isControl cs))

/-- **The text of a host.** -/
def chars : Host → List Char
  | name cs => cs
  | ipv4 address => Ipv4.chars address
  | ipv6 pieces => '[' :: Ipv6.chars pieces ++ [']']

end Host

end HttpLoad
