import HttpLoad.LoadError
import HttpLoad.Report.Basic
import HttpLoad.Url.Basic

/-!
# Requests

What a request is made of, and the network as a client sees it: it sends one request at a time and
gets an answer for it.

## Main definitions

* `isTokenChar`: the characters of tokens
* `capitals`: the capitals of a character, as far as they are ASCII
* `Method`, `Method.parse`: a method, and how it is read
* `Headers`: fields by name
* `Headers.put`, `Headers.erase`, `Headers.has`: operations on fields
* `Headers.parseField?`: a field from its text
* `Headers.parse`: all fields, or the first text that is none
* `SixBits.encode`: bytes in printable characters
* `Credentials`, `Credentials.of?`: a name and a password, and those in an address
* `Credentials.value`: credentials as they are sent
* `WireRequest`: a request as it is put on the wire
* `Breakdown`: what can go wrong on the way
* `Answer`: what comes back
* `Network`: a network, given by its states and what it answers in them
-/

namespace HttpLoad

/-!
## Methods

A method is a token in capital letters. It may be given in any case: it is trimmed and capitalised
first, which turns a few letters that are not ASCII into ones that are.
-/

/-- Whether a character may stand in a token: letters, digits and fifteen signs, all ASCII. -/
def isTokenChar (c : Char) : Bool :=
  c.isAlphanum
    || ['!', '#', '$', '%', '&', '\'', '*', '+', '-', '.', '^', '_', '\x60', '|', '~'].contains c

/-- Whether characters are a token: one or more token characters. -/
def isToken (cs : List Char) : Bool := !cs.isEmpty && cs.all isTokenChar

/-- **The capitals of a character.** Of the characters that are not ASCII only those are changed
whose capitals are. -/
def capitals (c : Char) : List Char :=
  if c = '\u00df' then ['S', 'S']
  else if c = '\u0131' then ['I']
  else if c = '\u017f' then ['S']
  else if c = '\ufb00' then ['F', 'F']
  else if c = '\ufb01' then ['F', 'I']
  else if c = '\ufb02' then ['F', 'L']
  else if c = '\ufb03' then ['F', 'F', 'I']
  else if c = '\ufb04' then ['F', 'F', 'L']
  else if c = '\ufb05' ∨ c = '\ufb06' then ['S', 'T']
  else [c.toUpper]

/-- **A request method.** -/
structure Method where
  name : String
deriving DecidableEq, Repr

namespace Method

def get : Method := ⟨"GET"⟩
def head : Method := ⟨"HEAD"⟩
def post : Method := ⟨"POST"⟩
def connect : Method := ⟨"CONNECT"⟩

/-- **A method from its name**, in any case and with blanks around it. -/
def parse (name : String) : Except LoadError Method :=
  let cs := (Blank.trim name.toList).flatMap capitals
  if isToken cs then .ok ⟨String.ofList cs⟩ else .error (Refusal.badMethod name).error

end Method

/-!
## Header fields

Header fields are given as texts with a colon. Names are tokens, compared without regard to case;
values are free of control characters, tabs aside. Of several fields with one name the last one
counts. There is taken to be room for all fields: that tables of fields have a capacity, and that a
program crashes when it is used up, is no part of this.
-/

/-- **Fields by name.** Names are in small letters and occur once; values are bytes. There is no
limit to how many fields there are. -/
abbrev Headers := List (String × Bytes)

namespace Headers

/-- A field put in place of the one with its name, or behind the others. -/
def put (name : String) (value : Bytes) : Headers → Headers
  | [] => [(name, value)]
  | (n, v) :: rest => if n = name then (name, value) :: rest else (n, v) :: put name value rest

/-- The fields without those of a name. -/
def erase (name : String) (headers : Headers) : Headers := headers.filter fun f => f.1 != name

/-- Whether there is a field of a name. -/
def has (name : String) (headers : Headers) : Bool := headers.any fun f => f.1 == name

/-- The greatest length of a name. -/
def nameMax : Nat := 65535

/-- Whether a byte may stand in a value. -/
def isValueByte (b : UInt8) : Bool := (0x20 ≤ b && b != 0x7f) || b == 0x09

/-- The characters before and behind the first colon. -/
def splitColon (cs : List Char) : Option (List Char × List Char) :=
  match cs.dropWhile (· != ':') with
  | _ :: rest => some (cs.takeWhile (· != ':'), rest)
  | [] => none

/-- **A field from its text**: name and value, both without the blanks around them. -/
def parseField? (text : String) : Option (String × Bytes) :=
  match splitColon text.toList with
  | none => none
  | some (before, behind) =>
    let name := Blank.trim before
    let value := Bytes.ofChars (Blank.trim behind)
    if isToken name ∧ name.length ≤ nameMax ∧ value.all isValueByte then
      some (String.ofList (name.map Char.toLower), value)
    else none

/-- Fields added to those that are there. -/
def addAll (headers : Headers) : List String → Except LoadError Headers
  | [] => .ok headers
  | text :: rest =>
    match parseField? text with
    | some (name, value) => addAll (put name value headers) rest
    | none => .error (.invalidHeader text)

/-- **All fields**, or the first text that is none. -/
def parse (texts : List String) : Except LoadError Headers := addAll [] texts

end Headers

/-!
## Credentials

A name and a password in an address are sent as a field of the request, in the form of printable
characters that stand for six bits each.
-/

namespace SixBits

/-- The character that stands for a number below sixty-four. -/
def letter (n : Nat) : Char :=
  if n < 26 then Char.ofNat ('A'.toNat + n)
  else if n < 52 then Char.ofNat ('a'.toNat + (n - 26))
  else if n < 62 then Char.ofNat ('0'.toNat + (n - 52))
  else if n = 62 then '+'
  else '/'

/-- **Bytes in printable characters**: three bytes are four characters, and what is missing of the
last three is filled up with equals signs. -/
def encode : Bytes → List Char
  | a :: b :: c :: rest =>
    let n := (a.toNat * 256 + b.toNat) * 256 + c.toNat
    letter (n / 262144) :: letter (n / 4096 % 64) :: letter (n / 64 % 64) :: letter (n % 64)
      :: encode rest
  | [a, b] =>
    let n := (a.toNat * 256 + b.toNat) * 4
    [letter (n / 4096), letter (n / 64 % 64), letter (n % 64), '=']
  | [a] =>
    let n := a.toNat * 16
    [letter (n / 64), letter (n % 64), '=', '=']
  | [] => []

end SixBits

/-- **A name, and perhaps a password.** -/
structure Credentials where
  name : String
  password : Option String
deriving DecidableEq, Repr

namespace Credentials

/-- The text that characters with codes are, if they are one. -/
def decoded? (cs : List Char) : Option String :=
  Bytes.toString? (Percent.decode (Bytes.ofChars cs))

/-- **The credentials in an address**, if there are any. A name has to be a text; a password that is
none is no password. -/
def of? (u : Url) : Option Credentials := do
  let name ← decoded? u.user
  let password := if u.password.isEmpty then none else decoded? u.password
  if name.isEmpty && password.isNone then none else some ⟨name, password⟩

/-- Credentials as they are sent. -/
def value (c : Credentials) : Bytes :=
  Bytes.ofString "Basic " ++ Bytes.ofChars (SixBits.encode
    (Bytes.ofString c.name ++ [0x3a] ++ Bytes.ofString (c.password.getD "")))

end Credentials

/-!
## The network

A client sends one request at a time and gets an answer for it: a response with a status, whose body
may still break off, or no response at all. What stands behind the answers, and how much time they
take, is the network's own affair.
-/

/-- **A request as it is put on the wire.** -/
structure WireRequest where
  /-- What it is for. -/
  url : Url
  /-- Who it is sent to. -/
  peer : Peer
  method : Method
  /-- What it names, as it is written in the request. -/
  target : List Char
  headers : Headers
  /-- The bytes behind the head. -/
  body : Bytes
deriving DecidableEq

/-- A failure, and what the log says about it. -/
structure Breakdown where
  why : Failure
  text : String
deriving DecidableEq

namespace Breakdown

/-- What is noticed when nothing comes before the deadline. -/
def expired : Breakdown := ⟨.timeout, "operation timed out"⟩

/-- What is noticed when a connection is closed before a head has come. -/
def hungUp : Breakdown :=
  ⟨.request, "client error (sendrequest): connection closed before message completed"⟩

/-- What is noticed when what comes does not start like a response. -/
def noResponse : Breakdown := ⟨.request, "client error (sendrequest): invalid http version parsed"⟩

/-- What is noticed when a status does not have three digits. -/
def badStatus : Breakdown :=
  ⟨.request, "client error (sendrequest): invalid http status-code parsed"⟩

/-- What is noticed when a field does not have the form of one. -/
def badField : Breakdown := ⟨.request, "client error (sendrequest): invalid http header parsed"⟩

/-- What is noticed when a length is no number, or when there are two lengths. -/
def badLength : Breakdown :=
  ⟨.request, "client error (sendrequest): invalid content-length parsed"⟩

/-- What is noticed when a coding is told in an old version of the protocol. -/
def badCoding : Breakdown :=
  ⟨.request, "client error (sendrequest): unexpected transfer-encoding parsed"⟩

/-- What is noticed when there are too many fields, or when a length is too great. -/
def tooLarge : Breakdown := ⟨.request, "client error (sendrequest): message head is too large"⟩

/-- What is noticed while a body is being read. -/
def inBody (text : String) : Breakdown :=
  ⟨.readBody, "error reading a body from connection: " ++ text⟩

/-- What is noticed when a body ends too soon. -/
def cutOff : Breakdown := inBody "end of file before message length reached"

/-- What is noticed when nobody listens. -/
def refused : Breakdown :=
  ⟨.connection,
    "client error (connect): tcp connect error: connection refused (os error 111)"⟩

/-- What is noticed when a name is not known. -/
def unknownName : Breakdown :=
  ⟨.nameLookup, "client error (connect): dns error: failed to lookup address information: "
    ++ "name or service not known"⟩

/-- What is noticed when a connection would have to be secured. -/
def unsecured : Breakdown :=
  ⟨.connection, "client error (connect): invalid url, scheme is not http"⟩

end Breakdown

/-- Whether a response to a request has no body, whatever is sent behind its head. -/
def isBodiless (method : Method) (status : Nat) : Bool :=
  method == Method.head || status == 204 || status == 304 || status == 101

/-- Whether a status only announces another one. -/
def isProvisional (status : Nat) : Bool := 100 ≤ status && status < 200 && status != 101

/-- **What comes back for a request.** -/
inductive Answer where
  | failed (what : Breakdown)
  /-- A response. Its body is read where nothing else follows from the head; otherwise only its end
  is waited for. -/
  | response (status : Nat) (location : Option Bytes) (body : Except Breakdown Bytes)

/-- **A network**, given by its states. -/
structure Network (σ : Type) where
  exchange : WireRequest → σ → Answer × σ
  /-- The milliseconds between two states. -/
  latency : σ → σ → Double
  /-- The time between two states. -/
  wallTime : σ → σ → WallTime

end HttpLoad
