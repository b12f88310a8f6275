import HttpLoad.Request.Field

/-!
# Requests and responses as bytes

A request is written as a line, its fields and its body. A response is read from the bytes that have
come so far: it may be incomplete yet. Its body ends where its fields say, or with the connection.

## Main definitions

* `WireRequest.framed`: a request whose fields tell where its body ends
* `WireRequest.bytes`: a request as bytes
* `ResponseHead`, `ResponseHead.read`: the head of a response
* `Framing`, `Framing.of`: where the body of a response ends
* `Answer.read`: a whole response
-/

namespace HttpLoad

/-! ## Requests -/

namespace WireRequest

/-- The value of a coding that ends in chunks. -/
def chunkedCoding (coding : Bytes) : Bytes :=
  if Field.endsInChunks [coding] then coding else coding ++ Bytes.ofString ", chunked"

/-- **A request whose fields tell where its body ends.** A coding that is asked for is kept, and so
is a length, to which the body is cut; without either, the length of the body is told. -/
def framed (r : WireRequest) : WireRequest :=
  if r.body.isEmpty then { r with headers := r.headers.erase "transfer-encoding" }
  else
    match r.headers.lookup "transfer-encoding" with
    | some coding =>
      { r with
        headers := (r.headers.erase "content-length").put "transfer-encoding" (chunkedCoding coding)
        body := Chunk.encode r.body }
    | none =>
      match (r.headers.lookup "content-length").bind fun value => Field.length? [value] with
      | some length => { r with body := r.body.take length }
      | none =>
        let length := Bytes.ofChars (decimalDigits r.body.length)
        { r with headers := r.headers.put "content-length" length }

/-- The methods whose requests tell the length of their body even if there is none. -/
def measuredMethods : List String := ["POST", "PUT", "PATCH"]

/-- The line that tells that there is no body, where that is told. -/
def emptyLine (r : WireRequest) : Bytes :=
  if r.body.isEmpty && measuredMethods.contains r.method.name
      && !r.headers.has "content-length" then
    Field.line "content-length" [0x30]
  else []

/-- **A request as bytes.** -/
def bytes (r : WireRequest) : Bytes :=
  Bytes.ofString r.method.name ++ [0x20] ++ Bytes.ofChars r.target
    ++ Bytes.ofString " HTTP/1.1" ++ lineEnd
    ++ (r.headers.flatMap fun f => Field.line f.1 f.2)
    ++ (if r.headers.has "host" then []
      else Field.line "host" (Bytes.ofChars r.url.authorityChars))
    ++ r.emptyLine ++ lineEnd ++ r.body

end WireRequest

/-! ## Heads of responses -/

/-- **The head of a response.** Field names are in small letters. -/
structure ResponseHead where
  /-- Whether the version of the protocol is the present one. -/
  isRecent : Bool
  status : Nat
  fields : List (String × Bytes)
deriving DecidableEq

namespace ResponseHead

/-- The values of the fields with a name. -/
def values (h : ResponseHead) (name : String) : List Bytes :=
  (h.fields.filter fun f => f.1 == name).map Prod.snd

/-- The value of the first field with a name. -/
def field? (h : ResponseHead) (name : String) : Option Bytes := (h.values name).head?

/-- What the first line starts with. -/
def protocol : Bytes := Bytes.ofString "HTTP/1."

/-- Whether the version at the start of a response is the present one. -/
def readVersion (bytes : Bytes) : Progress Breakdown Bool :=
  match bytes.drop protocol.length with
  | [] => if bytes.isPrefixOf protocol then .incomplete .hungUp else .broken .noResponse
  | minor :: rest =>
    if protocol.isPrefixOf bytes && (minor == 0x30 || minor == 0x31) then
      .complete (minor == 0x31) rest
    else .broken .noResponse

/-- A number of three digits behind a blank. -/
def readStatus (bytes : Bytes) : Progress Breakdown Nat :=
  match bytes with
  | [] => .incomplete .hungUp
  | blank :: rest =>
    let digits := (rest.take 3).map Field.char
    if blank ≠ 0x20 then .broken .noResponse
    else if !digits.all Char.isDigit then .broken .badStatus
    else if digits.length < 3 then .incomplete .hungUp
    else .complete (digitsValue digits) (rest.drop 3)

/-- What stands behind a status: nothing, or a blank and a text. -/
def readReason (bytes : Bytes) : Progress Breakdown Bytes :=
  match bytes with
  | [] => .incomplete .hungUp
  | b :: rest =>
    if b = 0x20 then Field.readLine .badStatus [] rest
    else if b = 0x0d ∨ b = 0x0a then Field.readLine .badStatus [] bytes
    else .broken .badStatus

/-- The version and the status in the first line of a response. -/
def readLine (bytes : Bytes) : Progress Breakdown (Bool × Nat) :=
  match readVersion bytes with
  | .incomplete ifEnded => .incomplete ifEnded
  | .broken what => .broken what
  | .complete isRecent rest =>
    match readStatus rest with
    | .incomplete ifEnded => .incomplete ifEnded
    | .broken what => .broken what
    | .complete status rest =>
      match readReason rest with
      | .incomplete ifEnded => .incomplete ifEnded
      | .broken what => .broken what
      | .complete _ rest => .complete (isRecent, status) rest

/-- A fault of a field as a failure of the request. -/
def breakdownOf : FieldFault → Breakdown
  | .tooMany => .tooLarge
  | _ => .badField

/-- Empty lines in front of a head are passed over. -/
def skipEmptyLines : Bytes → Bytes
  | 0x0d :: 0x0a :: rest => skipEmptyLines rest
  | 0x0a :: rest => skipEmptyLines rest
  | bytes => bytes

/-- **The head of a response** at the start of bytes. -/
def read (bytes : Bytes) : Progress Breakdown ResponseHead :=
  match readLine (skipEmptyLines bytes) with
  | .incomplete ifEnded => .incomplete ifEnded
  | .broken what => .broken what
  | .complete (isRecent, status) rest =>
    match Field.readAll rest with
    | .incomplete ifEnded => .incomplete ifEnded
    | .broken fault => .broken (breakdownOf fault)
    | .complete fields rest =>
      if status < 100 then .broken .badStatus else .complete ⟨isRecent, status, fields⟩ rest

/-- The final head at the start of bytes; heads that only announce another one are passed over. -/
def readFinal : Nat → Bytes → Progress Breakdown ResponseHead
  | 0, _ => .incomplete .hungUp
  | fuel + 1, bytes =>
    match read bytes with
    | .complete head rest =>
      if isProvisional head.status then readFinal fuel rest else .complete head rest
    | other => other

end ResponseHead

/-! ## Bodies of responses -/

/-- **Where the body of a response ends.** -/
inductive Framing where
  | chunked
  | sized (length : Nat)
  | untilClosed
deriving DecidableEq, Repr

namespace Framing

/-- The greatest length of a body. -/
def lengthMax : Nat := 0xfffffffffffffffd

/-- **The framing of a response** to a request with a method. A coding counts for more than a
length, and where there are several lengths they have to be the same. -/
def of (method : Method) (head : ResponseHead) : Except Breakdown Framing :=
  let codings := head.values "transfer-encoding"
  let lengths := head.values "content-length"
  if isBodiless method head.status then .ok (.sized 0)
  else if !codings.isEmpty then
    if !head.isRecent then .error .badCoding
    else .ok (if Field.endsInChunks codings then .chunked else .untilClosed)
  else if lengths.isEmpty then .ok .untilClosed
  else
    match Field.length? lengths with
    | some n => if n ≤ lengthMax then .ok (.sized n) else .error .tooLarge
    | none => .error .badLength

/-- The body of a response with a framing. -/
def read (framing : Framing) (bytes : Bytes) : Progress Breakdown Bytes :=
  match framing with
  | .chunked => Chunk.read bytes
  | .sized n =>
    if bytes.length < n then .incomplete .cutOff else .complete (bytes.take n) (bytes.drop n)
  | .untilClosed => .incomplete .hungUp

end Framing

/-- What a client makes of bytes that have come, and whether the connection may be used again. -/
structure Received where
  answer : Answer
  reusable : Bool

namespace Answer

/-- Whether a connection may be used again after a response. -/
def keepsOpen (head : ResponseHead) (framing : Framing) : Bool :=
  framing != .untilClosed && head.isRecent
    && !((head.field? "connection").any fun v => Field.small v == "close".toList)

/-- What is wrong when bytes are missing and the connection has ended. -/
def missing (ifEnded what : Breakdown) : Breakdown := if what = .hungUp then ifEnded else what

/-- The answer of a final head and what follows it, if it is complete. `ended` tells what has ended
the connection, if anything has. -/
def ofHead (method : Method) (ended : Option Breakdown) (head : ResponseHead) (rest : Bytes) :
    Option Received :=
  let response (body : Except Breakdown Bytes) (reusable : Bool) : Received :=
    ⟨.response head.status (head.field? "location") body, reusable⟩
  match Framing.of method head with
  | .error what => some ⟨.failed what, false⟩
  | .ok framing =>
    match framing.read rest, ended with
    | .complete body [], none => some (response (.ok body) (keepsOpen head framing))
    | .complete body _, _ => some (response (.ok body) false)
    | .broken what, _ => some (response (.error what) false)
    | .incomplete _, none => none
    | .incomplete ifEnded, some what =>
      if framing = .untilClosed ∧ what = .hungUp then some (response (.ok rest) false)
      else some (response (.error (missing ifEnded what)) false)

/-- **A whole response** from the bytes that have come, if that is possible yet. -/
def read (method : Method) (ended : Option Breakdown) (bytes : Bytes) : Option Received :=
  match ResponseHead.readFinal (bytes.length + 1) bytes with
  | .complete head rest => ofHead method ended head rest
  | .broken what => some ⟨.failed what, false⟩
  | .incomplete ifEnded => ended.map fun what => ⟨.failed (missing ifEnded what), false⟩

/-- **The answer that bytes are**, when the connection has been ended by `what` behind them. -/
def ofBytes (method : Method) (what : Breakdown) (bytes : Bytes) : Answer :=
  match read method (some what) bytes with
  | some received => received.answer
  | none => .failed what

end Answer

end HttpLoad
