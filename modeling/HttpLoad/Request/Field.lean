import HttpLoad.Request.Basic

/-!
# Messages, byte by byte

A message is read from the bytes that have come so far, which may not be all of it: first its
fields, line by line, then a body whose length may be told beforehand or not.

## Main definitions

* `Progress`: what has been read of a message
* `FieldFault`: what can be wrong with a field
* `Field.line`: a field as a line
* `Field.readAll`: the fields from the bytes that have come
* `Field.length?`, `Field.endsInChunks`: what fields tell of a body
* `Chunk.encode`: a body in a single chunk
* `ChunkStage`, `ChunkFault`: how far a body has come, and what can be wrong with it
* `ChunkReader.step`: what follows from a byte
* `Chunk.read`: a body from the bytes that have come
-/

namespace HttpLoad

/-!
## Fields

Each field is a line: a name, which is a token, a colon, and a value, which has no control
characters in it. An empty line ends the fields.
-/

/-- The end of a line. -/
def lineEnd : Bytes := [0x0d, 0x0a]

/-- **What has been read of a message.** -/
inductive Progress (ε α : Type) where
  /-- More bytes have to come; `ifEnded` is wrong if none do. -/
  | incomplete (ifEnded : Breakdown)
  | broken (fault : ε)
  | complete (value : α) (rest : Bytes)

/-- **What can be wrong with a field.** -/
inductive FieldFault where
  | badName
  | badValue
  | badEnd
  | tooMany
deriving DecidableEq, Repr

def FieldFault.message : FieldFault → String
  | badName => "invalid header name"
  | badValue => "invalid header value"
  | badEnd => "invalid new line"
  | tooMany => "too many headers"

namespace Field

/-- A field as a line. -/
def line (name : String) (value : Bytes) : Bytes :=
  Bytes.ofString name ++ [0x3a, 0x20] ++ value ++ lineEnd

/-- The character that a byte stands for by itself. -/
def char (b : UInt8) : Char := Char.ofNat b.toNat

/-- Whether a byte may stand in a name. -/
def isNameByte (b : UInt8) : Bool := isTokenChar (char b)

def isBlank (b : UInt8) : Bool := b == 0x20 || b == 0x09

/-- Bytes without the blanks around them. -/
def trim (bytes : Bytes) : Bytes :=
  ((bytes.dropWhile isBlank).reverse.dropWhile isBlank).reverse

/-- Bytes in small letters. -/
def small (bytes : Bytes) : List Char := bytes.map fun b => (char b).toLower

/-- The bytes up to the end of a line, put behind those before, which are in reverse. -/
def readLine {ε : Type} (fault : ε) (soFar : Bytes) : Bytes → Progress ε Bytes
  | [] => .incomplete .hungUp
  | b :: rest =>
    if b = 0x0a then .complete soFar.reverse rest
    else if b = 0x0d then
      match rest with
      | [] => .incomplete .hungUp
      | c :: rest => if c = 0x0a then .complete soFar.reverse rest else .broken fault
    else if Headers.isValueByte b then readLine fault (b :: soFar) rest
    else .broken fault

/-- The greatest number of fields. -/
def countMax : Nat := 100

/-- A field, and what follows it. -/
def read (bytes : Bytes) : Progress FieldFault (String × Bytes) :=
  let name := bytes.takeWhile isNameByte
  match bytes.drop name.length with
  | [] => .incomplete .hungUp
  | b :: rest =>
    if b ≠ 0x3a || name.isEmpty then .broken .badName
    else
      match readLine .badValue [] rest with
      | .complete value rest => .complete (String.ofList (small name), trim value) rest
      | .incomplete ifEnded => .incomplete ifEnded
      | .broken fault => .broken fault

/-- Fields up to an empty line, put behind those before, which are in reverse. -/
def readFrom : Nat → List (String × Bytes) → Bytes → Progress FieldFault (List (String × Bytes))
  | 0, _, _ => .incomplete .hungUp
  | _, _, [] => .incomplete .hungUp
  | _, _, [0x0d] => .incomplete .hungUp
  | _, before, 0x0a :: rest => .complete before.reverse rest
  | _, before, 0x0d :: b :: rest =>
    if b = 0x0a then .complete before.reverse rest else .broken .badEnd
  | fuel + 1, before, b :: rest =>
    if !isNameByte b then .broken .badName
    else if countMax ≤ before.length then .broken .tooMany
    else
      match read (b :: rest) with
      | .complete field rest => readFrom fuel (field :: before) rest
      | .incomplete ifEnded => .incomplete ifEnded
      | .broken fault => .broken fault

/-- **The fields from the bytes that have come.** -/
def readAll (bytes : Bytes) : Progress FieldFault (List (String × Bytes)) :=
  readFrom (bytes.length + 1) [] bytes

/-! ### What fields tell of a body -/

/-- The greatest number that a length can be. -/
def lengthMax : Nat := 0xffffffffffffffff

/-- A length from its digits. -/
def lengthOf? (bytes : Bytes) : Option Nat :=
  (parseDigits? ((trim bytes).map char)).filter (· ≤ lengthMax)

/-- **The length that all values tell.** A value may tell it more than once. -/
def length? (values : List Bytes) : Option Nat := do
  let lengths ← (values.flatMap fun v => v.splitOnP (· == 0x2c)).mapM lengthOf?
  let length ← lengths.head?
  if lengths.all (· == length) then some length else none

/-- **Whether a body comes in chunks**, by the last of the codings that it has. -/
def endsInChunks (values : List Bytes) : Bool :=
  match values.getLast? with
  | some value =>
    let coding := (value.reverse.takeWhile (· != 0x2c)).reverse
    value.all (fun b => isBlank b || (0x20 < b && b < 0x7f))
      && small (trim coding) == "chunked".toList
  | none => false

end Field

/-!
## Chunks

A body whose length is not told beforehand comes in chunks: each of them is a length in hexadecimal
in a line of its own, perhaps with an extension, and that many bytes. A chunk without bytes is the
last one. Fields may follow it, and an empty line ends the body.
-/

/-- **What can be wrong with a body in chunks.** -/
inductive ChunkFault where
  | noDigit
  | badDigit
  | overflow
  | badBlank
  | longExtension
  | brokenExtension
  | badLineEnd
  | badDataReturn
  | badDataEnd
  | badFieldEnd
  | badEnd
  | badField (fault : FieldFault)
deriving DecidableEq, Repr

def ChunkFault.message : ChunkFault → String
  | noDigit => "invalid chunk size line: missing size digit"
  | badDigit => "invalid chunk size line: invalid size"
  | overflow => "invalid chunk size: overflow"
  | badBlank => "invalid chunk size linear white space"
  | longExtension => "chunk extensions over limit"
  | brokenExtension => "invalid chunk extension contains newline"
  | badLineEnd => "invalid chunk size lf"
  | badDataReturn => "invalid chunk body cr"
  | badDataEnd => "invalid chunk body lf"
  | badFieldEnd => "invalid trailer end lf"
  | badEnd => "invalid chunk end lf"
  | badField fault => fault.message

/-- **How far a body in chunks has come.** -/
inductive ChunkStage where
  | start
  | size (n : Nat)
  | blank (n : Nat)
  | extension (n : Nat)
  | lineEnd (n : Nat)
  /-- Within a chunk, of which `left` bytes and one more have to come. -/
  | data (left : Nat)
  | dataReturn
  | dataEnd
  /-- Behind the last chunk or a field, at the start of a line. -/
  | last
  | field
  | fieldEnd
  | finalEnd
deriving DecidableEq, Repr

/-- **A body in chunks as far as it has been read.** What has been collected is kept in reverse. -/
structure ChunkReader where
  stage : ChunkStage := .start
  body : Bytes := []
  /-- The bytes of the fields behind the last chunk. -/
  fields : Bytes := []
  /-- The bytes of all extensions. -/
  extensions : Nat := 0

/-- **What follows from a byte.** -/
inductive ChunkStep where
  | more (reader : ChunkReader)
  | broken (fault : ChunkFault)
  | finished (body : Bytes)

namespace ChunkReader

/-- The greatest length of a chunk, and how many bytes extensions may have in all. -/
def sizeMax : Nat := 0xffffffffffffffff
def extensionsMax : Nat := 16384

/-- A reader that has come to a stage. -/
def at_ (r : ChunkReader) (stage : ChunkStage) : ChunkStep := .more { r with stage := stage }

/-- What follows from another digit of a length. -/
def digit (r : ChunkReader) (n : Nat) (b : UInt8) (otherwise : ChunkStep) : ChunkStep :=
  match Percent.hexByte b with
  | some d =>
    let n := 16 * n + d.toNat
    if sizeMax < n then .broken .overflow else r.at_ (.size n)
  | none => otherwise

/-- What follows from a byte behind a length. -/
def behindSize (r : ChunkReader) (n : Nat) (b : UInt8) (fault : ChunkFault) : ChunkStep :=
  if b = 0x20 ∨ b = 0x09 then r.at_ (.blank n)
  else if b = 0x3b then r.at_ (.extension n)
  else if b = 0x0d then r.at_ (.lineEnd n)
  else .broken fault

/-- What follows from a byte of an extension. -/
def inExtension (r : ChunkReader) (n : Nat) (b : UInt8) : ChunkStep :=
  if b = 0x0d then r.at_ (.lineEnd n)
  else if b = 0x0a then .broken .brokenExtension
  else if extensionsMax ≤ r.extensions + 1 then .broken .longExtension
  else .more { r with extensions := r.extensions + 1 }

/-- The end of a body. The fields behind the last chunk have to be fields, if there are any. -/
def finish (r : ChunkReader) : ChunkStep :=
  if r.fields.isEmpty then .finished r.body.reverse
  else
    match Field.readAll (r.fields.reverse ++ [0x0d, 0x0a]) with
    | .broken fault => .broken (.badField fault)
    | _ => .finished r.body.reverse

/-- What follows from a byte that has to be a certain one. -/
def expect (r : ChunkReader) (wanted b : UInt8) (stage : ChunkStage) (fault : ChunkFault) :
    ChunkStep :=
  if b = wanted then r.at_ stage else .broken fault

/-- **What follows from a byte.** -/
def step (r : ChunkReader) (b : UInt8) : ChunkStep :=
  match r.stage with
  | .start => r.digit 0 b (.broken .noDigit)
  | .size n => r.digit n b (r.behindSize n b .badDigit)
  | .blank n => r.behindSize n b .badBlank
  | .extension n => r.inExtension n b
  | .lineEnd n => r.expect 0x0a b (if n = 0 then .last else .data (n - 1)) .badLineEnd
  | .data left =>
    .more { r with
      body := b :: r.body
      stage := if left = 0 then .dataReturn else .data (left - 1) }
  | .dataReturn => r.expect 0x0d b .dataEnd .badDataReturn
  | .dataEnd => r.expect 0x0a b .start .badDataEnd
  | .last =>
    if b = 0x0d then r.at_ .finalEnd
    else .more { r with fields := b :: r.fields, stage := .field }
  | .field =>
    .more { r with
      fields := b :: r.fields
      stage := if b = 0x0d then .fieldEnd else .field }
  | .fieldEnd =>
    if b = 0x0a then .more { r with fields := b :: r.fields, stage := .last }
    else .broken .badFieldEnd
  | .finalEnd => if b = 0x0a then r.finish else .broken .badEnd

/-- What is wrong if nothing follows. -/
def ifEnded (r : ChunkReader) : Breakdown :=
  match r.stage with
  | .data _ => .cutOff
  | _ => .inBody "unexpected eof during chunk size line"

end ChunkReader

namespace Chunk

/-- **A body in a single chunk**, or in none if it is empty. -/
def encode (body : Bytes) : Bytes :=
  let line (n : Nat) : Bytes := Bytes.ofChars (Nat.toDigits 16 n) ++ lineEnd
  (if body.isEmpty then [] else line body.length ++ body ++ lineEnd) ++ line 0 ++ lineEnd

/-- The rest of a body from the bytes that have come. -/
def readFrom (r : ChunkReader) : Bytes → Progress Breakdown Bytes
  | [] => .incomplete r.ifEnded
  | b :: rest =>
    match r.step b with
    | .more r => readFrom r rest
    | .broken fault => .broken (.inBody fault.message)
    | .finished body => .complete body rest

/-- **A body from the bytes that have come.** -/
def read (bytes : Bytes) : Progress Breakdown Bytes := readFrom {} bytes

end Chunk

end HttpLoad
