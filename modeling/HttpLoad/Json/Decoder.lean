import HttpLoad.Json.Reader

/-!
# Decoding records

A decoder reads a value of a known kind from the bytes of a JSON text. What stands there instead is
passed over before the complaint is placed, so that the complaint points behind it.

A record is read from an object, whose members come in any order and may include unknown ones, or
from a list, whose items are the fields in their order. What is read goes into a state, from which
the record is made at the end.

## Main definitions

* `Json.Decoder`: a reading step for a value of one kind
* `Json.decodeText`, `Json.decodeReal`, `Json.decodeList`: decoders of simple kinds
* `Json.Record`, `Json.Record.decode`: the description of a record, and its decoder
* `Json.decodeVariant`: one of several named alternatives
-/

namespace HttpLoad

namespace Json

/-- A reading step for a value of one kind. -/
abbrev Decoder (α : Type) := Bytes → Except Fault (α × Bytes)

/-- How a value is named in a complaint. -/
def found : Json → Found
  | null => .null
  | bool b => .bool b
  | integer i => .integer i
  | real x => .real x
  | text s => .text s
  | list _ => .list
  | object _ => .object

/-- The complaint that something else was expected. Brackets are left where they are; what is no
value at all is reported as such. -/
def wrongKind (expected : String) : Bytes → Fault
  | 0x5b :: rest => .here (.wrongKind .list expected) (0x5b :: rest)
  | 0x7b :: rest => .here (.wrongKind .object expected) (0x7b :: rest)
  | bytes =>
    match readScalar bytes with
    | .error fault => fault
    | .ok (value, rest) => .here (.wrongKind value.found expected) rest

/-- A text. -/
def decodeText (expected : String) : Decoder String := fun bytes =>
  match skipBlanks bytes with
  | 0x22 :: rest => readText rest
  | rest => .error (wrongKind expected rest)

/-- The double nearest to an integer. -/
def realOfInt : Int → Double
  | .ofNat n => Double.ofNat n
  | .negSucc n => -Double.ofNat (n + 1)

/-- Whether a number starts with this byte. -/
def startsNumber (b : UInt8) : Bool := b == 0x2d || isDigit b

/-- A number, whole or not, as a double. -/
def decodeReal (expected : String) : Decoder Double := fun bytes =>
  match skipBlanks bytes with
  | [] => .error (.atNext .endInValue [])
  | b :: rest =>
    if startsNumber b then
      match readScalar (b :: rest) with
      | .error fault => .error fault
      | .ok (real x, rest) => .ok (x, rest)
      | .ok (integer i, rest) => .ok (realOfInt i, rest)
      | .ok (value, rest) => .error (.here (.wrongKind value.found expected) rest)
    else .error (wrongKind expected (b :: rest))

/-- Whether an integer fits 64 bits with a sign. -/
def fitsSigned (i : Int) : Bool :=
  decide (-0x8000000000000000 ≤ i) && decide (i < 0x8000000000000000)

/-- A whole number that fits 64 bits with a sign. -/
def decodeInteger (expected : String) : Decoder Int := fun bytes =>
  match skipBlanks bytes with
  | [] => .error (.atNext .endInValue [])
  | b :: rest =>
    if startsNumber b then
      match readScalar (b :: rest) with
      | .error fault => .error fault
      | .ok (integer i, rest) =>
        if fitsSigned i then .ok (i, rest)
        else .error (.here (.wrongKind (.integer i) expected) rest)
      | .ok (value, rest) => .error (.here (.wrongKind value.found expected) rest)
    else .error (wrongKind expected (b :: rest))

/-- What `decode` reads, or nothing in place of `null`. -/
def decodeOptional (decode : Decoder α) : Decoder (Option α) := fun bytes =>
  match skipBlanks bytes with
  | 0x6e :: rest => do
    let rest ← readWord (Bytes.ofString "ull") rest
    return (none, rest)
  | rest => do
    let (a, rest) ← decode rest
    return (some a, rest)

/-- The items of a list from the next one on; `read` holds the items so far, last first. -/
def decodeItems (item : Decoder α) : Nat → List α → Decoder (List α)
  | 0, _, bytes => .error (.here .endInList bytes)
  | fuel + 1, read, bytes =>
    match item bytes with
    | .error fault => .error fault
    | .ok (a, rest) =>
      match betweenItems rest with
      | .error fault => .error fault
      | .ok (.inr rest) => .ok ((a :: read).reverse, rest)
      | .ok (.inl rest) => decodeItems item fuel (a :: read) rest

/-- A list of values of one kind. -/
def decodeList (item : Decoder α) (expected : String) : Decoder (List α) := fun bytes =>
  match skipBlanks bytes with
  | 0x5b :: rest =>
    match firstItem rest with
    | .error fault => .error fault
    | .ok (.inr rest) => .ok ([], rest)
    | .ok (.inl rest) => decodeItems item (rest.length + 1) [] rest
  | rest => .error (wrongKind expected rest)

/-- **A field of a record** that is read into a state `σ`. -/
structure Field (σ : Type) where
  name : String
  /-- Whether the state already holds the field. -/
  given : σ → Bool
  /-- The reading step of the field. -/
  read : σ → Decoder σ
  /-- Whether the field may be left out. -/
  optional : Bool := false

/-- **A record** `α`, read field by field into a state `σ`. -/
structure Record (σ α : Type) where
  /-- What the record is called in a complaint. -/
  title : String
  fields : List (Field σ)
  start : σ
  /-- The record of a state, or the first field that the state lacks. -/
  finish : σ → Except String α

namespace Record

/-- The bytes behind an object that is closed after a complaint about it: its brace is passed over
if it comes next. -/
def closeObject (bytes : Bytes) : Bytes :=
  match skipBlanks bytes with
  | 0x7d :: rest => rest
  | rest => rest

/-- The record of a state at the end of its object. -/
def ended (r : Record σ α) (state : σ) (rest : Bytes) : Except Fault (α × Bytes) :=
  match r.finish state with
  | .ok a => .ok (a, rest)
  | .error name => .error (.here (.missingField name) rest)

/-- One member behind its key: a known field is read, an unknown one passed over. -/
def readMember (r : Record σ α) (state : σ) (key : String) (rest : Bytes) :
    Except Fault (σ × Bytes) :=
  match r.fields.find? fun field => field.name == key with
  | some field =>
    if field.given state then .error (.here (.duplicateField key) (closeObject rest))
    else do
      let rest ← readColon rest
      field.read state rest
  | none => do
    let rest ← readColon rest
    let rest ← skipValue rest
    return (state, rest)

/-- The members of an object from the next key on. -/
def decodeMembers (r : Record σ α) : Nat → σ → Decoder α
  | 0, _, bytes => .error (.here .endInObject bytes)
  | fuel + 1, state, 0x22 :: rest =>
    match readText rest with
    | .error fault => .error fault
    | .ok (key, rest) =>
      match r.readMember state key rest with
      | .error fault => .error fault
      | .ok (state, rest) =>
        match betweenMembers rest with
        | .error fault => .error fault
        | .ok (.inr rest) => r.ended state rest
        | .ok (.inl rest) => decodeMembers r fuel state rest
  | _ + 1, _, [] => .error (.atNext .endInObject [])
  | _ + 1, _, rest => .error (.atNext .keyNotText rest)

/-- The text "`n` elements" with the record's title. -/
def lengthText (r : Record σ α) : String :=
  let n := r.fields.length
  r.title ++ " with " ++ String.ofList (decimalDigits n)
    ++ (if n = 1 then " element" else " elements")

/-- The end of a list whose fields have all been read. -/
def closeList (bytes : Bytes) : Except Fault Bytes :=
  match skipBlanks bytes with
  | 0x5d :: rest => .ok rest
  | 0x2c :: rest =>
    match skipBlanks rest with
    | 0x5d :: rest => .error (.atNext .trailingComma (0x5d :: rest))
    | rest => .error (.atNext .trailingCharacters rest)
  | [] => .error (.atNext .endInList [])
  | rest => .error (.atNext .trailingCharacters rest)

/-- The remaining fields of a list that has come to its end after `count` of them: the first that
may not be left out is complained about. -/
def endedEarly (r : Record σ α) (count : Nat) (fields : List (Field σ)) (state : σ)
    (rest : Bytes) : Except Fault (α × Bytes) :=
  match fields.takeWhile fun field => field.optional with
  | left =>
    if left.length = fields.length then r.ended state rest
    else .error (.here (.wrongLength (count + left.length) r.lengthText) rest)

/-- The items of a list as the remaining fields; `count` fields have been read. -/
def decodeFields (r : Record σ α) : Nat → List (Field σ) → σ → Decoder α
  | _, [], state, bytes =>
    match closeList bytes with
    | .error fault => .error fault
    | .ok rest => r.ended state rest
  | count, field :: fields, state, bytes =>
    match (if count = 0 then firstItem bytes else betweenItems bytes) with
    | .error fault => .error fault
    | .ok (.inr rest) => r.endedEarly count (field :: fields) state rest
    | .ok (.inl rest) =>
      match field.read state rest with
      | .error fault => .error fault
      | .ok (state, rest) => decodeFields r (count + 1) fields state rest

/-- **A record**, from an object or from a list. -/
def decode (r : Record σ α) : Decoder α := fun bytes =>
  match skipBlanks bytes with
  | 0x5b :: rest => r.decodeFields 0 r.fields r.start rest
  | 0x7b :: rest =>
    match firstMember rest with
    | .error fault => .error fault
    | .ok (.inr rest) => r.ended r.start rest
    | .ok (.inl rest) => r.decodeMembers (rest.length + 1) r.start rest
  | rest => .error (wrongKind r.title rest)

end Record

/-- An alternative with a name and a content. -/
structure Variant (α : Type) where
  name : String
  /-- What a content is called where none stands. -/
  form : String
  content : Decoder α

/-- The only key of an object around an alternative starts at a text; a brace is reported as the
value that is missing. -/
def firstKey (bytes : Bytes) : Except Fault Bytes :=
  match skipBlanks bytes with
  | [] => .error (.atNext .endInObject [])
  | 0x22 :: rest => .ok (0x22 :: rest)
  | 0x7d :: rest => .error (.atNext .valueExpected (0x7d :: rest))
  | rest => .error (.atNext .keyNotText rest)

/-- The alternative that a text at this place names. -/
def decodeVariantName (variants : List (Variant α)) : Decoder (Variant α) := fun bytes => do
  let (name, rest) ← decodeText "variant identifier" bytes
  match variants.find? fun v => v.name == name with
  | some v => return (v, rest)
  | none => throw (.here (.unknownVariant name (variants.map (·.name))) rest)

/-- The end of the object around an alternative. -/
def closeVariant (bytes : Bytes) : Except Fault Bytes :=
  match skipBlanks bytes with
  | 0x7d :: rest => .ok rest
  | [] => .error (.here .endInObject [])
  | rest => .error (.here .valueExpected rest)

/-- **One of several alternatives**: an object with the name as its only key. A name alone is
refused, as every alternative has a content. -/
def decodeVariant (variants : List (Variant α)) : Decoder α := fun bytes =>
  match skipBlanks bytes with
  | 0x7b :: rest => do
    let rest ← firstKey rest
    let (v, rest) ← decodeVariantName variants rest
    let rest ← readColon rest
    let (a, rest) ← v.content rest
    let rest ← closeVariant rest
    return (a, rest)
  | 0x22 :: rest => do
    let (v, _) ← decodeVariantName variants (0x22 :: rest)
    throw ⟨.wrongKind .loneVariant v.form, none⟩
  | [] => throw (.atNext .endInValue [])
  | rest => throw (.atNext .valueExpected rest)

/-- A whole text as one value of a kind. -/
def decodeAll (decode : Decoder α) (bytes : Bytes) : Except Fault α := do
  let (a, rest) ← decode bytes
  readEnd rest
  return a

end Json

end HttpLoad
