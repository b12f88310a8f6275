import HttpLoad.Json.Token

/-!
# Reading values

A JSON text is read into a value, or passed over without one. Both ways run on fuel that the length
of the text bounds; the public functions supply it.

Reading is strict: values nest at most 127 deep, texts are UTF-8, numbers are in range. Of several
members with one key the last one stays. Passing over is lenient: it keeps the open brackets on a
list of its own, so that depth has no limit, and looks neither at the bytes of texts nor at the
size of numbers.

## Main definitions

* `Json.readValue`: a value at the start of the bytes
* `Json.parse`: a whole text as one value
* `Json.skipValue`: the bytes behind a value that is passed over
-/

namespace HttpLoad

namespace Json

/-- How deep values nest. -/
def depthMax : Nat := 127

/-- The bytes behind the colon after a key. -/
def readColon (bytes : Bytes) : Except Fault Bytes :=
  match skipBlanks bytes with
  | 0x3a :: rest => .ok rest
  | [] => .error (.atNext .endInObject [])
  | rest => .error (.atNext .colonExpected rest)

/-- A key and its colon. -/
def readKey : Bytes → Except Fault (String × Bytes)
  | 0x22 :: rest => do
    let (key, rest) ← readText rest
    let rest ← readColon rest
    return (key, rest)
  | [] => throw (.atNext .endInObject [])
  | rest => throw (.atNext .keyNotText rest)

/-- The remaining bytes of a word whose first byte is known, and the value it stands for. -/
def readName (name : String) (value : Json) (rest : Bytes) : Except Fault (Json × Bytes) := do
  let rest ← readWord (Bytes.ofString name) rest
  return (value, rest)

/-- A value that holds no other. -/
def readScalar : Bytes → Except Fault (Json × Bytes)
  | [] => throw (.atNext .endInValue [])
  | b :: rest =>
    if b = 0x6e then readName "ull" null rest
    else if b = 0x74 then readName "rue" (bool true) rest
    else if b = 0x66 then readName "alse" (bool false) rest
    else if b = 0x2d then readNumber true rest
    else if isDigit b then readNumber false (b :: rest)
    else if b = 0x22 then do
      let (s, rest) ← readText rest
      return (text s, rest)
    else throw (.atNext .valueExpected (b :: rest))

/-- What stands between two items of a list: the bytes of the next item, or the end of the list and
the bytes behind it on the right. -/
def betweenItems (bytes : Bytes) : Except Fault (Bytes ⊕ Bytes) :=
  match skipBlanks bytes with
  | 0x2c :: rest =>
    match skipBlanks rest with
    | 0x5d :: rest => .error (.atNext .trailingComma (0x5d :: rest))
    | [] => .error (.atNext .endInValue [])
    | rest => .ok (.inl rest)
  | 0x5d :: rest => .ok (.inr rest)
  | [] => .error (.atNext .endInList [])
  | rest => .error (.atNext .commaOrBracketExpected rest)

/-- What stands between two members of an object: the bytes of the next key, or the end of the
object and the bytes behind it on the right. -/
def betweenMembers (bytes : Bytes) : Except Fault (Bytes ⊕ Bytes) :=
  match skipBlanks bytes with
  | 0x2c :: rest =>
    match skipBlanks rest with
    | 0x7d :: rest => .error (.atNext .trailingComma (0x7d :: rest))
    | [] => .error (.atNext .endInValue [])
    | rest => .ok (.inl rest)
  | 0x7d :: rest => .ok (.inr rest)
  | [] => .error (.atNext .endInObject [])
  | rest => .error (.atNext .commaOrBraceExpected rest)

/-- What stands behind an opening bracket: the bytes of the first item, or the end of the list and
the bytes behind it on the right. -/
def firstItem (bytes : Bytes) : Except Fault (Bytes ⊕ Bytes) :=
  match skipBlanks bytes with
  | 0x5d :: rest => .ok (.inr rest)
  | [] => .error (.atNext .endInList [])
  | rest => .ok (.inl rest)

/-- What stands behind an opening brace: the bytes of the first key, or the end of the object and
the bytes behind it on the right. -/
def firstMember (bytes : Bytes) : Except Fault (Bytes ⊕ Bytes) :=
  match skipBlanks bytes with
  | 0x7d :: rest => .ok (.inr rest)
  | [] => .error (.atNext .endInObject [])
  | rest => .ok (.inl rest)

mutual

/-- A value whose nesting is at most `depth`. -/
def readWithin (fuel depth : Nat) (bytes : Bytes) : Except Fault (Json × Bytes) :=
  match fuel with
  | 0 => .error (.here .endInValue bytes)
  | fuel + 1 =>
    match skipBlanks bytes with
    | 0x5b :: rest =>
      match depth with
      | 0 => .error (.atNext .tooDeep (0x5b :: rest))
      | depth + 1 =>
        match firstItem rest with
        | .error fault => .error fault
        | .ok (.inr rest) => .ok (list [], rest)
        | .ok (.inl rest) => readItems fuel depth [] rest
    | 0x7b :: rest =>
      match depth with
      | 0 => .error (.atNext .tooDeep (0x7b :: rest))
      | depth + 1 =>
        match firstMember rest with
        | .error fault => .error fault
        | .ok (.inr rest) => .ok (object [], rest)
        | .ok (.inl rest) => readMembers fuel depth [] rest
    | rest => readScalar rest

/-- The items of a list from the next one on; `read` holds the items so far, last first. -/
def readItems (fuel depth : Nat) (read : List Json) (bytes : Bytes) :
    Except Fault (Json × Bytes) :=
  match fuel with
  | 0 => .error (.here .endInList bytes)
  | fuel + 1 =>
    match readWithin fuel depth bytes with
    | .error fault => .error fault
    | .ok (item, rest) =>
      match betweenItems rest with
      | .error fault => .error fault
      | .ok (.inr rest) => .ok (list (item :: read).reverse, rest)
      | .ok (.inl rest) => readItems fuel depth (item :: read) rest

/-- The members of an object from the next one on; `read` holds the members so far, sorted. -/
def readMembers (fuel depth : Nat) (read : List (String × Json)) (bytes : Bytes) :
    Except Fault (Json × Bytes) :=
  match fuel with
  | 0 => .error (.here .endInObject bytes)
  | fuel + 1 =>
    match readKey bytes with
    | .error fault => .error fault
    | .ok (key, rest) =>
      match readWithin fuel depth rest with
      | .error fault => .error fault
      | .ok (value, rest) =>
        match betweenMembers rest with
        | .error fault => .error fault
        | .ok (.inr rest) => .ok (object (putMember key value read), rest)
        | .ok (.inl rest) => readMembers fuel depth (putMember key value read) rest

end

/-- **A value** at the start of the bytes. Two steps to a byte are enough. -/
def readValue (bytes : Bytes) : Except Fault (Json × Bytes) :=
  readWithin (2 * bytes.length + 2) depthMax bytes

/-- Only blanks may follow what was read. -/
def readEnd (bytes : Bytes) : Except Fault Unit :=
  match skipBlanks bytes with
  | [] => .ok ()
  | rest => .error (.atNext .trailingCharacters rest)

/-- **A whole text** as one value. -/
def parse (bytes : Bytes) : Except Fault Json := do
  let (value, rest) ← readValue bytes
  readEnd rest
  return value

/-- A bracket that is open while values are passed over. -/
inductive Bracket where
  | list
  | object
deriving DecidableEq, Repr

/-- A key that is passed over, and its colon. -/
def skipKey : Bytes → Except Fault Bytes
  | 0x22 :: rest => do
    let rest ← skipChars rest
    readColon rest
  | [] => throw (.atNext .endInObject [])
  | rest => throw (.atNext .keyNotText rest)

/-- A value that holds no other, passed over. -/
def skipScalar : Bytes → Except Fault Bytes
  | [] => throw (.atNext .endInValue [])
  | b :: rest =>
    if b = 0x6e then readWord (Bytes.ofString "ull") rest
    else if b = 0x74 then readWord (Bytes.ofString "rue") rest
    else if b = 0x66 then readWord (Bytes.ofString "alse") rest
    else if b = 0x2d then skipNumber rest
    else if isDigit b then skipNumber (b :: rest)
    else if b = 0x22 then skipChars rest
    else throw (.atNext .valueExpected (b :: rest))

mutual

/-- One value passed over, then all that its open brackets enclose. -/
def skipOpen (fuel : Nat) (opened : List Bracket) (bytes : Bytes) : Except Fault Bytes :=
  match fuel with
  | 0 => .error (.here .endInValue bytes)
  | fuel + 1 =>
    match skipBlanks bytes with
    | 0x5b :: rest =>
      match firstItem rest with
      | .error fault => .error fault
      | .ok (.inr rest) => skipClose fuel opened rest
      | .ok (.inl rest) => skipOpen fuel (.list :: opened) rest
    | 0x7b :: rest =>
      match firstMember rest with
      | .error fault => .error fault
      | .ok (.inr rest) => skipClose fuel opened rest
      | .ok (.inl rest) =>
        match skipKey rest with
        | .error fault => .error fault
        | .ok rest => skipOpen fuel (.object :: opened) rest
    | rest =>
      match skipScalar rest with
      | .error fault => .error fault
      | .ok rest => skipClose fuel opened rest

/-- What follows a value that was passed over inside open brackets. -/
def skipClose (fuel : Nat) (opened : List Bracket) (bytes : Bytes) : Except Fault Bytes :=
  match fuel, opened with
  | 0, _ => .error (.here .endInValue bytes)
  | _ + 1, [] => .ok bytes
  | fuel + 1, .list :: opened =>
    match skipBlanks bytes with
    | 0x2c :: rest => skipOpen fuel (.list :: opened) rest
    | 0x5d :: rest => skipClose fuel opened rest
    | [] => .error (.atNext .endInList [])
    | rest => .error (.atNext .commaOrBracketExpected rest)
  | fuel + 1, .object :: opened =>
    match skipBlanks bytes with
    | 0x2c :: rest =>
      match skipKey (skipBlanks rest) with
      | .error fault => .error fault
      | .ok rest => skipOpen fuel (.object :: opened) rest
    | 0x7d :: rest => skipClose fuel opened rest
    | [] => .error (.atNext .endInObject [])
    | rest => .error (.atNext .commaOrBraceExpected rest)

end

/-- **A value passed over**: the bytes behind it. One step to a byte is enough. -/
def skipValue (bytes : Bytes) : Except Fault Bytes :=
  skipOpen (bytes.length + 2) [] bytes

end Json

end HttpLoad
