import HttpLoad.Number.Text
import HttpLoad.Text.Basic

/-!
# JSON values, their text, and what can be wrong with a text

A value is a tree. The members of an object are a list of pairs, written in the order of the list:
a report lists its fields in a fixed order, a payload lists its keys sorted (`Json.putMember`).

## Main definitions

* `Json`: a value
* `Json.putMember`: a member put in its place among sorted members
* `Json.compact`, `Json.pretty`: the text of a value, without and with layout
* `Json.Cause`, `Json.Cause.message`: what is wrong, and its wording
* `Json.Fault`, `Json.Fault.message`: a cause with its place in a text
-/

namespace HttpLoad

/-! ## Values -/

/-- **A JSON value.** Whole numbers and doubles are told apart. -/
inductive Json where
  | null
  | bool (b : Bool)
  | integer (i : Int)
  | real (x : Double)
  | text (s : String)
  | list (items : List Json)
  | object (members : List (String × Json))

namespace Json

/-- A natural number. -/
def count (n : Nat) : Json := integer n

/-- A value that may be absent. -/
def ofOption (f : α → Json) : Option α → Json
  | some a => f a
  | none => null

/-- **A member put among sorted members**: a present key takes the new value, a new one goes
before the first greater key. -/
def putMember (key : String) (value : Json) : List (String × Json) → List (String × Json)
  | [] => [(key, value)]
  | (k, v) :: rest =>
    if key = k then (key, value) :: rest
    else if key < k then (key, value) :: (k, v) :: rest
    else (k, v) :: putMember key value rest

/-- A hexadecimal digit, in lower case. -/
def hexDigit (n : Nat) : Char := Nat.digitChar n

/-- One character of a text. Only the quote, the backslash and the controls below the space are
escaped. -/
def escapeChar (c : Char) : List Char :=
  if c = '"' then ['\\', '"']
  else if c = '\\' then ['\\', '\\']
  else if c = '\n' then ['\\', 'n']
  else if c = '\r' then ['\\', 'r']
  else if c = '\t' then ['\\', 't']
  else if c = '\x08' then ['\\', 'b']
  else if c = '\x0c' then ['\\', 'f']
  else if c.toNat < 0x20 then
    ['\\', 'u', '0', '0', hexDigit (c.toNat / 16), hexDigit (c.toNat % 16)]
  else [c]

def quotedChars (s : String) : List Char := '"' :: s.toList.flatMap escapeChar ++ ['"']

/-- The text of a double. NaN and the infinities have none and are written as `null`. -/
def realChars (x : Double) : List Char :=
  if x.isFinite then x.text else "null".toList

/-- The text of a value that holds no other. -/
def scalarChars : Json → List Char
  | bool true => "true".toList
  | bool false => "false".toList
  | integer i => integerText i
  | real x => realChars x
  | text s => quotedChars s
  | _ => "null".toList

mutual

/-- The compact text of a value, before `rest`. -/
def compactThen : Json → List Char → List Char
  | list items, rest => '[' :: compactItems true items (']' :: rest)
  | object members, rest => '\x7b' :: compactMembers true members ('\x7d' :: rest)
  | v, rest => scalarChars v ++ rest

def compactItems : Bool → List Json → List Char → List Char
  | _, [], rest => rest
  | first, v :: vs, rest =>
    let tail := compactThen v (compactItems false vs rest)
    if first then tail else ',' :: tail

def compactMembers : Bool → List (String × Json) → List Char → List Char
  | _, [], rest => rest
  | first, (k, v) :: ms, rest =>
    let tail := quotedChars k ++ ':' :: compactThen v (compactMembers false ms rest)
    if first then tail else ',' :: tail

end

/-- **The compact text of a value.** -/
def compact (v : Json) : String := String.ofList (compactThen v [])

/-- A line break and the blanks at the start of the next line. -/
def newLine (depth : Nat) : List Char := '\n' :: List.replicate (2 * depth) ' '

mutual

/-- The text of a value laid out at a depth, before `rest`. -/
def prettyThen (depth : Nat) : Json → List Char → List Char
  | list [], rest => '[' :: ']' :: rest
  | list (v :: vs), rest =>
    '[' :: (newLine (depth + 1) ++ prettyThen (depth + 1) v
      (prettyItems (depth + 1) vs (newLine depth ++ ']' :: rest)))
  | object [], rest => '\x7b' :: '\x7d' :: rest
  | object ((k, v) :: ms), rest =>
    '\x7b' :: (newLine (depth + 1) ++ quotedChars k ++ ':' :: ' ' :: prettyThen (depth + 1) v
      (prettyMembers (depth + 1) ms (newLine depth ++ '\x7d' :: rest)))
  | v, rest => scalarChars v ++ rest

/-- Further items of a list, each after a comma and on a line of its own. -/
def prettyItems (depth : Nat) : List Json → List Char → List Char
  | [], rest => rest
  | v :: vs, rest => ',' :: (newLine depth ++ prettyThen depth v (prettyItems depth vs rest))

/-- Further members of an object, each after a comma and on a line of its own. -/
def prettyMembers (depth : Nat) : List (String × Json) → List Char → List Char
  | [], rest => rest
  | (k, v) :: ms, rest =>
    ',' :: (newLine depth ++ quotedChars k ++ ':' :: ' ' :: prettyThen depth v
      (prettyMembers depth ms rest))

end

/-- **The text of a value with layout**: two blanks to a level, an item or member to a line, empty
containers without inner layout. -/
def pretty (v : Json) : String := String.ofList (prettyThen 0 v [])

end Json

/-!
## Faults

A fault is a cause and, mostly, the number of bytes that were left when it was found. The position
in the message is worked out from the whole text only when the message is asked for.
-/

namespace Json

/-- What stands where something else was expected. -/
inductive Found where
  | null
  | bool (b : Bool)
  | integer (i : Int)
  | real (x : Double)
  | text (s : String)
  | list
  | object
  | loneVariant

def Found.message : Found → String
  | null => "null"
  | bool true => "boolean `true`"
  | bool false => "boolean `false`"
  | integer i => "integer `" ++ String.ofList (integerText i) ++ "`"
  | real x => "floating point `" ++ String.ofList x.text ++ "`"
  | text s => "string " ++ Quoted.quote s
  | list => "sequence"
  | object => "map"
  | loneVariant => "unit variant"

/-- Why a text is no date. -/
inductive DateFault where
  | outOfRange
  | badCharacter
  | tooShort
  | tooLong
deriving DecidableEq, Repr

def DateFault.message : DateFault → String
  | outOfRange => "input is out of range"
  | badCharacter => "input contains invalid characters"
  | tooShort => "premature end of input"
  | tooLong => "trailing input"

/-- **What is wrong with a JSON text**: its grammar, or its fit to what it should describe. -/
inductive Cause where
  | endInList
  | endInObject
  | endInText
  | endInValue
  | colonExpected
  | commaOrBracketExpected
  | commaOrBraceExpected
  | wordExpected
  | valueExpected
  | badEscape
  | badNumber
  | numberOutOfRange
  | badCodePoint
  | controlCharacter
  | keyNotText
  | loneSurrogate
  | trailingComma
  | trailingCharacters
  | surrogateCutShort
  | tooDeep
  | wrongKind (found : Found) (expected : String)
  | missingField (name : String)
  | duplicateField (name : String)
  | wrongLength (length : Nat) (expected : String)
  | unknownVariant (name : String) (known : List String)
  | notADate (why : DateFault)

/-- Names in backticks, separated by commas. -/
def backticked (names : List String) : String :=
  String.intercalate ", " (names.map fun n => "`" ++ n ++ "`")

def Cause.message : Cause → String
  | endInList => "EOF while parsing a list"
  | endInObject => "EOF while parsing an object"
  | endInText => "EOF while parsing a string"
  | endInValue => "EOF while parsing a value"
  | colonExpected => "expected `:`"
  | commaOrBracketExpected => "expected `,` or `]`"
  | commaOrBraceExpected => "expected `,` or `\x7d`"
  | wordExpected => "expected ident"
  | valueExpected => "expected value"
  | badEscape => "invalid escape"
  | badNumber => "invalid number"
  | numberOutOfRange => "number out of range"
  | badCodePoint => "invalid unicode code point"
  | controlCharacter => "control character (\\u0000-\\u001F) found while parsing a string"
  | keyNotText => "key must be a string"
  | loneSurrogate => "lone leading surrogate in hex escape"
  | trailingComma => "trailing comma"
  | trailingCharacters => "trailing characters"
  | surrogateCutShort => "unexpected end of hex escape"
  | tooDeep => "recursion limit exceeded"
  | wrongKind found expected => "invalid type: " ++ found.message ++ ", expected " ++ expected
  | missingField name => "missing field `" ++ name ++ "`"
  | duplicateField name => "duplicate field `" ++ name ++ "`"
  | wrongLength length expected =>
    "invalid length " ++ String.ofList (decimalDigits length) ++ ", expected " ++ expected
  | unknownVariant name known =>
    "unknown variant `" ++ name ++ "`, expected one of " ++ backticked known
  | notADate why => why.message

/-- **A fault**: a cause, and the number of bytes left where it was found, if it has a place. -/
structure Fault where
  cause : Cause
  left : Option Nat

/-- A fault found with these bytes still to be read. -/
def Fault.here (cause : Cause) (rest : Bytes) : Fault := ⟨cause, some rest.length⟩

/-- A fault in the next byte: it is counted in, if there is one. -/
def Fault.atNext (cause : Cause) (rest : Bytes) : Fault := ⟨cause, some (rest.length - 1)⟩

/-- Line and column behind the first `offset` bytes of a text. Lines count from one, columns are
the bytes since the last line break. -/
def position (text : Bytes) (offset : Nat) : Nat × Nat :=
  (text.take offset).foldl (fun (line, column) (b : UInt8) =>
    if b = 0x0a then (line + 1, 0) else (line, column + 1)) (1, 0)

/-- The wording of a fault in a text. -/
def Fault.message (fault : Fault) (text : Bytes) : String :=
  match fault.left with
  | none => fault.cause.message
  | some left =>
    let (line, column) := position text (text.length - left)
    fault.cause.message ++ " at line " ++ String.ofList (decimalDigits line)
      ++ " column " ++ String.ofList (decimalDigits column)

end Json

end HttpLoad
