import HttpLoad.Json.Basic

/-!
# The tokens of JSON

Words, numbers and texts are read from the bytes of a text. Each reading step takes the bytes that
are left and hands back what it read and the bytes left then.

Numbers that are not whole are not rounded correctly. Their digits are gathered into a 64-bit
significand until one more would overflow it; of the digits left out, those before the point raise
the exponent and those behind it are dropped. The significand, as a double, is then multiplied or
divided by one power of ten.

## Main definitions

* `Json.skipBlanks`: the bytes from the next token on
* `Json.readNumber`: a number, with its sign already read
* `Json.readChars`: the rest of a text behind its opening quote, as bytes
* `Json.skipNumber`, `Json.skipChars`: the same without looking at the content
-/

namespace HttpLoad

namespace Json

def isBlank (b : UInt8) : Bool := b == 0x20 || b == 0x0a || b == 0x09 || b == 0x0d

def skipBlanks (bytes : Bytes) : Bytes := bytes.dropWhile isBlank

def isDigit (b : UInt8) : Bool := 0x30 ≤ b && b ≤ 0x39

def digitOf (b : UInt8) : Nat := b.toNat - 0x30

/-- The rest of a word, byte by byte. -/
def readWord : Bytes → Bytes → Except Fault (Bytes)
  | [], rest => .ok rest
  | _ :: _, [] => .error (.here .endInValue [])
  | w :: ws, b :: rest => if b = w then readWord ws rest else .error (.here .wordExpected rest)

/-- The greatest significand. -/
def significandMax : Nat := Nat.pow 2 64 - 1

/-- Digits gathered into a significand while it fits, and the digits left out. -/
def gather : Nat → Bytes → Nat × Bytes
  | significand, [] => (significand, [])
  | significand, d :: ds =>
    let more := 10 * significand + digitOf d
    if significandMax < more then (significand, d :: ds) else gather more ds

/-- The double nearest to a power of ten. -/
def tenTo (n : Nat) : Double := Double.ofDecimal false 1 n

/-- The greatest power of ten that is divided or multiplied by at once. -/
def maxPower : Nat := 308

/-- Division by `10 ^ (308 * blocks + rest)`, a block at a time, as far as anything is left. -/
def divideByPower (f : Double) : Nat → Nat → Double
  | 0, rest => f / tenTo rest
  | blocks + 1, rest =>
    if f.isZero then f else divideByPower (f / tenTo maxPower) blocks rest

/-- A significand scaled by a power of ten; nothing if it is out of range. -/
def scaled? (significand : Nat) (exponent : Int) : Option Double :=
  let f := Double.ofNat significand
  if exponent < 0 then
    let n := exponent.natAbs
    some (divideByPower f ((n - 1) / maxPower) ((n - 1) % maxPower + 1))
  else if exponent.toNat ≤ maxPower then
    let product := f * tenTo exponent.toNat
    if product.isInfinite then none else some product
  else if f.isZero then some f
  else none

def signed (negative : Bool) (x : Double) : Double := if negative then -x else x

/-- The scaled significand with its sign, or the fault that it is out of range. -/
def scaledNumber (negative : Bool) (significand : Nat) (exponent : Int) (rest : Bytes) :
    Except Fault (Json × Bytes) :=
  match scaled? significand exponent with
  | some x => .ok (real (signed negative x), rest)
  | none => .error (.here .numberOutOfRange rest)

/-- The greatest exponent that is kept; a text with a greater one is zero or out of range. -/
def exponentMax : Nat := Nat.pow 2 31 - 1

/-- The digits of an exponent. When they exceed the greatest one, the bytes behind the digit that
did it are handed back on the right. -/
def readExponentDigits : Nat → Bytes → Except (Bytes) Nat × Bytes
  | n, [] => (.ok n, [])
  | n, b :: rest =>
    if isDigit b then
      let more := 10 * n + digitOf b
      if exponentMax < more then (.error rest, rest.dropWhile isDigit)
      else readExponentDigits more rest
    else (.ok n, b :: rest)

/-- An exponent kept within 32 bits. -/
def clampExponent (e : Int) : Int := max (-0x80000000) (min 0x7fffffff e)

/-- An exponent, behind its mark. -/
def readExponent (negative : Bool) (significand : Nat) (start : Int) (bytes : Bytes) :
    Except Fault (Json × Bytes) :=
  let (down, digits) := match bytes with
    | 0x2b :: rest => (false, rest)
    | 0x2d :: rest => (true, rest)
    | rest => (false, rest)
  match digits with
  | [] => .error (.here .endInValue [])
  | b :: rest =>
    if !isDigit b then .error (.here .badNumber rest)
    else
      match readExponentDigits (digitOf b) rest with
      | (.ok e, rest) =>
        scaledNumber negative significand
          (clampExponent (if down then start - (e : Int) else start + (e : Int))) rest
      | (.error tooFar, rest) =>
        if significand ≠ 0 ∧ !down then .error (.here .numberOutOfRange tooFar)
        else .ok (real (signed negative Double.zero), rest)

/-- What follows the digits of a number: an exponent, or nothing of it. -/
def readScaled (negative : Bool) (significand : Nat) (exponent : Int) :
    Bytes → Except Fault (Json × Bytes)
  | b :: rest =>
    if b = 0x65 ∨ b = 0x45 then readExponent negative significand exponent rest
    else scaledNumber negative significand exponent (b :: rest)
  | [] => scaledNumber negative significand exponent []

/-- The digits behind the point: at least one. -/
def readFraction (negative : Bool) (significand : Nat) (exponent : Int) (bytes : Bytes) :
    Except Fault (Json × Bytes) :=
  let digits := bytes.takeWhile isDigit
  let rest := bytes.dropWhile isDigit
  if digits.isEmpty then
    .error (.atNext (if rest.isEmpty then .endInValue else .badNumber) rest)
  else
    let (significand, left) := gather significand digits
    let gathered := digits.length - left.length
    readScaled negative significand (exponent - (gathered : Int)) rest

/-- A whole number, if it fits 64 bits; negative zero is no whole number. -/
def wholeNumber (negative : Bool) (significand : Nat) : Json :=
  if !negative then integer significand
  else if significand = 0 ∨ Nat.pow 2 63 < significand then real (-Double.ofNat significand)
  else integer (-(significand : Int))

/-- **A number**, its sign already read. -/
def readNumber (negative : Bool) : Bytes → Except Fault (Json × Bytes)
  | [] => .error (.here .endInValue [])
  | b :: rest =>
    if !isDigit b then .error (.here .badNumber rest)
    else if b = 0x30 ∧ rest.head?.any isDigit then .error (.atNext .badNumber rest)
    else
      let digits := b :: rest.takeWhile isDigit
      let rest := rest.dropWhile isDigit
      let (significand, left) := gather 0 digits
      match rest with
      | 0x2e :: fraction => readFraction negative significand left.length fraction
      | _ =>
        if left.isEmpty ∧ !(rest.head?.any fun b => b == 0x65 || b == 0x45) then
          .ok (wholeNumber negative significand, rest)
        else readScaled negative significand left.length rest

/-- The value of a hexadecimal digit. -/
def hexOf (b : UInt8) : Option Nat :=
  if isDigit b then some (digitOf b)
  else if 0x61 ≤ b && b ≤ 0x66 then some (b.toNat - 0x61 + 10)
  else if 0x41 ≤ b && b ≤ 0x46 then some (b.toNat - 0x41 + 10)
  else none

/-- The value of four hexadecimal digits. -/
def hexQuad (a b c d : UInt8) : Option Nat := do
  let a ← hexOf a
  let b ← hexOf b
  let c ← hexOf c
  let d ← hexOf d
  return 4096 * a + 256 * b + 16 * c + d

def isHighSurrogate (n : Nat) : Bool := 0xD800 ≤ n && n ≤ 0xDBFF

def isLowSurrogate (n : Nat) : Bool := 0xDC00 ≤ n && n ≤ 0xDFFF

/-- The byte that a one-letter escape stands for. -/
def escaped (b : UInt8) : Option UInt8 :=
  if b = 0x22 ∨ b = 0x5c ∨ b = 0x2f then some b
  else if b = 0x62 then some 0x08
  else if b = 0x66 then some 0x0c
  else if b = 0x6e then some 0x0a
  else if b = 0x72 then some 0x0d
  else if b = 0x74 then some 0x09
  else none

/-- The bytes of a code point put before bytes that are kept in reverse. -/
def pushCodePoint (n : Nat) (reversed : Bytes) : Bytes :=
  (String.utf8EncodeChar (Char.ofNat n)).reverse ++ reversed

/-- **The rest of a text** behind its opening quote: its bytes with all escapes resolved. `read`
holds the bytes so far, last first. Code points beyond 16 bits are escaped as a pair. -/
def readChars (read : Bytes) : Bytes → Except Fault (Bytes × Bytes)
  | [] => .error (.here .endInText [])
  | 0x22 :: rest => .ok (read.reverse, rest)
  | 0x5c :: 0x75 :: a :: b :: c :: d :: rest =>
    match hexQuad a b c d with
    | none => .error (.here .badEscape rest)
    | some n =>
      if isLowSurrogate n then .error (.here .loneSurrogate rest)
      else if !isHighSurrogate n then readChars (pushCodePoint n read) rest
      else
        match rest with
        | 0x5c :: 0x75 :: a :: b :: c :: d :: rest =>
          match hexQuad a b c d with
          | none => .error (.here .badEscape rest)
          | some low =>
            if isLowSurrogate low then
              readChars (pushCodePoint (0x10000 + 0x400 * (n - 0xD800) + (low - 0xDC00)) read) rest
            else .error (.here .loneSurrogate rest)
        | 0x5c :: 0x75 :: _ => .error (.here .endInText [])
        | 0x5c :: _ :: rest => .error (.here .surrogateCutShort rest)
        | [0x5c] => .error (.here .endInText [])
        | _ :: rest => .error (.here .surrogateCutShort rest)
        | [] => .error (.here .endInText [])
  | 0x5c :: 0x75 :: _ => .error (.here .endInText [])
  | 0x5c :: e :: rest =>
    match escaped e with
    | some b => readChars (b :: read) rest
    | none => .error (.here .badEscape rest)
  | [0x5c] => .error (.here .endInText [])
  | b :: rest =>
    if b < 0x20 then .error (.here .controlCharacter rest) else readChars (b :: read) rest

/-- The fault of a content that is not UTF-8: it lies in the first byte that cannot be read. -/
def badContent (content rest : Bytes) : Fault :=
  ⟨.badCodePoint, some (rest.length + content.length - content.textLength)⟩

/-- **A text** behind its opening quote: its bytes must be UTF-8. -/
def readText (bytes : Bytes) : Except Fault (String × Bytes) := do
  let (content, rest) ← readChars [] bytes
  match content.toString? with
  | some s => return (s, rest)
  | none => throw (badContent content rest)

/-- A text that is passed over, behind its opening quote. Its escapes are looked at one by one, and
surrogates and bytes are not checked. -/
def skipChars : Bytes → Except Fault (Bytes)
  | [] => .error (.here .endInText [])
  | 0x22 :: rest => .ok rest
  | 0x5c :: 0x75 :: a :: b :: c :: d :: rest =>
    match hexQuad a b c d with
    | none => .error (.here .badEscape rest)
    | some _ => skipChars rest
  | 0x5c :: 0x75 :: _ => .error (.here .endInText [])
  | 0x5c :: e :: rest =>
    match escaped e with
    | some _ => skipChars rest
    | none => .error (.here .badEscape rest)
  | [0x5c] => .error (.here .endInText [])
  | b :: rest =>
    if b < 0x20 then .error (.here .controlCharacter (b :: rest)) else skipChars rest

/-- The exponent of a number that is passed over, behind its mark. -/
def skipExponent (bytes : Bytes) : Except Fault (Bytes) :=
  let digits := match bytes with
    | b :: rest => if b = 0x2b ∨ b = 0x2d then rest else b :: rest
    | [] => []
  match digits with
  | [] => .error (.here .badNumber [])
  | b :: rest => if isDigit b then .ok (rest.dropWhile isDigit) else .error (.here .badNumber rest)

/-- What may follow the digits of a number that is passed over. -/
def skipScaled : Bytes → Except Fault (Bytes)
  | b :: rest => if b = 0x65 ∨ b = 0x45 then skipExponent rest else .ok (b :: rest)
  | [] => .ok []

/-- A number that is passed over, its sign already read. Its size is not looked at. -/
def skipNumber : Bytes → Except Fault (Bytes)
  | [] => .error (.here .badNumber [])
  | b :: rest =>
    if !isDigit b then .error (.here .badNumber rest)
    else if b = 0x30 ∧ rest.head?.any isDigit then .error (.atNext .badNumber rest)
    else
      match rest.dropWhile isDigit with
      | 0x2e :: fraction =>
        if fraction.head?.any isDigit then skipScaled (fraction.dropWhile isDigit)
        else .error (.atNext .badNumber fraction)
      | rest => skipScaled rest

end Json

end HttpLoad
