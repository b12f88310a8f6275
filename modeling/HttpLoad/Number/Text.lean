import HttpLoad.Number.Double

/-!
# Numbers as text

How numbers are written in reports and bodies, and how they are read from a command line.

## Main definitions

* `Decimal`: a natural number times a power of ten
* `Decimal.shortest`: the fewest digits that read back
* `Decimal.lead`: the exponent of the first digit
* `Double.text`: the text of a finite double
* `Double.parse?`: a double from text, read with correct rounding
* `parseNat?`, `parseInt?`: whole numbers from text, with an optional sign
-/

namespace HttpLoad

/-!
## The fewest digits that read back

The decimal that stands for a double is the shortest one that is read back as that double, and of
two of that length the nearer. It is searched on the decimal grids from coarse to fine: of each grid
only the two neighbours of the value can be the answer.
-/

/-- `digits * 10 ^ exponent`. -/
structure Decimal where
  digits : Nat
  exponent : Int
deriving DecidableEq, Repr

namespace Decimal

/-- The magnitude that a decimal is read as. -/
def magnitude (d : Decimal) : Nat := (Double.ofDecimal false d.digits d.exponent).magnitude

/-- The number of units in a double's value per step of the grid `10 ^ exponent`, as a quotient. -/
def gridStep (u : Nat) (exponent : Int) : Nat × Nat :=
  if 0 ≤ exponent then (u, Double.one * Nat.pow 10 exponent.toNat)
  else (u * Nat.pow 10 (-exponent).toNat, Double.one)

/-- The exponent `e` with `10 ^ e ≤ value < 10 ^ (e + 1)`, for a positive value of `u` units. The
binary logarithm gives it up to one step. -/
def leadOf (u : Nat) : Int :=
  let guess := Int.fdiv (((u.log2 : Int) - 1074) * 30103) 100000
  let (num, den) := gridStep u (guess + 1)
  if den ≤ num then guess + 1 else guess

/-- Of the two neighbours of the value `u` on the grid, the one that reads back as `m`; of two, the
nearer, and of two equally near the even one. -/
def onGrid (m u : Nat) (exponent : Int) : Option Decimal :=
  let (num, den) := gridStep u exponent
  let lower : Decimal := ⟨num / den, exponent⟩
  let upper : Decimal := ⟨num / den + 1, exponent⟩
  match lower.digits != 0 && lower.magnitude == m, upper.magnitude == m with
  | true, true =>
    match compare (2 * num) ((2 * lower.digits + 1) * den) with
    | .lt => some lower
    | .gt => some upper
    | .eq => some (if lower.digits % 2 = 0 then lower else upper)
  | true, false => some lower
  | false, true => some upper
  | false, false => none

/-- Trailing zeros of the digits moved into the exponent, at most `fuel` of them. -/
def strip : Nat → Decimal → Decimal
  | 0, d => d
  | fuel + 1, d =>
    if d.digits != 0 && d.digits % 10 == 0 then strip fuel ⟨d.digits / 10, d.exponent + 1⟩ else d

/-- The exact value of `u` units. -/
def exact (u : Nat) : Decimal := ⟨u * Nat.pow 5 1074, -1074⟩

/-- **The shortest decimal** that is read back as the finite magnitude `m`. Seventeen digits always
suffice; were none found, the answer is the exact value. -/
def shortest (m : Nat) : Decimal :=
  let u := Double.unitsOf m
  if u = 0 then ⟨0, 0⟩
  else
    let lead := leadOf u
    match (List.range 17).findSome? fun n : Nat => onGrid m u (lead - n) with
    | some d => strip 17 d
    | none => exact u

/-- The exponent of the first digit. -/
def lead (d : Decimal) : Int := d.exponent + ((Nat.toDigits 10 d.digits).length : Int) - 1

end Decimal

/-!
## Doubles and whole numbers

How numbers are written in reports and bodies, and how they are read from a command line.

A double is written with the fewest digits that read back. From `10 ^ -5` up to below `10 ^ 16` the
notation is positional and always holds a point; outside it is scientific, with a signed exponent.
-/

/-- The characters of a natural number in decimal. -/
def decimalDigits (n : Nat) : List Char := Nat.toDigits 10 n

/-- A natural number in decimal, padded with zeros on the left to at least `width` digits. -/
def paddedDecimal (width n : Nat) : List Char :=
  let ds := decimalDigits n
  List.replicate (width - ds.length) '0' ++ ds

/-- The characters of an integer in decimal. -/
def integerText : Int → List Char
  | .ofNat n => decimalDigits n
  | .negSucc n => '-' :: decimalDigits (n + 1)

namespace Decimal

/-- The least exponent of a first digit that is written positionally. -/
def plainFrom : Int := -5

/-- The greatest exponent of a first digit that is written positionally. -/
def plainTo : Int := 15

/-- Positional notation: the point stands after, inside or before the digits. -/
def plainText (d : Decimal) : List Char :=
  let ds := decimalDigits d.digits
  let lead := d.lead
  if 0 ≤ d.exponent then ds ++ List.replicate d.exponent.toNat '0' ++ ['.', '0']
  else if 0 ≤ lead then
    let whole := lead.toNat + 1
    ds.take whole ++ '.' :: ds.drop whole
  else '0' :: '.' :: List.replicate (-lead - 1).toNat '0' ++ ds

/-- Scientific notation: the exponent carries its sign, and the point is left out after a lone
digit. -/
def scientificText (d : Decimal) : List Char :=
  let lead := d.lead
  let mantissa := match decimalDigits d.digits with
    | c :: [] => [c]
    | c :: rest => c :: '.' :: rest
    | [] => []
  mantissa ++ 'e' :: (if lead < 0 then '-' else '+') :: decimalDigits lead.natAbs

def text (d : Decimal) : List Char :=
  if d.digits = 0 then ['0', '.', '0']
  else if plainFrom ≤ d.lead ∧ d.lead ≤ plainTo then d.plainText
  else d.scientificText

end Decimal

/-- **The text of a finite double.** Both zeros keep their sign. -/
def Double.text (x : Double) : List Char :=
  (if x.negative then ['-'] else []) ++ (Decimal.shortest x.magnitude).text

/-- The value of a decimal digit. -/
def digitValue (c : Char) : Nat := c.toNat - '0'.toNat

/-- The number that a run of decimal digits stands for. -/
def digitsValue (cs : List Char) : Nat := cs.foldl (fun n c => 10 * n + digitValue c) 0

/-- A natural number: one digit or more. -/
def parseDigits? (cs : List Char) : Option Nat :=
  if !cs.isEmpty && cs.all Char.isDigit then some (digitsValue cs) else none

/-- A natural number, with an optional plus sign. -/
def parseNat? : List Char → Option Nat
  | '+' :: cs => parseDigits? cs
  | cs => parseDigits? cs

/-- An integer, with an optional sign. -/
def parseInt? : List Char → Option Int
  | '+' :: cs => (parseDigits? cs).map fun n => (n : Int)
  | '-' :: cs => (parseDigits? cs).map fun n => -(n : Int)
  | cs => (parseDigits? cs).map fun n => (n : Int)

/-- The exponent part of a decimal text: nothing, or a mark and an integer. -/
def parseExponent? : List Char → Option Int
  | [] => some 0
  | c :: cs => if c = 'e' ∨ c = 'E' then parseInt? cs else none

/-- A decimal without sign: digits with at most one point among them and at least one digit in all,
then an exponent. -/
def Decimal.parse? (cs : List Char) : Option Decimal :=
  let whole := cs.takeWhile Char.isDigit
  let afterWhole := cs.dropWhile Char.isDigit
  let (fraction, rest) := match afterWhole with
    | '.' :: r => (r.takeWhile Char.isDigit, r.dropWhile Char.isDigit)
    | r => ([], r)
  if whole.isEmpty && fraction.isEmpty then none
  else (parseExponent? rest).map fun e =>
    ⟨digitsValue (whole ++ fraction), e - (fraction.length : Int)⟩

/-- A double without sign: a name in any case, or a decimal. -/
def Double.parseUnsigned? (negative : Bool) (cs : List Char) : Option Double :=
  let name := cs.map Char.toLower
  if name = "inf".toList ∨ name = "infinity".toList then some (Double.infinity negative)
  else if name = "nan".toList then some (if negative then -Double.nan else Double.nan)
  else (Decimal.parse? cs).map fun d => Double.ofDecimal negative d.digits d.exponent

/-- **A double from text**: an optional sign, then infinity or NaN by name, or a decimal that is
rounded once. -/
def Double.parse? : List Char → Option Double
  | '+' :: cs => Double.parseUnsigned? false cs
  | '-' :: cs => Double.parseUnsigned? true cs
  | cs => Double.parseUnsigned? false cs

end HttpLoad
