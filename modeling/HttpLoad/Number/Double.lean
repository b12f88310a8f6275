/-!
# Doubles

A double is a sign and a magnitude: the 63 lower bits of the binary64 interchange format, read as
one number. Magnitudes are ordered as the values they stand for, and every finite value is a whole
number of units of `2 ^ -1074`, so all arithmetic is exact arithmetic on naturals followed by one
rounding.

## Main definitions

* `Double`: a sign and a magnitude; `Double.toBits` gives the 64 bits
* `Double.unitsOf`: the value of a magnitude, in units of `2 ^ -1074`
* `Double.nearest`: the magnitude nearest to a quotient of units, a tie going to the even one
* addition, subtraction, multiplication, division, square root: the exact result, rounded once
* `Double.floor`, `Double.ceil`, `Double.roundHalfAway`, `Double.truncate`: whole numbers from
  doubles
* `Double.atMost`, `Double.sameValue`: the comparisons, false on every NaN
* `Double.totalKey`: the position in the total order that also tells zeros and NaNs apart
-/

namespace HttpLoad

/-- **A double**: its sign, and the 63 bits of exponent and fraction as one number. -/
structure Double where
  negative : Bool
  magnitude : Nat
  magnitude_lt : magnitude < Nat.pow 2 63
deriving DecidableEq

/-- The quotient rounded to the nearest whole number, a tie going to the even one. -/
def roundHalfEven (num den : Nat) : Nat :=
  let q := num / den
  let r := num % den
  if 2 * r < den ∨ (2 * r = den ∧ q % 2 = 0) then q else q + 1

/-- The quotient rounded to the nearest whole number, a tie going up. -/
def roundHalfUp (num den : Nat) : Nat :=
  (2 * num + den) / (2 * den)

namespace Double

/-- The magnitude of the infinities. Every larger magnitude is a NaN. -/
def infinityMagnitude : Nat := 0x7FF * Nat.pow 2 52

/-- The number of units in one. -/
def one : Nat := Nat.pow 2 1074

/-- The value of a finite magnitude, in units of `2 ^ -1074`. -/
def unitsOf (m : Nat) : Nat :=
  if m < Nat.pow 2 53 then m
  else (Nat.pow 2 52 + m % Nat.pow 2 52) * Nat.pow 2 (m / Nat.pow 2 52 - 1)

/-- **Rounding**: the magnitude whose value is nearest to `num / den` units, a tie going to the even
magnitude, and infinity from half a step beyond the largest finite value on. -/
def nearest (num den : Nat) : Nat :=
  let shift := (num / den).log2 - 52
  min infinityMagnitude (shift * Nat.pow 2 52 + roundHalfEven num (den * Nat.pow 2 shift))

theorem nearest_le (num den : Nat) : nearest num den ≤ infinityMagnitude :=
  Nat.min_le_left _ _

/-- The double nearest to `num / den` units, with the given sign. -/
def ofRatio (negative : Bool) (num den : Nat) : Double :=
  ⟨negative, nearest num den, Nat.lt_of_le_of_lt (nearest_le num den) (by decide)⟩

def zero : Double := ⟨false, 0, by decide⟩

def negativeZero : Double := ⟨true, 0, by decide⟩

def infinity (negative : Bool) : Double := ⟨negative, infinityMagnitude, by decide⟩

/-- The NaN that arithmetic produces: quiet, without payload. -/
def nan : Double := ⟨false, 0x7FF8 * Nat.pow 2 48, by decide⟩

instance : Inhabited Double := ⟨zero⟩

def toBits (x : Double) : UInt64 :=
  UInt64.ofNat (if x.negative then Nat.pow 2 63 + x.magnitude else x.magnitude)

def isNaN (x : Double) : Bool := decide (infinityMagnitude < x.magnitude)

def isInfinite (x : Double) : Bool := decide (x.magnitude = infinityMagnitude)

def isFinite (x : Double) : Bool := decide (x.magnitude < infinityMagnitude)

def isZero (x : Double) : Bool := decide (x.magnitude = 0)

/-- The value of a finite double, in units of `2 ^ -1074`, without its sign. -/
def units (x : Double) : Nat := unitsOf x.magnitude

/-- The value of a finite double, in units of `2 ^ -1074`. -/
def signedUnits (x : Double) : Int :=
  if x.negative then -(x.units : Int) else x.units

/-- The double nearest to a natural number. -/
def ofNat (n : Nat) : Double := ofRatio false (n * one) 1

/-- The double nearest to `digits * 10 ^ exponent`. Exponents far outside the range are answered
without computing the power. -/
def ofDecimal (negative : Bool) (digits : Nat) (exponent : Int) : Double :=
  if digits = 0 then ⟨negative, 0, by decide⟩
  else if 310 < exponent then infinity negative
  else if exponent < -(335 + (digits.log2 / 3 : Nat) : Int) then ⟨negative, 0, by decide⟩
  else if 0 ≤ exponent then ofRatio negative (digits * Nat.pow 10 exponent.toNat * one) 1
  else ofRatio negative (digits * one) (Nat.pow 10 (-exponent).toNat)

protected def neg (x : Double) : Double := { x with negative := !x.negative }

instance : Neg Double := ⟨Double.neg⟩

/-- The sum. A sum of zero is positive unless both terms are negative. -/
protected def add (x y : Double) : Double :=
  if x.isNaN || y.isNaN then nan
  else if x.isInfinite then (if y.isInfinite && x.negative != y.negative then nan else x)
  else if y.isInfinite then y
  else
    let sum := x.signedUnits + y.signedUnits
    if sum = 0 then ⟨x.negative && y.negative, 0, by decide⟩
    else ofRatio (decide (sum < 0)) sum.natAbs 1

instance : Add Double := ⟨Double.add⟩

instance : Sub Double := ⟨fun x y => x + -y⟩

protected def mul (x y : Double) : Double :=
  let negative := x.negative != y.negative
  if x.isNaN || y.isNaN then nan
  else if x.isInfinite || y.isInfinite then
    (if x.isZero || y.isZero then nan else infinity negative)
  else ofRatio negative (x.units * y.units) one

instance : Mul Double := ⟨Double.mul⟩

protected def div (x y : Double) : Double :=
  let negative := x.negative != y.negative
  if x.isNaN || y.isNaN then nan
  else if x.isInfinite then (if y.isInfinite then nan else infinity negative)
  else if y.isInfinite then ⟨negative, 0, by decide⟩
  else if y.isZero then (if x.isZero then nan else infinity negative)
  else ofRatio negative (x.units * one) y.units

instance : Div Double := ⟨Double.div⟩

/-- The square root. The whole root of the scaled value has far more binary places than a double,
so one further half unit records whether anything was cut off. -/
def sqrt (x : Double) : Double :=
  if x.isNaN then nan
  else if x.isZero then x
  else if x.negative then nan
  else if x.isInfinite then x
  else
    let square := x.units * one
    let root := square.sqrt
    ofRatio false (2 * root + (if root * root = square then 0 else 1)) 2

/-- A finite double with its value made whole by `whole`, which gets the units and the units in
one; the sign stays, and so do NaN and the infinities. -/
def mapWhole (whole : Nat → Nat → Nat) (x : Double) : Double :=
  if x.isFinite then ofRatio x.negative (whole x.units one * one) 1 else x

def floor (x : Double) : Double :=
  x.mapWhole fun u o => if x.negative then (u + (o - 1)) / o else u / o

def ceil (x : Double) : Double :=
  x.mapWhole fun u o => if x.negative then u / o else (u + (o - 1)) / o

/-- The nearest whole number, a half going away from zero. -/
def roundHalfAway (x : Double) : Double :=
  x.mapWhole roundHalfUp

/-- The whole part as a 64-bit count: zero for negative values and NaN, the greatest count for
values beyond it. -/
def truncate (x : Double) : Nat :=
  if x.isNaN || x.negative then 0
  else if x.isInfinite then Nat.pow 2 64 - 1
  else min (Nat.pow 2 64 - 1) (x.units / one)

/-- The place of a number among the numbers; both zeros share one. -/
def place (x : Double) : Int :=
  if x.negative then -(x.magnitude : Int) else x.magnitude

/-- `x ≤ y` as numbers; false if either is a NaN. -/
def atMost (x y : Double) : Bool :=
  !x.isNaN && !y.isNaN && decide (x.place ≤ y.place)

/-- `x < y` as numbers; false if either is a NaN. -/
def below (x y : Double) : Bool :=
  !x.isNaN && !y.isNaN && decide (x.place < y.place)

/-- `x = y` as numbers: both zeros are one number, and no NaN equals anything. -/
def sameValue (x y : Double) : Bool :=
  !x.isNaN && !y.isNaN && decide (x.place = y.place)

/-- The position in the total order of bit patterns: negative NaNs, the negative numbers with
negative zero last, positive zero, the positive numbers, positive NaNs. -/
def totalKey (x : Double) : Int :=
  if x.negative then -(x.magnitude : Int) - 1 else x.magnitude

/-- Whether `x` stands no later than `y` in the total order. -/
def totalLe (x y : Double) : Bool := decide (x.totalKey ≤ y.totalKey)

theorem eq_of_totalKey_eq {x y : Double} (h : x.totalKey = y.totalKey) : x = y := by
  obtain ⟨sx, mx, _⟩ := x
  obtain ⟨sy, my, _⟩ := y
  cases sx <;> cases sy <;> simp only [totalKey, mk.injEq] at h ⊢ <;> simp at h ⊢ <;> omega

/-- The sum from left to right, started at negative zero, the neutral element of addition. -/
def sum (xs : List Double) : Double := xs.foldl (· + ·) negativeZero

end Double

end HttpLoad
