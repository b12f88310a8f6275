import HttpLoad.Json.Decoder
import HttpLoad.Proofs.Json.Numeral
import HttpLoad.Proofs.Number.Decimal

/-!
# What numerals are read as

The reader makes a whole number of a plain numeral that fits 64 bits, and a finite double of any
other one that is in range. That double is the nearest one where all the digits fit the significand,
the significand is a double and the power of ten is one as well. Elsewhere it may be another one:
the reader rounds the significand, the power and the result each on its own.

## Main definitions

* `Numeral.double`: the double that the reader makes of a numeral
* `Numeral.ReadsNearest`: the reader makes the nearest double of a numeral
* `Numeral.Short`: the numerals for which it is known to do so
* `Numeral.exact`: the number that a numeral stands for, as a correctly rounding reader has it

## Main results

* `Json.isFinite_of_scaled?`: a scaled significand is finite
* `Json.scaled?_representable`: one that is a double, scaled by at most 22 places, is read correctly
* `Json.scaled?_zero`: zero stays zero
* `Numeral.isNumber_of_read?`: what is read is a whole number in range or a finite double
* `Numeral.Short.readsNearest`: short numerals are read as the nearest double
-/

namespace HttpLoad

/-!
## Scaled significands

A number that is not whole is a significand times a power of ten, in double arithmetic. Where the
significand is a double and the power is one as well, this rounds once, so that the result is the
nearest double. Whatever the reader answers with is finite.
-/

namespace Json

open Double

/-! ### Powers of ten -/

@[simp] theorem negative_ofNat (n : Nat) : (Double.ofNat n).negative = false := rfl

theorem tenTo_eq_ofNat (n : Nat) : tenTo n = Double.ofNat (10 ^ n) := by
  have h := nearestTo_ofDecimal false 1 n
  have hvalue : decimalValue 1 n = ((10 ^ n * one : Nat) : ℚ) := by
    rw [decimalValue_natCast, Nat.cast_one, div_one, Nat.one_mul]
  rw [hvalue] at h
  exact ext_iff.mpr ⟨negative_ofDecimal _ _ _, h.unique (nearestTo_ofNat _)⟩

theorem isFinite_tenTo {n : Nat} (hn : n ≤ 308) : (tenTo n).isFinite = true := by
  rw [tenTo_eq_ofNat]
  exact isFinite_ofNat hn le_rfl

theorem one_le_units_tenTo (n : Nat) : one ≤ (tenTo n).units := by
  rw [tenTo_eq_ofNat]
  exact one_le_units_ofNat (Nat.pow_pos (by decide))

theorem not_isZero_tenTo (n : Nat) : (tenTo n).isZero = false := by
  rw [Bool.eq_false_iff, ne_eq, ← units_eq_zero]
  have hunits := one_le_units_tenTo n
  have hone := oneUnits_pos
  omega

@[simp] theorem negative_tenTo (n : Nat) : (tenTo n).negative = false := negative_ofDecimal _ _ _

/-- Powers of ten up to `10 ^ 22` are doubles. -/
theorem units_tenTo {n : Nat} (hn : n ≤ 22) : (tenTo n).units = 10 ^ n * one := by
  have hrepresentable : ∀ n < 23, Representable (10 ^ n) := by decide +kernel
  rw [tenTo_eq_ofNat]
  exact hrepresentable n (by omega)

/-! ### What scaling gives -/

theorem isFinite_ofNat_of_le {significand : Nat} (h : significand ≤ significandMax) :
    (Double.ofNat significand).isFinite = true := by
  have hmax : significandMax ≤ 10 ^ 20 := by decide
  exact isFinite_ofNat (k := 20) (by decide) (h.trans hmax)

/-- Dividing by a power of ten does not give more. -/
theorem magnitude_div_tenTo_le {f : Double} (hf : f.isFinite = true) {n : Nat} (hn : n ≤ 308) :
    (f / tenTo n).magnitude ≤ f.magnitude := by
  have hnearest := nearestTo_div hf (isFinite_tenTo hn) (not_isZero_tenTo n)
  refine hnearest.le_of_le (isFinite_iff.mp hf).le ?_
  have hunits := one_le_units_tenTo n
  have hpos : (0 : ℚ) < (tenTo n).units := Nat.cast_pos.mpr (Nat.lt_of_lt_of_le oneUnits_pos hunits)
  rw [div_le_iff₀ hpos]
  exact (Nat.cast_le.mpr (Nat.mul_le_mul_left _ hunits)).trans_eq (Nat.cast_mul _ _)

theorem isFinite_div_tenTo {f : Double} (hf : f.isFinite = true) {n : Nat} (hn : n ≤ 308) :
    (f / tenTo n).isFinite = true :=
  isFinite_iff.mpr ((magnitude_div_tenTo_le hf hn).trans_lt (isFinite_iff.mp hf))

theorem isFinite_divideByPower {f : Double} (hf : f.isFinite = true) (blocks : Nat) {rest : Nat}
    (hrest : rest ≤ 308) : (divideByPower f blocks rest).isFinite = true := by
  induction blocks generalizing f with
  | zero => exact isFinite_div_tenTo hf hrest
  | succ blocks ih =>
    unfold divideByPower
    split
    · exact hf
    · exact ih (isFinite_div_tenTo hf le_rfl)

/-- **A scaled significand is finite.** -/
theorem isFinite_of_scaled? {significand : Nat} (hmax : significand ≤ significandMax)
    {exponent : Int} {x : Double} (h : scaled? significand exponent = some x) :
    x.isFinite = true := by
  have hf := isFinite_ofNat_of_le hmax
  unfold scaled? at h
  simp only at h
  split at h
  next =>
    rw [← Option.some.inj h]
    exact isFinite_divideByPower hf _ (by unfold maxPower; omega)
  next =>
    split at h
    next hpower =>
      split at h
      next => exact absurd h (by simp)
      next hfinite =>
        rw [← Option.some.inj h]
        have hmem := (nearestTo_mul hf (isFinite_tenTo hpower)).mem
        rw [Bool.not_eq_true, isInfinite, decide_eq_false_iff_not] at hfinite
        exact isFinite_iff.mpr (Nat.lt_of_le_of_ne hmem hfinite)
    next =>
      split at h
      next => exact Option.some.inj h ▸ hf
      next => exact absurd h (by simp)

/-! ### What is read correctly -/

/-- **A significand that is a double**, scaled by a power of ten that is one, is rounded once. -/
theorem scaled?_representable {significand : Nat} (hmax : significand ≤ significandMax)
    (hdouble : Representable significand) {exponent : Int} (hexponent : exponent.natAbs ≤ 22) :
    scaled? significand exponent = some (ofDecimal false significand exponent) := by
  have hf := isFinite_ofNat_of_le hmax
  have hdecimal := nearestTo_ofDecimal false significand exponent
  have hunits : (Double.ofNat significand).units = significand * one := hdouble
  unfold scaled?
  simp only
  split
  next hneg =>
    obtain ⟨n, rfl, hn⟩ : ∃ n : Nat, exponent = -n ∧ 0 < n := ⟨exponent.natAbs, by omega, by omega⟩
    have hblocks : ((-n : Int).natAbs - 1) / maxPower = 0 := by unfold maxPower; omega
    have hrest : ((-n : Int).natAbs - 1) % maxPower + 1 = n := by unfold maxPower; omega
    have hquotient := nearestTo_div hf (isFinite_tenTo (n := n) (by omega))
      (not_isZero_tenTo n)
    rw [hunits, units_tenTo (by omega), Nat.mul_right_comm, Nat.cast_mul, Nat.cast_mul (10 ^ n),
      mul_div_mul_right _ _ (Nat.cast_ne_zero.mpr oneUnits_pos.ne'), ← decimalValue_neg]
      at hquotient
    have hsign := negative_div hf (isFinite_tenTo (n := n) (by omega)) (not_isZero_tenTo n)
    rw [hblocks, hrest, divideByPower]
    refine congrArg some (ext_iff.mpr ⟨?_, hquotient.unique hdecimal⟩)
    simpa using hsign
  next hnonneg =>
    obtain ⟨n, rfl⟩ : ∃ n : Nat, exponent = n := ⟨exponent.toNat, by omega⟩
    rw [Int.toNat_natCast]
    have hproduct := nearestTo_mul hf (isFinite_tenTo (n := n) (by omega))
    rw [hunits, units_tenTo (by omega), ← Nat.mul_assoc, Nat.cast_mul _ one,
      mul_div_cancel_right₀ _ (Nat.cast_ne_zero.mpr oneUnits_pos.ne'), Nat.mul_right_comm]
      at hproduct
    have hfinite : (Double.ofNat significand * tenTo n).isFinite = true := by
      have hle : significand * 10 ^ n ≤ 10 ^ 42 := by
        calc significand * 10 ^ n ≤ 10 ^ 20 * 10 ^ 22 :=
              Nat.mul_le_mul (hmax.trans (by decide)) (Nat.pow_le_pow_right (by decide) (by omega))
          _ = 10 ^ 42 := by norm_num
      refine isFinite_iff.mpr (hproduct.lt_infinity (Nat.cast_le.mpr ?_))
      exact (Nat.mul_le_mul_right one hle).trans (ten_pow_mul_one_le (by decide))
    have hsign := negative_mul hf (isFinite_tenTo (n := n) (by omega))
    rw [decimalValue_natCast, Nat.cast_one, div_one] at hdecimal
    rw [if_pos (by unfold maxPower; omega), not_isInfinite_of_isFinite hfinite, if_neg (by decide)]
    refine congrArg some (ext_iff.mpr ⟨?_, hproduct.unique hdecimal⟩)
    simpa using hsign

/-- Zero divided or multiplied by a power of ten is zero. -/
theorem zero_div_tenTo {n : Nat} (hn : n ≤ 308) : zero / tenTo n = zero := by
  have hzero : zero.isFinite = true := by decide
  have hmagnitude := magnitude_div_tenTo_le hzero hn
  refine ext_iff.mpr ⟨?_, Nat.le_zero.mp hmagnitude⟩
  rw [negative_div hzero (isFinite_tenTo hn) (not_isZero_tenTo n), negative_tenTo]
  rfl

theorem zero_mul_tenTo {n : Nat} (hn : n ≤ 308) : zero * tenTo n = zero := by
  have hzero : zero.isFinite = true := by decide
  have hunits : zero.units = 0 := rfl
  have hnearest := nearestTo_mul hzero (isFinite_tenTo hn)
  rw [hunits, Nat.zero_mul, Nat.cast_zero, zero_div] at hnearest
  refine ext_iff.mpr ⟨?_, hnearest.unique (nearestTo_zero (by norm_num))⟩
  rw [negative_mul hzero (isFinite_tenTo hn), negative_tenTo]
  rfl

/-- **Zero stays zero**, whatever it is scaled by. -/
theorem scaled?_zero (exponent : Int) : scaled? 0 exponent = some zero := by
  have hzero : Double.ofNat 0 = zero := by decide +kernel
  unfold scaled?
  simp only [hzero]
  split
  next =>
    generalize (exponent.natAbs - 1) / maxPower = blocks
    cases blocks with
    | zero => exact congrArg some (zero_div_tenTo (by unfold maxPower; omega))
    | succ blocks => rfl
  next =>
    split
    next hpower => rw [zero_mul_tenTo hpower]; rfl
    next => rfl

end Json

/-! ## Numerals -/

namespace Json

open Double

/-! ### Gathering digits -/

theorem digitsFrom_append (n : Nat) (ds es : Bytes) :
    digitsFrom n (ds ++ es) = digitsFrom (digitsFrom n ds) es := List.foldl_append ..

/-- Digits that fit are all gathered. -/
theorem gather_of_le {n : Nat} {ds : Bytes} (h : digitsFrom n ds ≤ significandMax) :
    gather n ds = (digitsFrom n ds, []) := by
  induction ds generalizing n with
  | nil => rfl
  | cons d ds ih =>
    rw [digitsFrom_cons] at h ⊢
    have hle := le_digitsFrom (10 * n + digitOf d) ds
    rw [gather, if_neg (by omega), ih h]

/-- A significand fits. -/
theorem gather_le {n : Nat} (hn : n ≤ significandMax) (ds : Bytes) :
    (gather n ds).1 ≤ significandMax := by
  induction ds generalizing n with
  | nil => exact hn
  | cons d ds ih =>
    rw [gather]
    split
    next => exact hn
    next hfits => exact ih (by omega)

/-- Where no digit is left out, the significand is the number of the digits. -/
theorem gather_of_isEmpty {n : Nat} {ds : Bytes} (h : (gather n ds).2.isEmpty = true) :
    (gather n ds).1 = digitsFrom n ds := by
  induction ds generalizing n with
  | nil => rfl
  | cons d ds ih =>
    rw [gather] at h ⊢
    split at h
    next => exact absurd h (by simp)
    next hfits => rw [if_neg hfits, ih h, digitsFrom_cons]

/-! ### Numbers as doubles -/

/-- The double of a number, whole or not. -/
def asDouble : Json → Double
  | integer i => realOfInt i
  | real x => x
  | _ => zero

theorem neg_ofDecimal (digits : Nat) (exponent : Int) :
    -ofDecimal false digits exponent = ofDecimal true digits exponent := by
  refine ext_iff.mpr ⟨?_, ?_⟩
  · change (!(ofDecimal false digits exponent).negative) = _
    simp
  · change (ofDecimal false digits exponent).magnitude = _
    rw [magnitude_ofDecimal true, Decimal.magnitude]

theorem signed_ofDecimal (negative : Bool) (digits : Nat) (exponent : Int) :
    signed negative (ofDecimal false digits exponent) = ofDecimal negative digits exponent := by
  cases negative with
  | false => rfl
  | true => exact neg_ofDecimal digits exponent

theorem ofNat_eq_ofDecimal (n : Nat) : Double.ofNat n = ofDecimal false n 0 := by
  have h := nearestTo_ofDecimal false n 0
  rw [← Int.natCast_zero, decimalValue_natCast, Nat.cast_one, div_one, pow_zero, Nat.mul_one] at h
  exact ext_iff.mpr ⟨by simp, (nearestTo_ofNat n).unique h⟩

theorem asDouble_wholeNumber (negative : Bool) (significand : Nat) :
    asDouble (wholeNumber negative significand) = ofDecimal negative significand 0 := by
  rw [← signed_ofDecimal, ← ofNat_eq_ofDecimal]
  cases negative with
  | false => rfl
  | true =>
    unfold wholeNumber
    rw [if_neg (by decide)]
    split
    next => rfl
    next hsmall =>
      obtain ⟨n, rfl⟩ := Nat.exists_eq_succ_of_ne_zero fun hzero => hsmall (.inl hzero)
      rfl

namespace Numeral

/-- **A whole number** as it is written, if it fits the significand. -/
def IsWhole (n : Numeral) : Prop :=
  n.fraction.isNone ∧ n.exponent.isNone ∧ n.digits ≤ significandMax

instance (n : Numeral) : Decidable n.IsWhole := inferInstanceAs (Decidable (_ ∧ _))

/-- **What a correctly rounding reader makes of a numeral**: a whole number as such, anything else
as the nearest double. -/
def exact (n : Numeral) : Json :=
  if n.IsWhole then wholeNumber n.negative n.digits else real n.nearest

/-- The double that the reader makes of a numeral. -/
def double (n : Numeral) : Double := (n.read?.map asDouble).getD zero

/-- The reader makes of a numeral the double that is nearest to it. -/
def ReadsNearest (n : Numeral) : Prop := n.read?.map asDouble = some n.nearest

/-- Numerals that are read as the nearest double: whole numbers, zeros, and those whose digits make
a double that fits the significand, scaled by at most 22 places. -/
def Short (n : Numeral) : Prop :=
  n.IsWhole ∨ n.digits = 0 ∨
    n.digits ≤ significandMax ∧ Representable n.digits ∧ n.power.natAbs ≤ 22 ∧
      ∀ x ∈ n.exponent, x.size ≤ exponentMax

end Numeral

/-! ### What is read is a number -/

/-- **A number that the reader can answer with**: a whole one that fits 64 bits, or a finite
double. -/
def IsNumber : Json → Prop
  | integer i => -(2 ^ 63 : Int) ≤ i ∧ i ≤ significandMax
  | real x => x.isFinite = true
  | _ => False

theorem isNumber_wholeNumber (negative : Bool) {significand : Nat}
    (hmax : significand ≤ significandMax) : (wholeNumber negative significand).IsNumber := by
  unfold wholeNumber
  split
  next => exact ⟨by omega, by exact_mod_cast hmax⟩
  next =>
    split
    next => exact isFinite_ofNat_of_le hmax
    next hsmall =>
      have hbound : Nat.pow 2 63 = 2 ^ 63 := rfl
      have hnonneg : (0 : Int) ≤ significandMax := Int.natCast_nonneg _
      exact ⟨by omega, by omega⟩

theorem isFinite_signed {negative : Bool} {x : Double} (hx : x.isFinite = true) :
    (signed negative x).isFinite = true := by
  cases negative <;> exact hx

/-- A scaled significand is read as a finite double. -/
theorem real_of_scaledBy {negative : Bool} {significand : Nat} (hmax : significand ≤ significandMax)
    {start : Int} {x : Option Exponent} {v : Json}
    (h : scaledBy negative significand start x = some v) :
    ∃ y, v = real y ∧ y.isFinite = true := by
  have hscaled : ∀ {exponent : Int},
      ((scaled? significand exponent).map fun x => real (signed negative x)) = some v →
      ∃ y, v = real y ∧ y.isFinite = true := by
    intro exponent h
    obtain ⟨y, hy, rfl⟩ := Option.map_eq_some_iff.mp h
    exact ⟨_, rfl, isFinite_signed (isFinite_of_scaled? hmax hy)⟩
  cases x with
  | none => exact hscaled h
  | some x =>
    rw [scaledBy] at h
    split at h
    next => exact hscaled h
    next =>
      split at h
      next => exact absurd h (by simp)
      next => exact ⟨_, (Option.some.inj h).symm, isFinite_signed (by decide)⟩

namespace Numeral

variable {n : Numeral} {v : Json}

/-- **A whole number that fits is read as such.** -/
theorem read?_of_isWhole (h : n.IsWhole) :
    n.read? = some (wholeNumber n.negative n.digits) := by
  obtain ⟨hfraction, hexponent, hdigits⟩ := h
  rw [Option.isNone_iff_eq_none] at hfraction
  rw [digits, hfraction, fractionDigits, List.append_nil] at hdigits ⊢
  rw [n.read?_eq_outcome, outcome, gather_of_le hdigits]
  simp [hfraction, hexponent]

/-- Whatever else is read is a finite double. -/
theorem real_of_read? (hwhole : ¬n.IsWhole) (h : n.read? = some v) :
    ∃ x, v = real x ∧ x.isFinite = true := by
  rw [n.read?_eq_outcome] at h
  have hmax := gather_le (Nat.zero_le significandMax) n.whole.bytes
  unfold outcome at h
  simp only at h
  split at h
  next f _ => exact real_of_scaledBy (gather_le hmax f.bytes) h
  next hfraction =>
    split at h
    next hplain =>
      refine absurd ⟨by rw [hfraction]; rfl, hplain.2, ?_⟩ hwhole
      rw [digits, hfraction, fractionDigits, List.append_nil, ← gather_of_isEmpty hplain.1]
      exact hmax
    next => exact real_of_scaledBy hmax h

/-- **What is read is a number.** -/
theorem isNumber_of_read? (h : n.read? = some v) : v.IsNumber := by
  by_cases hwhole : n.IsWhole
  · rw [read?_of_isWhole hwhole] at h
    exact Option.some.inj h ▸ isNumber_wholeNumber _ hwhole.2.2
  · obtain ⟨x, rfl, hx⟩ := real_of_read? hwhole h
    exact hx

theorem power_of_isWhole (h : n.IsWhole) : n.power = 0 := by
  obtain ⟨hfraction, hexponent, -⟩ := h
  rw [Option.isNone_iff_eq_none] at hfraction hexponent
  rw [power, hfraction, hexponent]
  rfl

theorem asDouble_exact (n : Numeral) : asDouble n.exact = n.nearest := by
  unfold exact
  split
  next hwhole => rw [asDouble_wholeNumber, nearest, power_of_isWhole hwhole]
  next => rfl

theorem readsNearest_of_isWhole (h : n.IsWhole) : n.ReadsNearest := by
  rw [ReadsNearest, read?_of_isWhole h, Option.map_some, asDouble_wholeNumber, nearest,
    power_of_isWhole h]

theorem double_eq (h : n.read? = some v) : n.double = asDouble v := by
  rw [double, h]
  rfl

theorem ReadsNearest.double_eq (h : n.ReadsNearest) : n.double = n.nearest := by
  rw [double, h]
  rfl

/-- **A numeral that is read as the nearest double** is read as by a correctly rounding reader. -/
theorem ReadsNearest.read?_eq (h : n.ReadsNearest) : n.read? = some n.exact := by
  unfold exact
  split
  next hwhole => exact read?_of_isWhole hwhole
  next hwhole =>
    obtain ⟨v, hv, hdouble⟩ := Option.map_eq_some_iff.mp h
    obtain ⟨x, rfl, -⟩ := real_of_read? hwhole hv
    rw [hv, ← hdouble]
    rfl

/-! ### Numerals that are read correctly -/

/-- Where all digits fit the significand, it is they that are scaled. -/
theorem read?_of_le (hwhole : ¬n.IsWhole) (hdigits : n.digits ≤ significandMax) :
    n.read? = scaledBy n.negative n.digits (-(fractionDigits n.fraction).length) n.exponent := by
  have hsplit : n.digits =
      digitsFrom (digitsFrom 0 n.whole.bytes) (fractionDigits n.fraction) := digitsFrom_append ..
  have hle := le_digitsFrom (digitsFrom 0 n.whole.bytes) (fractionDigits n.fraction)
  rw [n.read?_eq_outcome, outcome, gather_of_le (by omega)]
  cases hfraction : n.fraction with
  | some f =>
    rw [hfraction, fractionDigits] at hsplit
    simp [gather_of_le (hsplit ▸ hdigits), ← hsplit, fractionDigits]
  | none =>
    rw [hfraction, fractionDigits, digitsFrom_nil] at hsplit
    have hexponent : n.exponent.isNone = false := by
      by_contra hplain
      exact hwhole ⟨by rw [hfraction]; rfl, by simpa using hplain, hdigits⟩
    simp [← hsplit, hexponent, fractionDigits]

theorem scaledBy_zero (negative : Bool) (start : Int) (x : Option Exponent) :
    scaledBy negative 0 start x = some (real (signed negative zero)) := by
  cases x with
  | none => rw [scaledBy, scaled?_zero]; rfl
  | some x =>
    rw [scaledBy, scaled?_zero]
    split
    next => rfl
    next => exact if_neg fun h => h.1 rfl

/-- A significand that is a double, scaled by few places, is read as the nearest double. -/
theorem scaledBy_representable {significand : Nat} (hmax : significand ≤ significandMax)
    (hdouble : Representable significand) (negative : Bool) (start : Int) {x : Option Exponent}
    (hpower : ((x.map Exponent.value).getD 0 + start).natAbs ≤ 22)
    (hsize : ∀ y ∈ x, y.size ≤ exponentMax) :
    scaledBy negative significand start x =
      some (real (ofDecimal negative significand ((x.map Exponent.value).getD 0 + start))) := by
  have hscaled : ∀ {exponent : Int}, exponent.natAbs ≤ 22 →
      ((scaled? significand exponent).map fun x => real (signed negative x)) =
        some (real (ofDecimal negative significand exponent)) := by
    intro exponent hexponent
    rw [scaled?_representable hmax hdouble hexponent, Option.map_some, signed_ofDecimal]
  cases x with
  | none =>
    simp only [Option.map_none, Option.getD_none, Int.zero_add] at hpower ⊢
    exact hscaled hpower
  | some x =>
    simp only [Option.map_some, Option.getD_some, Int.add_comm x.value] at hpower ⊢
    have hclamp : clampExponent (start + x.value) = start + x.value := by
      unfold clampExponent
      omega
    rw [scaledBy, if_pos (hsize x rfl), hclamp]
    exact hscaled hpower

theorem short_of_le (hdigits : n.digits ≤ 2 ^ 53) (hpower : n.power.natAbs ≤ 22)
    (hsize : ∀ x ∈ n.exponent, x.size ≤ exponentMax) : n.Short := by
  have hmax : 2 ^ 53 ≤ significandMax := by decide
  exact .inr (.inr ⟨hdigits.trans hmax, representable_of_le hdigits, hpower, hsize⟩)

/-- **Short numerals are read as the nearest double.** -/
theorem Short.readsNearest (h : n.Short) : n.ReadsNearest := by
  by_cases hwhole : n.IsWhole
  · exact readsNearest_of_isWhole hwhole
  rcases h with hw | hzero | ⟨hmax, hdouble, hpower, hsize⟩
  · exact absurd hw hwhole
  · have hsigned : signed n.negative zero = n.nearest := by
      rw [nearest, hzero, ← signed_ofDecimal]
      rfl
    rw [ReadsNearest, read?_of_le hwhole (hzero ▸ Nat.zero_le _), hzero, scaledBy_zero, hsigned]
    rfl
  · rw [ReadsNearest, read?_of_le hwhole hmax, scaledBy_representable hmax hdouble _ _ hpower hsize]
    rfl

end Numeral

end Json

end HttpLoad
