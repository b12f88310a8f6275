import Mathlib.Algebra.Order.Field.Power
import Mathlib.Tactic.NormNum
import HttpLoad.Number.Text
import HttpLoad.Proofs.Number.Rounding

/-!
# Decimals, products and quotients

A decimal is read as the double that is nearest to its value, and products and quotients of doubles
are the exact ones, rounded once.

## Main definitions

* `Double.decimalValue`: the value of a decimal, in units of `2 ^ -1074`
* `Double.Representable n`: the natural number `n` is the value of a double

## Main results

* `Double.nearestTo_ofDecimal`: a decimal is read as the nearest double
* `Double.ofDecimal_congr`: decimals of one value are read as one double
* `Decimal.magnitude_shortest`: the shortest decimal reads back
* `Double.nearestTo_mul`, `Double.nearestTo_div`: the nearest doubles to product and quotient
* `Double.representable_of_le`: natural numbers up to `2 ^ 53` are values of doubles
-/

namespace HttpLoad

/-!
## Decimals and the doubles nearest to them

A decimal is read as the double that is nearest to its value. The bounds from which on the power of
ten is not computed are where the answer is zero or infinity anyway, so all that a decimal is read
as depends on its value. The shortest decimal of a double is one that is read as that double.
-/

namespace Double

theorem ext_iff {x y : Double} : x = y ↔ x.negative = y.negative ∧ x.magnitude = y.magnitude := by
  obtain ⟨sx, mx, _⟩ := x
  obtain ⟨sy, my, _⟩ := y
  simp only [mk.injEq]

/-! ### What lies outside the finite doubles -/

theorem oneUnits_pos : 0 < one := by decide +kernel

theorem le_ten_pow {a k n : Nat} (h : a ≤ Nat.pow 10 k) (hn : k ≤ n) : a ≤ 10 ^ n :=
  h.trans (Nat.pow_le_pow_right (by decide) hn)

/-- Powers of ten from `10 ^ 336` on exceed the number of units in one more than sixteenfold. -/
theorem sixteen_mul_one_le {n : Nat} (hn : 336 ≤ n) : 16 * one ≤ 10 ^ n :=
  le_ten_pow (k := 336) (by decide +kernel) hn

/-- Infinity is no greater than `10 ^ 309`. -/
theorem unitsOf_infinity_le {n : Nat} (hn : 309 ≤ n) :
    unitsOf infinityMagnitude ≤ 10 ^ n * one := by
  have hquotient : unitsOf infinityMagnitude / one ≤ 10 ^ n :=
    le_ten_pow (k := 309) (by decide +kernel) hn
  have hwhole : unitsOf infinityMagnitude / one * one = unitsOf infinityMagnitude := by
    decide +kernel
  exact hwhole ▸ Nat.mul_le_mul_right one hquotient

/-! ### Reading a decimal -/

/-- The value of a decimal, in units of `2 ^ -1074`. -/
def decimalValue (digits : Nat) (exponent : Int) : ℚ := digits * 10 ^ exponent * one

theorem nearestTo_ofRatio (negative : Bool) (num : Nat) {den : Nat} (hden : 0 < den) :
    NearestTo (num / den) (ofRatio negative num den).magnitude :=
  nearestTo_nearest num hden

theorem decimalValue_natCast (digits n : Nat) :
    decimalValue digits n = ((digits * 10 ^ n * one : Nat) : ℚ) / ((1 : Nat) : ℚ) := by
  rw [decimalValue, zpow_natCast, Nat.cast_one, div_one]
  push_cast
  rfl

theorem decimalValue_neg (digits n : Nat) :
    decimalValue digits (-n) = ((digits * one : Nat) : ℚ) / ((10 ^ n : Nat) : ℚ) := by
  rw [decimalValue, zpow_neg, zpow_natCast]
  push_cast
  rw [div_eq_mul_inv]
  ring

/-- From the power on from which it is not computed, a decimal is not below infinity. -/
theorem infinity_le_decimalValue {digits : Nat} {exponent : Int} (hdigits : digits ≠ 0)
    (hexponent : 310 < exponent) : valueOf infinityMagnitude ≤ decimalValue digits exponent := by
  obtain ⟨n, rfl⟩ : ∃ n : Nat, exponent = n := ⟨exponent.toNat, by omega⟩
  have hinfinity : unitsOf infinityMagnitude ≤ digits * 10 ^ n * one :=
    (unitsOf_infinity_le (by omega)).trans
      (Nat.mul_le_mul_right _ (Nat.le_mul_of_pos_left _ (Nat.pos_of_ne_zero hdigits)))
  rw [decimalValue_natCast, Nat.cast_one, div_one]
  exact Nat.cast_le.mpr hinfinity

/-- Up to the power from which on it is not computed, a decimal is at most half a unit. -/
theorem decimalValue_le_half {digits : Nat} {exponent : Int}
    (hexponent : exponent < -(335 + (digits.log2 / 3 : Nat) : Int)) :
    2 * decimalValue digits exponent ≤ 1 := by
  obtain ⟨n, rfl, hn⟩ : ∃ n : Nat, exponent = -((n + digits.log2 / 3 : Nat) : Int) ∧ 336 ≤ n :=
    ⟨exponent.natAbs - digits.log2 / 3, by omega, by omega⟩
  have hbound : 2 * (digits * one) ≤ 10 ^ (n + digits.log2 / 3) := by
    calc 2 * (digits * one) ≤ 2 * (2 ^ (3 * (digits.log2 / 3) + 3) * one) := by
          gcongr
          exact Nat.lt_log2_self.le.trans (Nat.pow_le_pow_right (by decide) (by omega))
      _ = 16 * one * 8 ^ (digits.log2 / 3) := by
          rw [pow_add, pow_mul]
          ring
      _ ≤ 10 ^ n * 10 ^ (digits.log2 / 3) := by
          gcongr
          · exact sixteen_mul_one_le hn
          · decide
      _ = 10 ^ (n + digits.log2 / 3) := (pow_add _ _ _).symm
  have hpos : (0 : ℚ) < ((10 ^ (n + digits.log2 / 3) : Nat) : ℚ) := by positivity
  rw [decimalValue_neg, ← mul_div_assoc, div_le_one hpos]
  exact_mod_cast hbound

/-- **A decimal is read as the nearest double.** -/
theorem nearestTo_ofDecimal (negative : Bool) (digits : Nat) (exponent : Int) :
    NearestTo (decimalValue digits exponent) (ofDecimal negative digits exponent).magnitude := by
  unfold ofDecimal
  split
  next hzero =>
    subst hzero
    refine nearestTo_zero ?_
    simp only [decimalValue, Nat.cast_zero, zero_mul, mul_zero, zero_le_one]
  next hdigits =>
    split
    next hlarge => exact nearestTo_infinity (infinity_le_decimalValue hdigits hlarge)
    next =>
      split
      next hsmall => exact nearestTo_zero (decimalValue_le_half hsmall)
      next =>
        split
        next hnonneg =>
          obtain ⟨n, rfl⟩ := Int.eq_ofNat_of_zero_le hnonneg
          rw [decimalValue_natCast]
          exact nearestTo_ofRatio negative _ Nat.one_pos
        next hneg =>
          obtain ⟨n, rfl⟩ : ∃ n : Nat, exponent = -n := ⟨exponent.natAbs, by omega⟩
          rw [decimalValue_neg, Int.neg_neg, Int.toNat_natCast]
          exact nearestTo_ofRatio negative _ (Nat.pow_pos (by decide))

@[simp] theorem negative_ofRatio (negative : Bool) (num den : Nat) :
    (ofRatio negative num den).negative = negative := rfl

@[simp] theorem negative_ofDecimal (negative : Bool) (digits : Nat) (exponent : Int) :
    (ofDecimal negative digits exponent).negative = negative := by
  unfold ofDecimal
  split_ifs <;> rfl

/-- **A decimal is read by its value alone.** -/
theorem ofDecimal_congr (negative : Bool) {digits digits' : Nat} {exponent exponent' : Int}
    (h : decimalValue digits exponent = decimalValue digits' exponent') :
    ofDecimal negative digits exponent = ofDecimal negative digits' exponent' := by
  have hmagnitude := nearestTo_ofDecimal negative digits exponent
  rw [h] at hmagnitude
  refine ext_iff.mpr ⟨by simp, hmagnitude.unique (nearestTo_ofDecimal negative digits' exponent')⟩

/-- Zeros behind the digits are as many powers of ten less. -/
theorem decimalValue_pow_mul (n digits : Nat) (exponent : Int) :
    decimalValue (10 ^ n * digits) exponent = decimalValue digits (exponent + n) := by
  rw [decimalValue, decimalValue, zpow_add₀ (by norm_num), zpow_natCast]
  push_cast
  ring

theorem decimalValue_ten_mul (digits : Nat) (exponent : Int) :
    decimalValue (10 * digits) exponent = decimalValue digits (exponent + 1) :=
  decimalValue_pow_mul 1 digits exponent

/-- The magnitude of a decimal does not depend on its sign. -/
theorem magnitude_ofDecimal (negative : Bool) (digits : Nat) (exponent : Int) :
    (ofDecimal negative digits exponent).magnitude = Decimal.magnitude ⟨digits, exponent⟩ :=
  (nearestTo_ofDecimal negative digits exponent).unique (nearestTo_ofDecimal false digits exponent)

theorem unitsOf_eq_zero {m : Nat} : unitsOf m = 0 ↔ m = 0 := by
  have hzero : unitsOf 0 = 0 := rfl
  exact ⟨fun h => unitsOf_strictMono.injective (h.trans hzero.symm), fun h => h ▸ hzero⟩

end Double

namespace Decimal

open Double

theorem nearestTo_magnitude (d : Decimal) :
    NearestTo (decimalValue d.digits d.exponent) d.magnitude :=
  nearestTo_ofDecimal false d.digits d.exponent

/-! ### The shortest decimal -/

/-- Moving zeros into the exponent keeps the value. -/
theorem decimalValue_strip (fuel : Nat) (d : Decimal) :
    decimalValue (strip fuel d).digits (strip fuel d).exponent =
      decimalValue d.digits d.exponent := by
  induction fuel generalizing d with
  | zero => rfl
  | succ fuel ih =>
    unfold strip
    split
    next hzero =>
      have hdigits : 10 * (d.digits / 10) = d.digits := by
        simp only [Bool.and_eq_true, beq_iff_eq] at hzero
        omega
      rw [ih, ← decimalValue_ten_mul, hdigits]
    next => rfl

/-- What a grid answers with is a neighbour of the value that reads back. -/
theorem onGrid_cases {m u : Nat} {exponent : Int} {d : Decimal} (h : onGrid m u exponent = some d) :
    d.magnitude = m ∧ d.exponent = exponent ∧
      d.digits ≤ (gridStep u exponent).1 / (gridStep u exponent).2 + 1 := by
  unfold onGrid at h
  generalize gridStep u exponent = step at h ⊢
  obtain ⟨num, den⟩ := step
  simp only at h
  split at h
  next hlower hupper =>
    simp only [Bool.and_eq_true, beq_iff_eq] at hlower hupper
    split at h
    · exact Option.some.inj h ▸ ⟨hlower.2, rfl, Nat.le_succ _⟩
    · exact Option.some.inj h ▸ ⟨hupper, rfl, Nat.le_refl _⟩
    · obtain rfl := Option.some.inj h
      split
      · exact ⟨hlower.2, rfl, Nat.le_succ _⟩
      · exact ⟨hupper, rfl, Nat.le_refl _⟩
  next hlower hupper =>
    simp only [Bool.and_eq_true, beq_iff_eq] at hlower
    exact Option.some.inj h ▸ ⟨hlower.2, rfl, Nat.le_succ _⟩
  next hlower hupper =>
    simp only [beq_iff_eq] at hupper
    exact Option.some.inj h ▸ ⟨hupper, rfl, Nat.le_refl _⟩
  next => exact absurd h (by simp)

theorem decimalValue_exact (u : Nat) : decimalValue (exact u).digits (exact u).exponent = u := by
  obtain ⟨n, hn, hexact⟩ : ∃ n : Nat, Nat.pow 5 n * one = Nat.pow 10 n ∧
      exact u = ⟨u * Nat.pow 5 n, -(n : Int)⟩ := by
    unfold exact
    exact ⟨_, by decide +kernel, rfl⟩
  have hpos : (0 : ℚ) < ((10 ^ n : Nat) : ℚ) := by positivity
  rw [hexact]
  simp only
  rw [decimalValue_neg, div_eq_iff hpos.ne', mul_assoc, hn, Nat.pow_eq]
  exact Nat.cast_mul _ _

/-- **The shortest decimal of a finite double reads back.** -/
theorem magnitude_shortest {m : Nat} (hm : m ≤ infinityMagnitude) : (shortest m).magnitude = m := by
  unfold shortest
  simp only
  split
  next hzero =>
    rw [unitsOf_eq_zero.mp hzero]
    rfl
  next hpos =>
    split
    next d hd =>
      obtain ⟨n, -, hgrid⟩ := List.exists_of_findSome?_eq_some hd
      have hstrip := nearestTo_magnitude (strip 17 d)
      rw [decimalValue_strip] at hstrip
      exact hstrip.unique ((onGrid_cases hgrid).1 ▸ nearestTo_magnitude d)
    next =>
      have hexact := nearestTo_magnitude (exact (unitsOf m))
      rw [decimalValue_exact] at hexact
      exact hexact.unique (nearestTo_valueOf hm)

end Decimal

/-!
## Products and quotients

A product or a quotient of finite doubles is the exact one, rounded once. So it stays in order with
the exact results that are doubles themselves, which bounds what it can be.
-/

namespace Double

variable {x y : Double}

/-! ### Finite doubles -/

theorem isFinite_iff : x.isFinite = true ↔ x.magnitude < infinityMagnitude := decide_eq_true_iff

theorem not_isNaN_of_isFinite (hx : x.isFinite = true) : x.isNaN = false :=
  decide_eq_false (by have := isFinite_iff.mp hx; omega)

theorem not_isInfinite_of_isFinite (hx : x.isFinite = true) : x.isInfinite = false :=
  decide_eq_false (by have := isFinite_iff.mp hx; omega)

theorem mul_of_isFinite (hx : x.isFinite = true) (hy : y.isFinite = true) :
    x * y = ofRatio (x.negative != y.negative) (x.units * y.units) one := by
  change Double.mul x y = _
  simp [Double.mul, not_isNaN_of_isFinite, not_isInfinite_of_isFinite, hx, hy]

theorem div_of_isFinite (hx : x.isFinite = true) (hy : y.isFinite = true)
    (hzero : y.isZero = false) :
    x / y = ofRatio (x.negative != y.negative) (x.units * one) y.units := by
  change Double.div x y = _
  simp [Double.div, not_isNaN_of_isFinite, not_isInfinite_of_isFinite, hx, hy, hzero]

theorem negative_mul (hx : x.isFinite = true) (hy : y.isFinite = true) :
    (x * y).negative = (x.negative != y.negative) := by
  rw [mul_of_isFinite hx hy, negative_ofRatio]

theorem negative_div (hx : x.isFinite = true) (hy : y.isFinite = true)
    (hzero : y.isZero = false) : (x / y).negative = (x.negative != y.negative) := by
  rw [div_of_isFinite hx hy hzero, negative_ofRatio]

theorem units_eq_zero : x.units = 0 ↔ x.isZero = true := by
  rw [units, unitsOf_eq_zero]
  exact decide_eq_true_iff.symm

/-- **A product is rounded once.** -/
theorem nearestTo_mul (hx : x.isFinite = true) (hy : y.isFinite = true) :
    NearestTo ((x.units * y.units : Nat) / one) (x * y).magnitude := by
  rw [mul_of_isFinite hx hy]
  exact nearestTo_ofRatio _ _ oneUnits_pos

/-- **A quotient is rounded once.** -/
theorem nearestTo_div (hx : x.isFinite = true) (hy : y.isFinite = true)
    (hzero : y.isZero = false) :
    NearestTo ((x.units * one : Nat) / y.units) (x / y).magnitude := by
  rw [div_of_isFinite hx hy hzero]
  refine nearestTo_ofRatio _ _ (Nat.pos_of_ne_zero fun hunits => ?_)
  simp [units_eq_zero.mp hunits] at hzero

/-! ### Natural numbers among the doubles -/

/-- **A natural number is the value of a double.** -/
def Representable (n : Nat) : Prop := (ofNat n).units = n * one

instance (n : Nat) : Decidable (Representable n) := inferInstanceAs (Decidable (_ = _))

theorem nearestTo_ofNat (n : Nat) : NearestTo (n * one : Nat) (ofNat n).magnitude := by
  have h := nearestTo_ofRatio false (n * one) Nat.one_pos
  rwa [Nat.cast_one, div_one] at h

theorem representable_of_unitsOf {n m : Nat} (hm : m ≤ infinityMagnitude)
    (h : unitsOf m = n * one) : Representable n := by
  have hnearest := nearestTo_ofNat n
  rw [← h] at hnearest
  rw [Representable, units, hnearest.unique (nearestTo_valueOf hm), h]

theorem exists_one_eq : ∃ p, p = 1074 ∧ one = Nat.pow 2 p := by
  unfold one
  exact ⟨_, rfl, rfl⟩

/-- **Natural numbers up to `2 ^ 53` are values of doubles.** -/
theorem representable_of_le {n : Nat} (hn : n ≤ 2 ^ 53) : Representable n := by
  rcases Nat.eq_zero_or_pos n with rfl | hpos
  · exact representable_of_unitsOf (m := 0) (by decide) (by rw [Nat.zero_mul]; rfl)
  · have hlower : 2 ^ n.log2 ≤ n := Nat.log2_self_le hpos.ne'
    have hlog : n.log2 ≤ 53 := (Nat.pow_le_pow_iff_right (by decide)).mp (hlower.trans hn)
    obtain ⟨k, hk⟩ : ∃ k, k = 52 - n.log2 := ⟨_, rfl⟩
    have hleast : 2 ^ 52 ≤ n * 2 ^ k := by
      calc 2 ^ 52 ≤ 2 ^ (n.log2 + k) := Nat.pow_le_pow_right (by decide) (by omega)
        _ = 2 ^ n.log2 * 2 ^ k := pow_add _ _ _
        _ ≤ n * 2 ^ k := Nat.mul_le_mul_right _ hlower
    have hgreatest : n * 2 ^ k ≤ 2 ^ 53 := by
      rcases Nat.eq_zero_or_pos k with rfl | hkpos
      · rwa [pow_zero, Nat.mul_one]
      · calc n * 2 ^ k ≤ 2 ^ (n.log2 + 1) * 2 ^ k := Nat.mul_le_mul_right _ Nat.lt_log2_self.le
          _ = 2 ^ (n.log2 + 1 + k) := (pow_add _ _ _).symm
          _ = 2 ^ 53 := by rw [show n.log2 + 1 + k = 53 by omega]
    obtain ⟨p, hp, hone⟩ := exists_one_eq
    refine representable_of_unitsOf (m := (p - k) * 2 ^ 52 + n * 2 ^ k) ?_ ?_
    · have hinfinity : infinityMagnitude = 2047 * 2 ^ 52 := rfl
      omega
    · rw [unitsOf_parts hgreatest (.inr hleast), hone, Nat.pow_eq, mul_assoc, ← pow_add,
        Nat.add_sub_cancel' (by omega)]

/-! ### Bounds -/

/-- A number below the value of a magnitude is rounded to no greater one. -/
theorem NearestTo.le_of_le {q : ℚ} {m k : Nat} (h : NearestTo q m) (hk : k ≤ infinityMagnitude)
    (hq : q ≤ valueOf k) : m ≤ k := by
  rcases hq.lt_or_eq with hlt | rfl
  · exact h.mono (nearestTo_valueOf hk) hlt
  · exact (h.unique (nearestTo_valueOf hk)).le

/-- A number above the value of a magnitude is rounded to no lesser one. -/
theorem NearestTo.ge_of_ge {q : ℚ} {m k : Nat} (h : NearestTo q m) (hk : k ≤ infinityMagnitude)
    (hq : valueOf k ≤ q) : k ≤ m := by
  rcases hq.lt_or_eq with hlt | rfl
  · exact (nearestTo_valueOf hk).mono h hlt
  · exact (h.unique (nearestTo_valueOf hk)).ge

/-- The greatest finite magnitude. -/
def maxMagnitude : Nat := infinityMagnitude - 1

theorem mul_one_le_of_le {a k n : Nat} (hk : Nat.pow 10 k * one ≤ a) (hn : n ≤ k) :
    10 ^ n * one ≤ a :=
  Nat.le_trans (Nat.mul_le_mul_right one (Nat.pow_le_pow_right (by decide) hn)) hk

theorem ten_pow_mul_one_le {n : Nat} (hn : n ≤ 308) : 10 ^ n * one ≤ unitsOf maxMagnitude :=
  mul_one_le_of_le (k := 308) (by decide +kernel) hn

theorem NearestTo.lt_infinity {q : ℚ} {m : Nat} (h : NearestTo q m)
    (hq : q ≤ valueOf maxMagnitude) : m < infinityMagnitude := by
  have hle : m ≤ maxMagnitude := h.le_of_le (by decide) hq
  have hmax : maxMagnitude < infinityMagnitude := by decide
  exact hle.trans_lt hmax

/-- Natural numbers up to `10 ^ 308` have finite doubles. -/
theorem isFinite_ofNat {n k : Nat} (hk : k ≤ 308) (hn : n ≤ 10 ^ k) :
    (ofNat n).isFinite = true := by
  refine isFinite_iff.mpr ((nearestTo_ofNat n).lt_infinity ?_)
  exact Nat.cast_le.mpr ((Nat.mul_le_mul_right one hn).trans (ten_pow_mul_one_le hk))

/-- A positive natural number has a double of one or more. -/
theorem one_le_units_ofNat {n : Nat} (hn : 0 < n) : one ≤ (ofNat n).units := by
  have hone : (ofNat 1).units = 1 * one := representable_of_le (by decide)
  rw [← Nat.one_mul one, ← hone]
  refine unitsOf_strictMono.monotone ?_
  refine (nearestTo_ofNat n).ge_of_ge (nearestTo_ofNat 1).mem ?_
  refine Nat.cast_le.mpr ?_
  change (ofNat 1).units ≤ n * one
  rw [hone]
  exact Nat.mul_le_mul_right one hn

end Double

end HttpLoad
