import HttpLoad.Proofs.Number.Amount
import HttpLoad.Proofs.Number.Shortest
import HttpLoad.Stats.Basic

/-!
# Order in the arithmetic of amounts, and hundredths

Exact sums, products and quotients of amounts are in order if their terms are, and rounding keeps
the order. So whatever is computed from amounts is no more than what is computed in the same way
from greater ones, and it is finite if that is. Amounts of money are whole numbers of hundredths.

## Main definitions

* `Double.IsHundredths`: the nearest double to not more than `10 ^ 15` hundredths
* `Double.NoMore x y`: `x` and `y` are amounts, and `x` is no more than `y`

## Main results

* `IsHundredths.ordinary_shortest`: hundredths are printed with few digits
* `isHundredths_twoPlaces`: rounding to two places gives hundredths
* `NoMore.add`, `NoMore.mul`, `NoMore.div`: results of arithmetic are in order
* `NoMore.twoPlaces`: so are amounts that are rounded to two places
* `IsHundredths.twoPlaces_eq`: hundredths stay what they are
-/

namespace HttpLoad

/-!
## Hundredths

Amounts are kept to two decimal places: they are the doubles nearest to whole numbers of hundredths.
Up to `10 ^ 15` hundredths such a double is printed with at most fifteen digits, whatever its own
digits are, since the hundredths already read back.
-/

namespace Double

/-- **Hundredths**: the double nearest to a whole number of hundredths, of either sign, that is not
more than `10 ^ 15`. -/
def IsHundredths (x : Double) : Prop :=
  ∃ m ≤ 10 ^ 15, NearestTo (decimalValue m (-2)) x.magnitude

variable {x : Double}

theorem isHundredths_ofDecimal (negative : Bool) {m : Nat} (hm : m ≤ 10 ^ 15) :
    (ofDecimal negative m (-2)).IsHundredths :=
  ⟨m, hm, nearestTo_ofDecimal negative m (-2)⟩

/-- The most hundredths are the thirteenth power of ten. -/
theorem decimalValue_hundredths_le {m : Nat} (hm : m ≤ 10 ^ 15) :
    decimalValue m (-2) ≤ decimalValue 1 13 := by
  have hmost : decimalValue (10 ^ 15 * 1) (-2) = decimalValue 1 13 := decimalValue_pow_mul 15 1 (-2)
  rw [← hmost, Nat.mul_one]
  exact Decimal.decimalValue_mono hm

theorem IsHundredths.isFinite (h : x.IsHundredths) : x.isFinite = true := by
  obtain ⟨m, hm, hnearest⟩ := h
  have hten : (⟨1, 13⟩ : Decimal).magnitude < infinityMagnitude := by decide +kernel
  have hle :=
    hnearest.monotone (Decimal.nearestTo_magnitude ⟨1, 13⟩) (decimalValue_hundredths_le hm)
  exact isFinite_iff.mpr (hle.trans_lt hten)

/-- **Hundredths are printed with few digits**, none of them far from the point. -/
theorem IsHundredths.ordinary_shortest (h : x.IsHundredths) :
    (Decimal.shortest x.magnitude).Ordinary := by
  obtain ⟨m, hm, hnearest⟩ := h
  rcases Nat.eq_zero_or_pos m with rfl | hpos
  · have hvalue : decimalValue 0 (-2) = 0 := by
      rw [decimalValue, Nat.cast_zero, zero_mul, zero_mul]
    rw [hvalue] at hnearest
    rw [hnearest.unique (nearestTo_zero (by norm_num))]
    exact ⟨Nat.zero_le _, by decide, by decide⟩
  · rcases hm.lt_or_eq with hlt | rfl
    · rw [hnearest.unique (Decimal.nearestTo_magnitude ⟨m, -2⟩)]
      refine Decimal.ordinary_shortest hpos hlt ?_ (decimalValue_hundredths_le hm)
      calc decimalValue 1 (-7) ≤ decimalValue 1 (-2) := Decimal.powerValue_mono (by decide)
        _ ≤ decimalValue m (-2) := Decimal.decimalValue_mono hpos
    · have hvalue : decimalValue (10 ^ 15) (-2) = decimalValue 1 13 :=
        decimalValue_pow_mul 15 1 (-2)
      rw [hvalue] at hnearest
      rw [hnearest.unique (Decimal.nearestTo_magnitude ⟨1, 13⟩)]
      exact Decimal.ordinary_shortest Nat.one_pos (by decide) (Decimal.powerValue_mono (by decide))
        le_rfl

/-! ### Rounding to two places -/

theorem roundHalfUp_le {num den n : Nat} (hden : 0 < den) (h : num ≤ n * den) :
    roundHalfUp num den ≤ n := by
  refine Nat.le_of_lt_succ (Nat.div_lt_of_lt_mul ?_)
  have hnext : 2 * den * (n + 1) = 2 * (n * den) + 2 * den := by ring
  rw [hnext]
  omega

/-- A rounded double is the double of a natural number, but for its sign. -/
theorem magnitude_roundHalfAway (hx : x.isFinite = true) :
    x.roundHalfAway.magnitude = (ofNat (roundHalfUp x.units one)).magnitude := by
  have hround : x.roundHalfAway = ofRatio x.negative (roundHalfUp x.units one * one) 1 := if_pos hx
  rw [hround]
  exact (nearestTo_ofRatio _ _ Nat.one_pos).unique (nearestTo_ofRatio _ _ Nat.one_pos)

theorem units_hundred : hundred.units = 100 * one := representable_of_le (n := 100) (by norm_num)

theorem isFinite_hundred : hundred.isFinite = true :=
  isFinite_ofNat (n := 100) (k := 2) (by decide) (by decide)

theorem not_isZero_hundred : hundred.isZero = false := by
  rw [Bool.eq_false_iff, ne_eq, ← units_eq_zero, units_hundred]
  exact (Nat.mul_pos (by decide) oneUnits_pos).ne'

/-- **A double is rounded to two places** by way of its whole number of hundredths. -/
theorem nearestTo_twoPlaces {k : Nat} (hfinite : (x * hundred).isFinite = true)
    (hwhole : roundHalfUp (x * hundred).units one = k) (hk : k ≤ 10 ^ 15) :
    NearestTo (decimalValue k (-2)) (twoPlaces x).magnitude := by
  have hmagnitude := magnitude_roundHalfAway hfinite
  rw [hwhole] at hmagnitude
  have hunits : (x * hundred).roundHalfAway.units = k * one := by
    rw [units, hmagnitude]
    exact representable_of_le (hk.trans (by norm_num))
  have hrounded : (x * hundred).roundHalfAway.isFinite = true := by
    rw [isFinite_iff, hmagnitude]
    exact isFinite_iff.mp (isFinite_ofNat (k := 15) (by decide) hk)
  have hquotient := nearestTo_div hrounded isFinite_hundred not_isZero_hundred
  have hone : (one : ℚ) ≠ 0 := Nat.cast_ne_zero.mpr oneUnits_pos.ne'
  have hvalue : (((x * hundred).roundHalfAway.units * one : Nat) : ℚ) / hundred.units =
      decimalValue k (-2) := by
    rw [hunits, units_hundred, decimalValue]
    push_cast
    generalize (one : ℚ) = o at hone ⊢
    field_simp
    norm_num
  rwa [hvalue] at hquotient

/-- **A double rounded to two places is hundredths**, if it is not too great. -/
theorem isHundredths_twoPlaces (hfinite : (x * hundred).isFinite = true)
    (hle : (x * hundred).units ≤ 10 ^ 15 * one) : (twoPlaces x).IsHundredths := by
  have hk := roundHalfUp_le oneUnits_pos hle
  exact ⟨_, hk, nearestTo_twoPlaces hfinite rfl hk⟩

end Double

/-! ## Order -/

namespace Double

variable {x x' y y' z : Double}

/-- **An amount is no more than another one.** -/
structure NoMore (x y : Double) : Prop where
  left : x.Amount
  right : y.Amount
  le : x.magnitude ≤ y.magnitude

theorem NoMore.trans (h : x.NoMore y) (h' : y.NoMore z) : x.NoMore z :=
  ⟨h.left, h'.right, h.le.trans h'.le⟩

theorem Amount.noMore_self (h : x.Amount) : x.NoMore x := ⟨h, h, le_rfl⟩

instance : Decidable x.Amount :=
  decidable_of_iff (x.isFinite = true ∧ 0 ≤ x.place) ⟨fun h => ⟨h.1, h.2⟩, fun h => ⟨h.1, h.2⟩⟩

instance : Decidable (x.NoMore y) :=
  decidable_of_iff (x.Amount ∧ y.Amount ∧ x.magnitude ≤ y.magnitude)
    ⟨fun h => ⟨h.1, h.2.1, h.2.2⟩, fun h => ⟨h.left, h.right, h.le⟩⟩

theorem NoMore.units_le (h : x.NoMore y) : x.units ≤ y.units :=
  unitsOf_strictMono.monotone h.le

/-- Amounts in order are in order as numbers. -/
theorem NoMore.atMost (h : x.NoMore y) : x.atMost y = true := by
  have hplace : x.place ≤ y.place := by
    rw [h.left.place_eq, h.right.place_eq]
    exact Int.ofNat_le.mpr h.le
  rw [Double.atMost, not_isNaN_of_isFinite h.left.finite, not_isNaN_of_isFinite h.right.finite,
    decide_eq_true hplace]
  rfl

/-- What stands where its magnitude does is no more than a finite double with no lesser
magnitude. -/
theorem noMore_of_le (hx : x.place = x.magnitude) (hy : y.place = y.magnitude)
    (hfinite : y.isFinite = true) (hle : x.magnitude ≤ y.magnitude) : x.NoMore y where
  left :=
    { finite := isFinite_iff.mpr (hle.trans_lt (isFinite_iff.mp hfinite))
      nonneg := hx ▸ Int.natCast_nonneg _ }
  right :=
    { finite := hfinite
      nonneg := hy ▸ Int.natCast_nonneg _ }
  le := hle

/-- Quotients of natural numbers are in order if what is divided is. -/
theorem noMore_ofRatio {num num' den : Nat} (hden : 0 < den) (h : num ≤ num')
    (hfinite : (ofRatio false num' den).isFinite = true) :
    (ofRatio false num den).NoMore (ofRatio false num' den) := by
  have hplace (n : Nat) : (ofRatio false n den).place = (ofRatio false n den).magnitude :=
    place_of_not_negative (negative_ofRatio ..)
  refine noMore_of_le (hplace num) (hplace num') hfinite ?_
  refine (nearestTo_ofRatio _ _ hden).monotone (nearestTo_ofRatio _ _ hden) ?_
  exact div_le_div_of_nonneg_right (Nat.cast_le.mpr h) (Nat.cast_nonneg den)

/-! ### Sums, products and quotients -/

/-- **Sums are in order** if their terms are. -/
theorem NoMore.add (hx : x.NoMore x') (hy : y.NoMore y') (hfinite : (x' + y').isFinite = true) :
    (x + y).NoMore (x' + y') := by
  obtain ⟨hnearest, hplace⟩ := hx.left.nearestTo_add hy.left
  obtain ⟨hnearest', hplace'⟩ := hx.right.nearestTo_add hy.right
  refine noMore_of_le hplace hplace' hfinite (hnearest.monotone hnearest' ?_)
  exact Nat.cast_le.mpr (Nat.add_le_add hx.units_le hy.units_le)

/-- An amount is no more than a sum with it. -/
theorem Amount.noMore_add (hx : x.Amount) (hy : y.Amount) (hfinite : (x + y).isFinite = true) :
    y.NoMore (x + y) := by
  obtain ⟨hnearest, hplace⟩ := hx.nearestTo_add hy
  refine noMore_of_le hy.place_eq hplace hfinite ?_
  refine hnearest.ge_of_ge (isFinite_iff.mp hy.finite).le ?_
  exact Nat.cast_le.mpr (Nat.le_add_left y.units x.units)

/-- **Products are in order** if their factors are. -/
theorem NoMore.mul (hx : x.NoMore x') (hy : y.NoMore y') (hfinite : (x' * y').isFinite = true) :
    (x * y).NoMore (x' * y') := by
  have hnearest := nearestTo_mul hx.left.finite hy.left.finite
  have hnearest' := nearestTo_mul hx.right.finite hy.right.finite
  refine noMore_of_le (hx.left.place_mul hy.left) (hx.right.place_mul hy.right) hfinite
    (hnearest.monotone hnearest' ?_)
  have hunits : x.units * y.units ≤ x'.units * y'.units := Nat.mul_le_mul hx.units_le hy.units_le
  exact div_le_div_of_nonneg_right (Nat.cast_le.mpr hunits) cast_one_pos.le

/-- The factors of a product of finite doubles may change places. -/
theorem mul_comm_of_isFinite (hx : x.isFinite = true) (hy : y.isFinite = true) :
    x * y = y * x := by
  rw [mul_of_isFinite hx hy, mul_of_isFinite hy hx, Nat.mul_comm, bne_comm]

/-- A quotient of amounts stands where its magnitude does. -/
theorem Amount.place_div (hx : x.Amount) (hz : z.isFinite = true) (hneg : z.negative = false)
    (hzero : z.isZero = false) : (x / z).place = (x / z).magnitude := by
  cases hnx : x.negative with
  | false =>
    refine place_of_not_negative ?_
    rw [negative_div hx.finite hz hzero, hnx, hneg]
    rfl
  | true =>
    refine place_of_magnitude_eq_zero ?_
    have hnearest := nearestTo_div hx.finite hz hzero
    rw [hx.units_eq_zero hnx, Nat.zero_mul, Nat.cast_zero, zero_div] at hnearest
    exact hnearest.eq_zero

/-- **Quotients are in order** if what is divided is. -/
theorem NoMore.div (h : x.NoMore y) (hz : z.isFinite = true) (hneg : z.negative = false)
    (hzero : z.isZero = false) (hfinite : (y / z).isFinite = true) : (x / z).NoMore (y / z) := by
  have hnearest := nearestTo_div h.left.finite hz hzero
  have hnearest' := nearestTo_div h.right.finite hz hzero
  refine noMore_of_le (h.left.place_div hz hneg hzero) (h.right.place_div hz hneg hzero) hfinite
    (hnearest.monotone hnearest' ?_)
  have hunits : x.units * one ≤ y.units * one := Nat.mul_le_mul_right one h.units_le
  exact div_le_div_of_nonneg_right (Nat.cast_le.mpr hunits) (Nat.cast_nonneg _)

/-! ### Rounding to two places -/

theorem roundHalfUp_mono {num num' : Nat} (den : Nat) (h : num ≤ num') :
    roundHalfUp num den ≤ roundHalfUp num' den :=
  Nat.div_le_div_right (Nat.add_le_add_right (Nat.mul_le_mul_left 2 h) den)

theorem magnitude_ofNat_mono {m n : Nat} (h : m ≤ n) : (ofNat m).magnitude ≤ (ofNat n).magnitude :=
  (nearestTo_ofNat m).monotone (nearestTo_ofNat n) (Nat.cast_le.mpr (Nat.mul_le_mul_right one h))

theorem negative_roundHalfAway (hx : x.isFinite = true) :
    x.roundHalfAway.negative = x.negative := by
  have hround : x.roundHalfAway = ofRatio x.negative (roundHalfUp x.units one * one) 1 := if_pos hx
  rw [hround, negative_ofRatio]

/-- A rounded amount stands where its magnitude does. -/
theorem Amount.place_roundHalfAway (hx : x.Amount) :
    x.roundHalfAway.place = x.roundHalfAway.magnitude := by
  cases hneg : x.negative with
  | false => exact place_of_not_negative ((negative_roundHalfAway hx.finite).trans hneg)
  | true =>
    refine place_of_magnitude_eq_zero ?_
    have hwhole : roundHalfUp 0 one ≤ 0 := roundHalfUp_le oneUnits_pos (Nat.zero_le _)
    rw [magnitude_roundHalfAway hx.finite, hx.units_eq_zero hneg, Nat.le_zero.mp hwhole]
    have hnearest := nearestTo_ofNat 0
    rw [Nat.zero_mul, Nat.cast_zero] at hnearest
    exact hnearest.eq_zero

/-- **Rounded amounts are in order** if the amounts are. -/
theorem NoMore.roundHalfAway (h : x.NoMore y) (hfinite : y.roundHalfAway.isFinite = true) :
    x.roundHalfAway.NoMore y.roundHalfAway := by
  refine noMore_of_le h.left.place_roundHalfAway h.right.place_roundHalfAway hfinite ?_
  rw [magnitude_roundHalfAway h.left.finite, magnitude_roundHalfAway h.right.finite]
  exact magnitude_ofNat_mono (roundHalfUp_mono one h.units_le)

/-- Only what is finite is finite after it is divided. -/
theorem isFinite_of_div (hz : z.isFinite = true) (h : (x / z).isFinite = true) :
    x.isFinite = true := by
  by_contra hnot
  have hdiv : ¬(x / z).isFinite = true := by
    change ¬(Double.div x z).isFinite = true
    have hz' := not_isNaN_of_isFinite hz
    have hz'' := not_isInfinite_of_isFinite hz
    have hcases : x.isNaN = true ∨ x.isInfinite = true := by
      rw [isFinite_iff, not_lt] at hnot
      exact hnot.lt_or_eq.imp (fun hlt => decide_eq_true hlt) fun heq => decide_eq_true heq.symm
    rcases hcases with hnan | hinfinite
    · simp only [Double.div, hnan, Bool.true_or, if_true]
      decide
    · have hnan : x.isNaN = false := decide_eq_false (by have := of_decide_eq_true hinfinite; omega)
      simp only [Double.div, hnan, hz', hz'', hinfinite, Bool.or_self, Bool.false_eq_true, if_false,
        if_true]
      exact Bool.eq_false_iff.mp (decide_eq_false (Nat.lt_irrefl _))
  exact hdiv h

/-- Only what is finite is finite after it is rounded to two places. -/
theorem isFinite_of_twoPlaces (h : (twoPlaces x).isFinite = true) :
    (x * hundred).isFinite = true ∧ (x * hundred).roundHalfAway.isFinite = true := by
  have hrounded := isFinite_of_div isFinite_hundred h
  refine ⟨?_, hrounded⟩
  by_contra hnot
  have hsame : (x * hundred).roundHalfAway = x * hundred := if_neg hnot
  rw [hsame] at hrounded
  exact hnot hrounded

theorem negative_hundred : hundred.negative = false := negative_ofNat 100

theorem amount_hundred : hundred.Amount := amount_of_not_negative negative_hundred isFinite_hundred

/-- **Amounts that are rounded to two places are in order** if the amounts are. -/
theorem NoMore.twoPlaces (h : x.NoMore y) (hfinite : (twoPlaces y).isFinite = true) :
    (twoPlaces x).NoMore (twoPlaces y) := by
  obtain ⟨hproduct, hrounded⟩ := isFinite_of_twoPlaces hfinite
  have hscaled := h.mul amount_hundred.noMore_self hproduct
  exact (hscaled.roundHalfAway hrounded).div isFinite_hundred negative_hundred not_isZero_hundred
    hfinite

/-! ### Hundredths -/

/-- Up to a power of two, rounding is off by at most a part in `2 ^ 54` of it. -/
theorem NearestTo.abs_sub_le_part {q : ℚ} {m j : Nat} (h : NearestTo q m) (hj : j ≤ 1000)
    (hq : 0 ≤ q) (hle : q ≤ 2 ^ j * one) : |valueOf m - q| ≤ 2 ^ j * one / 2 ^ 54 := by
  obtain ⟨p, hp, hone⟩ := exists_one_eq
  obtain ⟨r, rfl⟩ : ∃ r, p = r + 53 := ⟨p - 53, by omega⟩
  have hpower : (2 : ℚ) ^ j * one = 2 ^ 53 * 2 ^ (r + j) := by
    rw [hone, Nat.pow_eq, Nat.cast_pow, Nat.cast_ofNat]
    ring
  rw [hpower] at hle ⊢
  refine (h.abs_sub_le (by omega) hq hle).trans (le_of_eq ?_)
  ring

theorem roundHalfUp_eq_of_near {num den k : Nat}
    (h : |(num : ℚ) - k * den| < den / 2) : roundHalfUp num den = k := by
  obtain ⟨hlower, hupper⟩ := abs_lt.mp h
  refine Nat.div_eq_of_lt_le ?_ ?_
  · have hle : ((k * (2 * den) : Nat) : ℚ) ≤ (2 * num + den : Nat) := by
      push_cast
      linarith
    exact Nat.cast_le.mp hle
  · have hlt : ((2 * num + den : Nat) : ℚ) < ((k + 1) * (2 * den) : Nat) := by
      push_cast
      linarith
    exact Nat.cast_lt.mp hlt

theorem decimalValue_hundredths (k : Nat) : decimalValue k (-2) = k * one / 100 := by
  rw [decimalValue, zpow_neg, div_eq_mul_inv]
  generalize (one : ℚ) = o
  norm_num
  ring

theorem negative_twoPlaces (hx : x.isFinite = true) (hfinite : (twoPlaces x).isFinite = true) :
    (twoPlaces x).negative = x.negative := by
  obtain ⟨hproduct, hrounded⟩ := isFinite_of_twoPlaces hfinite
  have hdiv := negative_div hrounded isFinite_hundred not_isZero_hundred
  rw [negative_roundHalfAway hproduct, negative_mul hx isFinite_hundred, negative_hundred,
    Bool.bne_false, Bool.bne_false] at hdiv
  exact hdiv

/-- A hundred times some hundredths are nearly their number: they are off by the rounding of the
hundredths and by that of the product. -/
theorem IsHundredths.product_near {k : Nat} (hk : k ≤ 10 ^ 15) (hfinite : x.isFinite = true)
    (hnearest : NearestTo (decimalValue k (-2)) x.magnitude) :
    (x * hundred).isFinite = true ∧ |((x * hundred).units : ℚ) - k * one| < one / 2 := by
  have hone := cast_one_pos
  have hcast : (k : ℚ) ≤ 10 ^ 15 := by exact_mod_cast hk
  have hvalue : (k : ℚ) * one ≤ 10 ^ 15 * one := mul_le_mul_of_nonneg_right hcast hone.le
  have hzero : (0 : ℚ) ≤ k * one := mul_nonneg (Nat.cast_nonneg k) hone.le
  rw [decimalValue_hundredths] at hnearest
  -- `10 ^ 13` is below `2 ^ 44`, so hundredths are off by less than a part in `2 ^ 10` of one
  have hoff := abs_le.mp (hnearest.abs_sub_le_part (j := 44) (by decide) (by linarith)
    (by linarith))
  have hproduct := nearestTo_mul hfinite isFinite_hundred
  have hexact : ((x.units * hundred.units : Nat) : ℚ) / one = 100 * valueOf x.magnitude := by
    rw [units_hundred, Nat.cast_mul, Nat.cast_mul, ← mul_assoc, mul_div_assoc,
      div_self hone.ne', mul_one, mul_comm]
    rfl
  rw [hexact] at hproduct
  -- and a hundred times them is below `2 ^ 51`, so the product is off by an eighth of one more
  have hoff' := abs_le.mp (hproduct.abs_sub_le_part (j := 51) (by decide)
    (mul_nonneg (by norm_num) (Nat.cast_nonneg _)) (by linarith))
  constructor
  · refine isFinite_iff.mpr (hproduct.lt_infinity (le_trans ?_
      (Nat.cast_le.mpr (ten_pow_mul_one_le (n := 16) (by decide)))))
    push_cast
    linarith
  · change |valueOf (x * hundred).magnitude - k * one| < one / 2
    refine abs_lt.mpr ⟨?_, ?_⟩ <;> linarith

/-- **Hundredths stay what they are** when they are rounded to two places. -/
theorem IsHundredths.twoPlaces_eq (h : x.IsHundredths) : twoPlaces x = x := by
  have hx := h.isFinite
  obtain ⟨k, hk, hnearest⟩ := h
  obtain ⟨hproduct, hnear⟩ := IsHundredths.product_near hk hx hnearest
  have hwhole := roundHalfUp_eq_of_near hnear
  have hmagnitude := (nearestTo_twoPlaces hproduct hwhole hk).unique hnearest
  have hfinite : (twoPlaces x).isFinite = true := by
    rw [isFinite_iff, hmagnitude]
    exact isFinite_iff.mp hx
  exact Double.ext_iff.mpr ⟨negative_twoPlaces hx hfinite, hmagnitude⟩

end Double

end HttpLoad
