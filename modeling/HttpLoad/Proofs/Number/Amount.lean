import HttpLoad.Proofs.Number.Steps

/-!
# Amounts

Finite doubles that are not below zero. Sums and products of amounts are exact, rounded once, and so
is the difference to a smaller one. Whole parts are exact, and so is what an amount exceeds its
whole part by.

## Main definitions

* `Double.Amount`: a finite double that is not below zero

## Main results

* `Amount.nearestTo_add`, `Amount.place_mul`, `nearestTo_sub`: results of arithmetic on amounts
* `floor_eq_ofNat`, `ceil_eq_ofNat`: the whole numbers around an amount
* `exists_units_mod`: the fraction of an amount is an amount
-/

namespace HttpLoad

namespace Double

/-- **An amount**: a finite double that is not below zero. The negative zero is one. -/
structure Amount (x : Double) : Prop where
  finite : x.isFinite = true
  nonneg : 0 ≤ x.place

variable {x y : Double}

theorem place_of_magnitude_eq_zero (h : x.magnitude = 0) : x.place = x.magnitude := by
  simp [place, h]

theorem place_of_not_negative (h : x.negative = false) : x.place = x.magnitude := by
  simp [place, h]

theorem amount_zero : zero.Amount := ⟨rfl, le_rfl⟩

/-- What is below zero in sign only is zero. -/
theorem Amount.magnitude_eq_zero (hx : x.Amount) (hneg : x.negative = true) : x.magnitude = 0 := by
  have h := hx.nonneg
  simp only [place, hneg, if_true] at h
  omega

theorem Amount.units_eq_zero (hx : x.Amount) (hneg : x.negative = true) : x.units = 0 := by
  rw [units, hx.magnitude_eq_zero hneg]
  rfl

theorem Amount.place_eq (hx : x.Amount) : x.place = x.magnitude := by
  cases hneg : x.negative with
  | false => exact place_of_not_negative hneg
  | true => exact place_of_magnitude_eq_zero (hx.magnitude_eq_zero hneg)

theorem Amount.signedUnits_eq (hx : x.Amount) : x.signedUnits = x.units := by
  cases hneg : x.negative with
  | false => simp [signedUnits, hneg]
  | true => simp [signedUnits, hneg, hx.units_eq_zero hneg]

/-- A double without a sign is an amount if it is finite. -/
theorem amount_of_not_negative (hneg : x.negative = false) (hfinite : x.isFinite = true) :
    x.Amount where
  finite := hfinite
  nonneg := by
    rw [place_of_not_negative hneg]
    exact Int.natCast_nonneg _

theorem NearestTo.eq_zero {m : Nat} (h : NearestTo 0 m) : m = 0 :=
  h.unique (nearestTo_zero (by norm_num))

/-! ## Arithmetic -/

theorem cast_one_pos : (0 : ℚ) < one := Nat.cast_pos.mpr oneUnits_pos

/-- A sum that is not below zero is rounded once. It has a sign only if it is zero, and only if both
terms have one. -/
theorem add_of_sum {n : Nat} (hx : x.isFinite = true) (hy : y.isFinite = true)
    (hsum : x.signedUnits + y.signedUnits = n) : NearestTo n (x + y).magnitude ∧
      ((x + y).negative = true → n = 0 ∧ x.negative = true ∧ y.negative = true) := by
  have hadd : x + y = if (n : Int) = 0 then ⟨x.negative && y.negative, 0, by decide⟩
      else ofRatio (decide ((n : Int) < 0)) (n : Int).natAbs 1 := by
    change Double.add x y = _
    unfold Double.add
    simp only [not_isNaN_of_isFinite hx, not_isNaN_of_isFinite hy, not_isInfinite_of_isFinite hx,
      not_isInfinite_of_isFinite hy, Bool.or_self, Bool.false_eq_true, if_false, hsum]
  rw [hadd]
  split
  next hzero =>
    have hzero : n = 0 := by exact_mod_cast hzero
    refine ⟨?_, fun hneg => ⟨hzero, Bool.and_eq_true_iff.mp hneg⟩⟩
    rw [hzero]
    exact nearestTo_zero (by norm_num)
  next =>
    constructor
    · have h := nearestTo_ofRatio (decide ((n : Int) < 0)) (n : Int).natAbs Nat.one_pos
      rw [Nat.cast_one, div_one, Int.natAbs_natCast] at h
      exact h
    · rw [negative_ofRatio]
      intro hneg
      have hlt := of_decide_eq_true hneg
      omega

/-- **A sum of amounts is rounded once.** -/
theorem Amount.nearestTo_add (hx : x.Amount) (hy : y.Amount) :
    NearestTo (x.units + y.units : Nat) (x + y).magnitude ∧ (x + y).place = (x + y).magnitude := by
  have hsum : x.signedUnits + y.signedUnits = (x.units + y.units : Nat) := by
    rw [hx.signedUnits_eq, hy.signedUnits_eq, Int.natCast_add]
  obtain ⟨hnearest, hsign⟩ := add_of_sum hx.finite hy.finite hsum
  refine ⟨hnearest, ?_⟩
  cases hneg : (x + y).negative with
  | false => exact place_of_not_negative hneg
  | true =>
    rw [(hsign hneg).1, Nat.cast_zero] at hnearest
    exact place_of_magnitude_eq_zero hnearest.eq_zero

/-- A product of amounts stands where its magnitude does. -/
theorem Amount.place_mul (hx : x.Amount) (hy : y.Amount) : (x * y).place = (x * y).magnitude := by
  have hzero : x.units * y.units = 0 → (x * y).magnitude = 0 := by
    intro h
    have hnearest := nearestTo_mul hx.finite hy.finite
    rw [h, Nat.cast_zero, zero_div] at hnearest
    exact hnearest.eq_zero
  cases hnx : x.negative with
  | true => exact place_of_magnitude_eq_zero (hzero (by rw [hx.units_eq_zero hnx, Nat.zero_mul]))
  | false =>
    cases hny : y.negative with
    | true => exact place_of_magnitude_eq_zero (hzero (by rw [hy.units_eq_zero hny, Nat.mul_zero]))
    | false =>
      refine place_of_not_negative ?_
      rw [negative_mul hx.finite hy.finite, hnx, hny]
      rfl

/-- A part of an amount is an amount. -/
theorem Amount.mul_of_le_one (hx : x.Amount) (hy : y.Amount) (hle : y.units ≤ one) :
    (x * y).Amount where
  finite := by
    refine isFinite_iff.mpr (Nat.lt_of_le_of_lt ?_ (isFinite_iff.mp hx.finite))
    refine (nearestTo_mul hx.finite hy.finite).le_of_le (isFinite_iff.mp hx.finite).le ?_
    rw [div_le_iff₀ cast_one_pos, Nat.cast_mul]
    exact mul_le_mul_of_nonneg_left (Nat.cast_le.mpr hle) (Nat.cast_nonneg _)
  nonneg := by
    rw [hx.place_mul hy]
    exact Int.natCast_nonneg _

/-- **The difference to a smaller amount is rounded once.** -/
theorem nearestTo_sub (hx : x.isFinite = true) (hy : y.isFinite = true) (hnx : x.negative = false)
    (hny : y.negative = false) (hle : y.units ≤ x.units) :
    NearestTo (x.units - y.units : Nat) (x - y).magnitude ∧ (x - y).negative = false := by
  have hsum : x.signedUnits + (-y).signedUnits = (x.units - y.units : Nat) := by
    have hneg : (-y).signedUnits = -(y.units : Int) := by
      change (if (!y.negative) = true then -(y.units : Int) else y.units) = _
      rw [hny]
      rfl
    have hpos : x.signedUnits = x.units := by simp [signedUnits, hnx]
    rw [hneg, hpos]
    omega
  obtain ⟨hnearest, hsign⟩ := add_of_sum (y := -y) hx hy hsum
  refine ⟨hnearest, ?_⟩
  cases hneg : (x - y).negative with
  | false => rfl
  | true => exact absurd (hnx.symm.trans (hsign hneg).2.1) (by simp)

/-! ## Whole numbers -/

theorem isNaN_ofNat (n : Nat) : (ofNat n).isNaN = false :=
  decide_eq_false (Nat.not_lt.mpr (nearestTo_ofNat n).mem)

theorem negative_ofNat (n : Nat) : (ofNat n).negative = false := negative_ofRatio ..

/-- **The whole part of an amount.** -/
theorem floor_eq_ofNat (hx : x.isFinite = true) (hneg : x.negative = false) :
    x.floor = ofNat (x.units / one) := by
  simp only [floor, mapWhole, ofNat, hx, hneg, Bool.false_eq_true, if_true, if_false]

theorem ceil_eq_ofNat (hx : x.isFinite = true) (hneg : x.negative = false) :
    x.ceil = ofNat ((x.units + (one - 1)) / one) := by
  simp only [ceil, mapWhole, ofNat, hx, hneg, Bool.false_eq_true, if_true, if_false]

section

variable {n k : Nat} (hn : n ≤ 2 ^ 53)
include hn

theorem units_ofNat : (ofNat n).units = n * one := representable_of_le hn

theorem isFinite_ofNat_of_le_two_pow : (ofNat n).isFinite = true :=
  isFinite_ofNat (k := 16) (by decide) (hn.trans (by decide))

/-- Whole numbers are compared as such. -/
theorem sameValue_ofNat_iff (hk : k ≤ 2 ^ 53) : (ofNat n).sameValue (ofNat k) = true ↔ n = k := by
  constructor
  · intro h
    simp only [sameValue, isNaN_ofNat, Bool.not_false, Bool.true_and, decide_eq_true_eq] at h
    rw [place_of_not_negative (negative_ofNat n), place_of_not_negative (negative_ofNat k)] at h
    have hmagnitude : (ofNat n).magnitude = (ofNat k).magnitude := by exact_mod_cast h
    have hunits : (ofNat n).units = (ofNat k).units := congrArg unitsOf hmagnitude
    rw [units_ofNat hn, units_ofNat hk] at hunits
    exact Nat.eq_of_mul_eq_mul_right oneUnits_pos hunits
  · rintro rfl
    simp [sameValue, isNaN_ofNat]

theorem truncate_of_units_le (hx : x.isFinite = true) (hneg : x.negative = false)
    (hle : x.units ≤ n * one) : x.truncate = x.units / one := by
  have hquotient : x.units / one ≤ n := Nat.div_le_of_le_mul (by rwa [Nat.mul_comm])
  rw [truncate, not_isNaN_of_isFinite hx, not_isInfinite_of_isFinite hx, hneg]
  refine (if_neg (by simp)).trans ((if_neg (by simp)).trans (Nat.min_eq_right ?_))
  exact hquotient.trans (hn.trans (by decide))

theorem truncate_ofNat : (ofNat n).truncate = n := by
  have hunits := units_ofNat hn
  rw [truncate_of_units_le hn (isFinite_ofNat_of_le_two_pow hn) (negative_ofNat n) hunits.le,
    hunits, Nat.mul_div_cancel _ oneUnits_pos]

end

/-- **What an amount exceeds its whole part by** is the value of a magnitude: it has no more places
than the amount. -/
theorem exists_units_mod (m : Nat) : ∃ c ≤ infinityMagnitude, unitsOf c = unitsOf m % one := by
  obtain ⟨s, w, -, hw, -, hm⟩ := exists_parts m
  obtain ⟨p, hp, hone⟩ := exists_one_eq
  rcases Nat.lt_or_ge p s with hlt | hle
  · refine ⟨0, Nat.zero_le _, ?_⟩
    obtain ⟨r, rfl⟩ := Nat.exists_eq_add_of_le hlt.le
    rw [hm, hone, Nat.pow_eq, pow_add, mul_comm (2 ^ p), ← mul_assoc, Nat.mul_mod_left]
    rfl
  · obtain ⟨r, rfl⟩ := Nat.exists_eq_add_of_le hle
    obtain ⟨c, hc, hvalue⟩ := exists_valueOf_eq s (j := w % 2 ^ r)
      ((Nat.mod_le _ _).trans hw.le)
    have hinfinity : infinityMagnitude = 2047 * 2 ^ 52 := rfl
    refine ⟨c, by omega, ?_⟩
    have hunits : unitsOf c = w % 2 ^ r * 2 ^ s := by
      unfold valueOf at hvalue
      exact_mod_cast hvalue
    rw [hunits, hm, hone, Nat.pow_eq, pow_add, mul_comm (2 ^ s), Nat.mul_mod_mul_right]

end Double

end HttpLoad
