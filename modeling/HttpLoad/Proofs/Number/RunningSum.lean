import Mathlib.Algebra.BigOperators.Group.List.Basic
import Mathlib.Algebra.GroupWithZero.Nat
import HttpLoad.Proofs.Number.Order

/-!
# Running sums of amounts

Amounts are added from left to right, and every sum is rounded before the next amount is added. Each
rounding is off by at most the unit roundoff of the sum, so the errors add up with the number of
amounts. Still a sum of `n` amounts is not below the `n`-fold of their least one if the multiples of
that are doubles, for then rounding cannot pass them; and so it is for the greatest one.

## Main definitions

* `Double.unitRoundoff`: how far rounding goes, in proportion
* `Double.unitsSum xs`: the exact sum
* `Double.Multiplies x n`: the multiples of `x` up to the `n`-fold are values of doubles

## Main results

* `NearestTo.near_ratio`, `NearestTo.near_nat`: how far a quotient and a whole number are rounded
* `foldl_add_near`: a running sum is near the exact one
* `mul_le_foldl_add`, `foldl_add_le_mul`: multiples that a running sum does not pass
-/

namespace HttpLoad

namespace Double

variable {x y : Double}

/-! ## Rounding in proportion -/

theorem valueOf_infinityMagnitude : valueOf infinityMagnitude = 2 ^ 52 * 2 ^ 2046 := by
  have hparts : infinityMagnitude = 2046 * 2 ^ 52 + 2 ^ 52 := rfl
  rw [hparts, valueOf, unitsOf_parts (by decide) (.inr le_rfl), Nat.cast_mul, Nat.cast_pow,
    Nat.cast_pow, Nat.cast_ofNat]

/-- What is rounded to a finite magnitude is below infinity. -/
theorem NearestTo.lt_valueOf_infinity {q : ℚ} {m : Nat} (h : NearestTo q m)
    (hm : m < infinityMagnitude) : q < valueOf infinityMagnitude := by
  have hmiddle := h.le_middle hm
  have hbefore := valueOf_strictMono hm
  have hnext : valueOf (m + 1) ≤ valueOf infinityMagnitude := valueOf_strictMono.monotone hm
  linarith

/-- **The unit roundoff**: the part of a number that rounding is off by at most. -/
def unitRoundoff : ℚ := 1 / 2 ^ 53

theorem unitRoundoff_pos : 0 < unitRoundoff := by
  rw [unitRoundoff]
  positivity

theorem one_sub_unitRoundoff_nonneg : 0 ≤ 1 - unitRoundoff := by
  rw [unitRoundoff]
  norm_num

/-- **How far a quotient is rounded**: by at most half a unit, or by the unit roundoff of it. -/
theorem NearestTo.near_ratio {num den m : Nat} (hden : 0 < den) (h : NearestTo (num / den) m)
    (hm : m < infinityMagnitude) :
    |valueOf m - num / den| ≤ 1 / 2 ∧ num < 2 ^ 53 * den ∨
      |valueOf m - num / den| ≤ num / den * unitRoundoff := by
  have hbelow := h.lt_valueOf_infinity hm
  obtain ⟨hless, hshift⟩ := shiftOf_bounds num hden
  generalize shiftOf num den = s at *
  have hden' : (0 : ℚ) < den := Nat.cast_pos.mpr hden
  have hupper : (num / den : ℚ) ≤ 2 ^ 53 * 2 ^ s := by
    rw [div_le_iff₀ hden']
    have hcast : ((num : Nat) : ℚ) ≤ ((2 ^ 53 * (den * 2 ^ s) : Nat) : ℚ) :=
      Nat.cast_le.mpr hless.le
    push_cast at hcast
    linarith
  have hzero : (0 : ℚ) ≤ num / den := div_nonneg (Nat.cast_nonneg _) hden'.le
  rcases hshift with rfl | hshift
  · refine .inl ⟨?_, by simpa using hless⟩
    exact (h.abs_sub_le (s := 0) (by decide) hzero hupper).trans_eq (by rw [pow_zero])
  · -- a shifted quotient has 53 places, and half a step is a part in `2 ^ 53` of the least one
    have hlower : (2 ^ 52 * 2 ^ s : ℚ) ≤ num / den := by
      rw [le_div_iff₀ hden']
      have hcast : ((2 ^ 52 * (den * 2 ^ s) : Nat) : ℚ) ≤ ((num : Nat) : ℚ) :=
        Nat.cast_le.mpr hshift
      push_cast at hcast
      linarith
    have hs : s < 2046 := by
      rw [valueOf_infinityMagnitude] at hbelow
      have hpow : (2 : ℚ) ^ s < 2 ^ 2046 := by
        have hlt : (2 ^ 52 * 2 ^ s : ℚ) < 2 ^ 52 * 2 ^ 2046 := hlower.trans_lt hbelow
        exact lt_of_mul_lt_mul_left hlt (by positivity)
      exact (pow_lt_pow_iff_right₀ (by norm_num)).mp hpow
    refine .inr ((h.abs_sub_le (by omega) hzero hupper).trans ?_)
    rw [unitRoundoff, mul_one_div, le_div_iff₀ (by positivity)]
    linarith

/-- **How far a whole number of units is rounded**: by at most the unit roundoff of it. -/
theorem NearestTo.near_nat {n m : Nat} (h : NearestTo n m) (hm : m < infinityMagnitude) :
    |valueOf m - n| ≤ n * unitRoundoff := by
  have hratio : NearestTo ((n : ℚ) / (1 : Nat)) m := by rwa [Nat.cast_one, div_one]
  rcases hratio.near_ratio Nat.one_pos hm with ⟨-, hless⟩ | hnear
  · rw [Nat.mul_one] at hless
    have hvalue : valueOf n = n := by rw [valueOf, unitsOf_of_lt hless]
    have hmem : n ≤ infinityMagnitude := hless.le.trans (by decide)
    have hsame : m = n := h.unique (hvalue ▸ nearestTo_valueOf hmem)
    rw [hsame, hvalue, sub_self, abs_zero]
    exact mul_nonneg (Nat.cast_nonneg _) unitRoundoff_pos.le
  · rwa [Nat.cast_one, div_one] at hnear

/-! ## Sums of amounts -/

/-- Only finite terms have a finite sum. -/
theorem isFinite_of_add (h : (x + y).isFinite = true) : x.isFinite = true := by
  by_contra hx
  have hadd : ¬(x + y).isFinite = true := by
    change ¬(Double.add x y).isFinite = true
    have hcases : x.isNaN = true ∨ x.isInfinite = true := by
      rw [isFinite_iff, not_lt] at hx
      exact hx.lt_or_eq.imp (fun hlt => decide_eq_true hlt) fun heq => decide_eq_true heq.symm
    rcases hcases with hnan | hinfinite
    · simp only [Double.add, hnan, Bool.true_or, if_true]
      decide
    · simp only [Double.add, hinfinite, if_true]
      split
      · decide
      · split
        · decide
        · exact hx
  exact hadd h

/-- A finite sum of amounts is an amount. -/
theorem Amount.add (hx : x.Amount) (hy : y.Amount) (hfinite : (x + y).isFinite = true) :
    (x + y).Amount :=
  ⟨hfinite, (hx.nearestTo_add hy).2 ▸ Int.natCast_nonneg _⟩

/-- A sum of amounts has a sign only if both terms have one. -/
theorem Amount.negative_add (hx : x.Amount) (hy : y.Amount) :
    (x + y).negative = (x.negative && y.negative) := by
  have hsum : x.signedUnits + y.signedUnits = (x.units + y.units : Nat) := by
    rw [hx.signedUnits_eq, hy.signedUnits_eq, Int.natCast_add]
  have hsign := (add_of_sum hx.finite hy.finite hsum).2
  cases hneg : (x + y).negative with
  | true => rw [(hsign hneg).2.1, (hsign hneg).2.2]; rfl
  | false =>
    by_contra hboth
    obtain ⟨hnx, hny⟩ := Bool.and_eq_true_iff.mp (Bool.eq_true_of_not_eq_false (Ne.symm hboth))
    have hx' : x = negativeZero := Double.ext_iff.mpr ⟨hnx, hx.magnitude_eq_zero hnx⟩
    have hy' : y = negativeZero := Double.ext_iff.mpr ⟨hny, hy.magnitude_eq_zero hny⟩
    rw [hx', hy'] at hneg
    exact absurd hneg (by decide)

/-- **The exact sum** of amounts, in units. -/
def unitsSum (xs : List Double) : Nat := (xs.map units).sum

theorem unitsSum_cons (x : Double) (xs : List Double) :
    unitsSum (x :: xs) = x.units + unitsSum xs := rfl

/-- A running sum is finite if the last one is. -/
theorem isFinite_of_foldl_add {xs : List Double} {sum : Double}
    (h : (xs.foldl (· + ·) sum).isFinite = true) : sum.isFinite = true := by
  induction xs generalizing sum with
  | nil => exact h
  | cons x xs ih => exact isFinite_of_add (ih h)

/-! ## How far a running sum goes -/

/-- **One more amount**: the sum is rounded by at most the unit roundoff of it. -/
theorem Amount.add_near (hx : x.Amount) (hy : y.Amount) (hfinite : (x + y).isFinite = true) :
    (1 - unitRoundoff) * ((x.units : ℚ) + y.units) ≤ (x + y).units ∧
      ((x + y).units : ℚ) ≤ (1 + unitRoundoff) * ((x.units : ℚ) + y.units) := by
  have hnear := (hx.nearestTo_add hy).1.near_nat (isFinite_iff.mp hfinite)
  change |((x + y).units : ℚ) - _| ≤ _ at hnear
  rw [Nat.cast_add] at hnear
  obtain ⟨hlower, hupper⟩ := abs_le.mp hnear
  constructor <;> linarith

/-- **A running sum is near the exact one**, by induction on the amounts that are added. -/
theorem foldl_add_near {xs : List Double} {sum : Double} (hsum : sum.Amount)
    (hxs : ∀ x ∈ xs, x.Amount) (hfinite : (xs.foldl (· + ·) sum).isFinite = true) :
    (xs.foldl (· + ·) sum).Amount ∧
      (1 - unitRoundoff) ^ xs.length * ((sum.units : ℚ) + unitsSum xs) ≤
        (xs.foldl (· + ·) sum).units ∧
      ((xs.foldl (· + ·) sum).units : ℚ) ≤
        (1 + unitRoundoff) ^ xs.length * ((sum.units : ℚ) + unitsSum xs) := by
  induction xs generalizing sum with
  | nil =>
    refine ⟨hsum, ?_, ?_⟩ <;> simp [unitsSum]
  | cons x xs ih =>
    have hx : x.Amount := hxs x List.mem_cons_self
    have hnext : (sum + x).isFinite = true := isFinite_of_foldl_add hfinite
    obtain ⟨hlower, hupper⟩ := hsum.add_near hx hnext
    obtain ⟨hamount, hleast, hgreatest⟩ := ih (hsum.add hx hnext)
      (fun y hy => hxs y (List.mem_cons_of_mem _ hy)) hfinite
    have hrest : (0 : ℚ) ≤ unitsSum xs := Nat.cast_nonneg _
    have hpart := mul_nonneg hrest unitRoundoff_pos.le
    -- the rounding of this sum is charged to the amounts that are still to come as well
    rw [List.length_cons, pow_succ, mul_assoc, pow_succ, mul_assoc, unitsSum_cons, Nat.cast_add]
    refine ⟨hamount, le_trans ?_ hleast, hgreatest.trans ?_⟩
    · refine mul_le_mul_of_nonneg_left ?_ (pow_nonneg one_sub_unitRoundoff_nonneg _)
      linarith
    · have hfactor : 0 ≤ 1 + unitRoundoff := by linarith [unitRoundoff_pos]
      refine mul_le_mul_of_nonneg_left ?_ (pow_nonneg hfactor _)
      linarith

/-! ## Multiples that are doubles -/

/-- **The multiples of a double are values of doubles**, up to the `n`-fold. -/
def Multiplies (x : Double) (n : Nat) : Prop := ∀ k ≤ n, ∃ m, unitsOf m = k * x.units

/-- The multiples of a shifted number are doubles as long as the number has 53 places. -/
theorem multiplies_of_units {whole shift n : Nat} (hx : x.units = whole * 2 ^ shift)
    (hn : n * whole ≤ 2 ^ 53) : x.Multiplies n := by
  intro k hk
  obtain ⟨m, -, hm⟩ := exists_valueOf_eq shift ((Nat.mul_le_mul_right whole hk).trans hn)
  refine ⟨m, ?_⟩
  have hcast : ((unitsOf m : Nat) : ℚ) = ((k * x.units : Nat) : ℚ) := by
    change valueOf m = _
    rw [hm, hx]
    push_cast
    ring
  exact Nat.cast_injective hcast

/-- Twice a double is a double, but for the range of exponents. -/
theorem multiplies_two (x : Double) : x.Multiplies 2 := by
  obtain ⟨shift, whole, -, hwhole, -, hunits⟩ := exists_parts x.magnitude
  intro k hk
  rcases Nat.lt_or_eq_of_le hk with hlt | rfl
  · exact multiplies_of_units (n := 1) hunits (by omega) k (Nat.le_of_lt_succ hlt)
  · obtain ⟨m, -, hm⟩ := exists_valueOf_eq (shift + 1) hwhole.le
    refine ⟨m, ?_⟩
    have hcast : ((unitsOf m : Nat) : ℚ) = ((2 * x.units : Nat) : ℚ) := by
      change valueOf m = _
      rw [hm, units, hunits]
      push_cast
      ring
    exact Nat.cast_injective hcast

/-- A finite sum is not below a value of a magnitude that the exact sum is not below. -/
theorem NearestTo.unitsOf_le {n m c : Nat} (h : NearestTo n m) (hm : m < infinityMagnitude)
    (hc : unitsOf c ≤ n) : unitsOf c ≤ unitsOf m := by
  refine unitsOf_strictMono.monotone (h.ge_of_ge ?_ (Nat.cast_le.mpr hc))
  by_contra hbeyond
  have hvalue := valueOf_strictMono (Nat.not_le.mp hbeyond)
  have hbelow := h.lt_valueOf_infinity hm
  have hcast : valueOf c ≤ n := Nat.cast_le.mpr hc
  linarith

/-- A finite sum is not above a value of a magnitude that the exact sum is not above. -/
theorem NearestTo.le_unitsOf {n m c : Nat} (h : NearestTo n m) (hm : m < infinityMagnitude)
    (hc : n ≤ unitsOf c) : unitsOf m ≤ unitsOf c := by
  rcases le_or_gt c infinityMagnitude with hle | hgt
  · exact unitsOf_strictMono.monotone (h.le_of_le hle (Nat.cast_le.mpr hc))
  · exact unitsOf_strictMono.monotone (hm.trans hgt).le

/-- **A running sum does not fall below the multiples** of an amount that none of its amounts is
below. -/
theorem mul_le_foldl_add {xs : List Double} {least sum : Double} {k : Nat} (hsum : sum.Amount)
    (hk : k * least.units ≤ sum.units) (hxs : ∀ x ∈ xs, x.Amount ∧ least.units ≤ x.units)
    (hmultiples : least.Multiplies (k + xs.length))
    (hfinite : (xs.foldl (· + ·) sum).isFinite = true) :
    (k + xs.length) * least.units ≤ (xs.foldl (· + ·) sum).units := by
  induction xs generalizing sum k with
  | nil => exact hk
  | cons x xs ih =>
    obtain ⟨hx, hleast⟩ := hxs x List.mem_cons_self
    have hnext : (sum + x).isFinite = true := isFinite_of_foldl_add hfinite
    rw [List.length_cons, Nat.add_comm xs.length, ← Nat.add_assoc] at hmultiples ⊢
    refine ih (hsum.add hx hnext) ?_ (fun y hy => hxs y (List.mem_cons_of_mem _ hy)) hmultiples
      hfinite
    obtain ⟨m, hm⟩ := hmultiples (k + 1) (Nat.le_add_right _ _)
    rw [← hm]
    refine (hsum.nearestTo_add hx).1.unitsOf_le (isFinite_iff.mp hnext) ?_
    rw [hm, Nat.add_mul, Nat.one_mul]
    exact Nat.add_le_add hk hleast

/-- **A running sum does not rise above the multiples** of an amount that none of its amounts is
above. -/
theorem foldl_add_le_mul {xs : List Double} {greatest sum : Double} {k : Nat} (hsum : sum.Amount)
    (hk : sum.units ≤ k * greatest.units) (hxs : ∀ x ∈ xs, x.Amount ∧ x.units ≤ greatest.units)
    (hmultiples : greatest.Multiplies (k + xs.length))
    (hfinite : (xs.foldl (· + ·) sum).isFinite = true) :
    (xs.foldl (· + ·) sum).units ≤ (k + xs.length) * greatest.units := by
  induction xs generalizing sum k with
  | nil => exact hk
  | cons x xs ih =>
    obtain ⟨hx, hgreatest⟩ := hxs x List.mem_cons_self
    have hnext : (sum + x).isFinite = true := isFinite_of_foldl_add hfinite
    rw [List.length_cons, Nat.add_comm xs.length, ← Nat.add_assoc] at hmultiples ⊢
    refine ih (hsum.add hx hnext) ?_ (fun y hy => hxs y (List.mem_cons_of_mem _ hy)) hmultiples
      hfinite
    obtain ⟨m, hm⟩ := hmultiples (k + 1) (Nat.le_add_right _ _)
    rw [← hm]
    refine (hsum.nearestTo_add hx).1.le_unitsOf (isFinite_iff.mp hnext) ?_
    rw [hm, Nat.add_mul, Nat.one_mul]
    exact Nat.add_le_add hk hgreatest

end Double

end HttpLoad
