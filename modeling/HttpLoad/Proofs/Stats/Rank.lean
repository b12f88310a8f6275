import HttpLoad.Proofs.Number.Amount
import HttpLoad.Stats.Basic

/-!
# Ranks in the arithmetic of doubles

The position of a percentile is a product that is rounded twice, but it never leaves the samples,
and a greater percentile has no lesser position. The samples around a position are found exactly.
Of the two weights the upper one is exact, and the lower one is rounded once.

## Main definitions

* `Rank.positionUnits n p`: the position of a percentile among `n` samples
* `Rank.Weighted i u lower upper`: the weights of the samples `i` and `i + 1` at a position
* `Rank.StandsAt r u`: a rank is that of a position

## Main results

* `Rank.standsAt_of`: every percentile has the rank of its position
* `Rank.positionUnits_le`, `Rank.positionUnits_mono`: positions are those of samples, and in order
-/

namespace HttpLoad

namespace Rank

open Double

/-- **The position of a percentile** among `n` samples, in the units of doubles. -/
def positionUnits (n : Nat) (p : Double) : Nat :=
  if p.atMost (Double.ofNat 0) then 0
  else if (Double.ofNat 100).atMost p then (n - 1) * one
  else (position n p).units

/-- **The weights of two samples around a position make one**, up to a part in `2 ^ 54`. The upper
one is exact. -/
structure Weighted (i u : Nat) (lower upper : Double) : Prop where
  position : i * one + upper.units = u
  lower_amount : lower.Amount
  upper_amount : upper.Amount
  lower_le_one : lower.units ≤ one
  upper_le_one : upper.units ≤ one
  rest : |(lower.units : ℚ) - (one - upper.units)| ≤ one / 2 ^ 54

/-- **A rank is that of a position** of so many units: on the sample there, or between the two
samples around it, with their distances as weights. -/
inductive StandsAt : Rank Double → Nat → Prop
  | on (i : Nat) : StandsAt (.on i) (i * one)
  | between {i u : Nat} {lower upper : Double} (hfrom : i * one < u) (hto : u < (i + 1) * one)
    (hweighted : Weighted i u lower upper) : StandsAt (.between i (i + 1) lower upper) u

/-! ## Positions -/

section

variable {p q : Double} {n : Nat}

theorem position_eq (n : Nat) (p : Double) :
    position n p = Double.ofNat (n - 1) * (p / Double.ofNat 100) := rfl

theorem atMost_eq_false_iff {x y : Double} (hx : x.isNaN = false) (hy : y.isNaN = false) :
    x.atMost y = false ↔ y.place < x.place := by
  simp [atMost, hx, hy]

theorem atMost_iff {x y : Double} :
    x.atMost y = true ↔ x.isNaN = false ∧ y.isNaN = false ∧ x.place ≤ y.place := by
  simp [atMost, and_assoc]

theorem atMost_trans {x y z : Double} (hxy : x.atMost y = true) (hyz : y.atMost z = true) :
    x.atMost z = true := by
  obtain ⟨hx, -, hle⟩ := atMost_iff.mp hxy
  obtain ⟨-, hz, hle'⟩ := atMost_iff.mp hyz
  exact atMost_iff.mpr ⟨hx, hz, hle.trans hle'⟩

theorem place_ofNat (n : Nat) : (Double.ofNat n).place = (Double.ofNat n).magnitude :=
  place_of_not_negative (negative_ofNat n)

theorem ofNat_atMost {m n : Nat} (h : m ≤ n) : (Double.ofNat m).atMost (Double.ofNat n) = true := by
  refine atMost_iff.mpr ⟨isNaN_ofNat m, isNaN_ofNat n, ?_⟩
  rw [place_ofNat, place_ofNat]
  have hle : ((m * one : Nat) : ℚ) ≤ (n * one : Nat) := Nat.cast_le.mpr (Nat.mul_le_mul_right _ h)
  exact_mod_cast (nearestTo_ofNat m).monotone (nearestTo_ofNat n) hle

/-- A percentile between zero and a hundred. -/
structure Inside (p : Double) : Prop where
  finite : p.isFinite = true
  not_negative : p.negative = false
  units_le : p.units ≤ 100 * one

theorem inside_of (hp : p.isNaN = false) (hzero : p.atMost (Double.ofNat 0) = false)
    (hhundred : (Double.ofNat 100).atMost p = false) : Inside p := by
  rw [atMost_eq_false_iff hp (isNaN_ofNat 0), place_ofNat] at hzero
  rw [atMost_eq_false_iff (isNaN_ofNat 100) hp, place_ofNat] at hhundred
  have hneg : p.negative = false := by
    cases hneg : p.negative with
    | false => rfl
    | true =>
      simp only [place, hneg, if_true] at hzero
      omega
  rw [place_of_not_negative hneg] at hhundred
  have hlt : p.magnitude < (Double.ofNat 100).magnitude := by exact_mod_cast hhundred
  refine ⟨isFinite_iff.mpr (hlt.trans_le (nearestTo_ofNat 100).mem), hneg, ?_⟩
  rw [← units_ofNat (n := 100) (by decide)]
  exact unitsOf_strictMono.monotone hlt.le

theorem isZero_hundred : (Double.ofNat 100).isZero = false := by
  by_contra h
  have hunits := units_eq_zero.mpr (by simpa using h)
  rw [units_ofNat (by decide)] at hunits
  exact absurd (Nat.mul_eq_zero.mp hunits) (by simp [oneUnits_pos.ne'])

/-- The part of a hundred is rounded once, and it is at most one. -/
theorem Inside.div_hundred (hp : Inside p) :
    NearestTo (p.units / 100) (p / Double.ofNat 100).magnitude ∧
      (p / Double.ofNat 100).negative = false ∧
      (p / Double.ofNat 100).magnitude ≤ (Double.ofNat 1).magnitude := by
  have hhundred : (Double.ofNat 100).isFinite = true := isFinite_ofNat_of_le_two_pow (by decide)
  have hnearest := nearestTo_div hp.finite hhundred isZero_hundred
  rw [units_ofNat (by decide), Nat.cast_mul, Nat.cast_mul, mul_div_mul_right _ _ cast_one_pos.ne',
    Nat.cast_ofNat] at hnearest
  refine ⟨hnearest, ?_, ?_⟩
  · rw [negative_div hp.finite hhundred isZero_hundred, hp.not_negative, negative_ofNat]
    rfl
  · refine hnearest.le_of_le (nearestTo_ofNat 1).mem ?_
    change (p.units / 100 : ℚ) ≤ ((Double.ofNat 1).units : ℚ)
    have hle : (p.units : ℚ) ≤ 100 * one := by exact_mod_cast hp.units_le
    rw [units_ofNat (by decide), Nat.one_mul, div_le_iff₀ (by norm_num)]
    linarith

variable (hn : n - 1 ≤ 2 ^ 53)
include hn

/-- The position is rounded once more, and it is not beyond the last sample. -/
theorem Inside.position (hp : Inside p) :
    NearestTo ((n - 1 : Nat) * (p / Double.ofNat 100).units) (position n p).magnitude ∧
      (Rank.position n p).negative = false ∧ (Rank.position n p).isFinite = true ∧
      (Rank.position n p).units ≤ (n - 1) * one := by
  obtain ⟨-, hneg, hle⟩ := hp.div_hundred
  have hlast : (Double.ofNat (n - 1)).isFinite = true := isFinite_ofNat_of_le_two_pow hn
  have hfinite : (p / Double.ofNat 100).isFinite = true := by
    refine isFinite_iff.mpr (hle.trans_lt (isFinite_iff.mp ?_))
    exact isFinite_ofNat_of_le_two_pow (by decide)
  have hnearest := nearestTo_mul hlast hfinite
  have hvalue : (((Double.ofNat (n - 1)).units * (p / Double.ofNat 100).units : Nat) : ℚ) / one =
      (n - 1 : Nat) * (p / Double.ofNat 100).units := by
    rw [units_ofNat hn, Nat.cast_mul, Nat.cast_mul, mul_right_comm,
      mul_div_cancel_right₀ _ cast_one_pos.ne']
  rw [hvalue] at hnearest
  have hmagnitude : (Rank.position n p).magnitude ≤ (Double.ofNat (n - 1)).magnitude := by
    refine hnearest.le_of_le (nearestTo_ofNat _).mem ?_
    change _ ≤ ((Double.ofNat (n - 1)).units : ℚ)
    rw [units_ofNat hn, Nat.cast_mul]
    refine mul_le_mul_of_nonneg_left ?_ (Nat.cast_nonneg _)
    have hunits : (p / Double.ofNat 100).units ≤ one := by
      rw [← Nat.one_mul one, ← units_ofNat (n := 1) (by decide)]
      exact unitsOf_strictMono.monotone hle
    exact_mod_cast hunits
  refine ⟨hnearest, ?_, ?_, ?_⟩
  · rw [position_eq, negative_mul hlast hfinite, hneg, negative_ofNat]
    rfl
  · exact isFinite_iff.mpr (hmagnitude.trans_lt (isFinite_iff.mp hlast))
  · rw [← units_ofNat hn]
    exact unitsOf_strictMono.monotone hmagnitude

end

/-! ## The samples around a position -/

section

variable {k : Double} {m : Nat}

theorem atPosition_eq (k : Double) : atPosition k =
    if k.floor.sameValue k.ceil then .on k.truncate
    else .between k.floor.truncate k.ceil.truncate (k.ceil - k) (k - k.floor) := rfl

theorem exists_one_eq_step : ∃ s ≤ 2045, (one : ℚ) = 2 ^ 53 * 2 ^ s := by
  obtain ⟨p, hp, hone⟩ := exists_one_eq
  refine ⟨p - 53, by omega, ?_⟩
  rw [hone, Nat.pow_eq, Nat.cast_pow, Nat.cast_ofNat, ← pow_add, Nat.add_sub_cancel' (by omega)]

/-- What is nearest to a part of one is at most one, and off by at most a part in `2 ^ 54`. -/
theorem near_part_of_one {c m : Nat} (hc : c ≤ one) (h : NearestTo (c : ℚ) m) :
    m ≤ (Double.ofNat 1).magnitude ∧ |valueOf m - c| ≤ one / 2 ^ 54 := by
  have hc : (c : ℚ) ≤ one := Nat.cast_le.mpr hc
  constructor
  · refine h.le_of_le (nearestTo_ofNat 1).mem ?_
    change _ ≤ ((Double.ofNat 1).units : ℚ)
    rwa [units_ofNat (by decide), Nat.one_mul]
  · obtain ⟨s, hs, hone⟩ := exists_one_eq_step
    have herror := h.abs_sub_le hs (Nat.cast_nonneg _) (hone ▸ hc)
    have hhalf : (2 : ℚ) ^ s / 2 = one / 2 ^ 54 := by
      rw [hone]
      ring
    rwa [hhalf] at herror

/-- The distance of a position from the whole number above it is rounded once. -/
theorem lower_weight {i c : Nat} (hi : i + 1 ≤ 2 ^ 53) (hfinite : k.isFinite = true)
    (hneg : k.negative = false) (hc : k.units + c = (i + 1) * one) (hle : c ≤ one) :
    (Double.ofNat (i + 1) - k).Amount ∧ (Double.ofNat (i + 1) - k).units ≤ one ∧
      |((Double.ofNat (i + 1) - k).units : ℚ) - c| ≤ one / 2 ^ 54 := by
  have hunits := units_ofNat hi
  obtain ⟨hnearest, hsign⟩ := nearestTo_sub (isFinite_ofNat_of_le_two_pow hi) hfinite
    (negative_ofNat _) hneg (by omega)
  have hrest : (Double.ofNat (i + 1)).units - k.units = c := by omega
  rw [hrest] at hnearest
  obtain ⟨hmagnitude, hnear⟩ := near_part_of_one hle hnearest
  refine ⟨amount_of_not_negative hsign (isFinite_iff.mpr ?_), ?_, hnear⟩
  · exact hmagnitude.trans_lt (isFinite_iff.mp (isFinite_ofNat_of_le_two_pow (by decide)))
  · rw [← Nat.one_mul one, ← units_ofNat (n := 1) (by decide)]
    exact unitsOf_strictMono.monotone hmagnitude

/-- The distance of a position from the whole number below it is exact. -/
theorem upper_weight {i : Nat} (hi : i ≤ 2 ^ 53) (hfinite : k.isFinite = true)
    (hneg : k.negative = false) (hwhole : k.units / one = i) :
    (k - Double.ofNat i).Amount ∧ (k - Double.ofNat i).units = k.units - i * one := by
  have hunits := units_ofNat hi
  have hle : i * one ≤ k.units := hwhole ▸ Nat.div_mul_le_self _ _
  have hmod : k.units % one = k.units - i * one := by
    rw [Nat.mod_eq_sub_mul_div, hwhole, Nat.mul_comm]
  obtain ⟨hnearest, hsign⟩ := nearestTo_sub hfinite (isFinite_ofNat_of_le_two_pow hi) hneg
    (negative_ofNat _) (hunits ▸ hle)
  obtain ⟨c, hc, hvalue⟩ := exists_units_mod k.magnitude
  have hexact : unitsOf c = k.units - i * one := hvalue.trans hmod
  rw [hunits, ← hexact] at hnearest
  have hmagnitude : (k - Double.ofNat i).magnitude = c :=
    hnearest.unique (nearestTo_valueOf hc)
  refine ⟨amount_of_not_negative hsign (isFinite_iff.mpr ?_), ?_⟩
  · have hlt : unitsOf c < unitsOf infinityMagnitude := by
      rw [hexact]
      refine (Nat.sub_le _ _).trans_lt (unitsOf_strictMono (isFinite_iff.mp hfinite))
    exact hmagnitude ▸ unitsOf_strictMono.lt_iff_lt.mp hlt
  · rw [units, hmagnitude, hexact]

/-- **The samples around a position** that is not beyond a whole number of up to 53 places. -/
theorem standsAt_atPosition (hm : m ≤ 2 ^ 53) (hfinite : k.isFinite = true)
    (hneg : k.negative = false) (hle : k.units ≤ m * one) :
    StandsAt (atPosition k) k.units := by
  have hpos := oneUnits_pos
  obtain ⟨i, hi⟩ : ∃ i, k.units / one = i := ⟨_, rfl⟩
  have him : i ≤ m := hi ▸ Nat.div_le_of_le_mul (by rwa [Nat.mul_comm])
  have htruncate : k.truncate = i := (truncate_of_units_le hm hfinite hneg hle).trans hi
  have hfrom : i * one ≤ k.units := hi ▸ Nat.div_mul_le_self _ _
  have hto : k.units < (i + 1) * one := hi ▸ Nat.lt_mul_of_div_lt (Nat.lt_succ_self _) hpos
  rw [atPosition_eq, floor_eq_ofNat hfinite hneg, ceil_eq_ofNat hfinite hneg, hi, htruncate]
  rcases hfrom.eq_or_lt with hwhole | hbeyond
  · have hceil : (k.units + (one - 1)) / one = i :=
      Nat.div_eq_of_lt_le (by omega) (by rw [Nat.succ_mul]; omega)
    rw [hceil, if_pos ((sameValue_ofNat_iff (him.trans hm) (him.trans hm)).mpr rfl), ← hwhole]
    exact .on i
  · have him' : i < m := Nat.lt_of_mul_lt_mul_right (hbeyond.trans_le hle)
    have hceil : (k.units + (one - 1)) / one = i + 1 :=
      Nat.div_eq_of_lt_le (by rw [Nat.succ_mul]; omega) (by rw [Nat.succ_mul]; omega)
    have hnext : i + 1 ≤ 2 ^ 53 := him'.trans_le hm
    have hne : ¬ (Double.ofNat i).sameValue (Double.ofNat (i + 1)) = true := by
      rw [sameValue_ofNat_iff (him.trans hm) hnext]
      exact (Nat.lt_succ_self i).ne
    rw [hceil, if_neg hne, truncate_ofNat (him.trans hm), truncate_ofNat hnext]
    have hsucc : (i + 1) * one = i * one + one := Nat.succ_mul _ _
    obtain ⟨hupper, hexact⟩ := upper_weight (him.trans hm) hfinite hneg hi
    have hupper_le : (k - Double.ofNat i).units ≤ one := by omega
    obtain ⟨hlower, hlower_le, hnear⟩ :=
      lower_weight (c := one - (k - Double.ofNat i).units) hnext hfinite hneg (by omega) (by omega)
    rw [Nat.cast_sub hupper_le] at hnear
    exact .between hbeyond hto
      { position := by omega
        lower_amount := hlower
        upper_amount := hupper
        lower_le_one := hlower_le
        upper_le_one := hupper_le
        rest := hnear }

end

/-! ## Percentiles -/

theorem of_eq_ite (n : Nat) (p : Double) : Rank.of n p =
    if p.atMost (Double.ofNat 0) then .on 0
    else if (Double.ofNat 100).atMost p then .on (n - 1)
    else .atPosition (position n p) := rfl

theorem of_hundred_le {p : Double} {n : Nat} (hp : (Double.ofNat 100).atMost p = true) :
    Rank.of n p = .on (n - 1) := by
  have hzero : ¬ p.atMost (Double.ofNat 0) = true := by
    intro h
    obtain ⟨-, -, hle⟩ := atMost_iff.mp (atMost_trans hp h)
    rw [place_ofNat, place_ofNat] at hle
    have hunits : (Double.ofNat 100).units ≤ (Double.ofNat 0).units :=
      unitsOf_strictMono.monotone (by exact_mod_cast hle)
    rw [units_ofNat (by decide), units_ofNat (by decide)] at hunits
    exact absurd (Nat.le_of_mul_le_mul_right hunits oneUnits_pos) (by decide)
  exact (if_neg hzero).trans (if_pos hp)

section

variable {p q : Double} {n : Nat} (hn : n - 1 ≤ 2 ^ 53)
include hn

/-- **Every percentile has the rank of its position.** -/
theorem standsAt_of (hp : p.isNaN = false) : StandsAt (Rank.of n p) (positionUnits n p) := by
  rw [of_eq_ite, positionUnits]
  split
  next =>
    have hon := StandsAt.on 0
    rw [Nat.zero_mul] at hon
    exact hon
  next hzero =>
    split
    next => exact .on (n - 1)
    next hhundred =>
      obtain ⟨-, hneg, hfinite, hle⟩ :=
        (inside_of hp (by simpa using hzero) (by simpa using hhundred)).position hn
      exact standsAt_atPosition hn hfinite hneg hle

/-- The position is not beyond the last sample. -/
theorem positionUnits_le (hp : p.isNaN = false) : positionUnits n p ≤ (n - 1) * one := by
  rw [positionUnits]
  split
  next => exact Nat.zero_le _
  next hzero =>
    split
    next => exact Nat.le_refl _
    next hhundred =>
      exact ((inside_of hp (by simpa using hzero) (by simpa using hhundred)).position hn).2.2.2

/-- **A greater percentile has no lesser position.** -/
theorem positionUnits_mono (hpq : p.atMost q = true) : positionUnits n p ≤ positionUnits n q := by
  obtain ⟨hp, hq, hle⟩ := atMost_iff.mp hpq
  cases hpzero : p.atMost (Double.ofNat 0) with
  | true =>
    have hfirst : positionUnits n p = 0 := if_pos hpzero
    rw [hfirst]
    exact Nat.zero_le _
  | false =>
    have hqzero : q.atMost (Double.ofNat 0) = false := by
      by_contra h
      have := atMost_trans hpq (by simpa using h)
      rw [hpzero] at this
      cases this
    cases hqhundred : (Double.ofNat 100).atMost q with
    | true =>
      have hlast : positionUnits n q = (n - 1) * one := by
        simp only [positionUnits, hqzero, hqhundred, Bool.false_eq_true, if_false, if_true]
      rw [hlast]
      exact positionUnits_le hn hp
    | false =>
      have hphundred : (Double.ofNat 100).atMost p = false := by
        by_contra h
        have := atMost_trans (y := p) (by simpa using h) hpq
        rw [hqhundred] at this
        cases this
      have hinp := inside_of hp hpzero hphundred
      have hinq := inside_of hq hqzero hqhundred
      rw [place_of_not_negative hinp.not_negative, place_of_not_negative hinq.not_negative] at hle
      have hunits : p.units ≤ q.units := unitsOf_strictMono.monotone (by exact_mod_cast hle)
      have hparts : (p / Double.ofNat 100).units ≤ (q / Double.ofNat 100).units := by
        refine unitsOf_strictMono.monotone (hinp.div_hundred.1.monotone hinq.div_hundred.1 ?_)
        gcongr
      have hpositions : (position n p).units ≤ (position n q).units := by
        refine unitsOf_strictMono.monotone
          ((hinp.position hn).1.monotone (hinq.position hn).1 ?_)
        gcongr
      simpa only [positionUnits, hpzero, hphundred, hqzero, hqhundred, Bool.false_eq_true,
        if_false] using hpositions

end

end Rank

end HttpLoad
