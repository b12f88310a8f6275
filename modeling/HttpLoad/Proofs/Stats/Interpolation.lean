import Mathlib.Algebra.Order.Field.Basic
import Mathlib.Algebra.Order.Ring.Rat
import Mathlib.Data.List.Forall2
import Mathlib.Data.Rat.Floor
import Mathlib.Tactic.FieldSimp
import Mathlib.Tactic.Linarith
import Mathlib.Tactic.Ring
import HttpLoad.Stats.Basic

/-!
# Percentiles in exact arithmetic

Where nothing is rounded, a percentile is the height of the polyline through the samples above its
position, and beyond both ends the polyline goes on level. So ascending samples have percentiles in
order and in range, greater samples have greater percentiles, and a change of unit changes a
percentile like the samples. Whatever else is found of the percentiles of doubles, it is due to
rounding.

## Main definitions

* `Rank.exactPosition n p`: the position of a percentile among `n` samples, not beyond their ends
* `polyline samples k`: the height of the polyline through the samples above a position

## Main results

* `percentile_eq_polyline`: a percentile is a height of the polyline
* `polyline_mono`: the polyline through ascending samples ascends
* `percentile_interpolates`: what a percentile of exact numbers is
-/

namespace HttpLoad

/-- **Exact arithmetic**: no operation rounds. -/
instance : RankArithmetic ℚ where
  ofNat n := n
  add p q := p + q
  sub p q := p - q
  mul p q := p * q
  div p q := p / q
  floor q := (⌊q⌋ : ℚ)
  ceil q := (⌈q⌉ : ℚ)
  atMost p q := decide (p ≤ q)
  same p q := decide (p = q)
  index q := ⌊q⌋₊

/-! ## Positions -/

namespace Rank

/-- **The position of a percentile** among `n` samples, not beyond the first one and the last. -/
def exactPosition (n : Nat) (p : ℚ) : ℚ := max 0 (min (n - 1 : Nat) ((n - 1 : Nat) * (p / 100)))

variable {n : Nat} {p q : ℚ}

theorem exactPosition_nonneg (n : Nat) (p : ℚ) : 0 ≤ exactPosition n p := le_max_left _ _

theorem exactPosition_le (n : Nat) (p : ℚ) : exactPosition n p ≤ (n - 1 : Nat) :=
  max_le (Nat.cast_nonneg _) (min_le_left _ _)

/-- A greater percentile has no lesser position. -/
theorem exactPosition_mono (hpq : p ≤ q) : exactPosition n p ≤ exactPosition n q := by
  apply max_le_max le_rfl
  apply min_le_min le_rfl
  exact mul_le_mul_of_nonneg_left (by linarith) (Nat.cast_nonneg _)

theorem exactPosition_of_le_zero (hp : p ≤ 0) : exactPosition n p = 0 := by
  have hneg : ((n - 1 : Nat) : ℚ) * (p / 100) ≤ 0 :=
    mul_nonpos_of_nonneg_of_nonpos (Nat.cast_nonneg _) (by linarith)
  exact max_eq_left ((min_le_right _ _).trans hneg)

theorem exactPosition_of_hundred_le (hp : 100 ≤ p) : exactPosition n p = (n - 1 : Nat) := by
  have hlast : (0 : ℚ) ≤ (n - 1 : Nat) := Nat.cast_nonneg _
  have hbeyond : ((n - 1 : Nat) : ℚ) ≤ (n - 1 : Nat) * (p / 100) :=
    le_mul_of_one_le_right hlast (by linarith)
  rw [exactPosition, min_eq_left hbeyond, max_eq_right hlast]

theorem exactPosition_of_between (hzero : 0 ≤ p) (hhundred : p ≤ 100) :
    exactPosition n p = (n - 1 : Nat) * p / 100 := by
  have hlast : (0 : ℚ) ≤ (n - 1 : Nat) := Nat.cast_nonneg _
  have hbefore : ((n - 1 : Nat) : ℚ) * (p / 100) ≤ (n - 1 : Nat) :=
    mul_le_of_le_one_right hlast (by linarith)
  rw [exactPosition, min_eq_right hbefore, max_eq_right (mul_nonneg hlast (by linarith))]
  ring

end Rank

/-! ## The polyline through the samples -/

/-- The sample at an index; zero if there is none. -/
def exactSample (samples : List ℚ) (i : Nat) : ℚ := samples[i]?.getD 0

/-- **The height of the polyline** through the samples above a position: between two samples, the
distances to them weight the other one. -/
def polyline (samples : List ℚ) (k : ℚ) : ℚ :=
  exactSample samples ⌊k⌋₊ * (1 - (k - ⌊k⌋₊)) + exactSample samples ⌈k⌉₊ * (k - ⌊k⌋₊)

section

variable {samples others : List ℚ} {k l : ℚ} {i j : Nat}

theorem getElem?_eq_exactSample (hi : i < samples.length) :
    samples[i]? = some (exactSample samples i) := by
  simp [exactSample, hi]

theorem getElem_eq_exactSample (hi : i < samples.length) : samples[i] = exactSample samples i := by
  simp [exactSample, hi]

/-- Above a sample the polyline goes through it. -/
theorem polyline_natCast (samples : List ℚ) (i : Nat) :
    polyline samples i = exactSample samples i := by
  rw [polyline, Nat.floor_natCast, Nat.ceil_natCast]
  ring

/-- Above a position that is no whole number, it is between the samples around it. -/
theorem ceil_eq_floor_add_one (hk : 0 ≤ k) (hne : (⌊k⌋₊ : ℚ) ≠ k) : ⌈k⌉₊ = ⌊k⌋₊ + 1 := by
  have hlt : (⌊k⌋₊ : ℚ) < k := lt_of_le_of_ne (Nat.floor_le hk) hne
  refine le_antisymm (Nat.ceil_le_floor_add_one k) ?_
  exact Nat.succ_le_of_lt (Nat.lt_ceil.mpr hlt)

/-- The samples around a position that is not beyond the last one are there. -/
theorem floor_lt_length (hne : samples ≠ []) (hk : k ≤ (samples.length - 1 : Nat)) :
    ⌊k⌋₊ < samples.length := by
  have hpos := List.length_pos_iff.mpr hne
  have hle : ⌊k⌋₊ ≤ samples.length - 1 := by
    simpa using Nat.floor_mono hk
  omega

theorem ceil_lt_length (hne : samples ≠ []) (hk : k ≤ (samples.length - 1 : Nat)) :
    ⌈k⌉₊ < samples.length := by
  have hpos := List.length_pos_iff.mpr hne
  have hle : ⌈k⌉₊ ≤ samples.length - 1 := Nat.ceil_le.mpr hk
  omega

/-! ### Ascending samples -/

section Ascending

variable (hs : samples.Pairwise (· ≤ ·))
include hs

theorem exactSample_mono (hij : i ≤ j) (hj : j < samples.length) :
    exactSample samples i ≤ exactSample samples j := by
  rcases hij.eq_or_lt with rfl | hlt
  · exact le_rfl
  · have hle := List.pairwise_iff_getElem.mp hs i j (hlt.trans hj) hj hlt
    rwa [getElem_eq_exactSample, getElem_eq_exactSample] at hle

theorem exactSample_floor_le_ceil (hceil : ⌈k⌉₊ < samples.length) :
    exactSample samples ⌊k⌋₊ ≤ exactSample samples ⌈k⌉₊ :=
  exactSample_mono hs (Nat.floor_le_ceil k) hceil

/-- **The polyline stays between the samples** around a position. -/
theorem polyline_le_exactSample_ceil (hceil : ⌈k⌉₊ < samples.length) :
    polyline samples k ≤ exactSample samples ⌈k⌉₊ := by
  have hstep := exactSample_floor_le_ceil hs hceil
  have hweight : 0 ≤ 1 - (k - ⌊k⌋₊) := by linarith [Nat.lt_floor_add_one k]
  have hrise := mul_nonneg (sub_nonneg.mpr hstep) hweight
  rw [polyline]
  linarith

variable (hk : 0 ≤ k) (hceil : ⌈k⌉₊ < samples.length)
include hk hceil

theorem exactSample_floor_le_polyline : exactSample samples ⌊k⌋₊ ≤ polyline samples k := by
  have hstep := exactSample_floor_le_ceil hs hceil
  have hweight := sub_nonneg.mpr (Nat.floor_le hk)
  have hrise := mul_nonneg (sub_nonneg.mpr hstep) hweight
  rw [polyline]
  linarith

/-- The polyline is not below the samples before a position. -/
theorem exactSample_le_polyline (hi : i ≤ k) : exactSample samples i ≤ polyline samples k := by
  have hfloor : i ≤ ⌊k⌋₊ := Nat.le_floor hi
  exact (exactSample_mono hs hfloor ((Nat.floor_le_ceil k).trans_lt hceil)).trans
    (exactSample_floor_le_polyline hs hk hceil)

end Ascending

/-- **The polyline through ascending samples ascends.** -/
theorem polyline_mono (hs : samples.Pairwise (· ≤ ·)) (hk : 0 ≤ k) (hkl : k ≤ l)
    (hceil : ⌈l⌉₊ < samples.length) : polyline samples k ≤ polyline samples l := by
  have hl : 0 ≤ l := hk.trans hkl
  have hceilk : ⌈k⌉₊ < samples.length := (Nat.ceil_mono hkl).trans_lt hceil
  by_cases hbetween : (⌈k⌉₊ : ℚ) ≤ l
  · calc polyline samples k ≤ exactSample samples ⌈k⌉₊ :=
          polyline_le_exactSample_ceil hs hceilk
      _ ≤ polyline samples l := exactSample_le_polyline hs hl hceil hbetween
  · -- both positions are inside of one step, and the line there does not fall
    have hlt : l < ⌈k⌉₊ := not_le.mp hbetween
    have hne : (⌊k⌋₊ : ℚ) ≠ k := by
      intro hwhole
      rw [← hwhole, Nat.ceil_natCast, hwhole] at hlt
      exact absurd hkl (not_le.mpr hlt)
    have hceil_eq := ceil_eq_floor_add_one hk hne
    have hfloor : ⌊l⌋₊ = ⌊k⌋₊ := by
      refine le_antisymm ?_ (Nat.floor_mono hkl)
      refine Nat.le_of_lt_succ ((Nat.floor_lt hl).mpr ?_)
      rwa [Nat.succ_eq_add_one, ← hceil_eq]
    have hsame : ⌈l⌉₊ = ⌈k⌉₊ := le_antisymm (Nat.ceil_le.mpr hlt.le) (Nat.ceil_mono hkl)
    have hstep := exactSample_floor_le_ceil hs hceilk
    have hrise := mul_le_mul_of_nonneg_left hkl (sub_nonneg.mpr hstep)
    rw [polyline, polyline, hfloor, hsame]
    linarith

/-- **Greater samples have a higher polyline**: no weight is below zero. -/
theorem polyline_mono_samples (hk : 0 ≤ k)
    (hle : ∀ i, exactSample samples i ≤ exactSample others i) :
    polyline samples k ≤ polyline others k := by
  have hupper := sub_nonneg.mpr (Nat.floor_le hk)
  have hlower : 0 ≤ 1 - (k - ⌊k⌋₊) := by linarith [Nat.lt_floor_add_one k]
  rw [polyline, polyline]
  exact add_le_add (mul_le_mul_of_nonneg_right (hle _) hlower)
    (mul_le_mul_of_nonneg_right (hle _) hupper)

/-- **A change of unit** changes the polyline like the samples: the weights make one. -/
theorem polyline_map (a b : ℚ) (hfloor : ⌊k⌋₊ < samples.length) (hceil : ⌈k⌉₊ < samples.length) :
    polyline (samples.map fun x => a * x + b) k = a * polyline samples k + b := by
  have hsample : ∀ {i}, i < samples.length →
      exactSample (samples.map fun x => a * x + b) i = a * exactSample samples i + b := by
    intro i hi
    simp [exactSample, hi]
  rw [polyline, polyline, hsample hfloor, hsample hceil]
  ring

end

/-! ## Percentiles -/

section

variable {samples others : List ℚ} {p q : ℚ}

theorem Rank.of_eq (n : Nat) (p : ℚ) : Rank.of n p =
    if p ≤ ((0 : Nat) : ℚ) then .on 0 else if ((100 : Nat) : ℚ) ≤ p then .on (n - 1)
    else .atPosition (Rank.position n p) := by
  simp only [Rank.of, RankArithmetic.atMost, RankArithmetic.ofNat, decide_eq_true_eq]

/-- At a position that has its samples, the value is the height of the polyline. -/
theorem value?_atPosition {k : ℚ} (hk : 0 ≤ k) (hfloor : ⌊k⌋₊ < samples.length)
    (hceil : ⌈k⌉₊ < samples.length) :
    (Rank.atPosition k).value? samples = some (polyline samples k) := by
  have hfloor_cast : ((⌊k⌋ : ℤ) : ℚ) = (⌊k⌋₊ : ℚ) := (natCast_floor_eq_intCast_floor hk).symm
  have hceil_cast : ((⌈k⌉ : ℤ) : ℚ) = (⌈k⌉₊ : ℚ) := (natCast_ceil_eq_intCast_ceil hk).symm
  have hrank : Rank.atPosition k = if (⌊k⌋₊ : ℚ) = ⌈k⌉₊ then .on ⌊k⌋₊
      else .between ⌊k⌋₊ ⌈k⌉₊ ((⌈k⌉₊ : ℚ) - k) (k - ⌊k⌋₊) := by
    simp only [Rank.atPosition, RankArithmetic.same, RankArithmetic.floor, RankArithmetic.ceil,
      RankArithmetic.index, RankArithmetic.sub, hfloor_cast, hceil_cast, Nat.floor_natCast,
      decide_eq_true_eq]
  rw [hrank]
  split
  next hwhole =>
    have hsame : ⌈k⌉₊ = ⌊k⌋₊ := (Nat.cast_injective hwhole).symm
    rw [Rank.value?, getElem?_eq_exactSample hfloor, polyline, hsame]
    congr 1
    ring
  next hbetween =>
    have hnext : ⌈k⌉₊ = ⌊k⌋₊ + 1 := by
      apply ceil_eq_floor_add_one hk
      intro hwhole
      apply hbetween
      rw [hwhole.symm, Nat.floor_natCast, Nat.ceil_natCast]
    have hweight : ((⌈k⌉₊ : Nat) : ℚ) - k = 1 - (k - ⌊k⌋₊) := by
      rw [hnext]
      push_cast
      ring
    simp only [Rank.value?, getElem?_eq_exactSample hfloor, getElem?_eq_exactSample hceil]
    rw [hweight]
    rfl

/-- **A percentile is a height of the polyline** through the samples. -/
theorem percentile_eq_polyline (hne : samples ≠ []) (p : ℚ) :
    percentile samples p = polyline samples (Rank.exactPosition samples.length p) := by
  have hpos := List.length_pos_iff.mpr hne
  have hvalue : (Rank.of samples.length p).value? samples =
      some (polyline samples (Rank.exactPosition samples.length p)) := by
    rw [Rank.of_eq]
    split
    next hzero =>
      have hfirst := polyline_natCast samples 0
      rw [Nat.cast_zero] at hzero hfirst
      rw [Rank.exactPosition_of_le_zero hzero, hfirst, Rank.value?, getElem?_eq_exactSample hpos]
    next hzero =>
      split
      next hhundred =>
        rw [Rank.exactPosition_of_hundred_le hhundred, polyline_natCast, Rank.value?,
          getElem?_eq_exactSample (by omega)]
      next hhundred =>
        rw [Nat.cast_zero, not_le] at hzero
        rw [Nat.cast_ofNat, not_le] at hhundred
        have hposition : Rank.position samples.length p =
            Rank.exactPosition samples.length p := by
          rw [Rank.exactPosition_of_between hzero.le hhundred.le, mul_div_assoc]
          simp only [Rank.position, RankArithmetic.mul, RankArithmetic.div, RankArithmetic.ofNat,
            Nat.cast_ofNat]
        rw [hposition]
        have hle := Rank.exactPosition_le samples.length p
        exact value?_atPosition (Rank.exactPosition_nonneg _ _) (floor_lt_length hne hle)
          (ceil_lt_length hne hle)
  rw [percentile, hvalue, Option.getD_some]

/-! ### Between the samples, and beyond them -/

section

variable (hne : samples ≠ [])

/-- Up to zero a percentile is the first sample. -/
theorem exactPercentile_of_le_zero (hp : p ≤ 0) : percentile samples p = samples.head hne := by
  have hfirst := polyline_natCast samples 0
  rw [Nat.cast_zero] at hfirst
  rw [percentile_eq_polyline hne, Rank.exactPosition_of_le_zero hp, hfirst,
    ← getElem_eq_exactSample (List.length_pos_iff.mpr hne), List.head_eq_getElem]

/-- From a hundred on it is the last one. -/
theorem exactPercentile_of_hundred_le (hp : 100 ≤ p) :
    percentile samples p = samples.getLast hne := by
  have hpos := List.length_pos_iff.mpr hne
  rw [percentile_eq_polyline hne, Rank.exactPosition_of_hundred_le hp, polyline_natCast,
    ← getElem_eq_exactSample (by omega), List.getLast_eq_getElem]

include hne

/-- At the position of a sample a percentile is this sample. -/
theorem exactPercentile_of_position {i : Nat} (hi : Rank.exactPosition samples.length p = i) :
    samples[i]? = some (percentile samples p) := by
  have hlength := floor_lt_length hne (Rank.exactPosition_le samples.length p)
  rw [hi, Nat.floor_natCast] at hlength
  rw [getElem?_eq_exactSample hlength, percentile_eq_polyline hne, hi, polyline_natCast]

/-- A percentile lies between the samples around its position. -/
theorem exactPercentile_between (hs : samples.Pairwise (· ≤ ·)) {k : ℚ}
    (hk : Rank.exactPosition samples.length p = k) :
    ∃ (hlower : ⌊k⌋₊ < samples.length) (hupper : ⌈k⌉₊ < samples.length),
      samples[⌊k⌋₊] ≤ percentile samples p ∧ percentile samples p ≤ samples[⌈k⌉₊] := by
  have hle := hk ▸ Rank.exactPosition_le samples.length p
  have hnonneg := hk ▸ Rank.exactPosition_nonneg samples.length p
  have hupper := ceil_lt_length hne hle
  refine ⟨floor_lt_length hne hle, hupper, ?_, ?_⟩
  · rw [getElem_eq_exactSample, percentile_eq_polyline hne, hk]
    exact exactSample_floor_le_polyline hs hnonneg hupper
  · rw [getElem_eq_exactSample, percentile_eq_polyline hne, hk]
    exact polyline_le_exactSample_ceil hs hupper

/-- **A greater percentile is no lesser value.** -/
theorem exactPercentile_mono (hs : samples.Pairwise (· ≤ ·)) (hpq : p ≤ q) :
    percentile samples p ≤ percentile samples q := by
  rw [percentile_eq_polyline hne, percentile_eq_polyline hne]
  exact polyline_mono hs (Rank.exactPosition_nonneg _ p) (Rank.exactPosition_mono hpq)
    (ceil_lt_length hne (Rank.exactPosition_le _ q))

/-- **Greater samples have greater percentiles.** -/
theorem exactPercentile_mono_samples (p : ℚ) (hle : List.Forall₂ (· ≤ ·) samples others) :
    percentile samples p ≤ percentile others p := by
  have hlength : samples.length = others.length := hle.length_eq
  have hpos := List.length_pos_iff.mpr hne
  have hne' : others ≠ [] := List.ne_nil_of_length_pos (by omega)
  rw [percentile_eq_polyline hne, percentile_eq_polyline hne', hlength]
  apply polyline_mono_samples (Rank.exactPosition_nonneg _ p)
  intro i
  by_cases hi : i < samples.length
  · rw [← getElem_eq_exactSample hi, ← getElem_eq_exactSample (hlength ▸ hi)]
    exact hle.get hi (hlength ▸ hi)
  · simp [exactSample, hi, hlength ▸ hi]

/-- **A change of unit** changes a percentile like the samples. -/
theorem exactPercentile_map (a b p : ℚ) :
    percentile (samples.map fun x => a * x + b) p = a * percentile samples p + b := by
  have hne' : samples.map (fun x => a * x + b) ≠ [] := by simpa using hne
  have hle := Rank.exactPosition_le samples.length p
  rw [percentile_eq_polyline hne, percentile_eq_polyline hne', List.length_map]
  exact polyline_map a b (floor_lt_length hne hle) (ceil_lt_length hne hle)

end

/-! ### Halfway -/

/-- The position of the median, in halves. -/
theorem exactPosition_fifty (n : Nat) : Rank.exactPosition n 50 = (n - 1 : Nat) / 2 := by
  rw [Rank.exactPosition_of_between (by norm_num) (by norm_num)]
  ring

/-- The median of an odd number of samples is the middle one. -/
theorem percentile_fifty_odd {m : Nat} (hlength : samples.length = 2 * m + 1) :
    percentile samples (50 : ℚ) = exactSample samples m := by
  have hne : samples ≠ [] := List.ne_nil_of_length_pos (by omega)
  have hposition : Rank.exactPosition samples.length 50 = (m : ℚ) := by
    rw [exactPosition_fifty, hlength, Nat.add_sub_cancel]
    push_cast
    ring
  rw [percentile_eq_polyline hne, hposition, polyline_natCast]

/-- The median of an even number of samples is halfway between the two in the middle. -/
theorem percentile_fifty_even {m : Nat} (hlength : samples.length = 2 * m + 2) :
    percentile samples (50 : ℚ) = (exactSample samples m + exactSample samples (m + 1)) / 2 := by
  have hne : samples ≠ [] := List.ne_nil_of_length_pos (by omega)
  have hposition : Rank.exactPosition samples.length 50 = (m : ℚ) + 1 / 2 := by
    rw [exactPosition_fifty, hlength, Nat.add_sub_assoc (by decide)]
    push_cast
    ring
  have hfloor : ⌊(m : ℚ) + 1 / 2⌋₊ = m := by
    rw [Nat.floor_eq_iff (by positivity)]
    constructor <;> linarith
  have hceil : ⌈(m : ℚ) + 1 / 2⌉₊ = m + 1 := by
    rw [Nat.ceil_eq_iff (by omega : m + 1 ≠ 0), Nat.add_sub_cancel]
    push_cast
    constructor <;> linarith
  rw [percentile_eq_polyline hne, hposition, polyline, hfloor, hceil]
  ring

/-- **A percentile of exact numbers interpolates** between ascending samples. Inside of the range of
percentiles, the samples around its position are there, it lies between them, and it is the sample
at a whole position. Outside it is the first sample or the last one. It ascends with the percentile
everywhere, and with each sample; a change of unit changes it like the samples; and halfway it is
the middle sample, or the average of the two in the middle. -/
theorem percentile_interpolates (hne : samples ≠ []) (hs : samples.Pairwise (· ≤ ·)) :
    (∀ p : ℚ, 0 < p → p < 100 → ∃ k : ℚ, k = (samples.length - 1 : Nat) * p / 100 ∧
      (∃ (hlower : ⌊k⌋₊ < samples.length) (hupper : ⌈k⌉₊ < samples.length),
        samples[⌊k⌋₊] ≤ percentile samples p ∧ percentile samples p ≤ samples[⌈k⌉₊]) ∧
      ∀ i : Nat, k = i → samples[i]? = some (percentile samples p)) ∧
    (∀ p : ℚ, p ≤ 0 → percentile samples p = samples.head hne) ∧
    (∀ p : ℚ, 100 ≤ p → percentile samples p = samples.getLast hne) ∧
    (∀ p q : ℚ, p ≤ q → percentile samples p ≤ percentile samples q) ∧
    (∀ (others : List ℚ) (p : ℚ), List.Forall₂ (· ≤ ·) samples others →
      percentile samples p ≤ percentile others p) ∧
    (∀ a b p : ℚ, 0 < a →
      percentile (samples.map fun x => a * x + b) p = a * percentile samples p + b) ∧
    (∀ m : Nat, samples.length = 2 * m + 1 → samples[m]? = some (percentile samples (50 : ℚ))) ∧
    ∀ m : Nat, samples.length = 2 * m + 2 → ∃ x y : ℚ, samples[m]? = some x ∧
      samples[m + 1]? = some y ∧ percentile samples (50 : ℚ) = (x + y) / 2 := by
  refine ⟨?_, fun p => exactPercentile_of_le_zero hne, fun p => exactPercentile_of_hundred_le hne,
    fun p q => exactPercentile_mono hne hs, fun others p => exactPercentile_mono_samples hne p,
    fun a b p _ => exactPercentile_map hne a b p, ?_, ?_⟩
  · intro p hzero hhundred
    have hposition : Rank.exactPosition samples.length p = (samples.length - 1 : Nat) * p / 100 :=
      Rank.exactPosition_of_between hzero.le hhundred.le
    refine ⟨_, rfl, exactPercentile_between hne hs hposition, ?_⟩
    intro i hi
    exact exactPercentile_of_position hne (hposition.trans hi)
  · intro m hm
    rw [getElem?_eq_exactSample (by omega), percentile_fifty_odd hm]
  · intro m hm
    exact ⟨_, _, getElem?_eq_exactSample (by omega), getElem?_eq_exactSample (by omega),
      percentile_fifty_even hm⟩

end

/-- Of the samples 1, 2 and 4, three quarters of the way is at 3, and the median is 2. -/
theorem percentile_interpolates_threeSamples :
    ([1, 2, 4] : List ℚ).Pairwise (· ≤ ·) ∧
      (2 : ℚ) ≤ percentile ([1, 2, 4] : List ℚ) 75 ∧ percentile ([1, 2, 4] : List ℚ) 75 ≤ 4 ∧
      percentile ([1, 2, 4] : List ℚ) 50 = 2 := by
  have hs : ([1, 2, 4] : List ℚ).Pairwise (· ≤ ·) := by norm_num
  obtain ⟨hinside, -, -, -, -, -, hmedian, -⟩ := percentile_interpolates (by simp) hs
  obtain ⟨k, hk, ⟨hlower, hupper, hle, hge⟩, -⟩ := hinside 75 (by norm_num) (by norm_num)
  have hposition : k = 3 / 2 := by
    rw [hk]
    norm_num
  have hfloor : ⌊k⌋₊ = 1 := by
    rw [hposition, Nat.floor_eq_iff (by norm_num)]
    norm_num
  have hceil : ⌈k⌉₊ = 2 := by
    rw [hposition, Nat.ceil_eq_iff (by norm_num)]
    norm_num
  simp only [hfloor, hceil] at hle hge
  exact ⟨hs, hle, hge, (Option.some.inj (hmedian 1 rfl)).symm⟩

end HttpLoad
