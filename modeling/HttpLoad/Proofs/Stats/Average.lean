import HttpLoad.Proofs.Number.RunningSum
import HttpLoad.Proofs.Stats.Percentile

/-!
# The average among the samples

The average of samples is a running sum that is divided once. In exact arithmetic it lies between
the least and the greatest sample, and the spread of equal samples is zero. In doubles the sum is
rounded whenever a sample is added, so that three samples of a tenth have an average above a tenth,
and a spread. What holds is range and spread up to the rounding of the sum, and exactly if the
multiples of the least and of the greatest sample are doubles, as they are for two samples.

## Main definitions

* `tenth`: the double nearest to 0.1

## Main results

* `mean_near`: the average is near the exact one
* `AscendingAmounts.first_noMore_mean`, `AscendingAmounts.mean_noMore_last`: when the average is in
  range
* `deviation_replicate`: equal samples have no spread if their average is one of them
* `average_in_range_up_to_rounding`: average and spread of samples in any order
* `average_above_equal_samples`: an average above all samples
-/

namespace HttpLoad

open Double

/-! ## Sums and quotients -/

namespace Double

variable {x sum : Double} {n : Nat}

/-- The sum starts at the neutral element. -/
theorem negativeZero_add (hx : x.Amount) : negativeZero + x = x := by
  have hzero : negativeZero.Amount := ⟨rfl, le_rfl⟩
  have hunits : negativeZero.units = 0 := rfl
  have hnearest := (hzero.nearestTo_add hx).1
  rw [hunits, Nat.zero_add] at hnearest
  refine Double.ext_iff.mpr ⟨hzero.negative_add hx, ?_⟩
  exact hnearest.unique (nearestTo_valueOf (isFinite_iff.mp hx.finite).le)

theorem sum_cons (hx : x.Amount) (xs : List Double) :
    Double.sum (x :: xs) = xs.foldl (· + ·) x := by
  rw [Double.sum, List.foldl_cons, negativeZero_add hx]

section Quotient

variable (hsum : sum.Amount) (hn : n ≤ 2 ^ 53) (hpos : 0 < n)
include hsum hn hpos

theorem nearestTo_div_ofNat : NearestTo ((sum.units : ℚ) / n) (sum / ofNat n).magnitude ∧
    (sum / ofNat n).place = (sum / ofNat n).magnitude ∧
    (sum / ofNat n).negative = sum.negative := by
  have hfinite := isFinite_ofNat_of_le_two_pow hn
  have hunits : (ofNat n).units = n * one := units_ofNat hn
  have hzero : (ofNat n).isZero = false := by
    rw [Bool.eq_false_iff, Ne, ← units_eq_zero, hunits]
    exact (Nat.mul_pos hpos oneUnits_pos).ne'
  refine ⟨?_, hsum.place_div hfinite (negative_ofNat n) hzero, ?_⟩
  · have hnearest := nearestTo_div hsum.finite hfinite hzero
    rw [hunits, Nat.cast_mul, Nat.cast_mul, mul_div_mul_right _ _ cast_one_pos.ne'] at hnearest
    exact hnearest
  · rw [negative_div hsum.finite hfinite hzero, negative_ofNat, Bool.bne_false]

/-- A part of a sum is an amount. -/
theorem amount_div_ofNat : (sum / ofNat n).Amount := by
  obtain ⟨hnearest, hplace, -⟩ := nearestTo_div_ofNat hsum hn hpos
  have hone : (1 : ℚ) ≤ n := Nat.one_le_cast.mpr hpos
  have hle : (sum / ofNat n).magnitude ≤ sum.magnitude := by
    refine hnearest.le_of_le (isFinite_iff.mp hsum.finite).le ?_
    exact div_le_self (Nat.cast_nonneg _) hone
  refine ⟨isFinite_iff.mpr (hle.trans_lt (isFinite_iff.mp hsum.finite)), ?_⟩
  rw [hplace]
  exact Int.natCast_nonneg _

/-- A quotient is off by at most the unit roundoff of it, and half a unit. -/
theorem div_ofNat_near :
    (1 - unitRoundoff) * ((sum.units : ℚ) / n) - 1 / 2 ≤ (sum / ofNat n).units ∧
      ((sum / ofNat n).units : ℚ) ≤ (1 + unitRoundoff) * ((sum.units : ℚ) / n) + 1 / 2 := by
  obtain ⟨hnearest, -, -⟩ := nearestTo_div_ofNat hsum hn hpos
  have hfinite := isFinite_iff.mp (amount_div_ofNat hsum hn hpos).finite
  have hquotient : (0 : ℚ) ≤ sum.units / n := div_nonneg (Nat.cast_nonneg _) (Nat.cast_nonneg _)
  have hpart := mul_nonneg hquotient unitRoundoff_pos.le
  have hnear : |((sum / ofNat n).units : ℚ) - sum.units / n| ≤
      sum.units / n * unitRoundoff + 1 / 2 := by
    rcases hnearest.near_ratio hpos hfinite with ⟨hhalf, -⟩ | hproportion
    · exact hhalf.trans (by linarith)
    · exact hproportion.trans (by linarith)
  obtain ⟨hlower, hupper⟩ := abs_le.mp hnear
  constructor <;> linarith

/-- What has its `n`-fold below a sum is no more than the `n`-th part of the sum. -/
theorem noMore_div_ofNat (hx : x.Amount) (hle : n * x.units ≤ sum.units) :
    x.NoMore (sum / ofNat n) := by
  obtain ⟨hnearest, hplace, -⟩ := nearestTo_div_ofNat hsum hn hpos
  refine noMore_of_le hx.place_eq hplace (amount_div_ofNat hsum hn hpos).finite ?_
  refine hnearest.ge_of_ge (isFinite_iff.mp hx.finite).le ?_
  rw [le_div_iff₀ (Nat.cast_pos.mpr hpos), mul_comm]
  change (n : ℚ) * x.units ≤ sum.units
  exact_mod_cast hle

/-- What has its `n`-fold above a sum is no less than the `n`-th part of the sum. -/
theorem div_ofNat_noMore (hx : x.Amount) (hle : sum.units ≤ n * x.units) :
    (sum / ofNat n).NoMore x := by
  obtain ⟨hnearest, hplace, -⟩ := nearestTo_div_ofNat hsum hn hpos
  refine noMore_of_le hplace hx.place_eq hx.finite ?_
  refine hnearest.le_of_le (isFinite_iff.mp hx.finite).le ?_
  rw [div_le_iff₀ (Nat.cast_pos.mpr hpos), mul_comm]
  change (sum.units : ℚ) ≤ n * x.units
  exact_mod_cast hle

end Quotient

end Double

/-! ## The average of samples -/

theorem mean_eq {values : List Double} (hne : values ≠ []) :
    mean values = Double.sum values / ofNat values.length := by
  rw [mean, List.isEmpty_eq_false_iff.mpr hne]
  exact if_neg Bool.false_ne_true

section

variable {values : List Double} (hne : values ≠ []) (hvalues : ∀ x ∈ values, x.Amount)
  (hfinite : (Double.sum values).isFinite = true)
include hne hvalues hfinite

/-- The sum of amounts is an amount, and near the exact one. -/
theorem sum_near : (Double.sum values).Amount ∧
    (1 - unitRoundoff) ^ (values.length - 1) * (unitsSum values : ℚ) ≤ (Double.sum values).units ∧
    ((Double.sum values).units : ℚ) ≤
      (1 + unitRoundoff) ^ (values.length - 1) * (unitsSum values : ℚ) := by
  cases values with
  | nil => exact absurd rfl hne
  | cons x xs =>
    have hx := hvalues x List.mem_cons_self
    rw [sum_cons hx] at hfinite ⊢
    obtain ⟨hamount, hlower, hupper⟩ := foldl_add_near hx
      (fun y hy => hvalues y (List.mem_cons_of_mem _ hy)) hfinite
    rw [unitsSum_cons, Nat.cast_add]
    exact ⟨hamount, hlower, hupper⟩

/-- **The average is near the exact one**: it is rounded once for each amount. -/
theorem mean_near (hlength : values.length ≤ 2 ^ 53) :
    (1 - unitRoundoff) ^ values.length * ((unitsSum values : ℚ) / values.length) - 1 / 2 ≤
        (mean values).units ∧
      ((mean values).units : ℚ) ≤
        (1 + unitRoundoff) ^ values.length * ((unitsSum values : ℚ) / values.length) + 1 / 2 := by
  have hpos := List.length_pos_iff.mpr hne
  obtain ⟨hsum, hlower, hupper⟩ := sum_near hne hvalues hfinite
  obtain ⟨hleast, hgreatest⟩ := div_ofNat_near hsum hlength hpos
  rw [mean_eq hne]
  have hcount : (0 : ℚ) ≤ values.length := Nat.cast_nonneg _
  have hfactor : 0 ≤ 1 + unitRoundoff := by linarith [unitRoundoff_pos]
  obtain ⟨n, hn⟩ : ∃ n, values.length = n + 1 := Nat.exists_eq_succ_of_ne_zero hpos.ne'
  have hpower (r : ℚ) : r ^ values.length = r * r ^ (values.length - 1) := by
    rw [hn, pow_succ', Nat.add_sub_cancel]
  rw [hpower, hpower]
  constructor
  · refine le_trans (sub_le_sub_right ?_ _) hleast
    rw [mul_assoc, ← mul_div_assoc]
    exact mul_le_mul_of_nonneg_left (div_le_div_of_nonneg_right hlower hcount)
      one_sub_unitRoundoff_nonneg
  · refine hgreatest.trans (add_le_add_left ?_ _)
    rw [mul_assoc, ← mul_div_assoc ((1 + unitRoundoff) ^ (values.length - 1))]
    exact mul_le_mul_of_nonneg_left (div_le_div_of_nonneg_right hupper hcount) hfactor

end

namespace AscendingAmounts

variable {values : List Double} (hs : AscendingAmounts values)
include hs

/-- Every sample is between the first one and the last one. -/
theorem units_bounds {x : Double} (hx : x ∈ values) : (sampleAt values 0).units ≤ x.units ∧
    x.units ≤ (sampleAt values (values.length - 1)).units := by
  obtain ⟨i, hi, rfl⟩ := List.getElem_of_mem hx
  have hsample : values[i] = sampleAt values i := by simp [sampleAt, hi]
  rw [hsample]
  exact ⟨hs.units_le (Nat.zero_le i) hi, hs.units_le (by omega) (by omega)⟩

/-- So is their average in exact arithmetic. -/
theorem unitsSum_bounds : values.length * (sampleAt values 0).units ≤ unitsSum values ∧
    unitsSum values ≤ values.length * (sampleAt values (values.length - 1)).units := by
  have hlength : (values.map units).length = values.length := List.length_map ..
  constructor
  · have hle := List.card_nsmul_le_sum (values.map units) (sampleAt values 0).units (by
      intro n hn
      obtain ⟨x, hx, rfl⟩ := List.mem_map.mp hn
      exact (hs.units_bounds hx).1)
    rwa [hlength, nsmul_eq_mul, Nat.cast_id] at hle
  · have hle := List.sum_le_card_nsmul (values.map units)
      (sampleAt values (values.length - 1)).units (by
      intro n hn
      obtain ⟨x, hx, rfl⟩ := List.mem_map.mp hn
      exact (hs.units_bounds hx).2)
    rwa [hlength, nsmul_eq_mul, Nat.cast_id] at hle

variable (hfinite : (Double.sum values).isFinite = true)
include hfinite

theorem sum_near : (Double.sum values).Amount ∧
    (1 - unitRoundoff) ^ (values.length - 1) * (unitsSum values : ℚ) ≤ (Double.sum values).units ∧
    ((Double.sum values).units : ℚ) ≤
      (1 + unitRoundoff) ^ (values.length - 1) * (unitsSum values : ℚ) :=
  HttpLoad.sum_near hs.nonempty hs.amounts hfinite

/-- The sum does not fall below a multiple of the first sample. -/
theorem mul_first_le_sum (hm : (sampleAt values 0).Multiplies values.length) :
    values.length * (sampleAt values 0).units ≤ (Double.sum values).units := by
  have hbounds := fun x (hx : x ∈ values) => And.intro (hs.amounts x hx) (hs.units_bounds hx).1
  generalize sampleAt values 0 = least at hm hbounds ⊢
  cases values with
  | nil => exact absurd rfl hs.nonempty
  | cons x xs =>
    obtain ⟨hx, hleast⟩ := hbounds x List.mem_cons_self
    rw [sum_cons hx] at hfinite ⊢
    rw [List.length_cons, Nat.add_comm] at hm ⊢
    refine mul_le_foldl_add hx ?_ (fun y hy => hbounds y (List.mem_cons_of_mem _ hy)) hm hfinite
    rwa [Nat.one_mul]

/-- The sum does not rise above a multiple of the last sample. -/
theorem sum_le_mul_last (hm : (sampleAt values (values.length - 1)).Multiplies values.length) :
    (Double.sum values).units ≤ values.length * (sampleAt values (values.length - 1)).units := by
  have hbounds := fun x (hx : x ∈ values) => And.intro (hs.amounts x hx) (hs.units_bounds hx).2
  generalize sampleAt values (values.length - 1) = greatest at hm hbounds ⊢
  cases values with
  | nil => exact absurd rfl hs.nonempty
  | cons x xs =>
    obtain ⟨hx, hgreatest⟩ := hbounds x List.mem_cons_self
    rw [sum_cons hx] at hfinite ⊢
    rw [List.length_cons, Nat.add_comm] at hm ⊢
    refine foldl_add_le_mul hx ?_ (fun y hy => hbounds y (List.mem_cons_of_mem _ hy)) hm hfinite
    rwa [Nat.one_mul]

theorem amount_mean : (mean values).Amount := by
  rw [mean_eq hs.nonempty]
  exact amount_div_ofNat (hs.sum_near hfinite).1 hs.length_le hs.length_pos

theorem mean_near :
    (1 - unitRoundoff) ^ values.length * ((unitsSum values : ℚ) / values.length) - 1 / 2 ≤
        (mean values).units ∧
      ((mean values).units : ℚ) ≤
        (1 + unitRoundoff) ^ values.length * ((unitsSum values : ℚ) / values.length) + 1 / 2 :=
  HttpLoad.mean_near hs.nonempty hs.amounts hfinite hs.length_le

/-- **The average is not below the first sample** if the multiples of that are doubles. -/
theorem first_noMore_mean (hm : (sampleAt values 0).Multiplies values.length) :
    (sampleAt values 0).NoMore (mean values) := by
  rw [mean_eq hs.nonempty]
  exact noMore_div_ofNat (hs.sum_near hfinite).1 hs.length_le hs.length_pos (hs.amount 0)
    (hs.mul_first_le_sum hfinite hm)

/-- **The average is not above the last sample** if the multiples of that are doubles. -/
theorem mean_noMore_last (hm : (sampleAt values (values.length - 1)).Multiplies values.length) :
    (mean values).NoMore (sampleAt values (values.length - 1)) := by
  rw [mean_eq hs.nonempty]
  exact div_ofNat_noMore (hs.sum_near hfinite).1 hs.length_le hs.length_pos (hs.amount _)
    (hs.sum_le_mul_last hfinite hm)

end AscendingAmounts

/-! ## Equal samples -/

namespace Double

variable {x : Double}

theorem sub_self_of_isFinite (hx : x.isFinite = true) : x - x = zero := by
  have hsum : x.signedUnits + (-x).signedUnits = (0 : Nat) := by
    change x.signedUnits + (if (!x.negative) = true then -(x.units : Int) else x.units) = 0
    cases hneg : x.negative <;> simp [signedUnits, hneg]
  obtain ⟨hnearest, hsign⟩ := add_of_sum (y := -x) hx hx hsum
  refine Double.ext_iff.mpr ⟨?_, NearestTo.eq_zero hnearest⟩
  cases hneg : (x - x).negative with
  | false => rfl
  | true =>
    obtain ⟨-, hplus, hminus⟩ := hsign hneg
    change (!x.negative) = true at hminus
    rw [hplus] at hminus
    cases hminus

theorem units_zero : zero.units = 0 := rfl

theorem zero_mul_zero : zero * zero = zero := by
  have hfinite : zero.isFinite = true := amount_zero.finite
  have hnearest := nearestTo_mul hfinite hfinite
  rw [units_zero, Nat.zero_mul, Nat.cast_zero, zero_div] at hnearest
  exact Double.ext_iff.mpr ⟨negative_mul hfinite hfinite, hnearest.eq_zero⟩

theorem sum_replicate_zero (n : Nat) : Double.sum (List.replicate (n + 1) zero) = zero := by
  rw [List.replicate_succ, sum_cons amount_zero]
  induction n with
  | zero => rfl
  | succ n ih =>
    have hadd : zero + zero = zero := by decide
    rw [List.replicate_succ, List.foldl_cons, hadd, ih]

theorem zero_div_ofNat {n : Nat} (hn : n ≤ 2 ^ 53) (hpos : 0 < n) : zero / ofNat n = zero := by
  obtain ⟨hnearest, -, hsign⟩ := nearestTo_div_ofNat amount_zero hn hpos
  rw [units_zero, Nat.cast_zero, zero_div] at hnearest
  exact Double.ext_iff.mpr ⟨hsign, hnearest.eq_zero⟩

end Double

/-- **Equal samples have no spread** if their average is one of them: every distance from it is
zero, and so are the sum of their squares, its part and the root of that. -/
theorem deviation_replicate {n : Nat} {x : Double} (hx : x.isFinite = true) (hn : n ≤ 2 ^ 53)
    (hmean : mean (List.replicate n x) = x) : deviation (List.replicate n x) = zero := by
  rw [deviation, List.length_replicate]
  split
  · rfl
  next hlength =>
    obtain ⟨m, rfl⟩ : ∃ m, n = m + 1 := ⟨n - 1, by omega⟩
    have hsum : Double.sum ((List.replicate (m + 1) x).map fun v =>
        (v - mean (List.replicate (m + 1) x)) * (v - mean (List.replicate (m + 1) x))) = zero := by
      rw [List.map_replicate, hmean, sub_self_of_isFinite hx, zero_mul_zero, sum_replicate_zero]
    show (Double.sum _ / ofNat (m + 1)).sqrt = zero
    rw [hsum, zero_div_ofNat hn (Nat.succ_pos m)]
    rfl

/-- A running sum of equal amounts has the sign of the amount. -/
theorem negative_foldl_replicate {x sum : Double} (hx : x.Amount) (hsum : sum.Amount)
    (hsign : sum.negative = x.negative) (n : Nat)
    (hfinite : ((List.replicate n x).foldl (· + ·) sum).isFinite = true) :
    ((List.replicate n x).foldl (· + ·) sum).negative = x.negative := by
  induction n generalizing sum with
  | zero => exact hsign
  | succ n ih =>
    rw [List.replicate_succ, List.foldl_cons] at hfinite ⊢
    refine ih (hsum.add hx (isFinite_of_foldl_add hfinite)) ?_ hfinite
    rw [hsum.negative_add hx, hsign, Bool.and_self]

/-- **The average of equal samples is one of them** if its multiples are doubles. -/
theorem mean_replicate {n : Nat} {x : Double} (hx : x.Amount) (hpos : 0 < n) (hn : n ≤ 2 ^ 53)
    (hfinite : (Double.sum (List.replicate n x)).isFinite = true) (hm : x.Multiplies n) :
    mean (List.replicate n x) = x := by
  have hs : AscendingAmounts (List.replicate n x) := by
    rw [← ascending_replicate]
    refine .of_amounts (by simpa using hpos.ne') ?_ (by simpa using hn)
    intro y hy
    rw [List.eq_of_mem_replicate hy]
    exact hx
  have hsample {i : Nat} (hi : i < n) : sampleAt (List.replicate n x) i = x := by
    simp [sampleAt, hi]
  have hlower := hs.first_noMore_mean hfinite
  have hupper := hs.mean_noMore_last hfinite
  rw [List.length_replicate, hsample hpos] at hlower
  rw [List.length_replicate, hsample (Nat.sub_lt hpos Nat.one_pos)] at hupper
  refine Double.ext_iff.mpr ⟨?_, le_antisymm (hupper hm).le (hlower hm).le⟩
  rw [mean_eq hs.nonempty, List.length_replicate,
    (nearestTo_div_ofNat (hs.sum_near hfinite).1 hn hpos).2.2]
  obtain ⟨m, rfl⟩ : ∃ m, n = m + 1 := Nat.exists_eq_succ_of_ne_zero hpos.ne'
  rw [List.replicate_succ, sum_cons hx] at hfinite ⊢
  exact negative_foldl_replicate hx hx rfl m hfinite

/-! ## Statistics -/

namespace LatencyStats

/-- **The average in range**, up to the rounding of `n` sums. -/
structure InRangeUpToRounding (s : LatencyStats) (n : Nat) : Prop where
  min_le_avg : (1 - unitRoundoff) ^ n * (s.min.units : ℚ) - 1 / 2 ≤ s.avg.units
  avg_le_max : (s.avg.units : ℚ) ≤ (1 + unitRoundoff) ^ n * s.max.units + 1 / 2

/-- The average in range, as numbers. -/
structure InRange (s : LatencyStats) : Prop where
  min_le_avg : s.min.atMost s.avg = true
  avg_le_max : s.avg.atMost s.max = true

variable {values : List Double}

theorem min_ofAscending : (ofAscending values).min = sampleAt values 0 := by
  simp only [ofAscending, sampleAt, List.head?_eq_getElem?]

theorem max_ofAscending : (ofAscending values).max = sampleAt values (values.length - 1) := by
  simp only [ofAscending, sampleAt, List.getLast?_eq_getElem?]

theorem avg_ofAscending : (ofAscending values).avg = mean values := rfl

theorem stdev_ofAscending : (ofAscending values).stdev = deviation values := rfl

variable (hs : AscendingAmounts values) (hfinite : (Double.sum values).isFinite = true)
include hs hfinite

theorem ofAscending_inRangeUpToRounding :
    (ofAscending values).InRangeUpToRounding values.length := by
  obtain ⟨hlower, hupper⟩ := hs.mean_near hfinite
  obtain ⟨hleast, hgreatest⟩ := hs.unitsSum_bounds
  have hcount : (0 : ℚ) < values.length := Nat.cast_pos.mpr hs.length_pos
  have hleast : ((sampleAt values 0).units : ℚ) ≤ unitsSum values / values.length := by
    rw [le_div_iff₀ hcount, mul_comm]
    exact_mod_cast hleast
  have hgreatest : (unitsSum values : ℚ) / values.length ≤
      (sampleAt values (values.length - 1)).units := by
    rw [div_le_iff₀ hcount, mul_comm]
    exact_mod_cast hgreatest
  have hfactor : 0 ≤ 1 + unitRoundoff := by linarith [unitRoundoff_pos]
  constructor
  · rw [min_ofAscending]
    refine le_trans (sub_le_sub_right ?_ _) hlower
    exact mul_le_mul_of_nonneg_left hleast (pow_nonneg one_sub_unitRoundoff_nonneg _)
  · rw [max_ofAscending]
    refine hupper.trans (add_le_add_left ?_ _)
    exact mul_le_mul_of_nonneg_left hgreatest (pow_nonneg hfactor _)

theorem ofAscending_inRange (hmin : (ofAscending values).min.Multiplies values.length)
    (hmax : (ofAscending values).max.Multiplies values.length) : (ofAscending values).InRange := by
  rw [min_ofAscending] at hmin
  rw [max_ofAscending] at hmax
  constructor
  · rw [min_ofAscending]
    exact (hs.first_noMore_mean hfinite hmin).atMost
  · rw [max_ofAscending]
    exact (hs.mean_noMore_last hfinite hmax).atMost

end LatencyStats

/-- **The average is in range up to rounding**, for samples in any order whose sum is finite. If the
multiples of the least and of the greatest sample are doubles, as many of them as there are samples,
it is in range as it stands, and so it is for one or two samples. Equal samples are their average
under that condition, and whenever they are, there is no spread. -/
theorem average_in_range_up_to_rounding {samples : List Double} (hne : samples ≠ [])
    (hamounts : ∀ x ∈ samples, x.Amount) (hlength : samples.length ≤ 2 ^ 53)
    (hfinite : (Double.sum (ascending samples)).isFinite = true) :
    (LatencyStats.ofSamples samples).avg.Amount ∧
      (LatencyStats.ofSamples samples).InRangeUpToRounding samples.length ∧
      ((LatencyStats.ofSamples samples).min.Multiplies samples.length →
        (LatencyStats.ofSamples samples).max.Multiplies samples.length →
        (LatencyStats.ofSamples samples).InRange) ∧
      (samples.length ≤ 2 → (LatencyStats.ofSamples samples).InRange) ∧
      ∀ x, samples = List.replicate samples.length x →
        (x.Multiplies samples.length → (LatencyStats.ofSamples samples).avg = x) ∧
        ((LatencyStats.ofSamples samples).avg = x →
          (LatencyStats.ofSamples samples).stdev = Double.zero) := by
  have hs : AscendingAmounts (ascending samples) := .of_amounts hne hamounts hlength
  have hcount : (ascending samples).length = samples.length := (ascending_perm samples).length_eq
  have hbounds := LatencyStats.ofAscending_inRangeUpToRounding hs hfinite
  have hrange := LatencyStats.ofAscending_inRange hs hfinite
  rw [hcount] at hbounds hrange
  refine ⟨hs.amount_mean hfinite, hbounds, hrange, fun hle => ?_, fun x hsamples => ?_⟩
  · exact hrange (fun k hk => multiplies_two _ k (hk.trans hle))
      fun k hk => multiplies_two _ k (hk.trans hle)
  · have hsorted : ascending samples = List.replicate samples.length x := by
      rw [hsamples, List.length_replicate, ascending_replicate]
    have hx : x.Amount := by
      refine hamounts x ?_
      rw [hsamples]
      exact List.mem_replicate.mpr ⟨(List.length_pos_iff.mpr hne).ne', rfl⟩
    rw [LatencyStats.ofSamples, LatencyStats.avg_ofAscending, LatencyStats.stdev_ofAscending]
    rw [hsorted] at hfinite ⊢
    exact ⟨mean_replicate hx (List.length_pos_iff.mpr hne) hlength hfinite,
      deviation_replicate hx.finite hlength⟩

/-- The double nearest to 0.1. -/
def tenth : Double := Double.ofNat 1 / Double.ofNat 10

/-- Twelve and a half. -/
def twelveAndAHalf : Double := Double.ofNat 25 / Double.ofNat 2

/-- What the statistics of equal samples of a tenth and of twelve and a half are computed from. -/
theorem average_computed :
    tenth.Amount ∧ (Double.sum [tenth, tenth, tenth]).isFinite = true ∧
      (mean [tenth, tenth, tenth]).place = tenth.place + 1 ∧
      deviation [tenth, tenth, tenth] ≠ Double.zero ∧
      twelveAndAHalf.Amount ∧ twelveAndAHalf.units = 25 * 2 ^ 1073 ∧
      (Double.sum (List.replicate 25 twelveAndAHalf)).isFinite = true := by
  decide +kernel

/-- The law of a fixed latency, for twenty-five samples of twelve and a half. -/
theorem average_in_range_up_to_rounding_twelveAndAHalf :
    (LatencyStats.ofSamples (List.replicate 25 twelveAndAHalf)).InRange ∧
      (LatencyStats.ofSamples (List.replicate 25 twelveAndAHalf)).avg = twelveAndAHalf ∧
      (LatencyStats.ofSamples (List.replicate 25 twelveAndAHalf)).stdev = Double.zero := by
  obtain ⟨-, -, -, -, hamount, hunits, hfinite⟩ := average_computed
  have hm : twelveAndAHalf.Multiplies 25 := multiplies_of_units hunits (by decide)
  rw [← ascending_replicate] at hfinite
  have hne : List.replicate 25 twelveAndAHalf ≠ [] := List.cons_ne_nil _ _
  obtain ⟨-, -, hrange, -, hequal⟩ := average_in_range_up_to_rounding hne
    (fun x hx => List.eq_of_mem_replicate hx ▸ hamount) (by decide) hfinite
  obtain ⟨havg, hstdev⟩ := hequal twelveAndAHalf rfl
  refine ⟨hrange ?_ ?_, havg hm, hstdev (havg hm)⟩
  · rw [LatencyStats.ofSamples, ascending_replicate]
    exact hm
  · rw [LatencyStats.ofSamples, ascending_replicate]
    exact hm

/-- **Range and spread are lost**: three samples of a tenth have an average above all of them, and
they have a spread. -/
theorem average_above_equal_samples :
    tenth.Amount ∧ (Double.sum (ascending [tenth, tenth, tenth])).isFinite = true ∧
      (LatencyStats.ofSamples [tenth, tenth, tenth]).max = tenth ∧
      (LatencyStats.ofSamples [tenth, tenth, tenth]).avg.atMost tenth = false ∧
      (LatencyStats.ofSamples [tenth, tenth, tenth]).avg ≠ tenth ∧
      (LatencyStats.ofSamples [tenth, tenth, tenth]).stdev ≠ Double.zero := by
  obtain ⟨hamount, hfinite, hplace, hspread, -⟩ := average_computed
  have hsorted (x : Double) : ascending [x, x, x] = [x, x, x] := ascending_replicate 3 x
  have hmax (x : Double) : (LatencyStats.ofAscending [x, x, x]).max = x := rfl
  rw [LatencyStats.ofSamples, hsorted, hmax, LatencyStats.avg_ofAscending,
    LatencyStats.stdev_ofAscending]
  refine ⟨hamount, hfinite, rfl, ?_, ?_, hspread⟩
  · rw [Double.atMost, hplace, decide_eq_false (by omega), Bool.and_false]
  · intro hmean
    rw [hmean] at hplace
    omega

end HttpLoad
