import HttpLoad.Proofs.Report.Posting
import HttpLoad.Proofs.Stats.Rank

/-!
# Order and range of percentiles

A value between two samples is rounded six times: its position twice, one weight, both products
and their sum. If only the sum was rounded, it would lie between the two samples, although the
weights need not make one, and a percentile could be above a greater one by at most one step.
Rounding the products costs one step more. So percentiles of ascending samples are in order and in
their range up to a few steps between doubles, but not exactly: of equal samples, a percentile may
be another double.

## Main definitions

* `AscendingAmounts samples`: amounts in ascending order
* `Rank.weighted`, `Rank.once`: the value at a rank, exact and rounded once

## Main results

* `Rank.StandsAt.sample_le_once`, `Rank.StandsAt.once_le_sample`: rounded once, a value is between
  the samples around it
* `Rank.StandsAt.once_mono`: rounded once, values are in order up to one step
* `Rank.StandsAt.exists_value`: a value is at most one step from what it would be then
* `percentiles_ordered_up_to_steps`: percentiles, and the statistics of samples
* `p90_below_equal_samples`: a percentile below all samples
-/

namespace HttpLoad

open Double

/-- **Ascending amounts**, no more than doubles can count. -/
structure AscendingAmounts (samples : List Double) : Prop where
  nonempty : samples ≠ []
  amounts : ∀ x ∈ samples, x.Amount
  ascending : samples.Pairwise fun x y => x.place ≤ y.place
  length_le : samples.length ≤ 2 ^ 53

/-- The sample at an index; zero if there is none. -/
def sampleAt (samples : List Double) (i : Nat) : Double := samples[i]?.getD Double.zero

variable {samples : List Double}

theorem getElem?_eq_sampleAt {i : Nat} (hi : i < samples.length) :
    samples[i]? = some (sampleAt samples i) := by
  simp [sampleAt, hi]

section

variable (hs : AscendingAmounts samples)
include hs

theorem AscendingAmounts.length_pos : 0 < samples.length := List.length_pos_iff.mpr hs.nonempty

theorem AscendingAmounts.amount (i : Nat) : (sampleAt samples i).Amount := by
  rcases Nat.lt_or_ge i samples.length with hi | hi
  · refine hs.amounts _ (List.mem_of_getElem? (getElem?_eq_sampleAt hi))
  · rw [sampleAt, List.getElem?_eq_none hi]
    exact ⟨rfl, le_rfl⟩

theorem AscendingAmounts.magnitude_le {i j : Nat} (hij : i ≤ j) (hj : j < samples.length) :
    (sampleAt samples i).magnitude ≤ (sampleAt samples j).magnitude := by
  rcases hij.eq_or_lt with rfl | hlt
  · exact le_rfl
  · have hi : i < samples.length := hlt.trans hj
    have hle := List.pairwise_iff_getElem.mp hs.ascending i j hi hj hlt
    have hplace : (sampleAt samples i).place ≤ (sampleAt samples j).place := by
      simpa [sampleAt, hi, hj] using hle
    rw [(hs.amount i).place_eq, (hs.amount j).place_eq] at hplace
    exact_mod_cast hplace

theorem AscendingAmounts.units_le {i j : Nat} (hij : i ≤ j) (hj : j < samples.length) :
    (sampleAt samples i).units ≤ (sampleAt samples j).units :=
  unitsOf_strictMono.monotone (hs.magnitude_le hij hj)

end

namespace Rank

/-! ## Values that are rounded once -/

/-- The value at a rank, exactly: in units, and times `one`. -/
def weighted (samples : List Double) : Rank Double → Nat
  | on i => (sampleAt samples i).units * one
  | between i j lower upper =>
    (sampleAt samples i).units * lower.units + (sampleAt samples j).units * upper.units

/-- **The value at a rank, rounded once.** -/
def once (samples : List Double) (r : Rank Double) : Nat := nearest (r.weighted samples) one

theorem nearestTo_once (samples : List Double) (r : Rank Double) :
    NearestTo (r.weighted samples / one) (r.once samples) :=
  nearestTo_nearest _ oneUnits_pos

section

variable (hs : AscendingAmounts samples) {r r' : Rank Double} {i u u' : Nat}
  {lower upper : Double}
include hs

theorem once_on (i : Nat) : (Rank.on i).once samples = (sampleAt samples i).magnitude := by
  have hnearest := nearestTo_once samples (.on i)
  rw [weighted, Nat.cast_mul, mul_div_cancel_right₀ _ cast_one_pos.ne'] at hnearest
  exact hnearest.unique (nearestTo_valueOf (isFinite_iff.mp (hs.amount i).finite).le)

/-- Rounded once, a value is not below the sample before it. -/
theorem le_once_between (h : Weighted i u lower upper) (hi : i + 1 < samples.length) :
    (sampleAt samples i).magnitude ≤ (Rank.between i (i + 1) lower upper).once samples := by
  have hnearest := nearestTo_once samples (.between i (i + 1) lower upper)
  refine hnearest.ge_of_near (isFinite_iff.mp (hs.amount i).finite).le ?_
  change ((sampleAt samples i).units - (sampleAt samples i).units / 2 ^ 54 : ℚ) ≤ _
  have hle : ((sampleAt samples i).units : ℚ) ≤ (sampleAt samples (i + 1)).units :=
    Nat.cast_le.mpr (hs.units_le (Nat.le_succ i) hi)
  have hrest := abs_le.mp h.rest
  have hsample : (0 : ℚ) ≤ (sampleAt samples i).units := Nat.cast_nonneg _
  rw [le_div_iff₀ cast_one_pos, weighted]
  push_cast
  generalize ((sampleAt samples i).units : ℚ) = x at *
  generalize ((sampleAt samples (i + 1)).units : ℚ) = y at *
  calc (x - x / 2 ^ 54) * one
      = x * (one - one / 2 ^ 54) := by ring
    _ ≤ x * (lower.units + upper.units) := mul_le_mul_of_nonneg_left (by linarith) hsample
    _ = x * lower.units + x * upper.units := mul_add _ _ _
    _ ≤ x * lower.units + y * upper.units := by gcongr

/-- Rounded once, a value is not beyond the sample after it. -/
theorem once_between_le (h : Weighted i u lower upper) (hi : i + 1 < samples.length) :
    (Rank.between i (i + 1) lower upper).once samples ≤ (sampleAt samples (i + 1)).magnitude := by
  have hnearest := nearestTo_once samples (.between i (i + 1) lower upper)
  refine hnearest.le_of_near ?_
  change _ ≤ ((sampleAt samples (i + 1)).units + (sampleAt samples (i + 1)).units / 2 ^ 54 : ℚ)
  have hle : ((sampleAt samples i).units : ℚ) ≤ (sampleAt samples (i + 1)).units :=
    Nat.cast_le.mpr (hs.units_le (Nat.le_succ i) hi)
  have hrest := abs_le.mp h.rest
  have hsample : (0 : ℚ) ≤ (sampleAt samples (i + 1)).units := Nat.cast_nonneg _
  rw [div_le_iff₀ cast_one_pos, weighted]
  push_cast
  generalize ((sampleAt samples i).units : ℚ) = x at *
  generalize ((sampleAt samples (i + 1)).units : ℚ) = y at *
  calc x * lower.units + y * upper.units
      ≤ y * lower.units + y * upper.units := by gcongr
    _ = y * (lower.units + upper.units) := (mul_add _ _ _).symm
    _ ≤ y * (one + one / 2 ^ 54) := mul_le_mul_of_nonneg_left (by linarith) hsample
    _ = (y + y / 2 ^ 54) * one := by ring

/-- **Rounded once, a value is not below the samples before its position.** -/
theorem StandsAt.sample_le_once (h : StandsAt r u) (hi : i * one ≤ u)
    (hu : u ≤ (samples.length - 1) * one) :
    (sampleAt samples i).magnitude ≤ r.once samples := by
  have hlength := hs.length_pos
  cases h with
  | on k =>
    have hik : i ≤ k := Nat.le_of_mul_le_mul_right hi oneUnits_pos
    have hk : k ≤ samples.length - 1 := Nat.le_of_mul_le_mul_right hu oneUnits_pos
    rw [once_on hs]
    exact hs.magnitude_le hik (by omega)
  | @between k _ lower upper hfrom hto hweighted =>
    have hik : i < k + 1 := Nat.lt_of_mul_lt_mul_right (hi.trans_lt hto)
    have hk : k < samples.length - 1 := Nat.lt_of_mul_lt_mul_right (hfrom.trans_le hu)
    exact (hs.magnitude_le (by omega) (by omega)).trans (le_once_between hs hweighted (by omega))

/-- **Rounded once, a value is not beyond the samples after its position.** -/
theorem StandsAt.once_le_sample (h : StandsAt r u) (hi : u ≤ i * one)
    (hlength : i < samples.length) : r.once samples ≤ (sampleAt samples i).magnitude := by
  cases h with
  | on k =>
    have hki : k ≤ i := Nat.le_of_mul_le_mul_right hi oneUnits_pos
    rw [once_on hs]
    exact hs.magnitude_le hki hlength
  | @between k _ lower upper hfrom hto hweighted =>
    have hki : k < i := Nat.lt_of_mul_lt_mul_right (hfrom.trans_le hi)
    exact (once_between_le hs hweighted (by omega)).trans (hs.magnitude_le hki hlength)

/-- Between two samples, a greater position has no lesser value but for one step. -/
theorem once_between_le_succ {lower' upper' : Double} (h : Weighted i u lower upper)
    (h' : Weighted i u' lower' upper') (hle : u ≤ u') (hi : i + 1 < samples.length) :
    (Rank.between i (i + 1) lower upper).once samples ≤
      (Rank.between i (i + 1) lower' upper').once samples + 1 := by
  refine (nearestTo_once samples _).le_succ_of_near (nearestTo_once samples _) ?_
  have hsamples : ((sampleAt samples i).units : ℚ) ≤ (sampleAt samples (i + 1)).units :=
    Nat.cast_le.mpr (hs.units_le (Nat.le_succ i) hi)
  have honce : ((sampleAt samples i).units : ℚ) ≤
      valueOf ((Rank.between i (i + 1) lower' upper').once samples) :=
    valueOf_strictMono.monotone (le_once_between hs h' hi)
  have hupper : (upper.units : ℚ) ≤ upper'.units := by
    have hpositions := h.position.trans_le (hle.trans h'.position.ge)
    exact_mod_cast Nat.le_of_add_le_add_left hpositions
  have hrest := abs_le.mp h.rest
  have hrest' := abs_le.mp h'.rest
  have hsample : (0 : ℚ) ≤ (sampleAt samples i).units := Nat.cast_nonneg _
  have hone := cast_one_pos
  generalize valueOf ((Rank.between i (i + 1) lower' upper').once samples) = result at honce
  rw [div_le_iff₀ hone, add_mul, div_mul_cancel₀ _ hone.ne']
  simp only [weighted]
  push_cast
  generalize ((sampleAt samples i).units : ℚ) = x at *
  generalize ((sampleAt samples (i + 1)).units : ℚ) = y at *
  -- what the lower weight loses, the upper one gains, up to the errors of the two lower weights
  have hlost : (lower.units : ℚ) ≤ lower'.units + (upper'.units - upper.units) + one / 2 ^ 53 := by
    linarith
  have hgained : x * (upper'.units - upper.units) ≤ y * (upper'.units - upper.units) :=
    mul_le_mul_of_nonneg_right hsamples (sub_nonneg.mpr hupper)
  have herror : x * (one / 2 ^ 53) ≤ result * (one / 2 ^ 53) :=
    mul_le_mul_of_nonneg_right honce (div_nonneg hone.le (by norm_num))
  calc x * lower.units + y * upper.units
      ≤ x * (lower'.units + (upper'.units - upper.units) + one / 2 ^ 53) + y * upper.units :=
        add_le_add_left (mul_le_mul_of_nonneg_left hlost hsample) _
    _ = x * lower'.units + x * (upper'.units - upper.units) + x * (one / 2 ^ 53) +
          y * upper.units := by ring
    _ ≤ x * lower'.units + y * (upper'.units - upper.units) + result * (one / 2 ^ 53) +
          y * upper.units := by linarith
    _ = x * lower'.units + y * upper'.units + result / 2 ^ 53 * one := by ring

/-- **Rounded once, a greater position has no lesser value** but for one step. -/
theorem StandsAt.once_mono (h : StandsAt r u) (h' : StandsAt r' u') (hle : u ≤ u')
    (hu' : u' ≤ (samples.length - 1) * one) : r.once samples ≤ r'.once samples + 1 := by
  have hlength := hs.length_pos
  by_cases hbetween : ∃ k, u ≤ k * one ∧ k * one ≤ u'
  · obtain ⟨k, hk, hk'⟩ := hbetween
    have hlast : k ≤ samples.length - 1 := Nat.le_of_mul_le_mul_right (hk'.trans hu') oneUnits_pos
    calc r.once samples ≤ (sampleAt samples k).magnitude := h.once_le_sample hs hk (by omega)
      _ ≤ r'.once samples := h'.sample_le_once hs hk' hu'
      _ ≤ r'.once samples + 1 := Nat.le_succ _
  · cases h with
    | on k => exact absurd ⟨k, le_rfl, hle⟩ hbetween
    | @between k _ lower upper hfrom hto hweighted =>
      cases h' with
      | on k' => exact absurd ⟨k', hle, le_rfl⟩ hbetween
      | @between k' _ lower' upper' hfrom' hto' hweighted' =>
        have hto'' : u' < (k + 1) * one := by
          by_contra hbeyond
          exact hbetween ⟨k + 1, hto.le, Nat.not_lt.mp hbeyond⟩
        have hkk' : k < k' + 1 := Nat.lt_of_mul_lt_mul_right (hfrom.trans (hle.trans_lt hto'))
        have hk'k : k' < k + 1 := Nat.lt_of_mul_lt_mul_right (hfrom'.trans hto'')
        obtain rfl : k' = k := by omega
        have hk : k' < samples.length - 1 := Nat.lt_of_mul_lt_mul_right (hfrom'.trans_le hu')
        exact once_between_le_succ hs hweighted hweighted' hle (by omega)

/-! ## The values of ranks -/

/-- **A value is at most one step from what it would be if it was rounded once.** -/
theorem StandsAt.exists_value (h : StandsAt r u) (hu : u ≤ (samples.length - 1) * one) :
    ∃ v, r.value? samples = some v ∧ v.place = v.magnitude ∧
      v.magnitude ≤ r.once samples + 1 ∧ r.once samples ≤ v.magnitude + 1 := by
  have hlength := hs.length_pos
  cases h with
  | on k =>
    have hk : k ≤ samples.length - 1 := Nat.le_of_mul_le_mul_right hu oneUnits_pos
    refine ⟨sampleAt samples k, getElem?_eq_sampleAt (by omega), (hs.amount k).place_eq, ?_⟩
    rw [once_on hs]
    exact ⟨Nat.le_succ _, Nat.le_succ _⟩
  | @between k _ lower upper hfrom hto h =>
    have hk : k < samples.length - 1 := Nat.lt_of_mul_lt_mul_right (hfrom.trans_le hu)
    have hx := (hs.amount k).mul_of_le_one h.lower_amount h.lower_le_one
    have hy := (hs.amount (k + 1)).mul_of_le_one h.upper_amount h.upper_le_one
    obtain ⟨hsum, hplace⟩ := hx.nearestTo_add hy
    refine ⟨sampleAt samples k * lower + sampleAt samples (k + 1) * upper, ?_, hplace, ?_⟩
    · have hfirst : k < samples.length := by omega
      have hsecond : k + 1 < samples.length := by omega
      simp only [value?, getElem?_eq_sampleAt hfirst, getElem?_eq_sampleAt hsecond]
      rfl
    · have honce := nearestTo_once samples (.between k (k + 1) lower upper)
      rw [weighted, Nat.cast_add, add_div] at honce
      rw [Nat.cast_add] at hsum
      exact NearestTo.add_rounded (div_nonneg (Nat.cast_nonneg _) cast_one_pos.le)
        (div_nonneg (Nat.cast_nonneg _) cast_one_pos.le)
        (nearestTo_mul (hs.amount k).finite h.lower_amount.finite)
        (nearestTo_mul (hs.amount (k + 1)).finite h.upper_amount.finite) honce hsum

end

end Rank

/-! ## Percentiles -/

section

variable (hs : AscendingAmounts samples) {p q : Double}
include hs

theorem AscendingAmounts.index_le : samples.length - 1 ≤ 2 ^ 53 :=
  (Nat.sub_le _ _).trans hs.length_le

/-- A percentile is at most one step from what it would be if it was rounded once. -/
theorem percentile_spec (hp : p.isNaN = false) :
    (percentile samples p).place = (percentile samples p).magnitude ∧
      (percentile samples p).magnitude ≤ (Rank.of samples.length p).once samples + 1 ∧
      (Rank.of samples.length p).once samples ≤ (percentile samples p).magnitude + 1 := by
  obtain ⟨v, hv, hspec⟩ := (Rank.standsAt_of hs.index_le hp).exists_value hs
    (Rank.positionUnits_le hs.index_le hp)
  have hvalue : percentile samples p = v := by rw [percentile, hv, Option.getD_some]
  rw [hvalue]
  exact hspec

/-- **The range of percentiles**, up to one step. -/
theorem percentile_in_range (hp : p.isNaN = false) :
    (sampleAt samples 0).place ≤ (percentile samples p).place + 1 ∧
      (percentile samples p).place ≤ (sampleAt samples (samples.length - 1)).place + 1 := by
  obtain ⟨hplace, hle, hge⟩ := percentile_spec hs hp
  have hlength := hs.length_pos
  have hstands := Rank.standsAt_of hs.index_le hp
  have hposition := Rank.positionUnits_le hs.index_le hp
  have hfirst := hstands.sample_le_once hs (i := 0) (by rw [Nat.zero_mul]; exact Nat.zero_le _)
    hposition
  have hlast := hstands.once_le_sample hs hposition (by omega)
  rw [hplace, (hs.amount _).place_eq, (hs.amount _).place_eq]
  omega

/-- **The order of percentiles**, up to three steps. -/
theorem percentile_mono (hpq : p.atMost q = true) :
    (percentile samples p).place ≤ (percentile samples q).place + 3 := by
  obtain ⟨hp, hq, -⟩ := Rank.atMost_iff.mp hpq
  obtain ⟨hplace, hle, -⟩ := percentile_spec hs hp
  obtain ⟨hplace', -, hge⟩ := percentile_spec hs hq
  have honce := (Rank.standsAt_of hs.index_le hp).once_mono hs (Rank.standsAt_of hs.index_le hq)
    (Rank.positionUnits_mono hs.index_le hpq) (Rank.positionUnits_le hs.index_le hq)
  rw [hplace, hplace']
  omega

theorem percentile_of_le_zero (hp : p.atMost (Double.ofNat 0) = true) :
    percentile samples p = sampleAt samples 0 := by
  have hrank : Rank.of samples.length p = .on 0 := if_pos hp
  simp only [percentile, hrank, Rank.value?, getElem?_eq_sampleAt hs.length_pos, Option.getD_some]

theorem percentile_of_hundred_le (hp : (Double.ofNat 100).atMost p = true) :
    percentile samples p = sampleAt samples (samples.length - 1) := by
  have hlast : samples.length - 1 < samples.length := by
    have := hs.length_pos
    omega
  simp only [percentile, Rank.of_hundred_le hp, Rank.value?, getElem?_eq_sampleAt hlast,
    Option.getD_some]

end

/-! ## Statistics -/

namespace LatencyStats

/-- **Statistics in order**, up to a few steps between doubles. -/
structure OrderedUpToSteps (s : LatencyStats) : Prop where
  min_le_median : s.min.place ≤ s.median.place + 1
  median_le_p90 : s.median.place ≤ s.p90.place + 3
  p90_le_p95 : s.p90.place ≤ s.p95.place + 3
  p95_le_p99 : s.p95.place ≤ s.p99.place + 3
  p99_le_max : s.p99.place ≤ s.max.place + 1
  min_le_max : s.min.place ≤ s.max.place

theorem ofAscending_ordered (hs : AscendingAmounts samples) :
    (ofAscending samples).OrderedUpToSteps := by
  have hfirst : (ofAscending samples).min = sampleAt samples 0 := by
    simp only [ofAscending, sampleAt, List.head?_eq_getElem?]
  have hlast : (ofAscending samples).max = sampleAt samples (samples.length - 1) := by
    simp only [ofAscending, sampleAt, List.getLast?_eq_getElem?]
  have hlength := hs.length_pos
  constructor
  · rw [hfirst]
    simp only [ofAscending]
    exact (percentile_in_range hs (isNaN_ofNat 50)).1
  · simp only [ofAscending]
    exact percentile_mono hs (Rank.ofNat_atMost (by decide))
  · simp only [ofAscending]
    exact percentile_mono hs (Rank.ofNat_atMost (by decide))
  · simp only [ofAscending]
    exact percentile_mono hs (Rank.ofNat_atMost (by decide))
  · rw [hlast]
    simp only [ofAscending]
    exact (percentile_in_range hs (isNaN_ofNat 99)).2
  · rw [hfirst, hlast, (hs.amount _).place_eq, (hs.amount _).place_eq]
    exact_mod_cast hs.magnitude_le (Nat.zero_le _) (by omega)

end LatencyStats

theorem place_le_of_totalKey_le {x y : Double} (h : x.totalKey ≤ y.totalKey) :
    x.place ≤ y.place := by
  unfold totalKey at h
  unfold place
  split at h <;> split at h <;> simp_all
  omega

/-- Amounts in any order are ascending amounts once they are in order. -/
theorem AscendingAmounts.of_amounts {values : List Double} (hne : values ≠ [])
    (hamounts : ∀ x ∈ values, x.Amount) (hlength : values.length ≤ 2 ^ 53) :
    AscendingAmounts (HttpLoad.ascending values) := by
  have hperm := ascending_perm values
  refine ⟨?_, ?_, ?_, ?_⟩
  · intro hempty
    rw [hempty] at hperm
    exact hne hperm.nil_eq.symm
  · intro x hx
    exact hamounts x (hperm.mem_iff.mp hx)
  · exact (pairwise_ascending values).imp place_le_of_totalKey_le
  · exact hperm.length_eq ▸ hlength

open scoped List in
theorem AscendingAmounts.of_perm {values : List Double} (hs : AscendingAmounts samples)
    (h : values ~ samples) : AscendingAmounts (HttpLoad.ascending values) := by
  refine .of_amounts ?_ ?_ (h.length_eq ▸ hs.length_le)
  · intro hempty
    rw [hempty] at h
    exact hs.nonempty h.nil_eq.symm
  · intro x hx
    exact hs.amounts x (h.mem_iff.mp hx)

open scoped List in
/-- **Percentiles are in order and in range up to a few steps** between doubles, and exact at both
ends. -/
theorem percentiles_ordered_up_to_steps (hs : AscendingAmounts samples) :
    (∀ p : Double, p.isNaN = false →
      (samples.head hs.nonempty).place ≤ (percentile samples p).place + 1 ∧
      (percentile samples p).place ≤ (samples.getLast hs.nonempty).place + 1) ∧
    (∀ p q : Double, p.atMost q = true →
      (percentile samples p).place ≤ (percentile samples q).place + 3) ∧
    (∀ p : Double, p.atMost (Double.ofNat 0) = true →
      percentile samples p = samples.head hs.nonempty) ∧
    (∀ p : Double, (Double.ofNat 100).atMost p = true →
      percentile samples p = samples.getLast hs.nonempty) ∧
    ∀ values, values ~ samples → (LatencyStats.ofSamples values).OrderedUpToSteps := by
  have hfirst : sampleAt samples 0 = samples.head hs.nonempty := by
    rw [sampleAt, ← List.head?_eq_getElem?, List.head?_eq_some_head hs.nonempty, Option.getD_some]
  have hlast : sampleAt samples (samples.length - 1) = samples.getLast hs.nonempty := by
    rw [sampleAt, ← List.getLast?_eq_getElem?, List.getLast?_eq_some_getLast hs.nonempty,
      Option.getD_some]
  rw [← hfirst, ← hlast]
  refine ⟨?_, ?_, ?_, ?_, ?_⟩
  · intro p hp
    exact percentile_in_range hs hp
  · intro p q hpq
    exact percentile_mono hs hpq
  · intro p hp
    exact percentile_of_le_zero hs hp
  · intro p hp
    exact percentile_of_hundred_le hs hp
  · intro values hvalues
    exact LatencyStats.ofAscending_ordered (hs.of_perm hvalues)

/-- The double nearest to 3.9. -/
def threePointNine : Double := Double.ofNat 39 / Double.ofNat 10

theorem ascending_replicate (n : Nat) (x : Double) :
    ascending (List.replicate n x) = List.replicate n x :=
  List.perm_replicate.mp (ascending_perm _)

theorem ascending_two_equal (x : Double) : ascending [x, x] = [x, x] := ascending_replicate 2 x

theorem amount_threePointNine : threePointNine.Amount :=
  amount_of_not_negative (by decide +kernel) (by decide +kernel)

/-- The statistics of two equal samples are in order up to a few steps. -/
theorem percentiles_ordered_up_to_steps_twoEqual :
    AscendingAmounts [threePointNine, threePointNine] ∧
      (LatencyStats.ofSamples [threePointNine, threePointNine]).OrderedUpToSteps := by
  have hs : AscendingAmounts [threePointNine, threePointNine] := by
    refine ⟨by simp, ?_, List.pairwise_pair.mpr le_rfl, by simp⟩
    intro x hx
    have hx : x = threePointNine := by simpa using hx
    rw [hx]
    exact amount_threePointNine
  obtain ⟨-, -, -, -, hstats⟩ := percentiles_ordered_up_to_steps hs
  exact ⟨hs, hstats _ (List.Perm.refl _)⟩

/-- **Order and range are lost**: of two samples of 3.9, the 90th percentile is the double below
them, and so it is below the least sample and below the median. -/
theorem p90_below_equal_samples :
    threePointNine.Amount ∧
      (let s := LatencyStats.ofSamples [threePointNine, threePointNine]
      s.min = threePointNine ∧ s.median = threePointNine ∧
        s.p90.place = threePointNine.place - 1 ∧
        s.min.atMost s.p90 = false ∧ s.median.atMost s.p90 = false) := by
  refine ⟨amount_threePointNine, ?_⟩
  rw [LatencyStats.ofSamples, ascending_two_equal]
  decide +kernel

end HttpLoad
