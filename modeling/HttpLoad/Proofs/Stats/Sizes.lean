import Mathlib.Algebra.BigOperators.Ring.List
import Mathlib.Data.List.Permutation
import HttpLoad.Proofs.Stats.Average

/-!
# The average of sizes, and their order

Sizes are made doubles and added in the order in which requests were finished. As long as every sum
on the way is a double, nothing is lost and the order does not matter: so it is if all sizes but one
come to at most `2 ^ 53`, and with all sizes multiples of a power of two, if they come to that many
of them. Beyond, a size of one that is added to `2 ^ 53` is lost, while two that are added first are
not, so the average of three sizes can depend on their order.

## Main definitions

* `Double.Whole n`: a natural number that is a finite double
* `SizeStats.exactAverage sizes`: the average in exact arithmetic

## Main results

* `Double.sum_ofNat`: a running sum of sizes that is exact but for its last step
* `SizeStats.avg_near`: in every order the average is near the exact one
* `average_size_in_any_order`: when the order of sizes does not matter, and how much it can
* `average_size_of_order`: three sizes whose order matters
-/

namespace HttpLoad

open Double
open scoped List

namespace Double

/-! ## Natural numbers that are doubles -/

/-- **A natural number that is a finite double.** -/
structure Whole (n : Nat) : Prop where
  units_eq : (ofNat n).units = n * one
  finite : (ofNat n).isFinite = true

variable {m n k : Nat}

theorem Whole.amount (h : Whole n) : (ofNat n).Amount :=
  amount_of_not_negative (negative_ofNat n) h.finite

/-- A number of up to 53 places is a double, and so it is when it is shifted. -/
theorem whole_of_shifted {places shift : Nat} (hplaces : places ≤ 2 ^ 53) (hshift : shift ≤ 900) :
    Whole (places * 2 ^ shift) := by
  obtain ⟨p, hp, hone⟩ := exists_one_eq
  obtain ⟨c, hc, hvalue⟩ := exists_valueOf_eq (shift + p) hplaces
  have hinfinity : infinityMagnitude = 2047 * 2 ^ 52 := rfl
  have hlt : c < infinityMagnitude := by omega
  have hunits : unitsOf c = places * 2 ^ shift * one := by
    have hcast : ((unitsOf c : Nat) : ℚ) = ((places * 2 ^ shift * one : Nat) : ℚ) := by
      rw [hone, Nat.pow_eq]
      push_cast
      rw [mul_assoc, ← pow_add]
      exact hvalue
    exact Nat.cast_injective hcast
  have hnearest := nearestTo_ofNat (places * 2 ^ shift)
  rw [← hunits] at hnearest
  have hmagnitude := hnearest.unique (nearestTo_valueOf hlt.le)
  exact ⟨representable_of_unitsOf hlt.le hunits, isFinite_iff.mpr (hmagnitude ▸ hlt)⟩

/-- A multiple of a power of two that has 53 places above it is a double. -/
theorem whole_of_dvd (hk : k < 64) (hdvd : 2 ^ k ∣ n) (hle : n ≤ 2 ^ 53 * 2 ^ k) : Whole n := by
  obtain ⟨places, rfl⟩ := hdvd
  rw [Nat.mul_comm] at hle ⊢
  exact whole_of_shifted (Nat.le_of_mul_le_mul_right hle (Nat.two_pow_pos k)) (by omega)

/-- **Natural numbers that are doubles have the double nearest to their sum as sum.** -/
theorem Whole.add (hm : Whole m) (hn : Whole n) : ofNat m + ofNat n = ofNat (m + n) := by
  have hnearest := (hm.amount.nearestTo_add hn.amount).1
  rw [hm.units_eq, hn.units_eq, ← Nat.add_mul] at hnearest
  refine Double.ext_iff.mpr ⟨?_, hnearest.unique (nearestTo_ofNat (m + n))⟩
  rw [hm.amount.negative_add hn.amount, negative_ofNat, negative_ofNat, negative_ofNat]
  rfl

theorem Amount.add_comm {x y : Double} (hx : x.Amount) (hy : y.Amount) : x + y = y + x := by
  have hnearest := (hx.nearestTo_add hy).1
  rw [Nat.add_comm] at hnearest
  refine Double.ext_iff.mpr ⟨?_, hnearest.unique (hy.nearestTo_add hx).1⟩
  rw [hx.negative_add hy, hy.negative_add hx, Bool.and_comm]

/-- No natural number is rounded beyond one that is a double. -/
theorem units_ofNat_le (hn : Whole n) (hle : m ≤ n) : (ofNat m).units ≤ n * one := by
  rw [← hn.units_eq]
  refine unitsOf_strictMono.monotone ((nearestTo_ofNat m).monotone (nearestTo_ofNat n) ?_)
  exact Nat.cast_le.mpr (Nat.mul_le_mul_right _ hle)

/-- A count of 64 bits is rounded to an amount. -/
theorem amount_ofNat (hn : n < 2 ^ 64) : (ofNat n).Amount := by
  have hlimit : (2 : Nat) ^ 64 ≤ 10 ^ 20 := by decide
  exact amount_of_not_negative (negative_ofNat n)
    (isFinite_ofNat (k := 20) (by decide) (hn.le.trans hlimit))

/-! ## Exact running sums -/

variable {sizes : List Nat}

/-- **A running sum that is exact but for its last step**, by induction on the sizes that are still
to come: what they leave of the total is what has been added. -/
theorem foldl_add_ofNat {start : Nat} (hk : k < 64) (hstart : 2 ^ k ∣ start)
    (hsizes : ∀ s ∈ sizes, 2 ^ k ∣ s ∧ s ≤ 2 ^ 53 * 2 ^ k ∧
      start + sizes.sum - s ≤ 2 ^ 53 * 2 ^ k) :
    (sizes.map ofNat).foldl (· + ·) (ofNat start) = ofNat (start + sizes.sum) := by
  induction sizes generalizing start with
  | nil => rfl
  | cons s sizes ih =>
    obtain ⟨hdvd, hsize, hothers⟩ := hsizes s List.mem_cons_self
    rw [List.sum_cons] at hsizes hothers ⊢
    have hbefore : start ≤ 2 ^ 53 * 2 ^ k := by omega
    have hadd := (whole_of_dvd hk hstart hbefore).add (whole_of_dvd hk hdvd hsize)
    rw [List.map_cons, List.foldl_cons, hadd, ← Nat.add_assoc]
    apply ih (Nat.dvd_add hstart hdvd)
    intro t ht
    have hnext := hsizes t (List.mem_cons_of_mem s ht)
    rwa [← Nat.add_assoc] at hnext

/-- **The sum of sizes** is rounded only once if all but one of them are multiples of a power of two
that are doubles together. -/
theorem sum_ofNat (hne : sizes ≠ []) (hlimit : ∀ s ∈ sizes, s < 2 ^ 64) (hk : k < 64)
    (hsizes : ∀ s ∈ sizes, 2 ^ k ∣ s ∧ sizes.sum - s ≤ 2 ^ 53 * 2 ^ k) :
    Double.sum (sizes.map ofNat) = ofNat sizes.sum := by
  cases sizes with
  | nil => exact absurd rfl hne
  | cons first sizes =>
    obtain ⟨hdvd, hothers⟩ := hsizes first List.mem_cons_self
    rw [List.sum_cons] at hsizes hothers ⊢
    rw [List.map_cons, sum_cons (amount_ofNat (hlimit first List.mem_cons_self))]
    apply foldl_add_ofNat hk hdvd
    intro s hs
    obtain ⟨hmultiple, hrest⟩ := hsizes s (List.mem_cons_of_mem first hs)
    have hle : s ≤ sizes.sum := List.le_sum_of_mem hs
    exact ⟨hmultiple, by omega, hrest⟩

/-! ## Running sums of counts -/

/-- **Sums of counts stay finite**: none is beyond as many times `2 ^ 64` as there are terms. -/
theorem isFinite_foldl_add_ofNat {sum : Double} (hsum : sum.Amount)
    (hcount : sum.units ≤ n * 2 ^ 64 * one) (hsizes : ∀ s ∈ sizes, s < 2 ^ 64)
    (hlength : n + sizes.length ≤ 2 ^ 53) :
    ((sizes.map ofNat).foldl (· + ·) sum).isFinite = true := by
  induction sizes generalizing sum n with
  | nil => exact hsum.finite
  | cons s sizes ih =>
    rw [List.length_cons] at hlength
    have hs := hsizes s List.mem_cons_self
    have hlimit : Whole (1 * 2 ^ 64) := whole_of_shifted (by decide) (by decide)
    have hnext : Whole ((n + 1) * 2 ^ 64) := whole_of_shifted (by omega) (by decide)
    have hsize : (ofNat s).units ≤ 1 * 2 ^ 64 * one := units_ofNat_le hlimit (by omega)
    have htotal : sum.units + (ofNat s).units ≤ (n + 1) * 2 ^ 64 * one := by
      rw [Nat.add_mul n, Nat.add_mul]
      exact Nat.add_le_add hcount hsize
    have hmagnitude : (sum + ofNat s).magnitude ≤ (ofNat ((n + 1) * 2 ^ 64)).magnitude := by
      refine (hsum.nearestTo_add (amount_ofNat hs)).1.le_of_le (nearestTo_ofNat _).mem ?_
      refine (Nat.cast_le.mpr htotal).trans_eq ?_
      rw [← hnext.units_eq]
      rfl
    have hfinite : (sum + ofNat s).isFinite = true :=
      isFinite_iff.mpr (hmagnitude.trans_lt (isFinite_iff.mp hnext.finite))
    rw [List.map_cons, List.foldl_cons]
    have hunits : (sum + ofNat s).units ≤ (n + 1) * 2 ^ 64 * one := by
      rw [← hnext.units_eq]
      exact unitsOf_strictMono.monotone hmagnitude
    exact ih (hsum.add (amount_ofNat hs) hfinite) hunits
      (fun t ht => hsizes t (List.mem_cons_of_mem s ht)) (by omega)

theorem isFinite_sum_ofNat (hsizes : ∀ s ∈ sizes, s < 2 ^ 64) (hlength : sizes.length ≤ 2 ^ 53) :
    (Double.sum (sizes.map ofNat)).isFinite = true := by
  have hzero : negativeZero.Amount := ⟨rfl, le_rfl⟩
  have hunits : negativeZero.units = 0 := rfl
  exact isFinite_foldl_add_ofNat (n := 0) hzero (hunits.trans_le (Nat.zero_le _)) hsizes (by omega)

/-- Rounding each size is off by at most the unit roundoff of the total. -/
theorem unitsSum_ofNat_near (hsizes : ∀ s ∈ sizes, s < 2 ^ 64) :
    (1 - unitRoundoff) * ((sizes.sum : ℚ) * one) ≤ unitsSum (sizes.map ofNat) ∧
      (unitsSum (sizes.map ofNat) : ℚ) ≤ (1 + unitRoundoff) * ((sizes.sum : ℚ) * one) := by
  induction sizes with
  | nil =>
    have hnone : unitsSum (([] : List Nat).map ofNat) = 0 := rfl
    rw [hnone, List.sum_nil, Nat.cast_zero, zero_mul, mul_zero, mul_zero]
    exact ⟨le_rfl, le_rfl⟩
  | cons s sizes ih =>
    obtain ⟨hlower, hupper⟩ := ih fun t ht => hsizes t (List.mem_cons_of_mem s ht)
    have hfinite := isFinite_iff.mp (amount_ofNat (hsizes s List.mem_cons_self)).finite
    have hnear := (nearestTo_ofNat s).near_nat hfinite
    change |((ofNat s).units : ℚ) - _| ≤ _ at hnear
    rw [Nat.cast_mul] at hnear
    obtain ⟨hbelow, habove⟩ := abs_le.mp hnear
    rw [List.map_cons, unitsSum_cons, List.sum_cons, Nat.cast_add, Nat.cast_add]
    constructor <;> linarith

end Double

/-! ## The average -/

namespace SizeStats

variable {sizes : List Nat}

/-- **The average in exact arithmetic**, in the units of doubles. -/
def exactAverage (sizes : List Nat) : ℚ := (sizes.sum : ℚ) * one / sizes.length

theorem avg_ofSizes (hne : sizes ≠ []) :
    (ofSizes sizes).avg = Double.sum (sizes.map Double.ofNat) / Double.ofNat sizes.length := by
  have hmap : sizes.map Double.ofNat ≠ [] := by simpa using hne
  change mean (sizes.map Double.ofNat) = _
  rw [mean_eq hmap, List.length_map]

/-- **In every order the average is near the exact one**: each size is rounded, each sum, and the
quotient. -/
theorem avg_near (hne : sizes ≠ []) (hsizes : ∀ s ∈ sizes, s < 2 ^ 64)
    (hlength : sizes.length ≤ 2 ^ 53) :
    (1 - unitRoundoff) ^ (sizes.length + 1) * exactAverage sizes - 1 / 2 ≤
        (ofSizes sizes).avg.units ∧
      ((ofSizes sizes).avg.units : ℚ) ≤
        (1 + unitRoundoff) ^ (sizes.length + 1) * exactAverage sizes + 1 / 2 := by
  have hmap : sizes.map Double.ofNat ≠ [] := by simpa using hne
  have hamounts : ∀ x ∈ sizes.map Double.ofNat, x.Amount := by
    intro x hx
    obtain ⟨s, hs, rfl⟩ := List.mem_map.mp hx
    exact amount_ofNat (hsizes s hs)
  have hmean := mean_near hmap hamounts (isFinite_sum_ofNat hsizes hlength)
  rw [List.length_map] at hmean
  obtain ⟨hlower, hupper⟩ := hmean hlength
  obtain ⟨hleast, hgreatest⟩ := unitsSum_ofNat_near hsizes
  have hcount : (0 : ℚ) ≤ sizes.length := Nat.cast_nonneg _
  have hfactor : 0 ≤ 1 + unitRoundoff := by linarith [unitRoundoff_pos]
  have hpart (r : ℚ) : r ^ (sizes.length + 1) * exactAverage sizes =
      r ^ sizes.length * (r * ((sizes.sum : ℚ) * one) / sizes.length) := by
    rw [exactAverage]
    ring
  rw [hpart, hpart]
  constructor
  · refine le_trans (sub_le_sub_right ?_ _) hlower
    exact mul_le_mul_of_nonneg_left (div_le_div_of_nonneg_right hleast hcount)
      (pow_nonneg one_sub_unitRoundoff_nonneg _)
  · refine hupper.trans (add_le_add_left ?_ _)
    exact mul_le_mul_of_nonneg_left (div_le_div_of_nonneg_right hgreatest hcount)
      (pow_nonneg hfactor _)

/-- Statistics of sizes in two orders differ at most in the average. -/
theorem ofSizes_congr {others : List Nat} (h : sizes ~ others)
    (havg : (ofSizes sizes).avg = (ofSizes others).avg) : ofSizes sizes = ofSizes others := by
  have hmin : (ofSizes sizes).min = (ofSizes others).min :=
    congrArg (Option.getD · 0) (min?_congr h)
  have hmax : (ofSizes sizes).max = (ofSizes others).max :=
    congrArg (Option.getD · 0) (max?_congr h)
  show SizeStats.mk (ofSizes sizes).min (ofSizes sizes).avg (ofSizes sizes).max = _
  rw [hmin, havg, hmax]

/-- Two sizes have one sum in either order. -/
theorem sum_eq_of_length_le_two {others : List Nat} (h : sizes ~ others)
    (hsizes : ∀ s ∈ sizes, s < 2 ^ 64) (hlength : sizes.length ≤ 2) :
    Double.sum (sizes.map Double.ofNat) = Double.sum (others.map Double.ofNat) := by
  rcases Nat.lt_or_eq_of_le hlength with hless | htwo
  · have hsame : others = sizes := by
      rcases Nat.le_one_iff_eq_zero_or_eq_one.mp (Nat.le_of_lt_succ hless) with hnone | hone
      · rw [List.length_eq_zero_iff.mp hnone] at h ⊢
        exact h.nil_eq.symm
      · obtain ⟨s, rfl⟩ := List.length_eq_one_iff.mp hone
        exact (List.singleton_perm.mp h).symm
    rw [hsame]
  · obtain ⟨s, t, rfl⟩ := List.length_eq_two.mp htwo
    have hs := amount_ofNat (hsizes s List.mem_cons_self)
    have ht := amount_ofNat (hsizes t (List.mem_cons_of_mem s List.mem_cons_self))
    rcases List.pair_perm.mp h with rfl | rfl
    · rfl
    · rw [List.map_cons, List.map_cons, List.map_nil, List.map_cons, List.map_cons, List.map_nil,
        sum_cons hs, sum_cons ht, List.foldl_cons, List.foldl_nil, List.foldl_cons, List.foldl_nil,
        hs.add_comm ht]

/-- **The sum in every order**, if it is rounded only once. -/
theorem sum_eq_of_exact {others : List Nat} {k : Nat} (h : sizes ~ others)
    (hsizes : ∀ s ∈ sizes, s < 2 ^ 64) (hk : k < 64)
    (hexact : ∀ s ∈ sizes, 2 ^ k ∣ s ∧ sizes.sum - s ≤ 2 ^ 53 * 2 ^ k) :
    Double.sum (sizes.map Double.ofNat) = Double.sum (others.map Double.ofNat) := by
  rcases eq_or_ne sizes [] with rfl | hne
  · rw [h.nil_eq]
  · have hne' : others ≠ [] := fun hnil => hne (hnil ▸ h).eq_nil
    rw [sum_ofNat hne hsizes hk hexact, sum_ofNat hne' (fun s hs => hsizes s (h.mem_iff.mpr hs)) hk,
      h.sum_eq]
    intro s hs
    rw [← h.sum_eq]
    exact hexact s (h.mem_iff.mpr hs)

/-- Sizes that have one sum have one average. -/
theorem ofSizes_eq_of_sum {others : List Nat} (h : sizes ~ others)
    (hsum : Double.sum (sizes.map Double.ofNat) = Double.sum (others.map Double.ofNat)) :
    ofSizes sizes = ofSizes others := by
  refine ofSizes_congr h ?_
  rcases eq_or_ne sizes [] with rfl | hne
  · rw [h.nil_eq]
  · have hne' : others ≠ [] := fun hnil => hne (hnil ▸ h).eq_nil
    rw [avg_ofSizes hne, avg_ofSizes hne', hsum, h.length_eq]

/-- **An exact sum is divided with one rounding**: the average is the double nearest to the exact
one. -/
theorem nearestTo_avg {k : Nat} (hne : sizes ≠ []) (hsizes : ∀ s ∈ sizes, s < 2 ^ 64)
    (hlength : sizes.length ≤ 2 ^ 53) (hk : k < 64) (hdvd : ∀ s ∈ sizes, 2 ^ k ∣ s)
    (hsum : sizes.sum ≤ 2 ^ 53 * 2 ^ k) :
    NearestTo (exactAverage sizes) (ofSizes sizes).avg.magnitude ∧
      (ofSizes sizes).avg.negative = false := by
  have hwhole : Whole sizes.sum := whole_of_dvd hk (List.dvd_sum hdvd) hsum
  have htotal := sum_ofNat hne hsizes hk
    fun s hs => ⟨hdvd s hs, (Nat.sub_le _ _).trans hsum⟩
  obtain ⟨hnearest, -, hsign⟩ :=
    nearestTo_div_ofNat hwhole.amount hlength (List.length_pos_iff.mpr hne)
  rw [hwhole.units_eq, Nat.cast_mul] at hnearest
  rw [avg_ofSizes hne, htotal]
  exact ⟨hnearest, hsign.trans (negative_ofNat _)⟩

end SizeStats

/-- **Sizes in any order**, up to `2 ^ 53` of them. Least and greatest size never depend on it. The
average does not either if the sizes are multiples of a power of two and no sum of all but one is
beyond `2 ^ 53` times that, and for up to two sizes. If the sum of all is not beyond it, the average
is the double nearest to the exact one, and otherwise it is near the exact one in every order. -/
theorem average_size_in_any_order {sizes others : List Nat} (h : sizes ~ others)
    (hsizes : ∀ s ∈ sizes, s < 2 ^ 64) (hlength : sizes.length ≤ 2 ^ 53) :
    (SizeStats.ofSizes sizes).min = (SizeStats.ofSizes others).min ∧
    (SizeStats.ofSizes sizes).max = (SizeStats.ofSizes others).max ∧
    (∀ k < 64, (∀ s ∈ sizes, 2 ^ k ∣ s ∧ sizes.sum - s ≤ 2 ^ 53 * 2 ^ k) →
      SizeStats.ofSizes sizes = SizeStats.ofSizes others) ∧
    (sizes.length ≤ 2 → SizeStats.ofSizes sizes = SizeStats.ofSizes others) ∧
    (sizes ≠ [] → ∀ k < 64, (∀ s ∈ sizes, 2 ^ k ∣ s) → sizes.sum ≤ 2 ^ 53 * 2 ^ k →
      NearestTo (SizeStats.exactAverage sizes) (SizeStats.ofSizes others).avg.magnitude ∧
      (SizeStats.ofSizes others).avg.negative = false) ∧
    (sizes ≠ [] →
      (1 - unitRoundoff) ^ (sizes.length + 1) * SizeStats.exactAverage sizes - 1 / 2 ≤
          (SizeStats.ofSizes others).avg.units ∧
        ((SizeStats.ofSizes others).avg.units : ℚ) ≤
          (1 + unitRoundoff) ^ (sizes.length + 1) * SizeStats.exactAverage sizes + 1 / 2) := by
  have hothers : ∀ s ∈ others, s < 2 ^ 64 := fun s hs => hsizes s (h.mem_iff.mpr hs)
  have hcount : others.length ≤ 2 ^ 53 := h.length_eq ▸ hlength
  have haverage : SizeStats.exactAverage sizes = SizeStats.exactAverage others := by
    rw [SizeStats.exactAverage, SizeStats.exactAverage, h.sum_eq, h.length_eq]
  have hne (hne : sizes ≠ []) : others ≠ [] := fun hnil => hne (hnil ▸ h).eq_nil
  refine ⟨congrArg (Option.getD · 0) (min?_congr h), congrArg (Option.getD · 0) (max?_congr h),
    ?_, ?_, ?_, ?_⟩
  · intro k hk hexact
    exact SizeStats.ofSizes_eq_of_sum h (SizeStats.sum_eq_of_exact h hsizes hk hexact)
  · intro htwo
    exact SizeStats.ofSizes_eq_of_sum h (SizeStats.sum_eq_of_length_le_two h hsizes htwo)
  · intro hsome k hk hdvd hsum
    rw [haverage]
    refine SizeStats.nearestTo_avg (hne hsome) hothers hcount hk ?_ (h.sum_eq ▸ hsum)
    intro s hs
    exact hdvd s (h.mem_iff.mpr hs)
  · intro hsome
    rw [haverage, h.length_eq]
    exact SizeStats.avg_near (hne hsome) hothers hcount

/-- A size of `2 ^ 53 - 1` and two of one are added without loss but for the last step, in every
order. -/
theorem average_size_in_any_order_below :
    SizeStats.ofSizes [2 ^ 53 - 1, 1, 1] = SizeStats.ofSizes [1, 1, 2 ^ 53 - 1] := by
  have hperm : [2 ^ 53 - 1, 1, 1] ~ [1, 1, 2 ^ 53 - 1] := by decide
  obtain ⟨-, -, hexact, -⟩ := average_size_in_any_order hperm (by decide) (by decide)
  exact hexact 0 (by decide) (by decide)

/-- **The order of sizes matters**: a size of one that is added to `2 ^ 53` is lost, but two of them
that are added first are not. It shows in the average, and in what is written of it. -/
theorem average_size_of_order :
    [2 ^ 53, 1, 1] ~ [1, 1, 2 ^ 53] ∧
      (SizeStats.ofSizes [2 ^ 53, 1, 1]).avg ≠ (SizeStats.ofSizes [1, 1, 2 ^ 53]).avg ∧
      (SizeStats.ofSizes [2 ^ 53, 1, 1]).toJson.pretty ≠
        (SizeStats.ofSizes [1, 1, 2 ^ 53]).toJson.pretty := by
  decide +kernel

end HttpLoad
