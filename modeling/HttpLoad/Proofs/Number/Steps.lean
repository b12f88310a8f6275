import Mathlib.Data.Rat.Floor
import HttpLoad.Proofs.Number.Decimal

/-!
# Steps between doubles

How far a magnitude is from the next one, and what that says about rounding. A number is rounded to
a magnitude if it lies between the middles of the steps around it, so that rounding is off by at
most half a step. A sum of two numbers that are rounded before they are added may differ from the
sum that is rounded once, but by no more than one step.

## Main results

* `valueOf_succ_sub_le`: steps do not get smaller
* `NearestTo.abs_sub_le`: rounding is off by at most half a step
* `NearestTo.add_rounded`: rounding the terms of a sum costs at most one step
-/

namespace HttpLoad

namespace Double

/-! ## Steps -/

/-- A magnitude and the next one have one shift, and their whole numbers differ by one. -/
theorem exists_step (m : Nat) :
    ∃ shift whole, m = shift * 2 ^ 52 + whole ∧ whole < 2 ^ 53 ∧ (shift = 0 ∨ 2 ^ 52 ≤ whole) ∧
      valueOf m = whole * 2 ^ shift ∧ valueOf (m + 1) = (whole + 1) * 2 ^ shift := by
  obtain ⟨s, w, rfl, hw, hs, hm⟩ := exists_parts m
  refine ⟨s, w, rfl, hw, hs, ?_, ?_⟩
  · rw [valueOf, hm]
    push_cast
    rfl
  · rw [Nat.add_assoc, valueOf, unitsOf_parts hw (hs.imp_right fun h => Nat.le_succ_of_le h)]
    push_cast
    rfl

/-- **Steps do not get smaller** towards greater magnitudes. -/
theorem valueOf_succ_sub_le (m : Nat) :
    valueOf (m + 1) - valueOf m ≤ valueOf (m + 2) - valueOf (m + 1) := by
  obtain ⟨s, w, rfl, hw, hs, hm, hnext⟩ := exists_step m
  have hpow : (0 : ℚ) < 2 ^ s := by positivity
  rcases Nat.lt_or_ge (w + 1) (2 ^ 53) with hlt | hge
  · have hlast : valueOf (s * 2 ^ 52 + w + 2) = (w + 2) * 2 ^ s := by
      rw [Nat.add_assoc, valueOf, unitsOf_parts (by omega) (hs.imp_right fun h => by omega)]
      push_cast
      rfl
    rw [hm, hnext, hlast]
    linarith
  · have hlast : valueOf (s * 2 ^ 52 + w + 2) = (2 ^ 52 + 1) * 2 ^ (s + 1) := by
      have hparts : s * 2 ^ 52 + w + 2 = (s + 1) * 2 ^ 52 + (2 ^ 52 + 1) := by omega
      rw [hparts, valueOf, unitsOf_parts (by decide) (.inr (by decide))]
      norm_num
    obtain rfl : w = 2 ^ 53 - 1 := by omega
    rw [hm, hnext, hlast, pow_succ 2 s]
    push_cast
    linarith

/-- A value is less than `2 ^ 53` of the steps that follow it. -/
theorem valueOf_lt_step (m : Nat) :
    valueOf m < 2 ^ 53 * (valueOf (m + 1) - valueOf m) := by
  obtain ⟨s, w, -, hw, -, hm, hnext⟩ := exists_step m
  have hpow : (0 : ℚ) < 2 ^ s := by positivity
  have hw : (w : ℚ) < 2 ^ 53 := by exact_mod_cast hw
  rw [hm, hnext]
  nlinarith

/-- A value is at most `2 ^ 53` of the steps that lead to it. -/
theorem valueOf_succ_le_step (m : Nat) :
    valueOf (m + 1) ≤ 2 ^ 53 * (valueOf (m + 1) - valueOf m) := by
  obtain ⟨s, w, -, hw, -, hm, hnext⟩ := exists_step m
  have hpow : (0 : ℚ) < 2 ^ s := by positivity
  have hw : (w : ℚ) + 1 ≤ 2 ^ 53 := by exact_mod_cast hw
  rw [hm, hnext]
  nlinarith

/-! ## The middles of steps -/

namespace NearestTo

variable {q : ℚ} {m c : Nat}

/-- What lies below the middle of a step is rounded to no more than its beginning. -/
theorem le_of_lt_middle (h : NearestTo q m) (hq : 2 * q < valueOf c + valueOf (c + 1)) :
    m ≤ c := by
  by_contra hlt
  have hle : valueOf (c + 1) ≤ valueOf m := valueOf_strictMono.monotone (by omega)
  have hc : c ≤ infinityMagnitude := by have := h.mem; omega
  have hnear := (abs_sub_le_abs_sub_iff (valueOf_strictMono (Nat.not_le.mp hlt))).mp (h.le c hc)
  linarith

/-- What lies above the middle of a step is rounded to no less than its end. -/
theorem lt_of_middle_lt (h : NearestTo q m) (hc : c < infinityMagnitude)
    (hq : valueOf c + valueOf (c + 1) < 2 * q) : c < m := by
  by_contra hle
  have hvalue : valueOf m ≤ valueOf c := valueOf_strictMono.monotone (by omega)
  have hlt : valueOf m < valueOf (c + 1) := valueOf_strictMono (by omega)
  have hnear := (abs_sub_le_abs_sub_iff' hlt).mp (h.le (c + 1) hc)
  linarith

/-- What is rounded to a magnitude is not beyond the middle of the step that follows it. -/
theorem le_middle (h : NearestTo q m) (hm : m < infinityMagnitude) :
    2 * q ≤ valueOf m + valueOf (m + 1) :=
  (abs_sub_le_abs_sub_iff' (valueOf_strictMono (Nat.lt_succ_self m))).mp (h.le (m + 1) hm)

/-- What is rounded to a magnitude is not below the middle of the step that leads to it. -/
theorem middle_le (h : NearestTo q (m + 1)) : valueOf m + valueOf (m + 1) ≤ 2 * q := by
  have hm : m ≤ infinityMagnitude := by have := h.mem; omega
  exact (abs_sub_le_abs_sub_iff (valueOf_strictMono (Nat.lt_succ_self m))).mp (h.le m hm)

/-! ## Near a magnitude -/

/-- What is above a magnitude by no more than a part in `2 ^ 54` is rounded to no more than it. -/
theorem le_of_near (h : NearestTo q m) (hq : q ≤ valueOf c + valueOf c / 2 ^ 54) : m ≤ c := by
  have hstep := valueOf_lt_step c
  refine h.le_of_lt_middle ?_
  linarith

/-- What is below a magnitude by no more than a part in `2 ^ 54` is rounded to no less than it. -/
theorem ge_of_near (h : NearestTo q m) (hc : c ≤ infinityMagnitude)
    (hq : valueOf c - valueOf c / 2 ^ 54 ≤ q) : c ≤ m := by
  by_contra hlt
  obtain ⟨d, rfl⟩ : ∃ d, c = d + 1 := ⟨c - 1, by omega⟩
  have hmiddle : 2 * q ≤ valueOf d + valueOf (d + 1) := by
    by_contra hbeyond
    have := h.lt_of_middle_lt hc (not_le.mp hbeyond)
    omega
  have hstep := valueOf_succ_le_step d
  have htie : 2 * q = valueOf d + valueOf (d + 1) := by linarith
  have hlast : valueOf (d + 1) = 2 ^ 53 * (valueOf (d + 1) - valueOf d) := by linarith
  obtain ⟨s, w, hd, hw, -, hvalue, hnext⟩ := exists_step d
  have hpow : (0 : ℚ) < 2 ^ s := by positivity
  have hw : w + 1 = 2 ^ 53 := by
    rw [hvalue, hnext, ← sub_mul, add_sub_cancel_left, one_mul] at hlast
    have hwhole : (w + 1 : ℚ) = 2 ^ 53 := mul_right_cancel₀ hpow.ne' hlast
    exact_mod_cast hwhole
  have hm : m = d := by
    have hbefore : valueOf (d - 1) < valueOf d := valueOf_strictMono (by omega)
    have hnext : valueOf (d - 1 + 1) < valueOf (d + 1) := valueOf_strictMono (by omega)
    have := h.lt_of_middle_lt (c := d - 1) (by omega) (by linarith)
    omega
  have heven := h.even (d + 1) hc (by
    rw [hm]
    have hlt : valueOf d < valueOf (d + 1) := valueOf_strictMono (Nat.lt_succ_self d)
    exact le_antisymm ((abs_sub_le_abs_sub_iff' hlt).mpr htie.le)
      ((abs_sub_le_abs_sub_iff hlt).mpr htie.ge)) (by omega)
  omega

/-- What is above another number by no more than a part in `2 ^ 53` of what that is rounded to, is
rounded to no more than the magnitude after it. -/
theorem le_succ_of_near {q' : ℚ} {m' : Nat} (h : NearestTo q m) (h' : NearestTo q' m')
    (hq : q ≤ q' + valueOf m' / 2 ^ 53) : m ≤ m' + 1 := by
  rcases h'.mem.lt_or_eq with hfinite | hinfinity
  · have hmiddle := h'.le_middle hfinite
    have hstep := valueOf_lt_step m'
    have hsteps := valueOf_succ_sub_le m'
    refine h.le_of_lt_middle ?_
    rw [Nat.add_assoc]
    linarith
  · exact hinfinity ▸ h.mem.trans (Nat.le_succ _)

end NearestTo

/-! ## Half a step -/

/-- A whole number of up to 53 places, shifted, is the value of a magnitude. -/
theorem exists_valueOf_eq (s : Nat) {j : Nat} (hj : j ≤ 2 ^ 53) :
    ∃ k ≤ s * 2 ^ 52 + 2 ^ 53, valueOf k = j * 2 ^ s := by
  induction s generalizing j with
  | zero =>
    have hparts : unitsOf (0 * 2 ^ 52 + j) = j * 2 ^ 0 := unitsOf_parts hj (.inl rfl)
    refine ⟨0 * 2 ^ 52 + j, by omega, ?_⟩
    rw [valueOf, hparts, Nat.cast_mul, Nat.cast_pow, Nat.cast_ofNat]
  | succ s ih =>
    rcases Nat.lt_or_ge j (2 ^ 52) with hsmall | hlarge
    · obtain ⟨k, hk, hvalue⟩ := ih (j := 2 * j) (by omega)
      have hshift : s * 2 ^ 52 ≤ (s + 1) * 2 ^ 52 := Nat.mul_le_mul_right _ (Nat.le_succ s)
      refine ⟨k, hk.trans (Nat.add_le_add_right hshift _), ?_⟩
      rw [hvalue, pow_succ 2 s]
      push_cast
      ring
    · refine ⟨(s + 1) * 2 ^ 52 + j, Nat.add_le_add_left hj _, ?_⟩
      rw [valueOf, unitsOf_parts hj (.inr hlarge)]
      push_cast
      rfl

/-- **Rounding is off by at most half a step.** -/
theorem NearestTo.abs_sub_le {q : ℚ} {m s : Nat} (h : NearestTo q m) (hs : s ≤ 2045) (hq : 0 ≤ q)
    (hle : q ≤ 2 ^ 53 * 2 ^ s) : |valueOf m - q| ≤ 2 ^ s / 2 := by
  have hpow : (0 : ℚ) < 2 ^ s := by positivity
  obtain ⟨x, hx⟩ : ∃ x : ℚ, x = q / 2 ^ s := ⟨_, rfl⟩
  have hxq : x * 2 ^ s = q := by rw [hx, div_mul_cancel₀ _ hpow.ne']
  have hx0 : 0 ≤ x + 1 / 2 := by
    have : 0 ≤ x := hx ▸ div_nonneg hq hpow.le
    linarith
  have hx53 : x ≤ 2 ^ 53 := by
    rw [hx, div_le_iff₀ hpow]
    exact hle
  have hlower := Nat.floor_le hx0
  have hupper := Nat.lt_floor_add_one (x + 1 / 2)
  have hj : ⌊x + 1 / 2⌋₊ ≤ 2 ^ 53 := by
    refine Nat.le_of_lt_succ ((Nat.floor_lt hx0).mpr ?_)
    push_cast
    linarith
  generalize ⌊x + 1 / 2⌋₊ = j at *
  obtain ⟨k, hk, hvalue⟩ := exists_valueOf_eq s hj
  have hinfinity : infinityMagnitude = 2047 * 2 ^ 52 := rfl
  refine (h.le k (by omega)).trans ?_
  rw [hvalue, ← hxq, ← sub_mul, abs_mul, abs_of_pos hpow]
  have hnear : |(j : ℚ) - x| ≤ 1 / 2 := abs_le.mpr ⟨by linarith, by linarith⟩
  nlinarith

/-! ## Sums of rounded terms -/

section Sums

variable {u v : ℚ} {P Q C R : Nat} (hu : 0 ≤ u) (huv : u ≤ v) (hP : NearestTo u P)
  (hQ : NearestTo v Q) (hC : NearestTo (u + v) C) (hR : NearestTo (valueOf P + valueOf Q) R)
include hu huv hP hQ hC hR

/-- A sum of rounded terms is at most one step above the sum that is rounded once. -/
theorem NearestTo.le_of_add_rounded : R ≤ C + 1 := by
  rcases hC.mem.lt_or_eq with hfinite | hinfinity
  swap
  · exact hinfinity ▸ hR.mem.trans (Nat.le_succ _)
  have hmiddle := hC.le_middle hfinite
  have hsteps := valueOf_succ_sub_le C
  obtain ⟨s, w, rfl, hw, hs, hvalue, hnext⟩ := exists_step C
  have hpow : (0 : ℚ) < 2 ^ s := by positivity
  have hinfinity : infinityMagnitude = 2047 * 2 ^ 52 := rfl
  have hs' : s ≤ 2045 := by omega
  have hw' : (w : ℚ) + 1 ≤ 2 ^ 53 := by exact_mod_cast hw
  rw [hvalue, hnext] at hmiddle hsteps
  have hsum : u + v ≤ (w + 1 / 2) * 2 ^ s := by linarith
  have hgreatest : (w + 1 / 2) * 2 ^ s ≤ (2 ^ 53 : ℚ) * 2 ^ s :=
    mul_le_mul_of_nonneg_right (by linarith) hpow.le
  have herrQ := abs_le.mp (hQ.abs_sub_le hs' (hu.trans huv) (by linarith))
  rcases Nat.eq_zero_or_pos s with rfl | hspos
  · -- the rounded terms are whole numbers, and so is their sum
    have herrP := abs_le.mp (hP.abs_sub_le hs' hu (by linarith))
    have hwhole : unitsOf P + unitsOf Q < w + 2 := by
      have hlt : valueOf P + valueOf Q < w + 2 := by
        rw [pow_zero] at *
        linarith
      unfold valueOf at hlt
      exact_mod_cast hlt
    have hle : unitsOf P + unitsOf Q ≤ w + 1 := Nat.le_of_lt_succ hwhole
    refine hR.le_of_le (by omega) ?_
    rw [hnext, pow_zero, mul_one]
    unfold valueOf
    exact_mod_cast hle
  · -- the smaller term is rounded by at most a quarter of the step
    obtain ⟨r, rfl⟩ : ∃ r, s = r + 1 := ⟨s - 1, by omega⟩
    have hhalf : (2 : ℚ) ^ (r + 1) = 2 ^ r * 2 := pow_succ 2 r
    have herrP := abs_le.mp (hP.abs_sub_le (s := r) (by omega) hu (by linarith))
    refine hR.le_of_lt_middle ?_
    rw [hnext]
    linarith

/-- A sum of rounded terms is at most one step below the sum that is rounded once. -/
theorem NearestTo.ge_of_add_rounded : C ≤ R + 1 := by
  rcases Nat.eq_zero_or_pos C with rfl | hpos
  · exact Nat.zero_le _
  obtain ⟨c, rfl⟩ : ∃ c, C = c + 1 := ⟨C - 1, by omega⟩
  refine Nat.succ_le_succ ?_
  have hc : c < infinityMagnitude := hC.mem
  have hmiddle := hC.middle_le
  rcases le_or_gt (valueOf c) v with hlarge | hsmall
  · refine hR.ge_of_ge hc.le ?_
    have hvalue := valueOf_strictMono.monotone (hQ.ge_of_ge hc.le hlarge)
    have hzero : 0 ≤ valueOf P := Nat.cast_nonneg _
    linarith
  obtain ⟨s, w, rfl, hw, hs, hvalue, hnext⟩ := exists_step c
  have hpow : (0 : ℚ) < 2 ^ s := by positivity
  have hinfinity : infinityMagnitude = 2047 * 2 ^ 52 := rfl
  have hs' : s ≤ 2045 := by omega
  have hw' : (w : ℚ) + 1 ≤ 2 ^ 53 := by exact_mod_cast hw
  rw [hvalue, hnext] at hmiddle
  rw [hvalue] at hsmall
  have hgreatest : (w + 1) * 2 ^ s ≤ (2 ^ 53 : ℚ) * 2 ^ s :=
    mul_le_mul_of_nonneg_right hw' hpow.le
  have herrP := abs_le.mp (hP.abs_sub_le hs' hu (by linarith))
  have herrQ := abs_le.mp (hQ.abs_sub_le hs' (hu.trans huv) (by linarith))
  rcases le_or_gt (((w : ℚ) + 1) * 2 ^ s) (u + v) with hbeyond | hbelow
  · refine hR.ge_of_ge hc.le ?_
    rw [hvalue]
    linarith
  rcases Nat.eq_zero_or_pos s with rfl | hspos
  · have hwhole : w < unitsOf P + unitsOf Q + 1 := by
      have hlt : (w : ℚ) < valueOf P + valueOf Q + 1 := by
        rw [pow_zero] at *
        linarith
      unfold valueOf at hlt
      exact_mod_cast hlt
    have hle : w ≤ unitsOf P + unitsOf Q := Nat.le_of_lt_succ hwhole
    refine hR.ge_of_ge hc.le ?_
    rw [hvalue, pow_zero, mul_one]
    unfold valueOf
    exact_mod_cast hle
  · obtain ⟨r, rfl⟩ : ∃ r, s = r + 1 := ⟨s - 1, by omega⟩
    have hhalf : (2 : ℚ) ^ (r + 1) = 2 ^ r * 2 := pow_succ 2 r
    have hr : r ≤ 2045 := by omega
    have herrP := abs_le.mp (hP.abs_sub_le hr hu (by linarith))
    rcases (hs.resolve_left (by omega)).eq_or_lt with rfl | hlt
    · -- at the first magnitude of a shift, so is the other one
      have hfirst : v ≤ 2 ^ 53 * 2 ^ r := by
        push_cast at hsmall
        linarith
      have herrQ := abs_le.mp (hQ.abs_sub_le hr (hu.trans huv) hfirst)
      refine hR.ge_of_ge hc.le ?_
      rw [hvalue]
      linarith
    · have hbefore : valueOf ((r + 1) * 2 ^ 52 + (w - 1)) = (w - 1) * 2 ^ (r + 1) := by
        rw [valueOf, unitsOf_parts (by omega) (.inr (by omega))]
        push_cast [Nat.one_le_of_lt hlt]
        rfl
      have hsucc : (r + 1) * 2 ^ 52 + w = (r + 1) * 2 ^ 52 + (w - 1) + 1 := by omega
      rw [hsucc] at hvalue ⊢
      refine hR.lt_of_middle_lt (by omega) ?_
      rw [hvalue, hbefore]
      linarith

end Sums

/-- **Rounding the terms of a sum costs at most one step.** -/
theorem NearestTo.add_rounded {u v : ℚ} {P Q C R : Nat} (hu : 0 ≤ u) (hv : 0 ≤ v)
    (hP : NearestTo u P) (hQ : NearestTo v Q) (hC : NearestTo (u + v) C)
    (hR : NearestTo (valueOf P + valueOf Q) R) : R ≤ C + 1 ∧ C ≤ R + 1 := by
  rcases le_total u v with huv | hvu
  · exact ⟨le_of_add_rounded hu huv hP hQ hC hR, ge_of_add_rounded hu huv hP hQ hC hR⟩
  · rw [add_comm] at hC hR
    exact ⟨le_of_add_rounded hv hvu hQ hP hC hR, ge_of_add_rounded hv hvu hQ hP hC hR⟩

end Double

end HttpLoad
