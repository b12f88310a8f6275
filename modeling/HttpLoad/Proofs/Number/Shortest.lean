import HttpLoad.Proofs.Number.Decimal

/-!
# The shortest decimal is a short one

The search for the shortest decimal goes through the grids from coarse to fine, beginning with the
power of ten at the value. Of a grid that holds any decimal that reads back, one of the two
neighbours of the value reads back. So no decimal with fewer digits does.

## Main results

* `Decimal.leadOf_spec`: the power of ten at a value
* `Decimal.onGrid_isSome`: a grid that holds a decimal that reads back has an answer
* `Decimal.exists_shortest_le`: the shortest decimal has no more digits than any that reads back
-/

namespace HttpLoad

namespace Decimal

open Double

/-! ## Grids -/

theorem gridStep_natCast (u n : Nat) : gridStep u n = (u, one * 10 ^ n) :=
  if_pos (Int.natCast_nonneg n)

theorem gridStep_neg (u : Nat) {n : Nat} (hn : 0 < n) : gridStep u (-n) = (u * 10 ^ n, one) := by
  rw [gridStep, if_neg (by omega), Int.neg_neg, Int.toNat_natCast]
  rfl

/-- A value and the points of a grid, both in natural numbers. -/
theorem exists_gridStep (exponent : Int) : ∃ c : ℚ, 0 < c ∧ ∀ u digits : Nat,
    ((gridStep u exponent).1 : ℚ) = c * u ∧
      ((digits * (gridStep u exponent).2 : Nat) : ℚ) = c * decimalValue digits exponent := by
  rcases lt_or_ge exponent 0 with hneg | hnonneg
  · obtain ⟨n, rfl, hn⟩ : ∃ n : Nat, exponent = -n ∧ 0 < n :=
      ⟨exponent.natAbs, by omega, by omega⟩
    have hpow : (0 : ℚ) < ((10 ^ n : Nat) : ℚ) := Nat.cast_pos.mpr (Nat.pow_pos (by decide))
    refine ⟨((10 ^ n : Nat) : ℚ), hpow, fun u digits => ?_⟩
    rw [gridStep_neg u hn, decimalValue_neg]
    constructor
    · rw [Nat.cast_mul, mul_comm]
    · rw [mul_div_assoc', mul_div_cancel_left₀ _ hpow.ne']
  · obtain ⟨n, rfl⟩ := Int.eq_ofNat_of_zero_le hnonneg
    refine ⟨1, one_pos, fun u digits => ?_⟩
    rw [gridStep_natCast, decimalValue_natCast, one_mul, one_mul, Nat.cast_one, div_one]
    constructor
    · trivial
    · rw [Nat.mul_comm one, Nat.mul_assoc]

theorem gridStep_pos (u : Nat) (exponent : Int) : 0 < (gridStep u exponent).2 := by
  have hone := oneUnits_pos
  unfold gridStep
  generalize one = o at hone ⊢
  split
  · exact Nat.mul_pos hone (Nat.pow_pos (by decide))
  · exact hone

section

variable {u digits : Nat} {exponent : Int}

/-- A point of a grid is not above a value. -/
theorem decimalValue_le_iff : decimalValue digits exponent ≤ u ↔
    digits * (gridStep u exponent).2 ≤ (gridStep u exponent).1 := by
  obtain ⟨c, hc, hstep⟩ := exists_gridStep exponent
  obtain ⟨hvalue, hpoint⟩ := hstep u digits
  rw [← Nat.cast_le (α := ℚ), hvalue, hpoint, mul_le_mul_iff_right₀ hc]

/-- A value is not above a point of a grid. -/
theorem le_decimalValue_iff : (u : ℚ) ≤ decimalValue digits exponent ↔
    (gridStep u exponent).1 ≤ digits * (gridStep u exponent).2 := by
  obtain ⟨c, hc, hstep⟩ := exists_gridStep exponent
  obtain ⟨hvalue, hpoint⟩ := hstep u digits
  rw [← Nat.cast_le (α := ℚ), hvalue, hpoint, mul_le_mul_iff_right₀ hc]

/-- The points of a grid are in order. -/
theorem decimalValue_mono {digits' : Nat} (h : digits ≤ digits') :
    decimalValue digits exponent ≤ decimalValue digits' exponent := by
  have hpow : (0 : ℚ) ≤ 10 ^ exponent := zpow_nonneg (by norm_num) _
  refine mul_le_mul_of_nonneg_right ?_ (Nat.cast_nonneg _)
  exact mul_le_mul_of_nonneg_right (Nat.cast_le.mpr h) hpow

end

/-! ## The power of ten at a value -/

/-- The first guess of `leadOf`, from the binary logarithm. -/
def guess (log2 : Nat) : Int := Int.fdiv (((log2 : Int) - 1074) * 30103) 100000

/-- The guess is right for all binary logarithms of doubles, up to one step. -/
theorem guess_table : ∀ l < 2100,
    (gridStep (Nat.pow 2 l) (guess l)).2 ≤ (gridStep (Nat.pow 2 l) (guess l)).1 ∧
      (gridStep (Nat.pow 2 (l + 1)) (guess l + 2)).1 ≤
        (gridStep (Nat.pow 2 (l + 1)) (guess l + 2)).2 := by
  decide +kernel

/-- **The power of ten at a value**: it is not above the value, and the next one is. -/
theorem leadOf_spec {u : Nat} (hpos : 0 < u) (hmax : u.log2 < 2100) :
    decimalValue 1 (leadOf u) ≤ u ∧ (u : ℚ) < decimalValue 1 (leadOf u + 1) := by
  obtain ⟨hlower, hupper⟩ := guess_table u.log2 hmax
  have hpow : Nat.pow 2 u.log2 ≤ u := Nat.log2_self_le hpos.ne'
  have hnext : u < Nat.pow 2 (u.log2 + 1) := Nat.lt_log2_self
  -- the value lies between the guessed power and the one two steps further
  have hguess : decimalValue 1 (guess u.log2) ≤ u := by
    refine le_trans (decimalValue_le_iff.mpr ?_) (Nat.cast_le.mpr hpow)
    rw [Nat.one_mul]
    exact hlower
  have hbeyond : (u : ℚ) < decimalValue 1 (guess u.log2 + 2) := by
    refine lt_of_lt_of_le (Nat.cast_lt.mpr hnext) (le_decimalValue_iff.mpr ?_)
    rw [Nat.one_mul]
    exact hupper
  have hlead : leadOf u = if (gridStep u (guess u.log2 + 1)).2 ≤ (gridStep u (guess u.log2 + 1)).1
      then guess u.log2 + 1 else guess u.log2 := rfl
  rw [hlead]
  split
  next hstep =>
    refine ⟨decimalValue_le_iff.mpr ?_, ?_⟩
    · rwa [Nat.one_mul]
    · rwa [add_assoc]
  next hstep =>
    refine ⟨hguess, lt_of_not_ge fun h => hstep ?_⟩
    rw [← Nat.one_mul (gridStep u (guess u.log2 + 1)).2]
    exact decimalValue_le_iff.mp h

/-! ## The search -/

/-- **A grid that holds a decimal that reads back** has an answer. -/
theorem onGrid_isSome {m u digits : Nat} {exponent : Int} (hu : NearestTo u m)
    (hdigits : 0 < digits) (hreads : NearestTo (decimalValue digits exponent) m) :
    (onGrid m u exponent).isSome := by
  have hden := gridStep_pos u exponent
  have hfloor : decimalValue ((gridStep u exponent).1 / (gridStep u exponent).2) exponent ≤ u :=
    decimalValue_le_iff.mpr (Nat.div_mul_le_self _ _)
  have hceil : (u : ℚ) ≤ decimalValue ((gridStep u exponent).1 / (gridStep u exponent).2 + 1)
      exponent := by
    refine le_decimalValue_iff.mpr (Nat.le_of_lt ?_)
    rw [Nat.mul_comm]
    exact Nat.lt_mul_div_succ _ hden
  unfold onGrid
  generalize gridStep u exponent = step at hfloor hceil hden ⊢
  obtain ⟨num, den⟩ := step
  simp only at hfloor hceil ⊢
  rcases Nat.lt_or_ge (num / den) digits with hbelow | habove
  · have hupper : (⟨num / den + 1, exponent⟩ : Decimal).magnitude = m :=
      hu.between hreads (nearestTo_magnitude _) hceil (decimalValue_mono hbelow)
    rw [hupper, beq_self_eq_true]
    cases num / den != 0 && (⟨num / den, exponent⟩ : Decimal).magnitude == m with
    | false => rfl
    | true =>
      simp only
      split <;> rfl
  · have hlower : (⟨num / den, exponent⟩ : Decimal).magnitude = m :=
      hreads.between hu (nearestTo_magnitude _) (decimalValue_mono habove) hfloor
    have hne : (num / den != 0) = true := by
      rw [bne_iff_ne]
      omega
    rw [hlower, beq_self_eq_true, hne, Bool.true_and]
    cases (⟨num / den + 1, exponent⟩ : Decimal).magnitude == m with
    | false => rfl
    | true =>
      simp only
      split <;> rfl

/-- The first answer in a range. -/
theorem exists_first_of_findSome? {α : Type} {f : Nat → Option α} {N : Nat} {a : α}
    (h : (List.range N).findSome? f = some a) : ∃ n < N, f n = some a ∧ ∀ k < n, f k = none := by
  induction N with
  | zero => exact absurd h (by simp)
  | succ N ih =>
    rw [List.range_succ, List.findSome?_append, Option.or_eq_some_iff] at h
    rcases h with h | ⟨hnone, hlast⟩
    · obtain ⟨n, hn, hfirst⟩ := ih h
      exact ⟨n, by omega, hfirst⟩
    · refine ⟨N, Nat.lt_succ_self N, by simpa using hlast, fun k hk => ?_⟩
      exact List.findSome?_eq_none_iff.mp hnone k (List.mem_range.mpr hk)

/-- Moving zeros into the exponent gives fewer digits and a greater exponent. -/
theorem strip_le (fuel : Nat) (d : Decimal) :
    (strip fuel d).digits ≤ d.digits ∧ d.exponent ≤ (strip fuel d).exponent := by
  induction fuel generalizing d with
  | zero => exact ⟨Nat.le_refl _, Int.le_refl _⟩
  | succ fuel ih =>
    unfold strip
    split
    next hzero =>
      obtain ⟨hdigits, hexponent⟩ := ih ⟨d.digits / 10, d.exponent + 1⟩
      exact ⟨hdigits.trans (Nat.div_le_self _ _), by simp only at hexponent; omega⟩
    next => exact ⟨Nat.le_refl _, Int.le_refl _⟩

/-- A grid on which a decimal with few digits reads back is found early. -/
theorem exists_onGrid_of_magnitude {m : Nat} {d : Decimal} (hreads : d.magnitude = m) {k : Nat}
    (hpos : 0 < d.digits) (hdigits : d.digits < 10 ^ k) {lead : Int}
    (hu : NearestTo (unitsOf m) m) (hlead : decimalValue 1 lead ≤ unitsOf m) :
    ∃ n < k, (onGrid m (unitsOf m) (lead - n)).isSome := by
  have hd : NearestTo (decimalValue d.digits d.exponent) m := hreads ▸ nearestTo_magnitude d
  have hk : 0 < k := by
    rcases Nat.eq_zero_or_pos k with rfl | hk
    · rw [pow_zero] at hdigits
      omega
    · exact hk
  rcases le_or_gt lead d.exponent with hcoarse | hfine
  · obtain ⟨j, hj⟩ : ∃ j : Nat, d.exponent = lead + j := ⟨(d.exponent - lead).toNat, by omega⟩
    rw [hj, ← decimalValue_pow_mul] at hd
    refine ⟨0, hk, ?_⟩
    rw [Nat.cast_zero, sub_zero]
    exact onGrid_isSome hu (Nat.mul_pos (Nat.pow_pos (by decide)) hpos) hd
  · obtain ⟨n, hn⟩ : ∃ n : Nat, lead - n = d.exponent := ⟨(lead - d.exponent).toNat, by omega⟩
    rcases Nat.lt_or_ge n k with hlt | hge
    · refine ⟨n, hlt, ?_⟩
      rw [hn]
      exact onGrid_isSome hu hpos hd
    · have hbelow : decimalValue d.digits d.exponent ≤ decimalValue 1 lead := by
        have hsplit : lead = d.exponent + n := by omega
        rw [hsplit, ← decimalValue_pow_mul, Nat.mul_one]
        exact decimalValue_mono (hdigits.le.trans (Nat.pow_le_pow_right (by decide) hge))
      have hpower : NearestTo (decimalValue 1 lead) m := by
        have hnearest := nearestTo_magnitude ⟨1, lead⟩
        rwa [hd.between hu hnearest hbelow hlead] at hnearest
      refine ⟨0, hk, ?_⟩
      rw [Nat.cast_zero, sub_zero]
      exact onGrid_isSome hu Nat.one_pos hpower

/-- The binary logarithm of the value of a finite double. -/
theorem log2_unitsOf_lt {m : Nat} (hm : m < infinityMagnitude) : (unitsOf m).log2 < 2100 := by
  obtain ⟨p, hp, hinfinity⟩ : ∃ p, p = 2100 ∧ unitsOf infinityMagnitude ≤ Nat.pow 2 p :=
    ⟨_, rfl, by decide +kernel⟩
  rcases Nat.eq_zero_or_pos (unitsOf m) with hzero | hpos
  · rw [hzero]
    decide
  · rw [← hp]
    exact (Nat.log2_lt hpos.ne').mpr (Nat.lt_of_lt_of_le (unitsOf_strictMono hm) hinfinity)

/-- **The shortest decimal is as short** as any that reads back, and its exponent is as great as
that many digits allow. -/
theorem shortest_le {m : Nat} (hm : m < infinityMagnitude) (hzero : m ≠ 0) {d : Decimal}
    (hreads : d.magnitude = m) {k : Nat} (hk : k ≤ 17) (hpos : 0 < d.digits)
    (hdigits : d.digits < 10 ^ k) :
    (shortest m).digits ≤ 10 ^ k ∧ leadOf (unitsOf m) < (shortest m).exponent + k := by
  have hu : NearestTo (unitsOf m) m := nearestTo_valueOf hm.le
  have hunits : 0 < unitsOf m := Nat.pos_of_ne_zero fun h => hzero (unitsOf_eq_zero.mp h)
  obtain ⟨hlower, hupper⟩ := leadOf_spec hunits (log2_unitsOf_lt hm)
  obtain ⟨n, hn, hfound⟩ := exists_onGrid_of_magnitude hreads hpos hdigits hu hlower
  unfold shortest
  simp only
  rw [if_neg hunits.ne']
  split
  next answer hanswer =>
    obtain ⟨first, -, hfirst, hbefore⟩ := exists_first_of_findSome? hanswer
    have hle : first ≤ n := by
      by_contra hlate
      rw [hbefore n (by omega)] at hfound
      exact absurd hfound (by simp)
    obtain ⟨-, hexponent, hneighbour⟩ := onGrid_cases hfirst
    obtain ⟨hstrip, hshift⟩ := strip_le 17 answer
    have hsteps : (gridStep (unitsOf m) (leadOf (unitsOf m) - first)).1 <
        10 ^ (first + 1) * (gridStep (unitsOf m) (leadOf (unitsOf m) - first)).2 := by
      refine lt_of_not_ge fun hge => absurd (decimalValue_le_iff.mpr hge) (not_le.mpr ?_)
      have hsplit : leadOf (unitsOf m) + 1 = leadOf (unitsOf m) - first + (first + 1 : Nat) := by
        omega
      rwa [hsplit, ← decimalValue_pow_mul, Nat.mul_one] at hupper
    have hquotient := Nat.div_lt_of_lt_mul (Nat.mul_comm _ _ ▸ hsteps)
    have hpower : 10 ^ (first + 1) ≤ 10 ^ k := Nat.pow_le_pow_right (by decide) (by omega)
    exact ⟨by omega, by omega⟩
  next hnone =>
    have hmem : n ∈ List.range 17 := List.mem_range.mpr (by omega)
    rw [List.findSome?_eq_none_iff.mp hnone n hmem] at hfound
    exact absurd hfound (by simp)

/-! ## Decimals of ordinary size -/

/-- **A decimal of ordinary size**: it has at most fifteen digits or is `10 ^ 15`, and no digit is
far from the point. -/
structure Ordinary (d : Decimal) : Prop where
  digits : d.digits ≤ 10 ^ 15
  exponent : -22 ≤ d.exponent
  lead : d.lead ≤ 13

theorem powerValue_mono {a b : Int} (h : a ≤ b) : decimalValue 1 a ≤ decimalValue 1 b := by
  obtain ⟨n, rfl⟩ : ∃ n : Nat, b = a + n := ⟨(b - a).toNat, by omega⟩
  rw [← decimalValue_pow_mul]
  exact decimalValue_mono (Nat.mul_pos (Nat.pow_pos (by decide)) Nat.one_pos)

/-- The power of ten at the first digit is not above the decimal. -/
theorem powerValue_lead_le {d : Decimal} (hdigits : d.digits ≠ 0) :
    decimalValue 1 d.lead ≤ decimalValue d.digits d.exponent := by
  obtain ⟨n, hn⟩ : ∃ n, (Nat.toDigits 10 d.digits).length = n + 1 :=
    Nat.exists_eq_succ_of_ne_zero Nat.length_toDigits_pos.ne'
  have hlead : d.lead = d.exponent + n := by
    rw [lead, hn]
    omega
  have hpower : 10 ^ n ≤ d.digits := by
    rcases Nat.eq_zero_or_pos n with rfl | hpos
    · rw [pow_zero]
      omega
    · by_contra hlt
      have hshort := (Nat.length_toDigits_le_iff (by decide) hpos).mpr (Nat.not_le.mp hlt)
      omega
  rw [hlead, ← decimalValue_pow_mul, Nat.mul_one]
  exact decimalValue_mono hpower

/-- **Of an ordinary decimal the shortest one is ordinary**, where at most fifteen digits stand for
a number from `10 ^ -7` to `10 ^ 13`. -/
theorem ordinary_shortest {d : Decimal} (hpos : 0 < d.digits) (hdigits : d.digits < 10 ^ 15)
    (hlower : decimalValue 1 (-7) ≤ decimalValue d.digits d.exponent)
    (hupper : decimalValue d.digits d.exponent ≤ decimalValue 1 13) :
    (shortest d.magnitude).Ordinary := by
  have hleast := (nearestTo_magnitude ⟨1, -7⟩).monotone (nearestTo_magnitude d) hlower
  have hgreatest := (nearestTo_magnitude d).monotone (nearestTo_magnitude ⟨1, 13⟩) hupper
  have hzero : d.magnitude ≠ 0 := by
    have hpositive : 0 < (⟨1, -7⟩ : Decimal).magnitude := by decide +kernel
    omega
  have hfinite : d.magnitude < infinityMagnitude := by
    have hten : (⟨1, 13⟩ : Decimal).magnitude < infinityMagnitude := by decide +kernel
    omega
  obtain ⟨hshort, hexponent⟩ := shortest_le hfinite hzero rfl (k := 15) (by decide) hpos hdigits
  have hvalue : decimalValue 1 (-8) ≤ unitsOf d.magnitude := by
    have hbound : decimalValue 1 (-8) ≤ unitsOf (⟨1, -7⟩ : Decimal).magnitude :=
      decimalValue_le_iff.mpr (by decide +kernel)
    exact hbound.trans (Nat.cast_le.mpr (unitsOf_strictMono.monotone hleast))
  have hunits : 0 < unitsOf d.magnitude := Nat.pos_of_ne_zero fun h => hzero (unitsOf_eq_zero.mp h)
  have hlead : -8 ≤ leadOf (unitsOf d.magnitude) := by
    by_contra hlow
    have hnext := (leadOf_spec hunits (log2_unitsOf_lt hfinite)).2
    exact absurd (hnext.trans_le (powerValue_mono (by omega))) hvalue.not_gt
  refine ⟨hshort, by omega, ?_⟩
  have hreads : (shortest d.magnitude).magnitude = d.magnitude := magnitude_shortest hfinite.le
  have hne : (shortest d.magnitude).digits ≠ 0 := by
    intro h
    have hnearest := nearestTo_magnitude (shortest d.magnitude)
    rw [hreads, h, decimalValue, Nat.cast_zero, zero_mul, zero_mul] at hnearest
    exact hzero (hnearest.unique (nearestTo_zero (by norm_num)))
  by_contra hlarge
  have hfourteen : (⟨1, 14⟩ : Decimal).magnitude ≤ d.magnitude := by
    have hpower : decimalValue 1 14 ≤ decimalValue 1 (shortest d.magnitude).lead :=
      powerValue_mono (by omega)
    rw [← hreads]
    exact (nearestTo_magnitude ⟨1, 14⟩).monotone (nearestTo_magnitude _)
      (hpower.trans (powerValue_lead_le hne))
  have hbetween : (⟨1, 13⟩ : Decimal).magnitude < (⟨1, 14⟩ : Decimal).magnitude := by decide +kernel
  omega

end Decimal

end HttpLoad
