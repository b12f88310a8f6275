import Mathlib.Algebra.Order.Field.Basic
import Mathlib.Algebra.Order.Ring.Rat
import Mathlib.Tactic.FieldSimp
import Mathlib.Tactic.Linarith
import Mathlib.Tactic.Positivity
import Mathlib.Tactic.Ring
import HttpLoad.Number.Double

/-!
# Rounding to the nearest double

The magnitude that `Double.nearest` gives is the one whose value is nearest, and of two equally near
ones the even one. Infinity takes part with the value that the next binade would begin with. As a
number has only one such magnitude, rounding depends on nothing but the number, keeps the order of
numbers, and leaves alone what a magnitude stands for.

## Main definitions

* `Double.valueOf m`: the value of a magnitude as a rational, in units of `2 ^ -1074`
* `Double.NearestTo q m`: `m` is the magnitude nearest to `q`

## Main results

* `Double.unitsOf_strictMono`: greater magnitudes stand for greater values
* `Double.nearestTo_nearest`: rounding gives the nearest magnitude
* `Double.NearestTo.unique`, `Double.NearestTo.mono`: there is only one, and it keeps the order
* `Double.nearestTo_valueOf`: a magnitude is nearest to its own value
-/

namespace HttpLoad

/-! ## Rounding to whole numbers -/

theorem roundHalfEven_eq (num den : Nat) : roundHalfEven num den =
    if 2 * (num % den) < den ∨ (2 * (num % den) = den ∧ num / den % 2 = 0) then num / den
    else num / den + 1 := rfl

/-- **Rounding to a whole number** is off by at most a half, and by a half only at an even one. -/
theorem roundHalfEven_spec (num : Nat) {den : Nat} (hden : 0 < den) :
    2 * num ≤ (2 * roundHalfEven num den + 1) * den ∧
      2 * roundHalfEven num den * den ≤ 2 * num + den ∧
      (2 * num = (2 * roundHalfEven num den + 1) * den ∨
          2 * roundHalfEven num den * den = 2 * num + den →
        roundHalfEven num den % 2 = 0) := by
  have hsplit : den * (num / den) + num % den = num := Nat.div_add_mod num den
  have hrest : num % den < den := Nat.mod_lt num hden
  rw [roundHalfEven_eq]
  split
  next hdown =>
    have hupper : (2 * (num / den) + 1) * den = 2 * (den * (num / den)) + den := by ring
    have hlower : 2 * (num / den) * den = 2 * (den * (num / den)) := by ring
    rw [hupper, hlower]
    omega
  next hup =>
    have hupper : (2 * (num / den + 1) + 1) * den = 2 * (den * (num / den)) + 3 * den := by ring
    have hlower : 2 * (num / den + 1) * den = 2 * (den * (num / den)) + 2 * den := by ring
    rw [hupper, hlower]
    omega

/-- **No whole number is nearer**, and another one that is equally near only if the rounded one is
even. -/
theorem roundHalfEven_nearest (num : Nat) {den : Nat} (hden : 0 < den) (j : Nat) :
    |(roundHalfEven num den : ℚ) - num / den| ≤ |(j : ℚ) - num / den| ∧
      (|(roundHalfEven num den : ℚ) - num / den| = |(j : ℚ) - num / den| →
        j ≠ roundHalfEven num den → roundHalfEven num den % 2 = 0) := by
  obtain ⟨hupper, hlower, heven⟩ := roundHalfEven_spec num hden
  generalize roundHalfEven num den = r at *
  have hpos : (0 : ℚ) < den := Nat.cast_pos.mpr hden
  have hx : (num / den : ℚ) * den = num := by field_simp
  generalize (num / den : ℚ) = x at *
  have hupper : 2 * x ≤ 2 * r + 1 := by
    refine le_of_mul_le_mul_right ?_ hpos
    rw [mul_assoc, hx]
    exact_mod_cast hupper
  have hlower : 2 * r ≤ 2 * x + 1 := by
    refine le_of_mul_le_mul_right ?_ hpos
    rw [add_mul, one_mul, mul_assoc 2 x, hx]
    exact_mod_cast hlower
  have heven : 2 * x = 2 * r + 1 ∨ 2 * r = 2 * x + 1 → r % 2 = 0 := by
    intro htie
    refine heven (htie.imp (fun h => ?_) fun h => ?_)
    · have htie : (2 * num : ℚ) = (2 * r + 1) * den := by rw [← h, mul_assoc, hx]
      exact_mod_cast htie
    · have htie : (2 * r * den : ℚ) = 2 * num + den := by rw [h, add_mul, one_mul, mul_assoc, hx]
      exact_mod_cast htie
  rcases lt_trichotomy j r with hlt | rfl | hgt
  · have hj : (j : ℚ) + 1 ≤ r := by exact_mod_cast hlt
    have habs : |(j : ℚ) - x| = x - j := by rw [abs_sub_comm, abs_of_nonneg (by linarith)]
    rw [habs]
    refine ⟨abs_le.mpr ⟨by linarith, by linarith⟩, fun htie _ => heven (.inr ?_)⟩
    rcases abs_cases ((r : ℚ) - x) with ⟨h, -⟩ | ⟨h, -⟩ <;> linarith
  · exact ⟨le_rfl, fun _ hne => absurd rfl hne⟩
  · have hj : (r : ℚ) + 1 ≤ j := by exact_mod_cast hgt
    have habs : |(j : ℚ) - x| = j - x := abs_of_nonneg (by linarith)
    rw [habs]
    refine ⟨abs_le.mpr ⟨by linarith, by linarith⟩, fun htie _ => heven (.inl ?_)⟩
    rcases abs_cases ((r : ℚ) - x) with ⟨h, -⟩ | ⟨h, -⟩ <;> linarith

namespace Double

/-! ## Magnitudes and their values -/

theorem unitsOf_of_lt {m : Nat} (hm : m < 2 ^ 53) : unitsOf m = m := if_pos hm

theorem unitsOf_of_le {m : Nat} (hm : 2 ^ 53 ≤ m) :
    unitsOf m = (2 ^ 52 + m % 2 ^ 52) * 2 ^ (m / 2 ^ 52 - 1) := if_neg (Nat.not_lt.mpr hm)

/-- **The two parts of a magnitude**: a whole number below `2 ^ 53` and the number of binary places
that it is shifted by. Only an unshifted one may have fewer than 53 places. -/
theorem exists_parts (m : Nat) :
    ∃ shift whole, m = shift * 2 ^ 52 + whole ∧ whole < 2 ^ 53 ∧ (shift = 0 ∨ 2 ^ 52 ≤ whole) ∧
      unitsOf m = whole * 2 ^ shift := by
  rcases Nat.lt_or_ge m (2 ^ 53) with hm | hm
  · exact ⟨0, m, by omega, hm, .inl rfl, by rw [unitsOf_of_lt hm, pow_zero, mul_one]⟩
  · refine ⟨m / 2 ^ 52 - 1, 2 ^ 52 + m % 2 ^ 52, by omega, by omega, .inr (by omega), ?_⟩
    exact unitsOf_of_le hm

/-- The value of a magnitude that is put together from two parts. The whole number may reach
`2 ^ 53`, where the next shift begins. -/
theorem unitsOf_parts {shift whole : Nat} (hwhole : whole ≤ 2 ^ 53)
    (hshift : shift = 0 ∨ 2 ^ 52 ≤ whole) :
    unitsOf (shift * 2 ^ 52 + whole) = whole * 2 ^ shift := by
  rcases Nat.lt_or_ge (shift * 2 ^ 52 + whole) (2 ^ 53) with hm | hm
  · obtain rfl : shift = 0 := by omega
    rw [unitsOf_of_lt hm, zero_mul, zero_add, pow_zero, mul_one]
  · rw [unitsOf_of_le hm]
    rcases hwhole.lt_or_eq with hlt | rfl
    · have hdiv : (shift * 2 ^ 52 + whole) / 2 ^ 52 = shift + 1 := by omega
      have hmod : (shift * 2 ^ 52 + whole) % 2 ^ 52 = whole - 2 ^ 52 := by omega
      rw [hdiv, hmod, Nat.add_sub_cancel, Nat.add_sub_cancel' (by omega)]
    · -- the magnitude is the first of the next shift, which the same value belongs to
      have hdiv : (shift * 2 ^ 52 + 2 ^ 53) / 2 ^ 52 = shift + 1 + 1 := by omega
      have hmod : (shift * 2 ^ 52 + 2 ^ 53) % 2 ^ 52 = 0 := by omega
      rw [hdiv, hmod, Nat.add_sub_cancel]
      ring

/-- **Greater magnitudes stand for greater values.** -/
theorem unitsOf_strictMono : StrictMono unitsOf := by
  intro k m hkm
  obtain ⟨s, r, rfl, hr, hs, hk⟩ := exists_parts k
  obtain ⟨s', r', rfl, hr', hs', hm⟩ := exists_parts m
  rw [hk, hm]
  rcases lt_trichotomy s s' with hlt | rfl | hgt
  · -- a smaller shift stays below the least whole number of a greater one
    calc r * 2 ^ s < 2 ^ 53 * 2 ^ s := Nat.mul_lt_mul_of_pos_right hr (by positivity)
      _ = 2 ^ 52 * 2 ^ (s + 1) := by ring
      _ ≤ 2 ^ 52 * 2 ^ s' := Nat.mul_le_mul_left _ (Nat.pow_le_pow_right (by decide) hlt)
      _ ≤ r' * 2 ^ s' := Nat.mul_le_mul_right _ (hs'.resolve_left (by omega))
  · exact Nat.mul_lt_mul_of_pos_right (by omega) (by positivity)
  · omega

/-- The value of a magnitude, in units of `2 ^ -1074`. -/
def valueOf (m : Nat) : ℚ := unitsOf m

theorem valueOf_strictMono : StrictMono valueOf := fun _ _ h =>
  Nat.cast_lt.mpr (unitsOf_strictMono h)

@[simp] theorem valueOf_zero : valueOf 0 = 0 := by
  simp [valueOf, unitsOf]

/-! ## The nearest magnitude -/

/-- Among some magnitudes, **`m` is nearest to `q`**: none of them is nearer, and another one that
is equally near only if `m` is even. -/
structure NearestAmong (among : Nat → Prop) (q : ℚ) (m : Nat) : Prop where
  mem : among m
  le : ∀ k, among k → |valueOf m - q| ≤ |valueOf k - q|
  even : ∀ k, among k → |valueOf m - q| = |valueOf k - q| → k ≠ m → m % 2 = 0

/-- **`m` is the magnitude nearest to `q`**, infinity counted among the magnitudes. -/
def NearestTo (q : ℚ) (m : Nat) : Prop := NearestAmong (· ≤ infinityMagnitude) q m

/-- The places by which a quotient is shifted before it is rounded. -/
def shiftOf (num den : Nat) : Nat := (num / den).log2 - 52

theorem nearest_eq (num den : Nat) : nearest num den =
    min infinityMagnitude
      (shiftOf num den * 2 ^ 52 + roundHalfEven num (den * 2 ^ shiftOf num den)) := rfl

/-- A shifted quotient has less than 54 binary places, and at least 53 if it is shifted at all. -/
theorem shiftOf_bounds (num : Nat) {den : Nat} (hden : 0 < den) :
    num < 2 ^ 53 * (den * 2 ^ shiftOf num den) ∧
      (shiftOf num den = 0 ∨ 2 ^ 52 * (den * 2 ^ shiftOf num den) ≤ num) := by
  have hwhole : num / den * den ≤ num := Nat.div_mul_le_self num den
  have hrest : num < (num / den + 1) * den := by
    rw [mul_comm]
    exact Nat.lt_mul_div_succ num hden
  unfold shiftOf
  generalize num / den = n at *
  constructor
  · calc num < (n + 1) * den := hrest
      _ ≤ 2 ^ (n.log2 + 1) * den := Nat.mul_le_mul_right _ Nat.lt_log2_self
      _ ≤ 2 ^ (53 + (n.log2 - 52)) * den :=
        Nat.mul_le_mul_right _ (Nat.pow_le_pow_right (by decide) (by omega))
      _ = 2 ^ 53 * (den * 2 ^ (n.log2 - 52)) := by ring
  · rcases Nat.lt_or_ge 52 n.log2 with hlog | hlog
    · have hn : n ≠ 0 := by
        rintro rfl
        simp at hlog
      refine .inr ?_
      calc 2 ^ 52 * (den * 2 ^ (n.log2 - 52)) = 2 ^ (52 + (n.log2 - 52)) * den := by ring
        _ = 2 ^ n.log2 * den := by rw [Nat.add_sub_cancel' hlog.le]
        _ ≤ n * den := Nat.mul_le_mul_right _ (Nat.log2_self_le hn)
        _ ≤ num := hwhole
    · exact .inl (by omega)

/-- The rounded quotient has 53 places if it is shifted, or is the power of two behind those. -/
theorem roundHalfEven_shifted (num : Nat) {den : Nat} (hden : 0 < den) :
    roundHalfEven num (den * 2 ^ shiftOf num den) ≤ 2 ^ 53 ∧
      (shiftOf num den = 0 ∨ 2 ^ 52 ≤ roundHalfEven num (den * 2 ^ shiftOf num den)) := by
  obtain ⟨hless, hshift⟩ := shiftOf_bounds num hden
  generalize shiftOf num den = s at *
  obtain ⟨hupper, hlower, -⟩ := roundHalfEven_spec num (Nat.mul_pos hden (Nat.two_pow_pos s))
  generalize roundHalfEven num (den * 2 ^ s) = r at *
  generalize den * 2 ^ s = d at *
  constructor
  · by_contra hgt
    have hle : (2 ^ 53 + 1) * d ≤ r * d := Nat.mul_le_mul_right _ (by omega)
    rw [mul_assoc] at hlower
    omega
  · refine hshift.imp_right fun hle => ?_
    by_contra hlt
    have hle' : (2 * r + 1) * d ≤ (2 ^ 53 - 1) * d := Nat.mul_le_mul_right _ (by omega)
    omega

/-- Of a value, its magnitude is shifted by some number of places at least, or it lies below all
that are. -/
theorem valueOf_cases (s k : Nat) :
    (∃ j : Nat, valueOf k = j * 2 ^ s) ∨ valueOf k < 2 ^ 52 * 2 ^ s := by
  obtain ⟨sk, rk, rfl, hrk, -, hk⟩ := exists_parts k
  rcases Nat.lt_or_ge sk s with hlt | hge
  · have hunits : rk * 2 ^ sk < 2 ^ 52 * 2 ^ s := by
      calc rk * 2 ^ sk < 2 ^ 53 * 2 ^ sk := Nat.mul_lt_mul_of_pos_right hrk (by positivity)
        _ = 2 ^ 52 * 2 ^ (sk + 1) := by ring
        _ ≤ 2 ^ 52 * 2 ^ s := Nat.mul_le_mul_left _ (Nat.pow_le_pow_right (by decide) hlt)
    rw [valueOf, hk]
    exact .inr (by exact_mod_cast hunits)
  · refine .inl ⟨rk * 2 ^ (sk - s), ?_⟩
    rw [valueOf, hk]
    push_cast
    rw [mul_assoc, ← pow_add, Nat.sub_add_cancel hge]

/-- Distances are those of the shifted quotient, shifted back. -/
theorem abs_sub_shifted (num den s : Nat) (j : ℚ) :
    |j * 2 ^ s - num / den| = |j - num / (den * 2 ^ s : Nat)| * 2 ^ s := by
  have hpow : (0 : ℚ) < 2 ^ s := by positivity
  have hscale : (num / den : ℚ) = num / (den * 2 ^ s : Nat) * 2 ^ s := by
    push_cast
    field_simp
  rw [hscale, ← sub_mul, abs_mul, abs_of_pos hpow]

/-- What lies below the shifted magnitudes is further away than what is as near as the least of
these. -/
theorem abs_sub_lt_of_below {num den s k : Nat} {q : ℚ} (hden : 0 < den)
    (hshift : s = 0 ∨ 2 ^ 52 * (den * 2 ^ s) ≤ num)
    (hnear : |q - num / den| ≤ |((2 ^ 52 : Nat) : ℚ) * 2 ^ s - num / den|)
    (hbelow : valueOf k < 2 ^ 52 * 2 ^ s) (hnot : ¬∃ j : Nat, valueOf k = j * 2 ^ s) :
    |q - num / den| < |valueOf k - num / den| := by
  have hs : s ≠ 0 := by
    rintro rfl
    exact hnot ⟨unitsOf k, by simp [valueOf]⟩
  have hle : (2 ^ 52 * 2 ^ s : ℚ) ≤ num / den := by
    rw [le_div_iff₀ (Nat.cast_pos.mpr hden)]
    calc (2 ^ 52 * 2 ^ s : ℚ) * den = (2 ^ 52 * (den * 2 ^ s) : Nat) := by push_cast; ring
      _ ≤ num := Nat.cast_le.mpr (hshift.resolve_left hs)
  rw [Nat.cast_pow, Nat.cast_ofNat, abs_sub_comm (2 ^ 52 * 2 ^ s : ℚ),
    abs_of_nonneg (by linarith : (0 : ℚ) ≤ num / den - 2 ^ 52 * 2 ^ s)] at hnear
  rw [abs_sub_comm (valueOf k), abs_of_nonneg (by linarith : (0 : ℚ) ≤ num / den - valueOf k)]
  linarith

/-- If there were no infinity, rounding would give the nearest magnitude. -/
theorem nearestAmong_true (num : Nat) {den : Nat} (hden : 0 < den) :
    NearestAmong (fun _ => True) (num / den)
      (shiftOf num den * 2 ^ 52 + roundHalfEven num (den * 2 ^ shiftOf num den)) := by
  obtain ⟨hr, hr'⟩ := roundHalfEven_shifted num hden
  have hshift := (shiftOf_bounds num hden).2
  generalize shiftOf num den = s at *
  have hnearest := roundHalfEven_nearest num (Nat.mul_pos hden (Nat.two_pow_pos s))
  generalize roundHalfEven num (den * 2 ^ s) = r at *
  have hvalue : valueOf (s * 2 ^ 52 + r) = r * 2 ^ s := by
    rw [valueOf, unitsOf_parts hr hr']
    push_cast
    rfl
  have hpow : (0 : ℚ) < 2 ^ s := by positivity
  have hle : ∀ j : Nat, |valueOf (s * 2 ^ 52 + r) - num / den| ≤ |(j : ℚ) * 2 ^ s - num / den| := by
    intro j
    rw [hvalue, abs_sub_shifted, abs_sub_shifted]
    exact mul_le_mul_of_nonneg_right (hnearest j).1 hpow.le
  -- any other magnitude is a shifted one or lies below these
  have hcases : ∀ k, (∃ j : Nat, valueOf k = j * 2 ^ s) ∨
      |valueOf (s * 2 ^ 52 + r) - num / den| < |valueOf k - num / den| := by
    intro k
    by_cases hk : ∃ j : Nat, valueOf k = j * 2 ^ s
    · exact .inl hk
    · have hbelow := (valueOf_cases s k).resolve_left hk
      exact .inr (abs_sub_lt_of_below hden hshift (hle (2 ^ 52)) hbelow hk)
  refine ⟨trivial, fun k _ => ?_, fun k _ htie hne => ?_⟩
  · rcases hcases k with ⟨j, hj⟩ | hlt
    · rw [hj]
      exact hle j
    · exact hlt.le
  · rcases hcases k with ⟨j, hj⟩ | hlt
    · rw [hvalue, hj, abs_sub_shifted, abs_sub_shifted] at htie
      have htie := mul_right_cancel₀ hpow.ne' htie
      have hj' : j ≠ r := by
        rintro rfl
        exact hne (valueOf_strictMono.injective (hj.trans hvalue.symm))
      have heven := (hnearest j).2 htie hj'
      omega
    · exact absurd htie hlt.ne

/-- What is not below infinity is nearest to it. -/
theorem nearestTo_infinity {q : ℚ} (hq : valueOf infinityMagnitude ≤ q) :
    NearestTo q infinityMagnitude := by
  have hdist : ∀ k, k ≤ infinityMagnitude → |valueOf k - q| = q - valueOf k := by
    intro k hk
    have hvalue := valueOf_strictMono.monotone hk
    rw [abs_sub_comm, abs_of_nonneg (by linarith)]
  refine ⟨le_rfl, fun k hk => ?_, fun k hk htie hne => ?_⟩
  · rw [hdist k hk, hdist _ le_rfl]
    have hvalue := valueOf_strictMono.monotone hk
    linarith
  · rw [hdist k hk, hdist _ le_rfl] at htie
    exact absurd (valueOf_strictMono.injective (by linarith)) hne

/-- **Rounding gives the nearest magnitude**, or infinity for what lies beyond it. -/
theorem nearestTo_nearest (num : Nat) {den : Nat} (hden : 0 < den) :
    NearestTo (num / den) (nearest num den) := by
  have h := nearestAmong_true num hden
  rw [nearest_eq]
  generalize shiftOf num den * 2 ^ 52 + roundHalfEven num (den * 2 ^ shiftOf num den) = m at *
  generalize (num / den : ℚ) = q at *
  rcases Nat.lt_or_ge infinityMagnitude m with hgt | hle
  · rw [Nat.min_eq_left hgt.le]
    refine nearestTo_infinity ?_
    by_contra hlt
    have hvalue := valueOf_strictMono hgt
    have hnear := h.le infinityMagnitude trivial
    rw [abs_of_nonneg (by linarith), abs_of_nonneg (by linarith)] at hnear
    linarith
  · rw [Nat.min_eq_right hle]
    exact ⟨hle, fun k _ => h.le k trivial, fun k _ => h.even k trivial⟩

/-! ## What follows for rounding -/

/-- Of two values the greater one is no further away exactly from the middle on. -/
theorem abs_sub_le_abs_sub_iff {a b q : ℚ} (hab : a < b) : |b - q| ≤ |a - q| ↔ a + b ≤ 2 * q := by
  rw [← sq_le_sq]
  have hsquares : (a - q) ^ 2 - (b - q) ^ 2 = (b - a) * (2 * q - (a + b)) := by ring
  have hpos : 0 < b - a := by linarith
  rw [← sub_nonneg, hsquares, mul_nonneg_iff_of_pos_left hpos, sub_nonneg]

theorem abs_sub_le_abs_sub_iff' {a b q : ℚ} (hab : a < b) :
    |a - q| ≤ |b - q| ↔ 2 * q ≤ a + b := by
  rw [← sq_le_sq]
  have hsquares : (b - q) ^ 2 - (a - q) ^ 2 = (b - a) * (a + b - 2 * q) := by ring
  have hpos : 0 < b - a := by linarith
  rw [← sub_nonneg, hsquares, mul_nonneg_iff_of_pos_left hpos, sub_nonneg]

/-- The value of a magnitude is nearest to that magnitude. -/
theorem nearestTo_valueOf {m : Nat} (hm : m ≤ infinityMagnitude) : NearestTo (valueOf m) m := by
  refine ⟨hm, fun k _ => ?_, fun k _ htie hne => absurd ?_ hne⟩
  · rw [sub_self, abs_zero]
    exact abs_nonneg _
  · rw [sub_self, abs_zero, eq_comm, abs_eq_zero, sub_eq_zero] at htie
    exact valueOf_strictMono.injective htie

/-- What is at most half a unit is nearest to zero. -/
theorem nearestTo_zero {q : ℚ} (hq : 2 * q ≤ 1) : NearestTo q 0 := by
  refine ⟨Nat.zero_le _, fun k _ => ?_, fun _ _ _ _ => rfl⟩
  rcases Nat.eq_zero_or_pos k with rfl | hk
  · exact le_rfl
  · have hone : valueOf 1 = 1 := by rw [valueOf, unitsOf_of_lt (by decide), Nat.cast_one]
    have hvalue := valueOf_strictMono.monotone hk
    rw [abs_sub_le_abs_sub_iff' (valueOf_strictMono hk), valueOf_zero, zero_add]
    linarith

namespace NearestTo

variable {q q' : ℚ} {m m' : Nat}

/-- **The order of numbers is kept**: of two numbers the greater one has no lesser magnitude. -/
theorem mono (h : NearestTo q m) (h' : NearestTo q' m') (hq : q < q') : m ≤ m' := by
  by_contra hlt
  have hvalue := valueOf_strictMono (Nat.not_le.mp hlt)
  have hnear := (abs_sub_le_abs_sub_iff hvalue).mp (h.le m' h'.mem)
  have hnear' := (abs_sub_le_abs_sub_iff' hvalue).mp (h'.le m h.mem)
  linarith

/-- Two magnitudes that are both nearest are not one below the other. -/
theorem not_lt (h : NearestTo q m) (h' : NearestTo q m') : ¬ m < m' := by
  intro hlt
  have htie : |valueOf m - q| = |valueOf m' - q| := le_antisymm (h.le m' h'.mem) (h'.le m h.mem)
  have heven := h.even m' h'.mem htie (by omega)
  have heven' := h'.even m h.mem htie.symm (by omega)
  have hnext := valueOf_strictMono (show m < m + 1 by omega)
  have hnext' := valueOf_strictMono (show m + 1 < m' by omega)
  have hmid := (abs_sub_le_abs_sub_iff' hnext).mp (h.le (m + 1) (by have := h'.mem; omega))
  have hmid' := (abs_sub_le_abs_sub_iff (valueOf_strictMono hlt)).mp htie.ge
  linarith

/-- **There is one nearest magnitude.** -/
theorem unique (h : NearestTo q m) (h' : NearestTo q m') : m = m' := by
  have hlt := h.not_lt h'
  have hgt := h'.not_lt h
  omega

/-- A number that is not greater has no greater nearest magnitude. -/
theorem monotone (h : NearestTo q m) (h' : NearestTo q' m') (hq : q ≤ q') : m ≤ m' := by
  rcases hq.eq_or_lt with rfl | hlt
  · exact (h.unique h').le
  · exact h.mono h' hlt

/-- **What lies between** two numbers with one nearest magnitude has the same. -/
theorem between {x : ℚ} {n : Nat} (h : NearestTo q m) (h' : NearestTo q' m) (hx : NearestTo x n)
    (hqx : q ≤ x) (hxq' : x ≤ q') : n = m :=
  le_antisymm (hx.monotone h' hxq') (h.monotone hx hqx)

end NearestTo

end Double

end HttpLoad
