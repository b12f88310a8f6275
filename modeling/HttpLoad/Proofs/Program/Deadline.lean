import HttpLoad.Proofs.Program.Plans

/-!
# Deadlines from seconds

Seconds are looked at before they are rounded: they have to be finite, above zero and below
`2 ^ 64`. The deadline is the whole number of nanoseconds nearest to them, a half going to the even
one. Up to half a nanosecond that is zero, which the check before the rounding lets pass, and the
clients of a run then have no time for their requests.

## Main definitions

* `Double.value`: the number that a finite double stands for
* `Deadline.Accepts seconds`, `Deadline.Rounds d nanos`: seconds that make a deadline, and the
  deadline that they make
* `RunPlan.Keeps plan seconds`: all clients of a plan keep the deadline of these seconds

## Main results

* `Deadline.ofSeconds_eq_ok_iff`, `Deadline.ofSeconds_eq_error_iff`: what becomes of any seconds
* `Deadline.Rounds.nanos_eq_zero_iff`: a deadline is zero up to half a nanosecond
* `deadlines_of_seconds`: deadlines, and the clients of both programs
* `zero_deadline_of_tenth`: accepted seconds above zero, and no time
-/

namespace HttpLoad

open Double

/-- The number that a finite double stands for. -/
def Double.value (x : Double) : ℚ := x.signedUnits / one

theorem Double.value_of_not_negative {x : Double} (h : x.negative = false) :
    x.value = x.units / one := by
  have hsigned : x.signedUnits = x.units := by
    simp only [signedUnits, h, Bool.false_eq_true, if_false]
  rw [value, hsigned, Int.cast_natCast]

/-- A double is above zero if it is neither a zero nor has a sign. -/
theorem Double.value_pos_iff {x : Double} :
    0 < x.value ↔ x.isZero = false ∧ x.negative = false := by
  have hunits : 0 < x.units ↔ x.isZero = false := by
    rw [Nat.pos_iff_ne_zero, Ne, units_eq_zero, Bool.not_eq_true]
  rw [value, div_pos_iff_of_pos_right cast_one_pos, Int.cast_pos, ← hunits, signedUnits]
  cases h : x.negative
  · simp only [Bool.false_eq_true, if_false, Int.natCast_pos, and_true]
  · simp only [if_true, Int.neg_pos, Bool.true_eq_false, and_false, iff_false, not_lt,
      Int.natCast_nonneg]

/-! ## Rounding to whole nanoseconds -/

/-- A quotient is off by at most a half once it is rounded, and by a half only from an even
number. -/
theorem roundHalfEven_off (num : Nat) {den : Nat} (hden : 0 < den) :
    |(roundHalfEven num den : ℚ) - num / den| ≤ 1 / 2 ∧
      (|(roundHalfEven num den : ℚ) - num / den| = 1 / 2 → roundHalfEven num den % 2 = 0) := by
  obtain ⟨hupper, hlower, heven⟩ := roundHalfEven_spec num hden
  generalize roundHalfEven num den = r at *
  have hpos : (0 : ℚ) < den := Nat.cast_pos.mpr hden
  obtain ⟨x, hx⟩ : ∃ x : ℚ, x = num / den := ⟨_, rfl⟩
  have hnum : (num : ℚ) = x * den := by rw [hx, div_mul_cancel₀ _ hpos.ne']
  rw [← hx]
  have hupper : 2 * x ≤ 2 * r + 1 := by
    have hcast : (2 * num : ℚ) ≤ (2 * r + 1) * den := by exact_mod_cast hupper
    rw [hnum, ← mul_assoc] at hcast
    exact le_of_mul_le_mul_right hcast hpos
  have hlower : 2 * r ≤ 2 * x + 1 := by
    have hcast : (2 * r * den : ℚ) ≤ 2 * num + den := by exact_mod_cast hlower
    rw [hnum, ← mul_assoc, ← add_one_mul] at hcast
    exact le_of_mul_le_mul_right hcast hpos
  refine ⟨abs_le.mpr ⟨by linarith, by linarith⟩, fun htie => heven ?_⟩
  rcases abs_cases ((r : ℚ) - x) with ⟨habs, -⟩ | ⟨habs, -⟩
  · right
    have hcast : (2 * r * den : ℚ) = 2 * num + den := by
      rw [hnum, ← mul_assoc, ← add_one_mul]
      congr 1
      linarith
    exact_mod_cast hcast
  · left
    have hcast : (2 * num : ℚ) = (2 * r + 1) * den := by
      rw [hnum, ← mul_assoc]
      congr 1
      linarith
    exact_mod_cast hcast

namespace Deadline

/-- **A deadline is nearest to a number of nanoseconds**: it is off by at most half of one, and by
half of one only if it is even. -/
structure Rounds (d : Deadline) (nanos : ℚ) : Prop where
  off_le : |(d.nanos : ℚ) - nanos| ≤ 1 / 2
  even_of_off : |(d.nanos : ℚ) - nanos| = 1 / 2 → d.nanos % 2 = 0

namespace Rounds

variable {d d' : Deadline} {nanos : ℚ}

/-- A deadline is not below another one that is as near. -/
theorem not_lt (h : d.Rounds nanos) (h' : d'.Rounds nanos) : ¬ d.nanos < d'.nanos := by
  intro hlt
  have hlt' : (d.nanos : ℚ) + 1 ≤ d'.nanos := by exact_mod_cast hlt
  have hoff := abs_le.mp h.off_le
  have hoff' := abs_le.mp h'.off_le
  -- the number is the middle of two even ones that follow each other
  have hmiddle : (d.nanos : ℚ) - nanos = -(1 / 2) := by linarith
  have hmiddle' : (d'.nanos : ℚ) - nanos = 1 / 2 := by linarith
  have heven := h.even_of_off (by rw [hmiddle, abs_neg, abs_of_pos one_half_pos])
  have heven' := h'.even_of_off (by rw [hmiddle', abs_of_pos one_half_pos])
  have hsucc : (d'.nanos : ℚ) = d.nanos + 1 := by linarith
  have hsucc : d'.nanos = d.nanos + 1 := by exact_mod_cast hsucc
  omega

/-- **There is one nearest deadline.** -/
theorem unique (h : d.Rounds nanos) (h' : d'.Rounds nanos) : d = d' := by
  obtain ⟨n⟩ := d
  obtain ⟨n'⟩ := d'
  have hlt : ¬ n < n' := h.not_lt h'
  have hgt : ¬ n' < n := h'.not_lt h
  rw [mk.injEq]
  omega

/-- **A deadline is zero** exactly if it is that of at most half a nanosecond. -/
theorem nanos_eq_zero_iff (h : d.Rounds nanos) : d.nanos = 0 ↔ nanos ≤ 1 / 2 := by
  have hoff := abs_le.mp h.off_le
  constructor
  · intro hzero
    rw [hzero, Nat.cast_zero] at hoff
    linarith
  · intro hle
    have hle_one : (d.nanos : ℚ) ≤ (1 : Nat) := by
      rw [Nat.cast_one]
      linarith
    have hle_one : d.nanos ≤ 1 := Nat.cast_le.mp hle_one
    rcases Nat.le_one_iff_eq_zero_or_eq_one.mp hle_one with hzero | hone
    · exact hzero
    · rw [hone, Nat.cast_one] at hoff
      have hhalf : (d.nanos : ℚ) - nanos = 1 / 2 := by
        rw [hone, Nat.cast_one]
        linarith
      have heven := h.even_of_off (by rw [hhalf, abs_of_pos one_half_pos])
      omega

end Rounds

/-! ## Which seconds are accepted -/

/-- **Seconds that make a deadline**: finite, above zero and below `2 ^ 64`. -/
structure Accepts (seconds : Double) : Prop where
  finite : seconds.isFinite = true
  pos : 0 < seconds.value
  lt : seconds.value < 2 ^ 64

/-- Finite seconds, in nanoseconds. -/
def exactNanos (seconds : Double) : ℚ := seconds.value * nanosPerSecond

variable {option : String} {seconds : Double}

/-- What seconds are rounded to. -/
def rounded (seconds : Double) : Deadline :=
  ⟨roundHalfEven (seconds.units * nanosPerSecond) one⟩

theorem nanos_rounded (seconds : Double) :
    (rounded seconds).nanos = roundHalfEven (seconds.units * nanosPerSecond) one := by
  rw [rounded]

theorem rounds_rounded (hneg : seconds.negative = false) :
    (rounded seconds).Rounds (exactNanos seconds) := by
  have hexact : exactNanos seconds = (seconds.units * nanosPerSecond : Nat) / one := by
    rw [exactNanos, value_of_not_negative hneg, Nat.cast_mul]
    ring
  obtain ⟨hoff, heven⟩ := roundHalfEven_off (seconds.units * nanosPerSecond) oneUnits_pos
  rw [← hexact, ← nanos_rounded] at hoff heven
  exact ⟨hoff, heven⟩

theorem ofSeconds_eq (option : String) (seconds : Double) : ofSeconds option seconds =
    if !seconds.isFinite || seconds.isZero || seconds.negative then
      .error (Refusal.notPositive option).error
    else if secondsMax * one ≤ seconds.units then .error (Refusal.tooLarge option).error
    else .ok (rounded seconds) := rfl

/-- Seconds are turned down first for what they are. -/
theorem ofSeconds_of_not_pos (h : ¬ (seconds.isFinite = true ∧ 0 < seconds.value)) :
    ofSeconds option seconds = .error (Refusal.notPositive option).error := by
  rw [ofSeconds_eq, if_pos]
  rw [value_pos_iff] at h
  cases hfinite : seconds.isFinite <;> cases hzero : seconds.isZero <;>
    cases hneg : seconds.negative <;> simp_all

/-- Seconds above zero are turned down from `2 ^ 64` on, and rounded below. -/
theorem ofSeconds_of_pos (hfinite : seconds.isFinite = true) (hpos : 0 < seconds.value) :
    ofSeconds option seconds =
      if 2 ^ 64 ≤ seconds.value then .error (Refusal.tooLarge option).error
      else .ok (rounded seconds) := by
  obtain ⟨hzero, hneg⟩ := value_pos_iff.mp hpos
  have hcast : (secondsMax : ℚ) = 2 ^ 64 := by
    rw [secondsMax, Nat.pow_eq, Nat.cast_pow, Nat.cast_ofNat]
  have hmax : secondsMax * one ≤ seconds.units ↔ 2 ^ 64 ≤ seconds.value := by
    rw [value_of_not_negative hneg, le_div_iff₀ cast_one_pos, ← hcast, ← Nat.cast_mul, Nat.cast_le]
  rw [ofSeconds_eq, if_neg (by simp [hfinite, hzero, hneg])]
  exact if_congr hmax rfl rfl

/-- **What is accepted as a deadline, and what becomes of it.** -/
theorem ofSeconds_eq_ok_iff {d : Deadline} :
    ofSeconds option seconds = .ok d ↔ Accepts seconds ∧ d.Rounds (exactNanos seconds) := by
  by_cases hpos : seconds.isFinite = true ∧ 0 < seconds.value
  · have hneg := (value_pos_iff.mp hpos.2).2
    rw [ofSeconds_of_pos hpos.1 hpos.2]
    split
    next hlarge => exact ⟨(nomatch ·), fun h => absurd h.1.lt (not_lt.mpr hlarge)⟩
    next hsmall =>
      rw [Except.ok.injEq]
      constructor
      · rintro rfl
        exact ⟨⟨hpos.1, hpos.2, not_le.mp hsmall⟩, rounds_rounded hneg⟩
      · rintro ⟨-, hrounds⟩
        exact (rounds_rounded hneg).unique hrounds
  · rw [ofSeconds_of_not_pos hpos]
    exact ⟨(nomatch ·), fun h => absurd ⟨h.1.finite, h.1.pos⟩ hpos⟩

/-- **What is not accepted as a deadline, and why.** -/
theorem ofSeconds_eq_error_iff {e : LoadError} :
    ofSeconds option seconds = .error e ↔
      (¬ (seconds.isFinite = true ∧ 0 < seconds.value) ∧ e = (Refusal.notPositive option).error) ∨
        (seconds.isFinite = true ∧ 2 ^ 64 ≤ seconds.value ∧
          e = (Refusal.tooLarge option).error) := by
  by_cases hpos : seconds.isFinite = true ∧ 0 < seconds.value
  · rw [ofSeconds_of_pos hpos.1 hpos.2]
    split
    next hlarge => simp [hpos, hlarge, eq_comm]
    next hsmall => simp [hpos, hsmall]
  · have hsmall : seconds.isFinite = true → ¬ 2 ^ 64 ≤ seconds.value := fun hfinite hlarge =>
      hpos ⟨hfinite, lt_of_lt_of_le (by norm_num) hlarge⟩
    rw [ofSeconds_of_not_pos hpos, Except.error.injEq]
    constructor
    · rintro rfl
      exact .inl ⟨hpos, rfl⟩
    · rintro (⟨-, rfl⟩ | ⟨hfinite, hlarge, -⟩)
      · rfl
      · exact absurd hlarge (hsmall hfinite)

end Deadline

/-! ## The clients of a run -/

/-- **All clients of a plan keep the deadline of these seconds**, which are accepted. So they have
no time at all exactly if the seconds are at most half a nanosecond. -/
structure RunPlan.Keeps (plan : RunPlan) (seconds : Double) : Prop where
  accepts : Deadline.Accepts seconds
  pool_ok : ∃ pool, ClientPool.make plan.workers plan.deadline = .ok pool ∧
    pool.clients.length = plan.workers ∧
    ∀ d ∈ pool.clients, d.Rounds (Deadline.exactNanos seconds) ∧
      (d.nanos = 0 ↔ Deadline.exactNanos seconds ≤ 1 / 2)

/-- A plan that has a worker and a deadline from seconds keeps them. -/
theorem RunPlan.keeps_of_ofSeconds {plan : RunPlan} {option : String} {seconds : Double}
    (hworkers : 0 < plan.workers) (h : Deadline.ofSeconds option seconds = .ok plan.deadline) :
    plan.Keeps seconds := by
  obtain ⟨haccepts, hrounds⟩ := Deadline.ofSeconds_eq_ok_iff.mp h
  refine ⟨haccepts, ⟨plan.workers, plan.deadline, hworkers⟩, dif_pos hworkers, ?_, ?_⟩
  · exact List.length_replicate
  · intro d hd
    obtain rfl := List.eq_of_mem_replicate hd
    exact ⟨hrounds, hrounds.nanos_eq_zero_iff⟩

theorem BenchArguments.keeps_of_plan {a : BenchArguments} {read : String → Except FileFault Bytes}
    {plan : RunPlan} (h : a.plan read = .ok plan) : plan.Keeps a.timeoutSeconds := by
  have hworkers := workers_pos_of_plan h
  simp only [BenchArguments.plan, bind_eq_ok_iff] at h
  obtain ⟨_, -, _, -, _, -, deadline, hdeadline, _, -, _, -, _, -, _, -, hplan⟩ := h
  obtain rfl := Except.ok.inj hplan
  exact RunPlan.keeps_of_ofSeconds hworkers hdeadline

/-- Checked settings have kept the seconds that were checked. -/
theorem PostArguments.timeoutSeconds_of_settings {a : PostArguments} {unixSeconds : Nat}
    {s : PostSettings} (h : a.settings unixSeconds = .ok s) :
    s.timeoutSeconds = a.timeoutSeconds := by
  simp only [settings, bind_eq_ok_iff] at h
  obtain ⟨_, -, _, -, _, -, ⟨_, _⟩, -, _, -, _, -, hs⟩ := h
  obtain rfl := Except.ok.inj hs
  rfl

theorem PostSettings.Checked.keeps {s : PostSettings} (h : s.Checked) (bodies : List Bytes) :
    ∃ plan, s.plan bodies = .ok plan ∧ plan.Keeps s.timeoutSeconds := by
  obtain ⟨plan, hplan, -, -, -, hworkers, -⟩ := h.plan_eq bodies
  refine ⟨plan, hplan, ?_⟩
  simp only [PostSettings.plan, bind_eq_ok_iff] at hplan
  obtain ⟨deadline, hdeadline, hplan⟩ := hplan
  obtain rfl := Except.ok.inj hplan
  exact RunPlan.keeps_of_ofSeconds hworkers hdeadline

/-- **What becomes of seconds**, given to either program. They make the nearest deadline if they are
finite, above zero and below `2 ^ 64`, and otherwise the option is named and said to be invalid.
Accepted ones may still be too few: the clients of a run have no time at all exactly if the seconds
of its option are at most half a nanosecond. -/
theorem deadlines_of_seconds (option : String) (seconds : Double) (a : BenchArguments)
    (read : String → Except FileFault Bytes) (b : PostArguments) (unixSeconds : Nat) :
    (∀ d, Deadline.ofSeconds option seconds = .ok d ↔
      Deadline.Accepts seconds ∧ d.Rounds (Deadline.exactNanos seconds)) ∧
    (∀ d, Deadline.ofSeconds option seconds = .ok d →
      (d.nanos = 0 ↔ Deadline.exactNanos seconds ≤ 1 / 2)) ∧
    (∀ e, Deadline.ofSeconds option seconds = .error e →
      e = .invalidArgument (option ++ " must be greater than 0") ∨
        e = .invalidArgument (option ++ " is too large")) ∧
    (∀ plan, a.plan read = .ok plan → plan.Keeps a.timeoutSeconds) ∧
    (∀ s, b.settings unixSeconds = .ok s → ∀ bodies, ∃ plan,
      s.plan bodies = .ok plan ∧ plan.Keeps b.timeoutSeconds) := by
  refine ⟨fun d => Deadline.ofSeconds_eq_ok_iff, fun d h => ?_, fun e h => ?_, fun plan h => ?_,
    fun s h bodies => ?_⟩
  · exact (Deadline.ofSeconds_eq_ok_iff.mp h).2.nanos_eq_zero_iff
  · exact (Deadline.ofSeconds_eq_error_iff.mp h).imp And.right fun h => h.2.2
  · exact BenchArguments.keeps_of_plan h
  · rw [← PostArguments.timeoutSeconds_of_settings h]
    exact (PostArguments.checked_of_settings h).keeps bodies

/-- A tenth of a nanosecond. -/
def tenthOfNano : Double := Double.ofDecimal false 1 (-10)

theorem deadlines_of_seconds_tenth :
    Deadline.ofSeconds "--timeout-sec" tenthOfNano = .ok ⟨0⟩ ∧
      Deadline.exactNanos tenthOfNano ≤ 1 / 2 ∧
      ∃ plan, { BenchArguments.addressOnly with timeoutSeconds := tenthOfNano }.plan
          BenchArguments.nowhere.files.read = .ok plan ∧ plan.Keeps tenthOfNano := by
  have hdeadline : Deadline.ofSeconds "--timeout-sec" tenthOfNano = .ok ⟨0⟩ :=
    toOption_eq_some_iff.mp (by decide +kernel)
  obtain ⟨plan, hplan⟩ : ∃ plan, { BenchArguments.addressOnly with timeoutSeconds := tenthOfNano
      }.plan BenchArguments.nowhere.files.read = .ok plan := by
    have hsome : ({ BenchArguments.addressOnly with timeoutSeconds := tenthOfNano }.plan
        BenchArguments.nowhere.files.read).toOption.isSome = true := by decide +kernel
    obtain ⟨plan, hplan⟩ := Option.isSome_iff_exists.mp hsome
    exact ⟨plan, toOption_eq_some_iff.mp hplan⟩
  obtain ⟨-, hzero, -, hkeeps, -⟩ := deadlines_of_seconds "--timeout-sec" tenthOfNano
    { BenchArguments.addressOnly with timeoutSeconds := tenthOfNano }
    BenchArguments.nowhere.files.read {} 0
  exact ⟨hdeadline, (hzero _ hdeadline).mp rfl, plan, hplan, hkeeps plan hplan⟩

/-- **A tenth of a nanosecond is accepted and is no time**: neither is every deadline above zero,
nor has every run that is started time for its requests. -/
theorem zero_deadline_of_tenth :
    (¬ ∀ (option : String) (seconds : Double) (d : Deadline),
        Deadline.ofSeconds option seconds = .ok d → 0 < d.nanos) ∧
      (({ BenchArguments.addressOnly with timeoutSeconds := tenthOfNano }.plan
        BenchArguments.nowhere.files.read).toOption.map RunPlan.deadline) = some ⟨0⟩ := by
  refine ⟨fun hpos => ?_, by decide +kernel⟩
  have hdeadline : Deadline.ofSeconds "--timeout-sec" tenthOfNano = .ok ⟨0⟩ :=
    toOption_eq_some_iff.mp (by decide +kernel)
  exact absurd (hpos _ _ _ hdeadline) (by decide)

end HttpLoad
