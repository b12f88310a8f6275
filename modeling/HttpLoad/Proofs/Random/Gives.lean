import Mathlib.Algebra.Group.Nat.Defs
import HttpLoad.Proofs.Number.Order
import HttpLoad.Random.Draw

/-!
# What draws give

A draw is judged by the values that it gives, from whatever state of the source it starts, and by
the faults that excuse it for giving none. A draw of a whole number is only excused for words that
are rejected without end, which is a draw that never returns: it does not complain about a range
that is not empty.

## Main definitions

* `Draw.Gives excused draw P`: the draw gives values with the property `P`, or an excused fault
* `Draw.FailsAs draw other`: the draw gives no value only where another one does not
* `Draw.Spread low high x`: `x` is a fraction, spread over the range from `low` to `high`
* `Draw.Keeps low high`: the greatest fraction, spread over the range, stays within it

## Main results

* `Draw.Gives.bind`, `Draw.FailsAs.bind`: a draw after another one
* `Draw.gives_below`, `Draw.gives_natIn`: whole numbers are of their range
* `Draw.gives_doubleIn`, `Draw.gives_oneOf`: doubles are spread fractions, and choices are offered
* `Draw.Spread.within`: every fraction, spread over such a range, lies between its bounds
-/

namespace HttpLoad

namespace Draw

variable {σ α β : Type} {excused : DrawFault → Prop}

/-- **What a draw gives**: from every state a value with the property `P` and a state, or a fault
that is excused. -/
def Gives (excused : DrawFault → Prop) (draw : Draw σ α) (P : α → Prop) : Prop :=
  ∀ s, (∃ fault, draw s = .error fault ∧ excused fault) ∨ ∃ a s', draw s = .ok (a, s') ∧ P a

theorem gives_pure {P : α → Prop} {a : α} (ha : P a) : Gives excused (pure a : Draw σ α) P :=
  fun s => .inr ⟨a, s, rfl, ha⟩

theorem gives_throw {P : α → Prop} {fault : DrawFault} (hfault : excused fault) :
    Gives excused (throw fault : Draw σ α) P :=
  fun _ => .inl ⟨fault, rfl, hfault⟩

theorem Gives.mono {draw : Draw σ α} {P Q : α → Prop} (h : Gives excused draw P)
    (hmono : ∀ a, P a → Q a) : Gives excused draw Q := by
  intro s
  refine (h s).imp_right ?_
  rintro ⟨a, s', hs, ha⟩
  exact ⟨a, s', hs, hmono a ha⟩

/-- More may be excused. -/
theorem Gives.excuse {more : DrawFault → Prop} {draw : Draw σ α} {P : α → Prop}
    (h : Gives excused draw P) (hmore : ∀ fault, excused fault → more fault) :
    Gives more draw P := by
  intro s
  refine (h s).imp_left ?_
  rintro ⟨fault, hs, hfault⟩
  exact ⟨fault, hs, hmore fault hfault⟩

/-- What comes of a draw after another one comes of the second, in the state after the first. -/
theorem bind_apply (draw : Draw σ α) (next : α → Draw σ β) (s : σ) :
    (draw >>= next) s = draw s >>= fun result => next result.1 result.2 := rfl

/-- **A draw after another one** gives what it gives for the values of the first. -/
theorem Gives.bind {draw : Draw σ α} {next : α → Draw σ β} {P : α → Prop} {Q : β → Prop}
    (h : Gives excused draw P) (hnext : ∀ a, P a → Gives excused (next a) Q) :
    Gives excused (draw >>= next) Q := by
  intro s
  rw [bind_apply]
  rcases h s with ⟨fault, hs, hfault⟩ | ⟨a, s', hs, ha⟩
  · exact .inl ⟨fault, by rw [hs]; rfl, hfault⟩
  · rw [hs]
    exact hnext a ha s'

/-! ## Draws that fail as another one -/

/-- **A draw fails as another one does**: whenever it gives no value, the other one gives none from
some state, for the same reason. -/
def FailsAs {γ : Type} (draw : Draw σ α) (other : Draw σ γ) : Prop :=
  ∀ s fault, draw s = .error fault → ∃ s', other s' = .error fault

section

variable {γ : Type} {other : Draw σ γ}

theorem failsAs_self (draw : Draw σ α) : FailsAs draw draw := fun s _ h => ⟨s, h⟩

theorem failsAs_pure (a : α) : FailsAs (pure a) other := by
  intro s fault h
  cases h

/-- **Draws in a row fail as another one**, if each of them does. -/
theorem FailsAs.bind {draw : Draw σ α} {next : α → Draw σ β} (h : FailsAs draw other)
    (hnext : ∀ a, FailsAs (next a) other) : FailsAs (draw >>= next) other := by
  intro s fault hfault
  rw [bind_apply] at hfault
  cases hdraw : draw s with
  | error first =>
    rw [hdraw] at hfault
    obtain rfl : first = fault := Except.error.inj hfault
    exact h s first hdraw
  | ok result =>
    rw [hdraw] at hfault
    exact hnext result.1 result.2 fault hfault

end

/-! ## Draws from a source -/

variable (source : WordSource σ)

theorem gives_word : Gives excused (word source) (· < 2 ^ 32) :=
  fun s => .inr ⟨_, _, rfl, (source.next s).1.toNat_lt⟩

theorem gives_doubleWord : Gives excused (doubleWord source) (· < 2 ^ 64) := by
  refine (gives_word source).bind fun low hlow => ?_
  refine (gives_word source).bind fun high hhigh => ?_
  refine gives_pure ?_
  show high * 2 ^ 32 + low < 2 ^ 64
  omega

section Rejection

variable (hrejected : excused .tooManyRejections)

include hrejected

/-- **A number below a range**: the high half of a product with the range is below it. -/
theorem gives_below {draw : Draw σ Nat} {bits range : Nat}
    (hdraw : Gives excused draw (· < 2 ^ bits)) (hrange : 0 < range) (attempts : Nat) :
    Gives excused (below draw bits range attempts) (· < range) := by
  induction attempts with
  | zero => exact gives_throw hrejected
  | succ attempts ih =>
    refine hdraw.bind fun v hv => ?_
    split
    · refine gives_pure (Nat.div_lt_of_lt_mul ?_)
      exact Nat.mul_lt_mul_of_pos_right hv hrange
    · exact ih

/-- **A whole number of a range**, which does not complain about the range. -/
theorem gives_natIn {low high : Nat} (h : low ≤ high) :
    Gives excused (natIn source low high) (fun n => low ≤ n ∧ n ≤ high) := by
  have hbelow := gives_below hrejected (gives_doubleWord source) (Nat.succ_pos (high - low))
    attemptsMax
  rw [natIn, if_neg (Nat.not_lt.mpr h)]
  exact hbelow.bind fun i hi => gives_pure (by omega)

/-- **One of several values** is one of them. -/
theorem gives_oneOf (first : α) (others : List α) :
    Gives excused (oneOf source first others) (· ∈ first :: others) := by
  have hbelow := gives_below hrejected (gives_word source) (Nat.succ_pos others.length) attemptsMax
  refine hbelow.bind fun i hi => ?_
  have hlt : i < (first :: others).length := hi
  refine gives_pure ?_
  rw [List.getElem?_eq_getElem hlt]
  exact List.getElem_mem hlt

end Rejection

/-- **A fraction spread over a range**: a multiple of `2 ^ -52` below one, scaled and shifted. -/
def Spread (low high x : Double) : Prop :=
  ∃ n < 2 ^ 52, x = Double.ofRatio false (n * Double.one) (Nat.pow 2 52) * scaleOf low high + low

/-- **A double of a range** is a fraction spread over it. -/
theorem gives_doubleIn (low high : Double) :
    Gives excused (doubleIn source low high) (Spread low high) := by
  have hfraction : Gives excused (fraction source) fun f =>
      ∃ n < 2 ^ 52, f = Double.ofRatio false (n * Double.one) (Nat.pow 2 52) := by
    refine (gives_doubleWord source).bind fun v hv => ?_
    have hn : v / Nat.pow 2 12 < 2 ^ 52 := Nat.div_lt_of_lt_mul hv
    exact gives_pure ⟨v / Nat.pow 2 12, hn, rfl⟩
  refine hfraction.bind ?_
  rintro _ ⟨n, hn, rfl⟩
  exact gives_pure ⟨n, hn, rfl⟩

/-- A double of a range is always given: it takes two words, whatever they are. -/
theorem failsAs_doubleIn {γ : Type} (low high : Double) (other : Draw σ γ) :
    FailsAs (doubleIn source low high) other := by
  intro s fault h
  cases h

end Draw

/-!
## Doubles of a range

A double of a range is a fraction, scaled and shifted. The scale is lowered until the greatest
fraction stays within the range. Products and sums are in order if their terms are, so what holds of
the greatest fraction holds of all of them.
-/

namespace Draw

open Double (NoMore)

variable {low high x : Double}

/-- **A range keeps its fractions**: the scale is an amount, and the greatest fraction, scaled and
shifted, is no more than the upper bound. -/
structure Keeps (low high : Double) : Prop where
  low_amount : low.Amount
  scale_amount : (scaleOf low high).Amount
  scaled_amount : (scaleOf low high * fractionMax).Amount
  greatest : (scaleOf low high * fractionMax + low).NoMore high

instance : Decidable (Keeps low high) :=
  decidable_of_iff (low.Amount ∧ (scaleOf low high).Amount ∧
      (scaleOf low high * fractionMax).Amount ∧
      (scaleOf low high * fractionMax + low).NoMore high)
    ⟨fun h => ⟨h.1, h.2.1, h.2.2.1, h.2.2.2⟩, fun h => ⟨h.1, h.2, h.3, h.4⟩⟩

/-- No fraction is more than the greatest one. -/
theorem noMore_fractionMax {n : Nat} (hn : n < 2 ^ 52) :
    (Double.ofRatio false (n * Double.one) (Nat.pow 2 52)).NoMore fractionMax := by
  have hle : n ≤ Nat.pow 2 52 - 1 := Nat.le_sub_one_of_lt hn
  have hfinite : fractionMax.isFinite = true := by decide +kernel
  rw [fractionMax] at hfinite ⊢
  exact Double.noMore_ofRatio (by decide) (Nat.mul_le_mul_right Double.one hle) hfinite

/-- **A fraction spread over a range lies between its bounds**, if the greatest one does. -/
theorem Spread.within (h : Spread low high x) (hkeeps : Keeps low high) :
    low.NoMore x ∧ x.NoMore high := by
  obtain ⟨n, hn, rfl⟩ := h
  have hfraction := noMore_fractionMax hn
  rw [Double.mul_comm_of_isFinite hfraction.left.finite hkeeps.scale_amount.finite]
  have hscaled := hkeeps.scale_amount.noMore_self.mul hfraction hkeeps.scaled_amount.finite
  have hsum := hscaled.add hkeeps.low_amount.noMore_self hkeeps.greatest.left.finite
  constructor
  · exact hscaled.left.noMore_add hkeeps.low_amount hsum.left.finite
  · exact hsum.trans hkeeps.greatest

end Draw

end HttpLoad
