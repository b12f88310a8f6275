import HttpLoad.Proofs.Bill.Batch

/-!
# Amounts of generated bills

Quantities and unit amounts are drawn from their ranges and rounded to two places. Rounding keeps
the order and leaves the bounds of the ranges alone, so what is rounded stays within them. A tax
stands between the least and the greatest share of its subtotal in the same way, since a product is
in order with its factors.

All of that asks for results that are finite, which is computed at the upper bounds. A subtotal has
as many terms as there are lines, but there is a sum to which no line adds anything, so no subtotal
exceeds it.

## Main definitions

* `Double.HundredthsIn low high x`: `x` lies between two bounds, and is kept by rounding
* `BillLine.InRange`, `Bill.InRange`: what the amounts of a generated bill are like
* `RangesKept`: what is computed at the bounds of the ranges

## Main results

* `Bill.subtotal_noMore`: subtotals are bounded, however many lines there are
* `Bill.gives_draw_inRange`: drawn bills have amounts of their ranges
-/

namespace HttpLoad

open Double (NoMore)

/-- **Hundredths of a range**: no less than `low`, no more than `high`, and the same after another
rounding to two places. -/
structure Double.HundredthsIn (low high x : Double) : Prop where
  ge : low.atMost x = true
  le : x.atMost high = true
  kept : twoPlaces x = x

/-- **A line in range**: one of the concepts, and a quantity and a unit amount of their ranges. -/
structure BillLine.InRange (line : BillLine) : Prop where
  concept_mem : line.concept ∈ concepts
  quantity : Double.HundredthsIn quantityMin quantityMax line.quantity
  unitAmount : Double.HundredthsIn amountMin amountMax line.unitAmount

/-- **A bill in range**: its lines are, and its tax lies between the least and the greatest share of
their subtotal, both rounded to two places. -/
structure Bill.InRange (bill : Bill) : Prop where
  lines : ∀ line ∈ bill.lines, line.InRange
  tax_ge : (twoPlaces (subtotal bill.lines * taxMin)).atMost bill.tax = true
  tax_le : bill.tax.atMost (twoPlaces (subtotal bill.lines * taxMax)) = true

/-! ## Quantities and unit amounts -/

section

variable {low high x : Double}

/-- **A range of hundredths** keeps its fractions, and rounding keeps its bounds, of which the upper
one is not too great to be rounded. -/
structure HundredthsRange (low high : Double) : Prop where
  keeps : Draw.Keeps low high
  low_kept : twoPlaces low = low
  high_kept : twoPlaces high = high
  product_finite : (high * hundred).isFinite = true
  product_le : (high * hundred).units ≤ 10 ^ 15 * Double.one

instance : Decidable (HundredthsRange low high) :=
  decidable_of_iff (Draw.Keeps low high ∧ twoPlaces low = low ∧ twoPlaces high = high ∧
      (high * hundred).isFinite = true ∧ (high * hundred).units ≤ 10 ^ 15 * Double.one)
    ⟨fun h => ⟨h.1, h.2.1, h.2.2.1, h.2.2.2.1, h.2.2.2.2⟩, fun h => ⟨h.1, h.2, h.3, h.4, h.5⟩⟩

/-- **Rounding stays within a range of hundredths**: it keeps the order, and the bounds. -/
theorem HundredthsRange.within (h : HundredthsRange low high) (hx : Draw.Spread low high x) :
    low.NoMore (twoPlaces x) ∧ (twoPlaces x).NoMore high := by
  obtain ⟨hlow, hhigh⟩ := hx.within h.keeps
  have hfinite : (twoPlaces high).isFinite = true := by
    rw [h.high_kept]
    exact hhigh.right.finite
  have hupper := hhigh.twoPlaces hfinite
  have hlower := hlow.twoPlaces hupper.left.finite
  rw [h.high_kept] at hupper
  rw [h.low_kept] at hlower
  exact ⟨hlower, hupper⟩

/-- What is no more than the upper bound is rounded to hundredths, which stay what they are. -/
theorem HundredthsRange.twoPlaces_twoPlaces (h : HundredthsRange low high) (hx : x.NoMore high) :
    twoPlaces (twoPlaces x) = twoPlaces x := by
  have hproduct := hx.mul Double.amount_hundred.noMore_self h.product_finite
  have hle := hproduct.units_le.trans h.product_le
  exact (Double.isHundredths_twoPlaces hproduct.left.finite hle).twoPlaces_eq

/-- **A rounded fraction of a range of hundredths** is hundredths of that range. -/
theorem HundredthsRange.hundredthsIn (h : HundredthsRange low high) (hx : Draw.Spread low high x) :
    Double.HundredthsIn low high (twoPlaces x) where
  ge := (h.within hx).1.atMost
  le := (h.within hx).2.atMost
  kept := h.twoPlaces_twoPlaces (hx.within h.keeps).2

end

/-- The greatest product of a line: that of the greatest quantity and the greatest amount. -/
def lineMax : Double := twoPlaces (quantityMax * amountMax)

/-- A sum so great that a line adds nothing to it: the next greater double is `2 ^ 14` away. -/
def subtotalMax : Double := Double.ofNat (2 ^ 66)

/-- **What is computed at the bounds of the ranges**: they keep what is drawn from them, the
greatest results are finite, and the greatest line adds nothing to the greatest subtotal. -/
structure RangesKept : Prop where
  quantity : HundredthsRange quantityMin quantityMax
  amount : HundredthsRange amountMin amountMax
  tax : Draw.Keeps taxMin taxMax
  product_finite : (quantityMax * amountMax).isFinite = true
  lineMax_finite : lineMax.isFinite = true
  subtotalMax_amount : subtotalMax.Amount
  subtotalMax_add : subtotalMax + lineMax = subtotalMax
  share_finite : (subtotalMax * taxMax).isFinite = true
  taxMax_finite : (twoPlaces (subtotalMax * taxMax)).isFinite = true

section

variable (hkept : RangesKept)

include hkept

theorem BillLine.Drawn.inRange {line : BillLine} (h : line.Drawn) : line.InRange where
  concept_mem := h.concept_mem
  quantity := by
    obtain ⟨x, hx, heq⟩ := h.quantity_eq
    rw [heq]
    exact hkept.quantity.hundredthsIn hx
  unitAmount := by
    obtain ⟨x, hx, heq⟩ := h.unitAmount_eq
    rw [heq]
    exact hkept.amount.hundredthsIn hx

/-! ## Subtotals -/

/-- **No line is more than the greatest one.** -/
theorem BillLine.Drawn.total_noMore {line : BillLine} (h : line.Drawn) :
    line.total.NoMore lineMax := by
  obtain ⟨x, hx, hquantity⟩ := h.quantity_eq
  obtain ⟨y, hy, hamount⟩ := h.unitAmount_eq
  rw [BillLine.total, hquantity, hamount]
  have hproduct := (hkept.quantity.within hx).2.mul (hkept.amount.within hy).2
    hkept.product_finite
  exact hproduct.twoPlaces hkept.lineMax_finite

end

namespace Bill

section

variable (hkept : RangesKept)

include hkept

/-- **A subtotal is bounded, however many lines there are**: a sum that is no more than the bound
stays so with every line, by induction on the lines. -/
theorem subtotal_noMore {lines : List BillLine} (h : ∀ line ∈ lines, line.Drawn) :
    (subtotal lines).NoMore subtotalMax := by
  suffices hfrom : ∀ sum : Double, sum.NoMore subtotalMax →
      (lines.foldl (fun sum line => sum + line.total) sum).NoMore subtotalMax by
    exact hfrom Double.zero ⟨Double.amount_zero, hkept.subtotalMax_amount, Nat.zero_le _⟩
  induction lines with
  | nil => exact fun sum hsum => hsum
  | cons line lines ih =>
    intro sum hsum
    obtain ⟨hline, hlines⟩ := List.forall_mem_cons.mp h
    refine ih hlines (sum + line.total) ?_
    have hfinite : (subtotalMax + lineMax).isFinite = true := by
      rw [hkept.subtotalMax_add]
      exact hkept.subtotalMax_amount.finite
    have hstep := hsum.add (hline.total_noMore hkept) hfinite
    rwa [hkept.subtotalMax_add] at hstep

/-! ## Taxes -/

/-- **A share of a subtotal lies between its least and its greatest share**, all rounded to two
places. -/
theorem share_within {sum share : Double} (hsum : sum.NoMore subtotalMax)
    (hshare : Draw.Spread taxMin taxMax share) :
    (twoPlaces (sum * taxMin)).NoMore (twoPlaces (sum * share)) ∧
      (twoPlaces (sum * share)).NoMore (twoPlaces (sum * taxMax)) := by
  obtain ⟨hleast, hgreatest⟩ := hshare.within hkept.tax
  have hself := hsum.left.noMore_self
  have hmost := hsum.mul hgreatest.right.noMore_self hkept.share_finite
  have hupper := hself.mul hgreatest hmost.left.finite
  have hlower := hself.mul hleast hupper.left.finite
  have hfinite := (hmost.twoPlaces hkept.taxMax_finite).left.finite
  have hrounded := hupper.twoPlaces hfinite
  exact ⟨hlower.twoPlaces hrounded.left.finite, hrounded⟩

theorem Drawn.inRange {marker : String} {issuedAt : Date} {index lineCount : Nat} {bill : Bill}
    (h : bill.Drawn marker issuedAt index lineCount) : bill.InRange := by
  obtain ⟨share, hshare, htax⟩ := h.tax_eq
  obtain ⟨hleast, hgreatest⟩ := share_within hkept (subtotal_noMore hkept h.lines_drawn) hshare
  rw [← htax] at hleast hgreatest
  exact
    { lines := fun line hline => (h.lines_drawn line hline).inRange hkept
      tax_ge := hleast.atMost
      tax_le := hgreatest.atMost }

end

theorem rangesKept : RangesKept where
  quantity := by decide +kernel
  amount := by decide +kernel
  tax := by decide +kernel
  product_finite := by decide +kernel
  lineMax_finite := by decide +kernel
  subtotalMax_amount := by decide +kernel
  subtotalMax_add := by decide +kernel
  share_finite := by decide +kernel
  taxMax_finite := by decide +kernel

/-! ## Drawn bills -/

section

variable {σ : Type} (source : WordSource σ)

/-- The draw of a concept, the only one of a bill that may give no value. -/
def drawConcept : Draw σ String := Draw.oneOf source firstConcept otherConcepts

theorem failsAs_drawLine : Draw.FailsAs (drawLine source) (drawConcept source) := by
  refine (Draw.failsAs_doubleIn source quantityMin quantityMax _).bind fun quantity => ?_
  refine (Draw.failsAs_doubleIn source amountMin amountMax _).bind fun amount => ?_
  refine (Draw.failsAs_self (drawConcept source)).bind fun concept => ?_
  exact Draw.failsAs_pure _

theorem failsAs_drawLines (n : Nat) : Draw.FailsAs (drawLines source n) (drawConcept source) := by
  induction n with
  | zero => exact Draw.failsAs_pure _
  | succ n ih =>
    refine (failsAs_drawLine source).bind fun line => ?_
    exact ih.bind fun lines => Draw.failsAs_pure _

/-- **A bill for whose lines there is room is drawn, or a concept is not.** -/
theorem failsAs_draw (marker : String) (issuedAt : Date) (index : Nat) {lineCount : Nat}
    (hroom : lineCount ≤ linesMax) :
    Draw.FailsAs (draw source marker index lineCount issuedAt) (drawConcept source) := by
  have hreserve : (reserve lineCount : Draw σ Unit) = pure () := if_neg (Nat.not_lt.mpr hroom)
  rw [draw, hreserve]
  refine (Draw.failsAs_pure ()).bind fun _ => ?_
  refine (failsAs_drawLines source lineCount).bind fun lines => ?_
  refine (Draw.failsAs_doubleIn source taxMin taxMax _).bind fun share => ?_
  exact Draw.failsAs_pure _

/-- **Amounts of drawn bills stay in range**, from every state of every source and for every number
of lines: each line is in range, and the tax lies between the rounded shares of the subtotal. A bill
is not drawn from any state if it is to have more lines than there can be room for. Otherwise only a
draw of a concept that never returns can keep it from being drawn. -/
theorem gives_draw_inRange (marker : String) (issuedAt : Date) (index lineCount : Nat) :
    (Draw.Gives (Undrawn lineCount) (draw source marker index lineCount issuedAt) fun bill =>
      bill.lines.length = lineCount ∧ bill.InRange) ∧
    (Draw.FailsAs (draw source marker index lineCount issuedAt) (drawConcept source) ∨
      linesMax < lineCount ∧
        ∀ s, draw source marker index lineCount issuedAt s = .error .capacityOverflow) := by
  constructor
  · refine (gives_draw source marker issuedAt index lineCount).mono fun bill hbill => ?_
    exact ⟨hbill.length_lines, hbill.inRange rangesKept⟩
  · rcases Nat.lt_or_ge linesMax lineCount with hlt | hroom
    · exact .inr ⟨hlt, draw_of_linesMax_lt source hlt marker issuedAt index⟩
    · exact .inl (failsAs_draw source marker issuedAt index hroom)

end

end Bill

end HttpLoad
