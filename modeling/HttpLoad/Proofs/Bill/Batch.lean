import Mathlib.Data.List.Nodup
import HttpLoad.Proofs.Cleanup.Language
import HttpLoad.Proofs.Random.Gives

/-!
# What generated bills are like

Each draw of a bill follows the draws of its parts, and a batch follows the draws of its bills. The
bill at position `i` of a batch is the one with index `i + 1`, and the number of lines at position
`i` is the number of its lines.

There are two faults for which bills may not be drawn. One stands for a draw that never returns, the
other one is raised for a bill with more lines than room can be reserved for.

## Main definitions

* `Bill.Undrawn maxLines fault`: a fault for which bills with so many lines may not be drawn
* `BillLine.Drawn`, `Bill.Drawn`: what a drawn line and a drawn bill are like
* `Bill.Listed`: what a list of drawn bills with their numbers of lines is like
* `Batch.Drawn`: what a generated batch is like
* `Batch.numbers`: the numbers of the bills of a batch, in their order

## Main results

* `Bill.gives_draw`: bills are drawn as `Bill.Drawn` says
* `Bill.draw_of_linesMax_lt`: a bill with too many lines is not drawn
* `Bill.gives_drawFrom`: so is each bill of a list, with its index
* `Batch.generate_eq`: batches are generated as `Batch.Drawn` says
* `Batch.getElem?_bodies`: the body at a position is the text of the bill at that position
* `Bill.numberFor_inj`: a number has one marker and one index
* `Batch.Drawn.numbers_eq`: the numbers of a generated batch
* `Batch.generate_shaped`: what a generated batch is like, and that no number is given twice
* `Batch.generate_crowded`: a bill with more lines than there can be room for
-/

namespace HttpLoad

section

variable {σ : Type} (source : WordSource σ)

/-- **A drawn line**: one of the concepts, and two spread fractions in hundredths. -/
structure BillLine.Drawn (line : BillLine) : Prop where
  concept_mem : line.concept ∈ concepts
  quantity_eq : ∃ x, Draw.Spread quantityMin quantityMax x ∧ line.quantity = twoPlaces x
  unitAmount_eq : ∃ x, Draw.Spread amountMin amountMax x ∧ line.unitAmount = twoPlaces x

namespace Bill

/-- **Why bills with at most `maxLines` lines may not be drawn**: some draw never returns, or there
may be no room for the lines. -/
inductive Undrawn (maxLines : Nat) : DrawFault → Prop
  | rejected : Undrawn maxLines .tooManyRejections
  | crowded (h : linesMax < maxLines) : Undrawn maxLines .capacityOverflow

theorem Undrawn.mono {lineCount maxLines : Nat} {fault : DrawFault} (h : Undrawn lineCount fault)
    (hle : lineCount ≤ maxLines) : Undrawn maxLines fault := by
  cases h with
  | rejected => exact .rejected
  | crowded hlt => exact .crowded (Nat.lt_of_lt_of_le hlt hle)

/-- **A drawn bill** has the names of its index and as many lines as it was to have, and a drawn
share of their subtotal is its tax. -/
structure Drawn (marker : String) (issuedAt : Date) (index lineCount : Nat) (bill : Bill) :
    Prop where
  billNumber_eq : bill.billNumber = numberFor marker index
  issuedAt_eq : bill.issuedAt = issuedAt
  customerName_eq : bill.customerName = customerFor marker index
  currency_eq : bill.currency = billCurrency
  length_lines : bill.lines.length = lineCount
  lines_drawn : ∀ line ∈ bill.lines, line.Drawn
  tax_eq : ∃ share, Draw.Spread taxMin taxMax share ∧
    bill.tax = twoPlaces (subtotal bill.lines * share)

theorem gives_reserve (lineCount : Nat) :
    Draw.Gives (Undrawn lineCount) (reserve lineCount : Draw σ Unit) fun _ => True := by
  rw [reserve]
  split
  next hlt => exact Draw.gives_throw (.crowded hlt)
  next => exact Draw.gives_pure trivial

theorem gives_drawLine (maxLines : Nat) :
    Draw.Gives (Undrawn maxLines) (drawLine source) BillLine.Drawn := by
  refine (Draw.gives_doubleIn source quantityMin quantityMax).bind fun quantity hquantity => ?_
  refine (Draw.gives_doubleIn source amountMin amountMax).bind fun amount hamount => ?_
  refine (Draw.gives_oneOf source .rejected firstConcept otherConcepts).bind
    fun concept hconcept => ?_
  exact Draw.gives_pure ⟨hconcept, ⟨quantity, hquantity, rfl⟩, ⟨amount, hamount, rfl⟩⟩

theorem gives_drawLines (maxLines n : Nat) :
    Draw.Gives (Undrawn maxLines) (drawLines source n) fun lines =>
      lines.length = n ∧ ∀ line ∈ lines, line.Drawn := by
  induction n with
  | zero => exact Draw.gives_pure ⟨rfl, by simp⟩
  | succ n ih =>
    refine (gives_drawLine source maxLines).bind fun line hline => ?_
    refine ih.bind fun lines hlines => ?_
    exact Draw.gives_pure ⟨by simp [hlines.1], List.forall_mem_cons.mpr ⟨hline, hlines.2⟩⟩

/-- **What the draw of a bill gives.** -/
theorem gives_draw (marker : String) (issuedAt : Date) (index lineCount : Nat) :
    Draw.Gives (Undrawn lineCount) (draw source marker index lineCount issuedAt)
      (Drawn marker issuedAt index lineCount) := by
  refine (gives_reserve lineCount).bind fun _ _ => ?_
  refine (gives_drawLines source lineCount lineCount).bind fun lines hlines => ?_
  refine (Draw.gives_doubleIn source taxMin taxMax).bind fun share hshare => ?_
  exact Draw.gives_pure
    { billNumber_eq := rfl
      issuedAt_eq := rfl
      customerName_eq := rfl
      currency_eq := rfl
      length_lines := hlines.1
      lines_drawn := hlines.2
      tax_eq := ⟨share, hshare, rfl⟩ }

/-- **A bill with too many lines is not drawn**: no word is taken from the source. -/
theorem draw_of_linesMax_lt {lineCount : Nat} (h : linesMax < lineCount) (marker : String)
    (issuedAt : Date) (index : Nat) (s : σ) :
    draw source marker index lineCount issuedAt s = .error .capacityOverflow := by
  have hreserve : reserve lineCount s = .error .capacityOverflow := by
    rw [reserve, if_pos h]
    rfl
  rw [draw, Draw.bind_apply, hreserve]
  rfl

/-- **A list of drawn bills**, each with its number of lines: the bill at position `i` has the index
`first + i`. -/
structure Listed (marker : String) (issuedAt : Date) (minLines maxLines count first : Nat)
    (sized : List (Nat × Bill)) : Prop where
  length_eq : sized.length = count
  bound : ∀ pair ∈ sized, minLines ≤ pair.1 ∧ pair.1 ≤ maxLines
  drawn : ∀ i (pair : Nat × Bill), sized[i]? = some pair →
    pair.2.Drawn marker issuedAt (first + i) pair.1

variable {marker : String} {issuedAt : Date} {minLines maxLines : Nat}

theorem listed_nil (first : Nat) : Listed marker issuedAt minLines maxLines 0 first [] :=
  ⟨rfl, by simp, by simp⟩

theorem Listed.cons {count first : Nat} {pair : Nat × Bill} {sized : List (Nat × Bill)}
    (hbound : minLines ≤ pair.1 ∧ pair.1 ≤ maxLines)
    (hpair : pair.2.Drawn marker issuedAt first pair.1)
    (h : Listed marker issuedAt minLines maxLines count (first + 1) sized) :
    Listed marker issuedAt minLines maxLines (count + 1) first (pair :: sized) where
  length_eq := by simp [h.length_eq]
  bound := List.forall_mem_cons.mpr ⟨hbound, h.bound⟩
  drawn i other hother := by
    cases i with
    | zero =>
      obtain rfl : pair = other := by simpa using hother
      exact hpair
    | succ i =>
      -- position `i + 1` from `first` is position `i` from `first + 1`
      have hdrawn := h.drawn i other (by simpa using hother)
      rwa [Nat.add_right_comm] at hdrawn

theorem gives_drawSized (marker : String) (issuedAt : Date) (h : minLines ≤ maxLines)
    (index : Nat) :
    Draw.Gives (Undrawn maxLines) (drawSized source marker issuedAt minLines maxLines index)
      fun pair =>
        (minLines ≤ pair.1 ∧ pair.1 ≤ maxLines) ∧ pair.2.Drawn marker issuedAt index pair.1 := by
  refine (Draw.gives_natIn source .rejected h).bind fun lineCount hlineCount => ?_
  have hdraw := (gives_draw source marker issuedAt index lineCount).excuse
    fun fault hfault => hfault.mono hlineCount.2
  exact hdraw.bind fun bill hbill => Draw.gives_pure ⟨hlineCount, hbill⟩

/-- **What the draw of several bills gives**, by induction on their number. -/
theorem gives_drawFrom (marker : String) (issuedAt : Date) (h : minLines ≤ maxLines)
    (count first : Nat) :
    Draw.Gives (Undrawn maxLines) (drawFrom source marker issuedAt minLines maxLines count first)
      (Listed marker issuedAt minLines maxLines count first) := by
  induction count generalizing first with
  | zero => exact Draw.gives_pure (listed_nil first)
  | succ count ih =>
    refine (gives_drawSized source marker issuedAt h first).bind fun pair hpair => ?_
    refine (ih (first + 1)).bind fun sized hsized => ?_
    exact Draw.gives_pure (hsized.cons hpair.1 hpair.2)

end Bill

namespace Batch

/-- **A generated batch**: position `i` of the bills and of the numbers of lines belongs to the bill
with index `i + 1`. -/
structure Drawn (marker : String) (issuedAt : Date) (minLines maxLines count : Nat)
    (batch : Batch) : Prop where
  length_bills : batch.bills.length = count
  length_linesPerBill : batch.linesPerBill.length = count
  bill_at : ∀ i < count, ∃ n bill, batch.linesPerBill[i]? = some n ∧ batch.bills[i]? = some bill ∧
    minLines ≤ n ∧ n ≤ maxLines ∧ bill.Drawn marker issuedAt (i + 1) n

variable {marker : String} {issuedAt : Date} {minLines maxLines count : Nat}

theorem drawn_ofSized {sized : List (Nat × Bill)}
    (h : Bill.Listed marker issuedAt minLines maxLines count 1 sized) :
    (ofSized sized).Drawn marker issuedAt minLines maxLines count where
  length_bills := by simp [ofSized, h.length_eq]
  length_linesPerBill := by simp [ofSized, h.length_eq]
  bill_at i hi := by
    have hlt : i < sized.length := by rwa [h.length_eq]
    have hget : sized[i]? = some sized[i] := List.getElem?_eq_getElem hlt
    obtain ⟨hmin, hmax⟩ := h.bound _ (List.getElem_mem hlt)
    have hdrawn := h.drawn i _ hget
    rw [Nat.add_comm] at hdrawn
    exact ⟨_, _, by simp [ofSized, hget], by simp [ofSized, hget], hmin, hmax, hdrawn⟩

/-- **What is generated** from numbers of lines in order: a batch, or one of the faults for which
bills may not be drawn. -/
theorem generate_eq (h : minLines ≤ maxLines) (marker : String) (issuedAt : Date) (count : Nat)
    (seed : UInt64) :
    (∃ fault, generate marker count minLines maxLines issuedAt seed = .error fault ∧
        Bill.Undrawn maxLines fault) ∨
      ∃ batch, generate marker count minLines maxLines issuedAt seed = .ok batch ∧
        batch.Drawn marker issuedAt minLines maxLines count := by
  rcases Bill.gives_drawFrom seeded marker issuedAt h count 1 (WordStream.ofSeed seed) with
    ⟨fault, hfault, hundrawn⟩ | ⟨sized, s', hsized, hlisted⟩
  · exact .inl ⟨fault, by rw [generate, hfault]; rfl, hundrawn⟩
  · exact .inr ⟨ofSized sized, by rw [generate, hsized]; rfl, drawn_ofSized hlisted⟩

/-- A batch that is generated from numbers of lines in order is as `Drawn` says. -/
theorem drawn_of_generate (h : minLines ≤ maxLines) {seed : UInt64} {batch : Batch}
    (hbatch : generate marker count minLines maxLines issuedAt seed = .ok batch) :
    batch.Drawn marker issuedAt minLines maxLines count := by
  rcases generate_eq h marker issuedAt count seed with ⟨fault, hfault, -⟩ | ⟨drawn, hdrawn, hlike⟩
  · exact nomatch hfault.symm.trans hbatch
  · obtain rfl := Except.ok.inj (hdrawn.symm.trans hbatch)
    exact hlike

/-- A fault of a batch is one for which bills may not be drawn. -/
theorem undrawn_of_generate (h : minLines ≤ maxLines) {seed : UInt64} {fault : DrawFault}
    (hfault : generate marker count minLines maxLines issuedAt seed = .error fault) :
    Bill.Undrawn maxLines fault := by
  rcases generate_eq h marker issuedAt count seed with ⟨other, hother, hundrawn⟩ | ⟨_, hbatch, -⟩
  · obtain rfl := Except.error.inj (hother.symm.trans hfault)
    exact hundrawn
  · exact nomatch hfault.symm.trans hbatch

theorem Drawn.length_bodies {batch : Batch}
    (h : batch.Drawn marker issuedAt minLines maxLines count) : batch.bodies.length = count := by
  rw [bodies, List.length_map, h.length_bills]

/-- **The body at a position** is the text of the bill at that position. -/
theorem getElem?_bodies (batch : Batch) (i : Nat) :
    batch.bodies[i]? = batch.bills[i]?.map fun bill => Bytes.ofString bill.encode := by
  rw [bodies, List.getElem?_map]

end Batch

end

/-!
## The numbers of bills

The number of a bill is the marker of its run, a dash and the digits of its index. A marker may hold
dashes and digits of its own, but no digit is a dash, so the last dash of a number is where the
marker ends. The digits are padded to three, which does not make two indices one. A number therefore
tells the run and the index of its bill.
-/

theorem paddedDecimal_injective (width : Nat) : Function.Injective (paddedDecimal width) := by
  intro m n h
  rw [← digitsValue_paddedDecimal width m, h, digitsValue_paddedDecimal]

theorem dash_not_mem_paddedDecimal (width n : Nat) : '-' ∉ paddedDecimal width n := fun h =>
  absurd (isDigit_of_mem_paddedDecimal h) (by decide)

namespace Bill

/-- The marker of a number begins the number, up to its last dash. -/
theorem marker_eq_or_prefix {marker other : String} {i j : Nat}
    (h : numberFor marker i = numberFor other j) :
    marker.toList = other.toList ∨ marker.toList ++ ['-'] <+: other.toList := by
  have hdash := dash_not_mem_paddedDecimal 3 j
  rw [← append_dash_prefix_iff hdash, ← toList_numberFor, ← h, toList_numberFor]
  exact ⟨paddedDecimal 3 i, by simp⟩

/-- **A number has one marker and one index.** -/
theorem numberFor_inj {marker other : String} {i j : Nat} :
    numberFor marker i = numberFor other j ↔ marker = other ∧ i = j := by
  constructor
  · intro h
    have hmarker : marker.toList = other.toList := by
      rcases marker_eq_or_prefix h with heq | hshorter
      · exact heq
      rcases marker_eq_or_prefix h.symm with heq | hlonger
      · exact heq.symm
      have hlt := hshorter.length_le
      have hgt := hlonger.length_le
      simp only [List.length_append, List.length_singleton] at hlt hgt
      omega
    have hlists := congrArg String.toList h
    rw [toList_numberFor, toList_numberFor, hmarker, List.append_cancel_left_eq,
      List.cons.injEq] at hlists
    exact ⟨String.toList_inj.mp hmarker, paddedDecimal_injective 3 hlists.2⟩
  · rintro ⟨rfl, rfl⟩
    rfl

end Bill

namespace Batch

/-- The numbers of the bills, in their order. -/
def numbers (batch : Batch) : List String := batch.bills.map Bill.billNumber

variable {marker : String} {issuedAt : Date} {minLines maxLines count : Nat} {batch : Batch}

/-- **The numbers of a generated batch** are those of its marker and the indices from one on. -/
theorem Drawn.numbers_eq (h : batch.Drawn marker issuedAt minLines maxLines count) :
    batch.numbers = (List.range count).map fun i => Bill.numberFor marker (i + 1) := by
  refine List.ext_getElem? fun i => ?_
  rw [numbers, List.getElem?_map, List.getElem?_map]
  rcases Nat.lt_or_ge i count with hi | hi
  · obtain ⟨n, bill, -, hbill, -, -, hdrawn⟩ := h.bill_at i hi
    rw [hbill, Option.map_some, hdrawn.billNumber_eq, List.getElem?_range hi, Option.map_some]
  · have hbills : batch.bills.length ≤ i := by rwa [h.length_bills]
    have hrange : (List.range count).length ≤ i := by rwa [List.length_range]
    rw [List.getElem?_eq_none hbills, List.getElem?_eq_none hrange]
    rfl

/-- No number is given to two bills of a batch. -/
theorem Drawn.nodup_numbers (h : batch.Drawn marker issuedAt minLines maxLines count) :
    batch.numbers.Nodup := by
  rw [h.numbers_eq]
  refine List.Nodup.map (fun i j hij => ?_) List.nodup_range
  have hindex := (Bill.numberFor_inj.mp hij).2
  omega

/-- No number is given to bills of two markers. -/
theorem Drawn.disjoint_numbers {other : String} {otherDate : Date} {min max otherCount : Nat}
    {otherBatch : Batch} (h : batch.Drawn marker issuedAt minLines maxLines count)
    (hother : otherBatch.Drawn other otherDate min max otherCount) (hne : marker ≠ other) :
    List.Disjoint batch.numbers otherBatch.numbers := by
  intro number hmem hmem'
  rw [h.numbers_eq] at hmem
  rw [hother.numbers_eq] at hmem'
  obtain ⟨i, -, rfl⟩ := List.mem_map.mp hmem
  obtain ⟨j, -, hj⟩ := List.mem_map.mp hmem'
  exact hne (Bill.numberFor_inj.mp hj).1.symm

/-- **What a generated batch is like.** Unless a draw never returns, or there may be no room for the
lines of a bill, there is a batch with as many bills and numbers of lines as were asked for. The
bill at position `k` has the names of index `k + 1`, the given date and as many lines as position
`k` of the numbers of lines says, which lies within the bounds. Markers and indices of any size make
one number only if they are the same, so no two bills of the batch have one number, nor has any bill
of a run with another marker. -/
theorem generate_shaped (h : minLines ≤ maxLines) (marker : String) (issuedAt : Date)
    (count : Nat) (seed : UInt64) :
    ((∃ fault, generate marker count minLines maxLines issuedAt seed = .error fault ∧
        Bill.Undrawn maxLines fault) ∨
      ∃ batch, generate marker count minLines maxLines issuedAt seed = .ok batch ∧
        batch.bills.length = count ∧ batch.linesPerBill.length = count ∧
        (∀ k < count, ∃ lineCount bill, batch.linesPerBill[k]? = some lineCount ∧
          batch.bills[k]? = some bill ∧ bill.billNumber = Bill.numberFor marker (k + 1) ∧
          bill.customerName = Bill.customerFor marker (k + 1) ∧ bill.issuedAt = issuedAt ∧
          bill.lines.length = lineCount ∧ minLines ≤ lineCount ∧ lineCount ≤ maxLines) ∧
        batch.numbers.Nodup ∧
        ∀ (other : String) (min max otherCount : Nat) (otherDate : Date) (otherSeed : UInt64)
          (otherBatch : Batch), marker ≠ other → min ≤ max →
          generate other otherCount min max otherDate otherSeed = .ok otherBatch →
          List.Disjoint batch.numbers otherBatch.numbers) ∧
      ∀ (p q : String) (i j : Nat), Bill.numberFor p i = Bill.numberFor q j → p = q ∧ i = j := by
  refine ⟨?_, fun p q i j => Bill.numberFor_inj.mp⟩
  rcases generate_eq h marker issuedAt count seed with hfault | ⟨batch, hbatch, hdrawn⟩
  · exact .inl hfault
  refine .inr ⟨batch, hbatch, hdrawn.length_bills, hdrawn.length_linesPerBill, fun k hk => ?_,
    hdrawn.nodup_numbers, ?_⟩
  · obtain ⟨lineCount, bill, hlineCount, hbill, hmin, hmax, hlike⟩ := hdrawn.bill_at k hk
    exact ⟨lineCount, bill, hlineCount, hbill, hlike.billNumber_eq, hlike.customerName_eq,
      hlike.issuedAt_eq, hlike.length_lines, hmin, hmax⟩
  · intro other min max otherCount otherDate otherSeed otherBatch hne hle hother
    exact hdrawn.disjoint_numbers (drawn_of_generate hle hother) hne

/-- The first day of a leap year. -/
def newYear : Date := ⟨2028, 1, 1, by decide, by decide, by decide⟩

/-- Two bills of a run whose marker ends like a number. -/
theorem generate_shaped_twoBills :
    1 ≤ 2 ∧ ∃ batch, generate "run-001" 2 1 2 newYear 42 = .ok batch ∧
      batch.numbers.Nodup ∧ ∀ k < 2, ∃ bill, batch.bills[k]? = some bill ∧
        bill.billNumber = Bill.numberFor "run-001" (k + 1) := by
  refine ⟨by decide, ?_⟩
  obtain ⟨⟨fault, hfault, -⟩ | ⟨batch, hbatch, -, -, hat, hnodup, -⟩, -⟩ :=
    @generate_shaped 1 2 (by decide) "run-001" newYear 2 42
  · have hdrawn : (generate "run-001" 2 1 2 newYear 42).toOption.isSome = true := by
      decide +kernel
    rw [hfault] at hdrawn
    exact nomatch hdrawn
  · refine ⟨batch, hbatch, hnodup, fun k hk => ?_⟩
    obtain ⟨_, bill, -, hbill, hnumber, -⟩ := hat k hk
    exact ⟨bill, hbill, hnumber⟩

/-- **A bill with more lines than there can be room for**: its number of lines is drawn, and then no
batch is generated. -/
theorem generate_crowded :
    generate "run" 1 9223372036854775807 9223372036854775807 newYear 42 =
      .error .capacityOverflow :=
  fault?_eq_some_iff.mp (by decide +kernel)

end Batch

end HttpLoad
