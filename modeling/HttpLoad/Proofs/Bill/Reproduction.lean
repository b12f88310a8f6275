import Mathlib.Data.List.Basic
import HttpLoad.Proofs.Bill.Batch

/-!
# Batches of one seed

How many words a bill takes depends on the words: on the number of lines that they make, and on how
many of them are rejected. Names and dates are not drawn, so two draws that differ in these take the
same words from the same state, and leave the same state to the bills that follow. A draw of more
bills begins with the draw of fewer.

## Main definitions

* `Draw.Paired draw draw' R`: two draws from one state, with related values
* `Bill.Alike`, `Batch.Alike`: bills and batches that differ in names and dates only
* `Batch.take`: the first bills of a batch

## Main results

* `Draw.Paired.bind`: pairs of draws, one after the other
* `Bill.paired_drawFrom`: bills are alike, whatever their names and dates
* `Bill.drawFrom_of_le`: fewer bills are the first ones of more
* `Batch.generate_paired`: batches are alike, whatever their names and dates
* `Batch.generate_reproduced`: a seed reproduces its batch
-/

namespace HttpLoad

namespace Draw

variable {σ α α' β β' : Type}

/-- **Two draws from one state**: they give related values and leave the same state, or they fail
for the same reason. -/
def Paired (draw : Draw σ α) (draw' : Draw σ α') (R : α → α' → Prop) : Prop :=
  ∀ s, (∃ fault, draw s = .error fault ∧ draw' s = .error fault) ∨
    ∃ a a' after, draw s = .ok (a, after) ∧ draw' s = .ok (a', after) ∧ R a a'

theorem paired_pure {R : α → α' → Prop} {a : α} {a' : α'} (h : R a a') :
    Paired (pure a : Draw σ α) (pure a') R :=
  fun s => .inr ⟨a, a', s, rfl, rfl, h⟩

/-- A draw gives what it gives. -/
theorem paired_self (draw : Draw σ α) : Paired draw draw Eq := by
  intro s
  cases h : draw s with
  | error fault => exact .inl ⟨fault, rfl, rfl⟩
  | ok result => exact .inr ⟨result.1, result.1, result.2, rfl, rfl, rfl⟩

theorem bind_eq_ok_iff {draw : Draw σ α} {next : α → Draw σ β} {s : σ} {result : β × σ} :
    (draw >>= next) s = .ok result ↔
      ∃ a between, draw s = .ok (a, between) ∧ next a between = .ok result := by
  rw [bind_apply, HttpLoad.bind_eq_ok_iff, Prod.exists]

/-- **Pairs of draws, one after the other.** -/
theorem Paired.bind {draw : Draw σ α} {draw' : Draw σ α'} {next : α → Draw σ β}
    {next' : α' → Draw σ β'} {R : α → α' → Prop} {S : β → β' → Prop} (h : Paired draw draw' R)
    (hnext : ∀ a a', R a a' → Paired (next a) (next' a') S) :
    Paired (draw >>= next) (draw' >>= next') S := by
  intro s
  rw [bind_apply, bind_apply]
  rcases h s with ⟨fault, hdraw, hdraw'⟩ | ⟨a, a', after, hdraw, hdraw', hrelated⟩
  · rw [hdraw, hdraw']
    exact .inl ⟨fault, rfl, rfl⟩
  · rw [hdraw, hdraw']
    exact hnext a a' hrelated after

/-- The same draw, followed by a pair. -/
theorem Paired.after {draw : Draw σ α} {next : α → Draw σ β} {next' : α → Draw σ β'}
    {S : β → β' → Prop} (hnext : ∀ a, Paired (next a) (next' a) S) :
    Paired (draw >>= next) (draw >>= next') S := by
  refine (paired_self draw).bind fun a a' h => ?_
  obtain rfl := h
  exact hnext a

end Draw

/-! ## Names and dates -/

/-- **Bills that differ in names and date only**: their lines, with concepts, quantities and
amounts, are the same, and so are tax and currency. -/
structure Bill.Alike (a b : Bill) : Prop where
  lines_eq : a.lines = b.lines
  tax_eq : a.tax = b.tax
  currency_eq : a.currency = b.currency

/-- **Batches that differ in names and dates only**, bill by bill. -/
structure Batch.Alike (a b : Batch) : Prop where
  linesPerBill_eq : a.linesPerBill = b.linesPerBill
  bills : List.Forall₂ Bill.Alike a.bills b.bills

/-- Bills with their numbers of lines that differ in names and dates only. -/
def Bill.AlikeSized (a b : Nat × Bill) : Prop := a.1 = b.1 ∧ a.2.Alike b.2

namespace Bill

variable {σ : Type} (source : WordSource σ) (marker other : String) (issuedAt otherDate : Date)
  (minLines maxLines : Nat)

theorem paired_draw (index otherIndex lineCount : Nat) :
    Draw.Paired (draw source marker index lineCount issuedAt)
      (draw source other otherIndex lineCount otherDate) Alike := by
  refine Draw.Paired.after fun _ => ?_
  refine Draw.Paired.after fun lines => ?_
  refine Draw.Paired.after fun share => ?_
  exact Draw.paired_pure ⟨rfl, rfl, rfl⟩

theorem paired_drawSized (index otherIndex : Nat) :
    Draw.Paired (drawSized source marker issuedAt minLines maxLines index)
      (drawSized source other otherDate minLines maxLines otherIndex) AlikeSized := by
  refine Draw.Paired.after fun lineCount => ?_
  refine (paired_draw source marker other issuedAt otherDate index otherIndex lineCount).bind
    fun bill otherBill halike => ?_
  exact Draw.paired_pure ⟨rfl, halike⟩

/-- **Bills are alike, whatever their names and dates**, by induction on how many are left. Each
draw leaves both lists in the same state, however many words it took. -/
theorem paired_drawFrom (count index otherIndex : Nat) :
    Draw.Paired (drawFrom source marker issuedAt minLines maxLines count index)
      (drawFrom source other otherDate minLines maxLines count otherIndex)
      (List.Forall₂ AlikeSized) := by
  induction count generalizing index otherIndex with
  | zero => exact Draw.paired_pure .nil
  | succ count ih =>
    refine (paired_drawSized source marker other issuedAt otherDate minLines maxLines index
      otherIndex).bind fun bill otherBill hbill => ?_
    refine (ih (index + 1) (otherIndex + 1)).bind fun bills otherBills hbills => ?_
    exact Draw.paired_pure (.cons hbill hbills)

/-! ## More and fewer bills -/

/-- A draw of one bill and then others, by what is drawn. -/
theorem drawFrom_succ_eq_ok_iff {count index : Nat} {s after : σ} {sized : List (Nat × Bill)} :
    drawFrom source marker issuedAt minLines maxLines (count + 1) index s = .ok (sized, after) ↔
      ∃ bill between rest,
        drawSized source marker issuedAt minLines maxLines index s = .ok (bill, between) ∧
        drawFrom source marker issuedAt minLines maxLines count (index + 1) between =
          .ok (rest, after) ∧
        sized = bill :: rest := by
  have hdraw : drawFrom source marker issuedAt minLines maxLines (count + 1) index =
      drawSized source marker issuedAt minLines maxLines index >>= fun bill =>
        drawFrom source marker issuedAt minLines maxLines count (index + 1) >>= fun rest =>
          pure (bill :: rest) := rfl
  rw [hdraw, Draw.bind_eq_ok_iff]
  refine exists_congr fun bill => exists_congr fun between => ?_
  rw [exists_and_left, Draw.bind_eq_ok_iff]
  refine and_congr_right fun _ => ⟨?_, ?_⟩
  · rintro ⟨rest, last, hrest, hsized⟩
    cases hsized
    exact ⟨rest, hrest, rfl⟩
  · rintro ⟨rest, hrest, rfl⟩
    exact ⟨rest, after, hrest, rfl⟩

/-- **Fewer bills are the first ones of more**, by induction on the number of the fewer ones. -/
theorem drawFrom_of_le {m n index : Nat} {s after : σ} {sized : List (Nat × Bill)} (hmn : m ≤ n)
    (h : drawFrom source marker issuedAt minLines maxLines n index s = .ok (sized, after)) :
    ∃ between, drawFrom source marker issuedAt minLines maxLines m index s =
      .ok (sized.take m, between) := by
  induction m generalizing n index s sized with
  | zero => exact ⟨s, by rw [List.take_zero]; rfl⟩
  | succ m ih =>
    obtain ⟨n, rfl⟩ : ∃ k, n = k + 1 := ⟨n - 1, by omega⟩
    obtain ⟨bill, between, rest, hbill, hrest, rfl⟩ :=
      (drawFrom_succ_eq_ok_iff source marker issuedAt minLines maxLines).mp h
    obtain ⟨last, htake⟩ := ih (Nat.le_of_succ_le_succ hmn) hrest
    exact ⟨last, (drawFrom_succ_eq_ok_iff source marker issuedAt minLines maxLines).mpr
      ⟨bill, between, rest.take m, hbill, htake, List.take_succ_cons⟩⟩

end Bill

namespace Batch

/-- **The first bills of a batch**, with their numbers of lines. -/
def take (count : Nat) (batch : Batch) : Batch :=
  ⟨batch.bills.take count, batch.linesPerBill.take count⟩

theorem take_ofSized (count : Nat) (sized : List (Nat × Bill)) :
    (ofSized sized).take count = ofSized (sized.take count) := by
  simp only [ofSized, take, List.map_take]

theorem alike_ofSized {sized sized' : List (Nat × Bill)}
    (h : List.Forall₂ Bill.AlikeSized sized sized') : (ofSized sized).Alike (ofSized sized') := by
  induction h with
  | nil => exact ⟨rfl, .nil⟩
  | cons hbill _ ih =>
    exact ⟨congrArg₂ List.cons hbill.1 ih.linesPerBill_eq, .cons hbill.2 ih.bills⟩

variable {marker : String} {issuedAt : Date} {minLines maxLines : Nat} {seed : UInt64}

/-- A batch is made of bills that are drawn from the stream of its seed. -/
theorem generate_eq_ok_iff {count : Nat} {batch : Batch} :
    generate marker count minLines maxLines issuedAt seed = .ok batch ↔
      ∃ sized after, Bill.drawFrom seeded marker issuedAt minLines maxLines count 1
        (WordStream.ofSeed seed) = .ok (sized, after) ∧ batch = ofSized sized := by
  rw [generate, bind_eq_ok_iff, Prod.exists]
  constructor
  · rintro ⟨sized, after, hsized, hbatch⟩
    cases hbatch
    exact ⟨sized, after, hsized, rfl⟩
  · rintro ⟨sized, after, hsized, rfl⟩
    exact ⟨sized, after, hsized, rfl⟩

/-- A batch of fewer bills is the beginning of a batch of more. -/
theorem generate_take {m n : Nat} (hmn : m ≤ n) {batch : Batch}
    (h : generate marker n minLines maxLines issuedAt seed = .ok batch) :
    generate marker m minLines maxLines issuedAt seed = .ok (batch.take m) := by
  obtain ⟨sized, after, hsized, rfl⟩ := generate_eq_ok_iff.mp h
  obtain ⟨between, htake⟩ := Bill.drawFrom_of_le _ _ _ _ _ hmn hsized
  exact generate_eq_ok_iff.mpr ⟨sized.take m, between, htake, take_ofSized m sized⟩

/-- **Names and dates change nothing else**: they neither keep a batch from being generated nor let
one be generated, and two batches differ in nothing else. -/
theorem generate_paired (marker other : String) (issuedAt otherDate : Date)
    (minLines maxLines count : Nat) (seed : UInt64) :
    (∃ fault, generate marker count minLines maxLines issuedAt seed = .error fault ∧
        generate other count minLines maxLines otherDate seed = .error fault) ∨
      ∃ batch otherBatch, generate marker count minLines maxLines issuedAt seed = .ok batch ∧
        generate other count minLines maxLines otherDate seed = .ok otherBatch ∧
        batch.Alike otherBatch := by
  have hpaired := Bill.paired_drawFrom seeded marker other issuedAt otherDate minLines maxLines
    count 1 1 (WordStream.ofSeed seed)
  rcases hpaired with ⟨fault, hfault, hother⟩ | ⟨bills, others, after, hbills, hothers, halike⟩
  · exact .inl ⟨fault, by rw [generate, hfault]; rfl, by rw [generate, hother]; rfl⟩
  · exact .inr ⟨ofSized bills, ofSized others, generate_eq_ok_iff.mpr ⟨bills, after, hbills, rfl⟩,
      generate_eq_ok_iff.mpr ⟨others, after, hothers, rfl⟩, alike_ofSized halike⟩

/-- **A seed reproduces its batch.** Unless a draw never returns, or there may be no room for the
lines of a bill, there is a batch of `n` bills. Its first `m` bills and numbers of lines are the
batch of `m` bills, and with another marker and another date there is a batch that differs from it
in names and dates only. Where there is no batch, there is none with another marker and another
date. -/
theorem generate_reproduced (h : minLines ≤ maxLines) {m n : Nat} (hmn : m ≤ n)
    (marker other : String) (issuedAt otherDate : Date) (seed : UInt64) :
    (∃ fault, generate marker n minLines maxLines issuedAt seed = .error fault ∧
        generate other n minLines maxLines otherDate seed = .error fault ∧
        Bill.Undrawn maxLines fault) ∨
      ∃ batch otherBatch, generate marker n minLines maxLines issuedAt seed = .ok batch ∧
        batch.bills.length = n ∧ batch.linesPerBill.length = n ∧
        generate marker m minLines maxLines issuedAt seed = .ok (batch.take m) ∧
        generate other n minLines maxLines otherDate seed = .ok otherBatch ∧
        batch.Alike otherBatch := by
  rcases generate_paired marker other issuedAt otherDate minLines maxLines n seed with
    ⟨fault, hfault, hother⟩ | ⟨batch, otherBatch, hbatch, hother, halike⟩
  · exact .inl ⟨fault, hfault, hother, undrawn_of_generate h hfault⟩
  · have hdrawn := drawn_of_generate h hbatch
    exact .inr ⟨batch, otherBatch, hbatch, hdrawn.length_bills, hdrawn.length_linesPerBill,
      generate_take hmn hbatch, hother, halike⟩

/-- The day before the first of a year. -/
def newYearsEve : Date := ⟨2027, 12, 31, by decide, by decide, by decide⟩

/-- Two bills of one seed, under two markers and on two days, and the first of them alone. -/
theorem generate_reproduced_newYear :
    2 ≤ 3 ∧ 1 ≤ 2 ∧ ∃ batch otherBatch,
      generate "run" 2 2 3 newYearsEve 42 = .ok batch ∧
      batch.bills.length = 2 ∧ batch.linesPerBill.length = 2 ∧
      generate "run" 1 2 3 newYearsEve 42 = .ok (batch.take 1) ∧
      generate "run-2" 2 2 3 newYear 42 = .ok otherBatch ∧ batch.Alike otherBatch := by
  refine ⟨by decide, by decide, ?_⟩
  rcases @generate_reproduced 2 3 (by decide) 1 2 (by decide) "run" "run-2" newYearsEve newYear 42
    with ⟨fault, hfault, -⟩ | hbatches
  · have hdrawn : (generate "run" 2 2 3 newYearsEve 42).toOption.isSome = true := by
      decide +kernel
    rw [hfault] at hdrawn
    exact nomatch hdrawn
  · exact hbatches

end Batch

end HttpLoad
