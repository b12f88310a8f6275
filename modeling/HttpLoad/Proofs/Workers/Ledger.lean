import Mathlib.Algebra.Group.Nat.Defs
import Mathlib.Data.List.Count
import Mathlib.Data.List.Nodup
import Mathlib.Data.List.Perm.Basic
import HttpLoad.Proofs.Workers.Move
import HttpLoad.Run.Basic

/-!
# The ledger of a hall

Where every claimed number and every result is. A number below the total that has been claimed is
with a worker or performed, and a result is with a worker, in the channel or collected. The claims
beyond the total are one for each worker that is past its last request, so the counter stays below
the total plus the number of workers and does not wrap around.

## Main definitions

* `Hall.claims h`, `Hall.performed h`: the claims and the performed requests of the history
* `Hall.pending h total`, `Hall.held h`: the numbers and the results that are with workers
* `Work.replay work world order`: requests performed one after the other
* `Hall.Ledger work workers world h`: the invariant

## Main results

* `Ledger.move`: every move keeps the ledger
* `ledger_of_after`: every run keeps it
* `Ledger.inFlight_le`: the requests in flight are at most as many as workers, and as requests
* `Ledger.complete_of_closed`: when the collector has stopped, everything is performed and collected
* `requests_performed_once`: what holds in every state of a run, and at its end
-/

namespace HttpLoad

section

variable {σ ρ : Type}

/-- The number below `total` that a worker is about to perform. -/
def Stage.pending (total : Nat) : Stage ρ → List Nat
  | .claimed number => if number.toNat < total then [number.toNat] else []
  | _ => []

/-- The result that a worker has not sent yet. -/
def Stage.held : Stage ρ → List ρ
  | .holding result => [result]
  | _ => []

/-- Whether a worker has claimed a number for which there is no request, or has left. -/
def Stage.isPast (total : Nat) : Stage ρ → Bool
  | .claimed number => total ≤ number.toNat
  | .gone => true
  | _ => false

/-- Whether a worker has a request that it has not handed on. -/
def Stage.isBusy (total : Nat) : Stage ρ → Bool
  | .claimed number => number.toNat < total
  | .holding _ => true
  | _ => false

/-- A claim in the history: the worker and its number. -/
def Event.claim? : Event ρ → Option (Nat × Nat)
  | .claimed worker number => some (worker, number.toNat)
  | _ => none

/-- A performed request in the history: the worker with the number, and the result. -/
def Event.performed? : Event ρ → Option ((Nat × Nat) × ρ)
  | .performed worker number result => some ((worker, number), result)
  | _ => none

/-- **Requests performed one after the other**, each a worker and a number, the latest first: their
results and the world after them. -/
def Work.replay (work : Work σ ρ) (world : σ) : List (Nat × Nat) → List ρ × σ
  | [] => ([], world)
  | (worker, number) :: earlier =>
    let (results, world) := work.replay world earlier
    let (result, world) := work.perform worker number world
    (result :: results, world)

/-- If the outcome of each request is fixed, the results are the outcomes. -/
theorem Work.replay_fst_of_outcome {work : Work σ ρ} {outcome : Nat → ρ}
    (fixed : ∀ worker number world, (work.perform worker number world).1 = outcome number)
    (world : σ) (order : List (Nat × Nat)) :
    (work.replay world order).1 = (order.map Prod.snd).map outcome := by
  induction order with
  | nil => rfl
  | cons call earlier ih => simp [Work.replay, fixed, ih]

namespace Hall

open scoped List

variable {work : Work σ ρ} {workers : Nat} {world : σ} {h h' : Hall σ ρ} {mover : Mover}

/-- The claims, each with its worker, the latest first. -/
def claims (h : Hall σ ρ) : List (Nat × Nat) := h.history.filterMap Event.claim?

/-- The performed requests, each with its worker, the latest first. -/
def performed (h : Hall σ ρ) : List ((Nat × Nat) × ρ) := h.history.filterMap Event.performed?

/-- The numbers below `total` that workers are about to perform. -/
def pending (h : Hall σ ρ) (total : Nat) : List Nat :=
  h.workers.flatMap fun w => w.stage.pending total

/-- The results that workers have not sent yet. -/
def held (h : Hall σ ρ) : List ρ := h.workers.flatMap fun w => w.stage.held

/-- How many workers are past their last request. -/
def past (h : Hall σ ρ) (total : Nat) : Nat := h.workers.countP fun w => w.stage.isPast total

/-- **How many requests are in flight**: claimed, and their results not yet in the channel. -/
def inFlight (h : Hall σ ρ) (total : Nat) : Nat :=
  h.workers.countP fun w => w.stage.isBusy total

/-- **The ledger**: where every claimed number and every result is. -/
structure Ledger (work : Work σ ρ) (workers : Nat) (world : σ) (h : Hall σ ρ) : Prop where
  size : h.workers.length = workers
  /-- The numbers are claimed one after the other. -/
  claims : h.claims.map Prod.snd = (List.range h.counter.toNat).reverse
  past : h.counter.toNat - work.total = h.past work.total
  numbers : h.pending work.total ++ h.performed.map (fun p => p.1.2) ~
    List.range (min h.counter.toNat work.total)
  results : h.held ++ (h.channel ++ h.collected) ~ h.performed.map Prod.snd
  replay : work.replay world (h.performed.map Prod.fst) = (h.performed.map Prod.snd, h.world)
  shut : h.closed = true → h.channel = [] ∧ h.allGone = true

theorem ledger_start (work : Work σ ρ) (workers : Nat) (world : σ) :
    Ledger work workers world (start workers world) where
  size := by simp [start]
  claims := by simp [start, Hall.claims]
  past := by simp [start, Hall.past, List.countP_replicate, Stage.isPast]
  numbers := by simp [start, pending, performed, Stage.pending]
  results := by simp [start, held, performed, Stage.held]
  replay := by simp [start, performed, Work.replay]
  shut := by simp [start]

/-! ## A move keeps the ledger -/

/-- A worker replaced by another one, up to the order of workers. -/
theorem set_perm {workers : List (Worker ρ)} {id : Nat} {w : Worker ρ}
    (hw : workers[id]? = some w) (v : Worker ρ) : w :: workers.set id v ~ v :: workers := by
  obtain ⟨hid, rfl⟩ := List.getElem?_eq_some_iff.mp hw
  calc workers[id] :: workers.set id v
    _ ~ workers[id] :: v :: workers.eraseIdx id := (List.set_perm_cons_eraseIdx hid v).cons _
    _ ~ v :: workers[id] :: workers.eraseIdx id := List.Perm.swap ..
    _ ~ v :: workers := (List.getElem_cons_eraseIdx_perm hid).cons v

section Set

variable {id : Nat} {w v : Worker ρ} (hw : h.workers[id]? = some w)
  (hv : h'.workers = h.workers.set id v)
include hw hv

theorem past_of_set (total : Nat) : h'.past total + (if w.stage.isPast total then 1 else 0) =
    h.past total + (if v.stage.isPast total then 1 else 0) := by
  have hp := (set_perm hw v).countP_eq fun w => w.stage.isPast total
  rw [← hv] at hp
  simpa only [past, List.countP_cons] using hp

theorem pending_of_set (total : Nat) :
    w.stage.pending total ++ h'.pending total ~ v.stage.pending total ++ h.pending total := by
  have hp := (set_perm hw v).flatMap_right fun w => w.stage.pending total
  rw [← hv] at hp
  simpa only [pending, List.flatMap_cons] using hp

theorem held_of_set : w.stage.held ++ h'.held ~ v.stage.held ++ h.held := by
  have hp := (set_perm hw v).flatMap_right fun w => w.stage.held
  rw [← hv] at hp
  simpa only [held, List.flatMap_cons] using hp

end Set

namespace Ledger

variable (l : Ledger work workers world h) {id : Nat} {w : Worker ρ}
  (hw : h.workers[id]? = some w)
include l hw

/-- A worker that is ready is not past its last request, so there is room for its claim. -/
theorem counter_lt (hs : w.stage = .ready) : h.counter.toNat < work.total + workers := by
  have hlt : h.past work.total < h.workers.length :=
    List.countP_lt_length_iff.mpr ⟨w, List.mem_of_getElem? hw, by simp [hs, Stage.isPast]⟩
  have hpast := l.past
  have hsize := l.size
  omega

/-- **The counter does not wrap around.** -/
theorem toNat_counter_add_one (fit : work.total + workers < 2 ^ 64) (hs : w.stage = .ready) :
    (h.counter + 1).toNat = h.counter.toNat + 1 := by
  have hlt := l.counter_lt hw hs
  rw [UInt64.toNat_add]
  exact Nat.mod_eq_of_lt (by simp; omega)

/-- While a worker has not left, the collector has not stopped. -/
theorem closed_eq_false (hs : w.stage ≠ .gone) : h.closed = false := by
  by_contra hc
  exact hs (allGone_iff.mp (l.shut (by simpa using hc)).2 w (List.mem_of_getElem? hw))

theorem claim (fit : work.total + workers < 2 ^ 64) (hs : w.stage = .ready) :
    Ledger work workers world (h.claim id w) := by
  have ho : h.closed = false := l.closed_eq_false hw (by simp [hs])
  have hcounter : (h.claim id w).counter.toNat = h.counter.toNat + 1 :=
    l.toNat_counter_add_one hw fit hs
  refine ⟨List.length_set.trans l.size, ?_, ?_, ?_, ?_, l.replay, fun hc => ?_⟩
  · show h.counter.toNat :: h.claims.map Prod.snd = _
    rw [hcounter, List.range_succ, List.reverse_append, l.claims]
    rfl
  · have hset : (h.claim id w).past work.total + _ = h.past work.total + _ := past_of_set hw rfl _
    have hpast := l.past
    simp only [hs, Stage.isPast, decide_eq_true_eq, Bool.false_eq_true, if_false] at hset
    split at hset <;> omega
  · have hset : _ ++ (h.claim id w).pending work.total ~ _ ++ h.pending work.total :=
      pending_of_set hw rfl _
    have hnumbers := l.numbers
    rw [hs] at hset
    rw [hcounter]
    -- below the total the claimed number is pending, and from there on both sides stay as they are
    by_cases hn : h.counter.toNat < work.total
    · simp only [Stage.pending, hn, if_true, List.nil_append] at hset
      rw [Nat.min_eq_left (Nat.le_of_lt hn)] at hnumbers
      rw [Nat.min_eq_left hn, List.range_succ]
      exact (hset.append_right _).trans
        ((hnumbers.cons _).trans (List.perm_append_singleton ..).symm)
    · simp only [Stage.pending, hn, if_false, List.nil_append] at hset
      rw [Nat.min_eq_right (by omega)] at hnumbers ⊢
      exact (hset.append_right _).trans hnumbers
  · have hset : _ ++ (h.claim id w).held ~ _ ++ h.held := held_of_set hw rfl
    rw [hs] at hset
    exact (hset.append_right _).trans l.results
  · exact absurd (ho.symm.trans hc) (by simp)

theorem perform {number : UInt64} (hs : w.stage = .claimed number)
    (hn : number.toNat < work.total) :
    Ledger work workers world (h.perform work id number.toNat w) := by
  have ho : h.closed = false := l.closed_eq_false hw (by simp [hs])
  refine ⟨List.length_set.trans l.size, l.claims, ?_, ?_, ?_, ?_, fun hc => ?_⟩
  · have hset : (h.perform work id number.toNat w).past work.total + _ = h.past work.total + _ :=
      past_of_set hw rfl _
    simp only [hs, Stage.isPast, decide_eq_true_eq, Nat.not_le.mpr hn, Bool.false_eq_true,
      if_false, Nat.add_zero] at hset
    exact l.past.trans hset.symm
  · have hset : _ ++ (h.perform work id number.toNat w).pending work.total ~
        _ ++ h.pending work.total := pending_of_set hw rfl _
    simp only [hs, Stage.pending, hn, if_true] at hset
    exact List.perm_middle.trans ((hset.append_right _).trans l.numbers)
  · have hset : _ ++ (h.perform work id number.toNat w).held ~ _ ++ h.held := held_of_set hw rfl
    rw [hs] at hset
    exact (hset.append_right _).trans (l.results.cons _)
  · show work.replay world ((id, number.toNat) :: h.performed.map Prod.fst) = _
    simp only [Work.replay, l.replay]
    rfl
  · exact absurd (ho.symm.trans hc) (by simp)

theorem overshoot {number : UInt64} (hs : w.stage = .claimed number)
    (hn : work.total ≤ number.toNat) : Ledger work workers world (h.leave id w) := by
  have ho : h.closed = false := l.closed_eq_false hw (by simp [hs])
  refine ⟨List.length_set.trans l.size, l.claims, ?_, ?_, ?_, l.replay, fun hc => ?_⟩
  · have hset : (h.leave id w).past work.total + _ = h.past work.total + _ := past_of_set hw rfl _
    simp only [hs, Stage.isPast, decide_eq_true_eq, hn, if_true] at hset
    exact l.past.trans (Nat.add_right_cancel hset).symm
  · have hset : _ ++ (h.leave id w).pending work.total ~ _ ++ h.pending work.total :=
      pending_of_set hw rfl _
    simp only [hs, Stage.pending, Nat.not_lt.mpr hn, if_false, List.nil_append] at hset
    exact (hset.append_right _).trans l.numbers
  · have hset : _ ++ (h.leave id w).held ~ _ ++ h.held := held_of_set hw rfl
    rw [hs] at hset
    exact (hset.append_right _).trans l.results
  · exact absurd (ho.symm.trans hc) (by simp)

theorem send {result : ρ} (hs : w.stage = .holding result) :
    Ledger work workers world (h.send id w result) := by
  have ho : h.closed = false := l.closed_eq_false hw (by simp [hs])
  refine ⟨List.length_set.trans l.size, l.claims, ?_, ?_, ?_, l.replay, fun hc => ?_⟩
  · have hset : (h.send id w result).past work.total + _ = h.past work.total + _ :=
      past_of_set hw rfl _
    rw [hs] at hset
    exact l.past.trans hset.symm
  · have hset : _ ++ (h.send id w result).pending work.total ~ _ ++ h.pending work.total :=
      pending_of_set hw rfl _
    rw [hs] at hset
    exact (hset.append_right _).trans l.numbers
  · have hset : _ ++ (h.send id w result).held ~ _ ++ h.held := held_of_set hw rfl
    rw [hs] at hset
    calc (h.send id w result).held ++ (h.channel ++ [result] ++ h.collected)
      _ = (h.send id w result).held ++ h.channel ++ result :: h.collected := by simp
      _ ~ result :: ((h.send id w result).held ++ h.channel ++ h.collected) := List.perm_middle
      _ = result :: (h.send id w result).held ++ (h.channel ++ h.collected) := by simp
      _ ~ h.held ++ (h.channel ++ h.collected) := hset.append_right _
      _ ~ h.performed.map Prod.snd := l.results
  · exact absurd (ho.symm.trans hc) (by simp)

omit hw in
theorem collect {result : ρ} {rest : List ρ} (ho : h.closed = false)
    (hc : h.channel = result :: rest) :
    Ledger work workers world ({ h with
      channel := rest, collected := h.collected ++ [result] }.note (.collected result)) := by
  refine ⟨l.size, l.claims, l.past, l.numbers, ?_, l.replay, fun hc => ?_⟩
  · have hresults := l.results
    rw [hc] at hresults
    calc h.held ++ (rest ++ (h.collected ++ [result]))
      _ = h.held ++ (rest ++ h.collected ++ [result]) := by simp
      _ ~ h.held ++ (result :: rest ++ h.collected) :=
        (List.perm_append_singleton result _).append_left _
      _ ~ h.performed.map Prod.snd := hresults
  · exact absurd (ho.symm.trans hc) (by simp)

omit hw in
theorem close (hc : h.channel = []) (hg : h.allGone = true) :
    Ledger work workers world ({ h with closed := true }.note .closed) :=
  ⟨l.size, l.claims, l.past, l.numbers, l.results, l.replay, fun _ => ⟨hc, hg⟩⟩

omit hw in
/-- **Every move keeps the ledger.** -/
theorem move (fit : work.total + workers < 2 ^ 64) (m : Move work h mover h') :
    Ledger work workers world h' := by
  cases m with
  | claim hw hs => exact l.claim hw fit hs
  | perform hw hs hn => exact l.perform hw hs hn
  | overshoot hw hs hn => exact l.overshoot hw hs hn
  | send hw hs ho => exact l.send hw hs
  | giveUp hw hs hc =>
    exact absurd ((l.closed_eq_false hw (by simp [hs])).symm.trans hc) (by simp)
  | collect ho hc => exact l.collect ho hc
  | close ho hc hg => exact l.close hc hg

end Ledger

/-- **Every run keeps the ledger.** -/
theorem ledger_of_after (fit : work.total + workers < 2 ^ 64) {movers : List Mover}
    (hrun : (start workers world).after work movers = some h) : Ledger work workers world h :=
  after_invariant (ledger_start work workers world) (fun l m => l.move fit m) hrun

/-! ## What the ledger says -/

theorem inFlight_eq (h : Hall σ ρ) (total : Nat) :
    h.inFlight total = (h.pending total).length + h.held.length := by
  simp only [inFlight, pending, held]
  induction h.workers with
  | nil => rfl
  | cons w ws ih =>
    simp only [List.countP_cons, List.flatMap_cons, List.length_append, ih]
    cases w.stage with
    | claimed number =>
      by_cases hn : number.toNat < total <;> simp [Stage.isBusy, Stage.pending, Stage.held, hn]
      omega
    | holding result => simp [Stage.isBusy, Stage.pending, Stage.held]; omega
    | ready | gone => simp [Stage.isBusy, Stage.pending, Stage.held]

namespace Ledger

variable (l : Ledger work workers world h)
include l

theorem length_pending_add : (h.pending work.total).length + h.performed.length =
    min h.counter.toNat work.total := by
  simpa using l.numbers.length_eq

theorem length_held_add :
    h.held.length + (h.channel.length + h.collected.length) = h.performed.length := by
  simpa using l.results.length_eq

/-- No more requests are in flight than there are workers, and than there are requests. -/
theorem inFlight_le : h.inFlight work.total ≤ min workers work.total := by
  refine Nat.le_min.mpr ⟨l.size ▸ List.countP_le_length, ?_⟩
  have hnumbers := l.length_pending_add
  have hresults := l.length_held_add
  rw [inFlight_eq]
  omega

/-- **When the collector has stopped**, each worker has claimed one number beyond the last request,
every request is performed, and every result is collected. -/
theorem complete_of_closed (hpos : 1 ≤ workers) (hc : h.closed = true) :
    h.counter.toNat = work.total + workers ∧
      h.performed.map (fun p => p.1.2) ~ List.range work.total ∧
      h.collected ~ h.performed.map Prod.snd := by
  obtain ⟨hchannel, hgone⟩ := l.shut hc
  rw [allGone_iff] at hgone
  have hpast : h.past work.total = workers := by
    rw [← l.size, Hall.past, List.countP_eq_length]
    exact fun w hw => by simp [hgone w hw, Stage.isPast]
  have hpending : h.pending work.total = [] :=
    List.flatMap_eq_nil_iff.mpr fun w hw => by simp [hgone w hw, Stage.pending]
  have hheld : h.held = [] :=
    List.flatMap_eq_nil_iff.mpr fun w hw => by simp [hgone w hw, Stage.held]
  have hcounter : h.counter.toNat = work.total + workers := by
    have hbeyond := l.past.trans hpast
    omega
  refine ⟨hcounter, ?_, ?_⟩
  · simpa only [hpending, List.nil_append, hcounter, Nat.min_eq_right (Nat.le_add_right _ _)]
      using l.numbers
  · simpa only [hheld, hchannel, List.nil_append] using l.results

/-- When the collector has stopped, it has as many results as there are requests. -/
theorem length_collected_of_closed (hpos : 1 ≤ workers) (hc : h.closed = true) :
    h.collected.length = work.total := by
  obtain ⟨-, hnumbers, hresults⟩ := l.complete_of_closed hpos hc
  simpa using hresults.length_eq.trans (by simpa using hnumbers.length_eq)

end Ledger

end Hall

end

/-!
## Every request exactly once

Workers that claim numbers from a shared counter perform every request once, whoever moves when. The
statement is about requests with bodies, which is what the measured requests of a run are. How a
request turns out may depend on the worker, on its number and on all that was performed before.
-/

namespace Hall

open scoped List

variable {σ ρ : Type} {work : Work σ ρ} {workers : Nat} {world : σ} {h : Hall σ ρ}

namespace Ledger

variable (l : Ledger work workers world h)
include l

/-- No number is claimed twice. -/
theorem nodup_claims : (h.claims.map Prod.snd).Nodup := by
  rw [l.claims]
  exact List.nodup_reverse.mpr List.nodup_range

theorem filter_claims : (h.claims.map Prod.snd).filter (· < work.total) ~
    List.range (min h.counter.toNat work.total) := by
  refine (List.perm_ext_iff_of_nodup (l.nodup_claims.filter _) List.nodup_range).mpr fun n => ?_
  rw [l.claims]
  simp only [List.mem_filter, List.mem_reverse, List.mem_range, decide_eq_true_eq]
  omega

/-- The counter is the number of claims. -/
theorem toNat_counter : h.counter.toNat = h.claims.length := by
  simpa using (congrArg List.length l.claims).symm

/-- The results that are performed are the outcomes of the numbers that are performed, if every
request has a fixed outcome. -/
theorem performed_of_outcome {outcome : Nat → ρ}
    (fixed : ∀ worker number world, (work.perform worker number world).1 = outcome number) :
    h.performed.map Prod.snd = (h.performed.map fun p => p.1.2).map outcome := by
  have hreplay := work.replay_fst_of_outcome fixed world (h.performed.map Prod.fst)
  rw [l.replay] at hreplay
  simpa using hreplay

end Ledger

/-- **Every request is performed exactly once.** In every state of a run no number has been claimed
twice, the claims below the total are the numbers below the counter, the counter has not wrapped
around, no more requests are in flight than there are workers and requests, and the results are
those of sending each performed request with its own body. When nobody can move any more, every
request has been performed once, and its result has been collected. -/
theorem requests_performed_once {total : Nat} (hpos : 1 ≤ workers) (fit : total + workers < 2 ^ 64)
    (bodies : Bodies) (send : (worker number : Nat) → Option Bytes → σ → ρ × σ)
    {movers : List Mover}
    (hrun : (start workers world).after (.ofBodies total bodies send) movers = some h) :
    (h.claims.map Prod.snd).Nodup ∧
      (h.claims.map Prod.snd).filter (· < total) ~ List.range (min h.counter.toNat total) ∧
      h.counter.toNat = h.claims.length ∧
      h.inFlight total ≤ min workers total ∧
      (Work.ofBodies total bodies send).replay world (h.performed.map Prod.fst) =
        (h.performed.map Prod.snd, h.world) ∧
      (Final (.ofBodies total bodies send) h →
        h.collected.length = total ∧
          h.performed.map (fun p => p.1.2) ~ List.range total ∧
          h.collected ~ h.performed.map Prod.snd ∧
          ∀ outcome : Nat → ρ,
            (∀ worker number world,
              (send worker number (bodies.get? number) world).1 = outcome number) →
            h.collected ~ (List.range total).map outcome) := by
  have l : Ledger (.ofBodies total bodies send) workers world h := ledger_of_after fit hrun
  refine ⟨l.nodup_claims, l.filter_claims, l.toNat_counter, l.inFlight_le, l.replay,
    fun hf => ?_⟩
  obtain ⟨-, hnumbers, hresults⟩ := l.complete_of_closed hpos hf.closed
  refine ⟨l.length_collected_of_closed hpos hf.closed, hnumbers, hresults, fun outcome fixed => ?_⟩
  rw [l.performed_of_outcome fixed] at hresults
  exact hresults.trans (hnumbers.map outcome)

/-- A schedule of two workers for three requests: the second one is performed, sent and collected
before the first. -/
def overtaking : List Mover := [
  .worker 0, .worker 1, .worker 1, .worker 1, .collector, .worker 1, .worker 0, .worker 1,
  .worker 0, .worker 1, .worker 0, .worker 0, .worker 1, .worker 1, .collector, .collector,
  .collector]

theorem requests_performed_once_overtaking :
    let echo := Work.ofBodies 3 (.each [[1], [2], [3]]) fun _ number body world =>
      (number, body :: world)
    ∃ h, (start 2 []).after echo overtaking = some h ∧ Final echo h ∧ h.collected = [1, 0, 2] ∧
      h.world = [some [3], some [1], some [2]] ∧ h.collected ~ (List.range 3).map id := by
  intro echo
  have hrun : ∃ h, (start 2 []).after echo overtaking = some h ∧ Final echo h ∧
      h.collected = [1, 0, 2] ∧ h.world = [some [3], some [1], some [2]] :=
    ⟨_, rfl, final_iff.mpr ⟨rfl, rfl⟩, rfl, rfl⟩
  obtain ⟨h, hrun, hf, hcollected, hworld⟩ := hrun
  have once := requests_performed_once (by decide) (by decide) _ _ hrun
  exact ⟨h, hrun, hf, hcollected, hworld,
    (once.2.2.2.2.2 hf).2.2.2 id fun _ _ _ => rfl⟩

end Hall

end HttpLoad
