import Mathlib.Algebra.BigOperators.Group.List.Basic
import Mathlib.Algebra.GroupWithZero.Nat
import HttpLoad.Proofs.Workers.Ledger

/-!
# The run comes to its end, and not too early

How many moves are still to come is known in every state: a request that is not claimed yet takes
four moves until its result is collected, and each worker takes two more to claim a number beyond
the last request and to leave. Every move, whoever makes it, is one of them. So all runs that cannot
go on have the same length, and a run that is shorter can go on.

## Main definitions

* `Hall.movesLeft h total`: how many moves are still to come
* `Hall.Owes h total w`: a worker with a result to come

## Main results

* `Ledger.movesLeft_move`: every move is one of those to come
* `Ledger.finishes`: every run can be completed
* `run_terminates`: no run is stuck, endless, or closed while a result is to come
-/

namespace HttpLoad

variable {σ ρ : Type}

/-- How many moves a worker and its result still take, apart from those for requests that are not
claimed yet. -/
def Stage.movesLeft (total : Nat) : Stage ρ → Nat
  | .ready => 2
  | .claimed number => if number.toNat < total then 5 else 1
  | .holding _ => 4
  | .gone => 0

namespace Hall

open scoped List

variable {work : Work σ ρ} {workers : Nat} {world : σ} {h h' : Hall σ ρ} {mover : Mover}

/-- The moves that workers and their results still take. -/
def workersLeft (h : Hall σ ρ) (total : Nat) : Nat :=
  (h.workers.map fun w => w.stage.movesLeft total).sum

/-- **How many moves are still to come**: four for each request that is not claimed, those of the
workers, one for each result in the channel, and one to stop the collector. -/
def movesLeft (h : Hall σ ρ) (total : Nat) : Nat :=
  4 * (total - h.counter.toNat) + h.workersLeft total + h.channel.length +
    (if h.closed then 0 else 1)

/-- **A worker with a result to come**: it performs a request, holds a result that is not sent, or
can claim a number below the total. -/
def Owes (h : Hall σ ρ) (total : Nat) (w : Worker ρ) : Prop :=
  match w.stage with
  | .ready => h.counter.toNat < total
  | .claimed number => number.toNat < total
  | .holding _ => True
  | .gone => False

theorem Owes.stage_ne_gone {total : Nat} {w : Worker ρ} (ho : h.Owes total w) :
    w.stage ≠ .gone := by
  intro hs
  rw [Owes, hs] at ho
  exact ho

theorem movesLeft_start (total workers : Nat) (world : σ) :
    (start workers world : Hall σ ρ).movesLeft total = 4 * total + 2 * workers + 1 := by
  simp [movesLeft, workersLeft, start, Stage.movesLeft, Nat.mul_comm]

theorem workersLeft_of_set {id : Nat} {w v : Worker ρ} (hw : h.workers[id]? = some w)
    (hv : h'.workers = h.workers.set id v) (total : Nat) :
    w.stage.movesLeft total + h'.workersLeft total =
      v.stage.movesLeft total + h.workersLeft total := by
  have hp := ((set_perm hw v).map fun w => w.stage.movesLeft total).sum_eq
  rw [← hv] at hp
  simpa only [workersLeft, List.map_cons, List.sum_cons] using hp

namespace Ledger

variable (l : Ledger work workers world h)
include l

/-- **Every move is one of those to come**: after it one move less is left. -/
theorem movesLeft_move (fit : work.total + workers < 2 ^ 64) (m : Move work h mover h') :
    h'.movesLeft work.total + 1 = h.movesLeft work.total := by
  cases m with
  | @claim id w hw hs =>
    have hset : _ + (h.claim id w).workersLeft work.total = _ + h.workersLeft work.total :=
      workersLeft_of_set hw rfl work.total
    have hcounter : (h.claim id w).counter.toNat = h.counter.toNat + 1 :=
      l.toNat_counter_add_one hw fit hs
    have hchannel : (h.claim id w).channel = h.channel := rfl
    have hclosed : (h.claim id w).closed = h.closed := rfl
    simp only [hs, Stage.movesLeft] at hset
    simp only [movesLeft, hcounter, hchannel, hclosed]
    split at hset <;> omega
  | @perform id w number hw hs hn =>
    have hset : _ + (h.perform work id number.toNat w).workersLeft work.total =
        _ + h.workersLeft work.total := workersLeft_of_set hw rfl work.total
    have hcounter : (h.perform work id number.toNat w).counter = h.counter := rfl
    have hchannel : (h.perform work id number.toNat w).channel = h.channel := rfl
    have hclosed : (h.perform work id number.toNat w).closed = h.closed := rfl
    simp only [hs, Stage.movesLeft, if_pos hn] at hset
    simp only [movesLeft, hcounter, hchannel, hclosed]
    omega
  | @overshoot id w number hw hs hn =>
    have hset : _ + (h.leave id w).workersLeft work.total = _ + h.workersLeft work.total :=
      workersLeft_of_set hw rfl work.total
    have hcounter : (h.leave id w).counter = h.counter := rfl
    have hchannel : (h.leave id w).channel = h.channel := rfl
    have hclosed : (h.leave id w).closed = h.closed := rfl
    simp only [hs, Stage.movesLeft, if_neg (Nat.not_lt.mpr hn)] at hset
    simp only [movesLeft, hcounter, hchannel, hclosed]
    omega
  | @send id w result hw hs ho =>
    have hset : _ + (h.send id w result).workersLeft work.total = _ + h.workersLeft work.total :=
      workersLeft_of_set hw rfl work.total
    have hcounter : (h.send id w result).counter = h.counter := rfl
    have hchannel : (h.send id w result).channel = h.channel ++ [result] := rfl
    have hclosed : (h.send id w result).closed = h.closed := rfl
    simp only [hs, Stage.movesLeft] at hset
    simp only [movesLeft, hcounter, hchannel, hclosed, List.length_append, List.length_singleton]
    omega
  | giveUp hw hs hc =>
    exact absurd ((l.closed_eq_false hw (by simp [hs])).symm.trans hc) (by simp)
  | collect ho hc =>
    simp only [movesLeft, workersLeft, note, ho, hc, List.length_cons]
    omega
  | close ho hc hg =>
    simp only [movesLeft, workersLeft, note, ho, if_true, Bool.false_eq_true, if_false]

omit l in
/-- **The length of a run** and the moves still to come are together the moves of a whole run. -/
theorem length_add_movesLeft (fit : work.total + workers < 2 ^ 64) {movers : List Mover}
    (hrun : (start workers world).after work movers = some h) :
    movers.length + h.movesLeft work.total = 4 * work.total + 2 * workers + 1 := by
  induction movers using List.reverseRecOn generalizing h with
  | nil =>
    obtain rfl := Option.some.inj hrun
    rw [movesLeft_start, List.length_nil, Nat.zero_add]
  | append_singleton movers mover ih =>
    obtain ⟨before, hbefore, m⟩ := after_snoc_eq_some.mp hrun
    have hmove := (ledger_of_after fit hbefore).movesLeft_move fit m
    have hlength := ih hbefore
    rw [List.length_append, List.length_singleton]
    omega

end Ledger

/-! ## Progress -/

/-- A worker that has left owes nothing, so the collector stops when no result is to come. -/
theorem Ledger.not_owes_of_closed (l : Ledger work workers world h) (hc : h.closed = true)
    {w : Worker ρ} (hw : w ∈ h.workers) : ¬ h.Owes work.total w := fun ho =>
  ho.stage_ne_gone (allGone_iff.mp (l.shut hc).2 w hw)

/-- When the collector has stopped, no move is still to come. -/
theorem Ledger.movesLeft_of_closed (l : Ledger work workers world h) (hpos : 1 ≤ workers)
    (hc : h.closed = true) : h.movesLeft work.total = 0 := by
  have hcounter := (l.complete_of_closed hpos hc).left
  obtain ⟨hchannel, hgone⟩ := l.shut hc
  have hworkers : h.workersLeft work.total = 0 := by
    refine List.sum_eq_zero fun n hn => ?_
    obtain ⟨w, hw, rfl⟩ := List.mem_map.mp hn
    rw [allGone_iff.mp hgone w hw, Stage.movesLeft]
  rw [movesLeft, hworkers, hchannel, if_pos hc, List.length_nil]
  omega

/-- **Every run can be completed**, by induction on the moves still to come. -/
theorem Ledger.finishes (hpos : 1 ≤ workers) (fit : work.total + workers < 2 ^ 64)
    (l : Ledger work workers world h) :
    ∃ movers h', h.after work movers = some h' ∧ Final work h' ∧
      movers.length = h.movesLeft work.total := by
  generalize hleft : h.movesLeft work.total = left
  induction left generalizing h with
  | zero =>
    refine ⟨[], h, rfl, fun mover => ?_, rfl⟩
    by_contra hmover
    obtain ⟨h', hstep⟩ := Option.ne_none_iff_exists'.mp hmover
    have hmove := l.movesLeft_move fit (step?_eq_some_iff.mp hstep)
    omega
  | succ left ih =>
    have hnf : ¬ Final work h := fun hf => by
      have hzero := l.movesLeft_of_closed hpos hf.closed
      omega
    obtain ⟨mover, hmover⟩ := not_forall.mp hnf
    obtain ⟨next, hstep⟩ := Option.ne_none_iff_exists'.mp hmover
    have hmove := l.movesLeft_move fit (step?_eq_some_iff.mp hstep)
    obtain ⟨movers, h', hrun, hf, hlength⟩ :=
      ih (l.move fit (step?_eq_some_iff.mp hstep)) (by omega)
    refine ⟨mover :: movers, h', ?_, hf, by rw [List.length_cons, hlength]⟩
    rw [Hall.after, List.foldl_cons, Option.bind_some, hstep]
    exact hrun

/-- **The run comes to its end, and not too early.** In every state either everybody has left and
the collector has stopped, or somebody can move. The moves made and the moves still to come are
together the same number in every run, so no run is endless, and every run can be completed. When
nobody can move any more, as many numbers have been claimed as there are requests and workers. While
a worker has a result to come, the collector has not stopped and does not stop in its next move, so
when it has stopped it has collected every result. -/
theorem run_terminates (hpos : 1 ≤ workers) (fit : work.total + workers < 2 ^ 64)
    {movers : List Mover} (hrun : (start workers world).after work movers = some h) :
    (h.allGone = true ∧ h.closed = true ∨ ∃ mover h', h.step? work mover = some h') ∧
      movers.length + h.movesLeft work.total = 4 * work.total + 2 * workers + 1 ∧
      (∃ more h', h.after work more = some h' ∧ Final work h') ∧
      (Final work h → movers.length = 4 * work.total + 2 * workers + 1 ∧
        h.claims.length = work.total + workers) ∧
      (∀ w ∈ h.workers, h.Owes work.total w →
        h.closed = false ∧ ∀ h', h.step? work .collector = some h' → h'.closed = false) ∧
      (h.closed = true → h.collected.length = work.total) := by
  have l : Ledger work workers world h := ledger_of_after fit hrun
  have hlength := Ledger.length_add_movesLeft fit hrun
  refine ⟨?_, hlength, ?_, fun hf => ⟨?_, ?_⟩, fun w hw ho => ⟨?_, fun h' hstep => ?_⟩,
    fun hc => ?_⟩
  · by_cases hf : Final work h
    · exact .inl (final_iff.mp hf)
    · obtain ⟨mover, hmover⟩ := not_forall.mp hf
      exact .inr ⟨mover, Option.ne_none_iff_exists'.mp hmover⟩
  · obtain ⟨more, h', hafter, hf, -⟩ := l.finishes hpos fit
    exact ⟨more, h', hafter, hf⟩
  · have hzero := l.movesLeft_of_closed hpos hf.closed
    omega
  · have hclaims := congrArg List.length l.claims
    rw [List.length_map, List.length_reverse, List.length_range] at hclaims
    exact hclaims.trans (l.complete_of_closed hpos hf.closed).left
  · by_contra hc
    exact l.not_owes_of_closed (by simpa using hc) hw ho
  · have l' := l.move fit (step?_eq_some_iff.mp hstep)
    by_contra hc
    have hc : h'.closed = true := by simpa using hc
    cases step?_eq_some_iff.mp hstep with
    | collect _ _ => exact l'.not_owes_of_closed hc hw ho
    | close _ _ _ => exact l'.not_owes_of_closed hc hw ho
  · obtain ⟨-, hnumbers, -⟩ := l.complete_of_closed hpos hc
    have hperformed := hnumbers.length_eq
    rw [List.length_map, List.length_range] at hperformed
    have hcollected := l.length_collected_of_closed hpos hc
    omega

/-- One request and two workers: the second worker has left already, and the channel is empty, but
the collector waits for the first. -/
theorem run_terminates_waiting :
    let echo : Work Unit Nat := ⟨1, fun _ number world => (number, world)⟩
    ∃ h, (start 2 ()).after echo [.worker 0, .worker 1, .worker 1] = some h ∧
      h.step? echo .collector = none ∧ 3 + h.movesLeft 1 = 9 ∧
      ∃ more h', h.after echo more = some h' ∧ Final echo h' := by
  intro echo
  have hrun : ∃ h, (start 2 ()).after echo [.worker 0, .worker 1, .worker 1] = some h ∧
      h.step? echo .collector = none := ⟨_, rfl, rfl⟩
  obtain ⟨h, hrun, hwait⟩ := hrun
  have hends := run_terminates (by decide) (by decide) hrun
  exact ⟨h, hrun, hwait, hends.2.1, hends.2.2.1⟩

end Hall

end HttpLoad
