import Mathlib.Logic.Relation
import HttpLoad.Proofs.Program.Plans
import HttpLoad.Proofs.Workers.Turns

/-!
# The course of a run

A run is followed from its first warm-up request to the last move of its workers. Warm-up requests
begin and end one after the other; when there are none left, measuring starts, and from then on the
workers and the collector move in any order. Every request leaves two marks in the trace of the
course: one when it begins, and one when it ends with its result.

## Main definitions

* `Sending`, `Mark`: a request that a client sends, and its beginning or its end
* `inFlight trace`: the requests that have begun and have not ended
* `Course`, `Course.Step net plan pool`: where a run stands, and what can happen next
* `Course.Kept net plan pool s`: what is known of the course of a run from the state `s` on

## Main results

* `Course.kept_of_reachable`: every step keeps what is known, so every course does
* `Course.reachable_of_prefix`: what was in the trace at some time was the trace then
* `Course.reachable_finish`: the run in turns is the end of a course
-/

namespace HttpLoad

/-! ## Requests in a trace -/

/-- **A request that a client sends**: whether it is measured, and its number and its body. -/
structure Sending where
  measured : Bool
  client : Nat
  number : Nat
  body : Option Bytes
deriving DecidableEq

/-- **A mark in a trace**: a request begins, or it ends with its result. -/
inductive Mark where
  | begun (sending : Sending)
  | ended (sending : Sending) (result : Performed)

/-- The request that a mark is about. -/
def Mark.sending : Mark → Sending
  | .begun sending => sending
  | .ended sending _ => sending

/-- The requests in flight after a mark. -/
def Mark.track (flying : List Sending) : Mark → List Sending
  | .begun sending => sending :: flying
  | .ended sending _ => flying.erase sending

/-- **The requests in flight** after a trace: they have begun and have not ended. -/
def inFlight (trace : List Mark) : List Sending := trace.foldl Mark.track []

theorem inFlight_snoc (trace : List Mark) (mark : Mark) :
    inFlight (trace ++ [mark]) = mark.track (inFlight trace) := by
  rw [inFlight, List.foldl_append]
  rfl

/-- What a measured mark leaves in flight is measured. -/
theorem Mark.measured_of_mem_track {mark : Mark} {flying : List Sending}
    (hmark : mark.sending.measured = true) (hflying : ∀ sending ∈ flying, sending.measured = true) :
    ∀ sending ∈ mark.track flying, sending.measured = true := by
  intro sending hsending
  cases mark with
  | begun begun =>
    rcases List.mem_cons.mp hsending with rfl | hsending
    · exact hmark
    · exact hflying sending hsending
  | ended ended result => exact hflying sending (List.mem_of_mem_erase hsending)

namespace RunPlan

/-- The warm-up request with a number, as it is dealt to a client. -/
def warmUpSending (plan : RunPlan) (pool : ClientPool) (number : Nat) : Sending where
  measured := false
  client := pool.dealt number
  number := number
  body := plan.bodies.get? number

/-- The measured request with a number, as a client sends it. -/
def measuredSending (plan : RunPlan) (client number : Nat) : Sending where
  measured := true
  client := client
  number := number
  body := plan.bodies.get? number

/-- **The mark of an event**: a request begins when its number is claimed, and ends when it has been
performed. -/
def mark? (plan : RunPlan) : Event Performed → Option Mark
  | .claimed worker number =>
    if number.toNat < plan.total then some (.begun (plan.measuredSending worker number.toNat))
    else none
  | .performed worker number result => some (.ended (plan.measuredSending worker number) result)
  | _ => none

/-- The marks of a warm-up request. -/
def marksOf (plan : RunPlan) (pool : ClientPool) (w : WarmUp) : List Mark :=
  [.begun (plan.warmUpSending pool w.number), .ended (plan.warmUpSending pool w.number) w.result]

/-- **The marks of warm-up requests** that are sent one after the other. -/
def warmUpMarks (plan : RunPlan) (pool : ClientPool) (warmUps : List WarmUp) : List Mark :=
  warmUps.flatMap (plan.marksOf pool)

/-- The marks of what has happened among the workers. -/
def marks (plan : RunPlan) (history : List (Event Performed)) : List Mark :=
  history.reverse.filterMap plan.mark?

theorem marks_cons (plan : RunPlan) (e : Event Performed) (history : List (Event Performed)) :
    plan.marks (e :: history) = plan.marks history ++ (plan.mark? e).toList := by
  rw [marks, marks, List.reverse_cons, List.filterMap_append]
  cases h : plan.mark? e with
  | none => rw [List.filterMap_cons_none h, List.filterMap_nil, Option.toList_none]
  | some mark => rw [List.filterMap_cons_some h, List.filterMap_nil, Option.toList_some]

theorem mark?_measured {plan : RunPlan} {e : Event Performed} {mark : Mark}
    (h : plan.mark? e = some mark) : mark.sending.measured = true := by
  cases e with
  | claimed worker number =>
    rw [mark?] at h
    split at h
    · obtain rfl := Option.some.inj h
      rfl
    · cases h
  | performed worker number result =>
    obtain rfl := Option.some.inj h
    rfl
  | sent | left | collected | closed => cases h

theorem marks_measured (plan : RunPlan) (history : List (Event Performed)) :
    ∀ mark ∈ plan.marks history, mark.sending.measured = true := by
  intro mark hmark
  obtain ⟨e, -, he⟩ := List.mem_filterMap.mp hmark
  exact mark?_measured he

/-! ## Warm-up requests, one more at the end -/

section

variable {σ : Type} (net : Network σ) (plan : RunPlan) (pool : ClientPool)

/-- One warm-up request more is sent after the others. -/
theorem warmUpFrom_succ (number left : Nat) (s : σ) :
    plan.warmUpFrom net pool number (left + 1) s =
      ((plan.warmUpFrom net pool number left s).1 ++ [⟨pool.dealt (number + left), number + left,
          (plan.send net (number + left) (plan.warmUpFrom net pool number left s).2).1⟩],
        (plan.send net (number + left) (plan.warmUpFrom net pool number left s).2).2) := by
  induction left generalizing number s with
  | zero => rfl
  | succ left ih =>
    rw [warmUpFrom_cons, ih, warmUpFrom_cons net plan pool number left s]
    simp only [List.cons_append, Nat.add_assoc, Nat.add_comm 1 left]

/-- The first warm-up requests are those of a plan with fewer of them. -/
theorem warmUpFrom_prefix {n m : Nat} (hle : n ≤ m) (s : σ) :
    (plan.warmUpFrom net pool 0 n s).1 <+: (plan.warmUpFrom net pool 0 m s).1 := by
  obtain ⟨more, rfl⟩ := Nat.exists_eq_add_of_le hle
  clear hle
  induction more with
  | zero => exact List.prefix_refl _
  | succ more ih =>
    rw [← Nat.add_assoc, warmUpFrom_succ]
    exact ih.trans (List.prefix_append _ _)

end

end RunPlan

/-- **A request is sent as planned**: with the body of its number, and it ends with a result that
the network gives for that body. -/
def Mark.Planned {σ : Type} (net : Network σ) (plan : RunPlan) : Mark → Prop
  | .begun sending => sending.body = plan.bodies.get? sending.number
  | .ended sending result => sending.body = plan.bodies.get? sending.number ∧
      ∃ world, result = (Client.execute net plan.request sending.body world).1

/-! ## The course of a run -/

/-- **Where a run stands.** -/
inductive Phase (σ : Type) where
  /-- Before the warm-up request with a number. -/
  | between (next : Nat) (world : σ)
  /-- The warm-up request with a number is on its way. -/
  | warming (number : Nat) (world : σ)
  | measuring (hall : Hall σ Performed)

/-- **The course of a run so far**: where the run stands, and its marks, the oldest first. -/
structure Course (σ : Type) where
  phase : Phase σ
  trace : List Mark

namespace Course

variable {σ : Type}

/-- The start of a run. -/
def start (s : σ) : Course σ := ⟨.between 0 s, []⟩

/-- **What can happen next**: warm-up requests are sent one after the other, then measuring starts,
and then anybody who can move among the workers moves. -/
inductive Step (net : Network σ) (plan : RunPlan) (pool : ClientPool) : Course σ → Course σ → Prop
  | begin {next : Nat} {world : σ} {trace : List Mark} (hn : next < plan.warmUps) :
      Step net plan pool ⟨.between next world, trace⟩
        ⟨.warming next world, trace ++ [.begun (plan.warmUpSending pool next)]⟩
  | finish {number : Nat} {world : σ} {trace : List Mark} :
      Step net plan pool ⟨.warming number world, trace⟩
        ⟨.between (number + 1) (plan.send net number world).2,
          trace ++ [.ended (plan.warmUpSending pool number) (plan.send net number world).1]⟩
  | measure {next : Nat} {world : σ} {trace : List Mark} (hn : plan.warmUps ≤ next) :
      Step net plan pool ⟨.between next world, trace⟩
        ⟨.measuring (Hall.start pool.size world), trace⟩
  | move {hall hall' : Hall σ Performed} {mover : Mover} {e : Event Performed} {trace : List Mark}
      (m : Hall.Move (plan.work net) hall mover hall') (he : hall'.history = e :: hall.history) :
      Step net plan pool ⟨.measuring hall, trace⟩
        ⟨.measuring hall', trace ++ (plan.mark? e).toList⟩

/-- **Some steps lead from one course to another.** -/
def Reachable (net : Network σ) (plan : RunPlan) (pool : ClientPool) : Course σ → Course σ → Prop :=
  Relation.ReflTransGen (Step net plan pool)

variable {net : Network σ} {plan : RunPlan} {pool : ClientPool} {s : σ} {c c' : Course σ}

/-- A step adds one mark at most. -/
theorem Step.trace (h : Step net plan pool c c') : ∃ mark : Option Mark,
    c'.trace = c.trace ++ mark.toList := by
  cases h with
  | begin hn => exact ⟨some _, rfl⟩
  | finish => exact ⟨some _, rfl⟩
  | measure hn => exact ⟨none, (List.append_nil _).symm⟩
  | move m he => exact ⟨_, rfl⟩

/-- **What was in the trace at some time was the trace then.** -/
theorem reachable_of_prefix (hreach : Reachable net plan pool (start s) c) {before : List Mark}
    (hbefore : before <+: c.trace) :
    ∃ earlier, Reachable net plan pool (start s) earlier ∧ earlier.trace = before := by
  induction hreach with
  | refl => exact ⟨start s, .refl, (List.prefix_nil.mp hbefore).symm⟩
  | @tail c c' hc step ih =>
    obtain ⟨mark, hmark⟩ := step.trace
    rw [hmark] at hbefore
    cases mark with
    | none => exact ih (by simpa using hbefore)
    | some mark =>
      rcases List.prefix_concat_iff.mp hbefore with rfl | hbefore
      · exact ⟨c', hc.tail step, hmark⟩
      · exact ih hbefore

/-! ## What is known of a course -/

/-- **What is known of the course of a run** from a state on: before measuring, the trace is that of
the warm-up requests so far, and the one on its way is alone; then the workers have started where
the last warm-up request ended, and only measured requests are in flight. -/
inductive Kept (net : Network σ) (plan : RunPlan) (pool : ClientPool) (s : σ) : Course σ → Prop
  | between {next : Nat} {world : σ} {trace : List Mark} (hn : next ≤ plan.warmUps)
      (hworld : world = (plan.warmUpFrom net pool 0 next s).2)
      (htrace : trace = plan.warmUpMarks pool (plan.warmUpFrom net pool 0 next s).1)
      (hflight : inFlight trace = []) :
      Kept net plan pool s ⟨.between next world, trace⟩
  | warming {number : Nat} {world : σ} {trace : List Mark} (hn : number < plan.warmUps)
      (hworld : world = (plan.warmUpFrom net pool 0 number s).2)
      (htrace : trace = plan.warmUpMarks pool (plan.warmUpFrom net pool 0 number s).1 ++
        [.begun (plan.warmUpSending pool number)])
      (hflight : inFlight trace = [plan.warmUpSending pool number]) :
      Kept net plan pool s ⟨.warming number world, trace⟩
  | measuring {hall : Hall σ Performed} {trace : List Mark}
      (hhall : Hall.Reaches (plan.work net) (Hall.start pool.size (plan.warmUp net pool s).2) hall)
      (htrace : trace = plan.warmUpMarks pool (plan.warmUp net pool s).1 ++ plan.marks hall.history)
      (hflight : ∀ sending ∈ inFlight trace, sending.measured = true) :
      Kept net plan pool s ⟨.measuring hall, trace⟩

/-- **Every step keeps what is known.** -/
theorem Kept.step (k : Kept net plan pool s c) (h : Step net plan pool c c') :
    Kept net plan pool s c' := by
  cases h with
  | begin hn =>
    cases k with
    | between hle hworld htrace hflight =>
      refine .warming hn hworld (by rw [htrace]) ?_
      rw [inFlight_snoc, hflight]
      rfl
  | @finish number world trace =>
    cases k with
    | warming hn hworld htrace hflight =>
      have hmore := plan.warmUpFrom_succ net pool 0 number s
      rw [Nat.zero_add] at hmore
      refine .between hn ?_ ?_ ?_
      · rw [hmore, hworld]
      · rw [htrace, hmore, hworld, RunPlan.warmUpMarks, RunPlan.warmUpMarks, List.flatMap_append,
          List.append_assoc]
        rfl
      · rw [inFlight_snoc, hflight]
        exact List.erase_cons_head (plan.warmUpSending pool number) []
  | measure hn =>
    cases k with
    | between hle hworld htrace hflight =>
      obtain rfl := Nat.le_antisymm hle hn
      refine .measuring ?_ ?_ ?_
      · rw [hworld]
        exact .refl _ _
      · rw [htrace]
        exact (List.append_nil _).symm
      · rw [hflight]
        exact fun sending hsending => absurd hsending List.not_mem_nil
  | @move hall hall' mover e trace m he =>
    cases k with
    | measuring hhall htrace hflight =>
      refine .measuring (hhall.trans ⟨[mover], m.step?⟩) ?_ ?_
      · rw [htrace, he, RunPlan.marks_cons, List.append_assoc]
      · cases hmark : plan.mark? e with
        | none => simpa using hflight
        | some mark =>
          rw [Option.toList_some, inFlight_snoc]
          exact Mark.measured_of_mem_track (RunPlan.mark?_measured hmark) hflight

/-- **What is known holds of every course.** -/
theorem kept_of_reachable (hreach : Reachable net plan pool (start s) c) :
    Kept net plan pool s c := by
  induction hreach with
  | refl => exact .between (Nat.zero_le _) rfl rfl rfl
  | tail _ step ih => exact ih.step step

/-! ## What is sent -/

/-- A move of the workers leaves a mark of a request that is sent as planned. -/
theorem planned_of_move {hall hall' : Hall σ Performed} {mover : Mover} {e : Event Performed}
    (m : Hall.Move (plan.work net) hall mover hall') (he : hall'.history = e :: hall.history)
    {mark : Mark} (hmark : plan.mark? e = some mark) : mark.Planned net plan := by
  cases e with
  | claimed worker number =>
    rw [RunPlan.mark?] at hmark
    split at hmark
    · obtain rfl := Option.some.inj hmark
      rfl
    · cases hmark
  | performed worker number result =>
    obtain rfl := Option.some.inj hmark
    refine ⟨rfl, hall.world, ?_⟩
    cases m with
    | perform hw hs hn =>
      injection (List.cons.inj he).1 with _ hnumber hresult
      rw [← hresult, ← hnumber]
      rfl
    | claim | overshoot | send | giveUp | collect | close => cases (List.cons.inj he).1
  | sent | left | collected | closed => cases hmark

theorem Step.planned (h : Step net plan pool c c') (hc : ∀ mark ∈ c.trace, mark.Planned net plan) :
    ∀ mark ∈ c'.trace, mark.Planned net plan := by
  intro mark hmark
  cases h with
  | begin hn =>
    rcases List.mem_append.mp hmark with hmark | hmark
    · exact hc mark hmark
    · obtain rfl := List.mem_singleton.mp hmark
      rfl
  | @finish number world trace =>
    rcases List.mem_append.mp hmark with hmark | hmark
    · exact hc mark hmark
    · obtain rfl := List.mem_singleton.mp hmark
      exact ⟨rfl, world, rfl⟩
  | measure hn => exact hc mark hmark
  | move m he =>
    rcases List.mem_append.mp hmark with hmark | hmark
    · exact hc mark hmark
    · exact planned_of_move m he (Option.mem_toList.mp hmark)

/-- **Every request of a course is sent as planned.** -/
theorem planned_of_reachable (hreach : Reachable net plan pool (start s) c) :
    ∀ mark ∈ c.trace, mark.Planned net plan := by
  induction hreach with
  | refl => exact fun mark hmark => absurd hmark List.not_mem_nil
  | tail _ step ih => exact step.planned ih

/-! ## The run in turns is the end of a course -/

/-- The warm-up requests can be sent one after the other. -/
theorem reachable_between (net : Network σ) (pool : ClientPool) (s : σ) {next : Nat}
    (hn : next ≤ plan.warmUps) : ∃ trace, Reachable net plan pool (start s)
      ⟨.between next (plan.warmUpFrom net pool 0 next s).2, trace⟩ := by
  induction next with
  | zero => exact ⟨[], .refl⟩
  | succ next ih =>
    obtain ⟨trace, hreach⟩ := ih (Nat.le_of_succ_le hn)
    have hmore := congrArg Prod.snd (plan.warmUpFrom_succ net pool 0 next s)
    rw [Nat.zero_add] at hmore
    rw [hmore]
    exact ⟨_, (hreach.tail (.begin hn)).tail .finish⟩

/-- The workers can make the moves of any of their runs. -/
theorem reachable_moves {hall hall' : Hall σ Performed} {trace : List Mark}
    (hmoves : Hall.Reaches (plan.work net) hall hall')
    (hreach : Reachable net plan pool c ⟨.measuring hall, trace⟩) :
    ∃ trace', Reachable net plan pool c ⟨.measuring hall', trace'⟩ := by
  obtain ⟨movers, hrun⟩ := hmoves
  -- a run of the workers goes on at its end, as a course does
  induction movers using List.reverseRecOn generalizing hall' with
  | nil =>
    obtain rfl := Option.some.inj hrun
    exact ⟨trace, hreach⟩
  | append_singleton movers mover ih =>
    obtain ⟨between, hbefore, m⟩ := Hall.after_snoc_eq_some.mp hrun
    obtain ⟨trace', hbetween⟩ := ih hbefore
    obtain ⟨e, he⟩ := m.exists_event
    exact ⟨_, hbetween.tail (.move m he)⟩

/-- **The run in turns is the end of a course.** -/
theorem reachable_finish (net : Network σ) (plan : RunPlan) (pool : ClientPool) (s : σ) :
    ∃ trace, Reachable net plan pool (start s)
      ⟨.measuring (plan.measure net pool (plan.warmUp net pool s).2), trace⟩ := by
  obtain ⟨trace, hreach⟩ := reachable_between net pool s (Nat.le_refl plan.warmUps)
  exact reachable_moves (Hall.reaches_turns _ _ _) (hreach.tail (.measure (Nat.le_refl _)))

end Course

end HttpLoad
