import Mathlib.Data.List.Induction
import HttpLoad.Run.Workers

/-!
# The moves of a hall

The step function of a hall is read as a relation with a constructor for each thing that can happen,
and a run is what a sequence of movers leads to. An invariant is proved once for each constructor.

## Main definitions

* `Hall.Move work h mover h'`: from `h` the mover gets to `h'`
* `Hall.after work h movers`: the state after the movers have moved in turn, if each of them could
* `Hall.Final work h`: nobody can move

## Main results

* `step?_eq_some_iff`: the relation is the step function
* `after_invariant`: what every move preserves holds after every run
* `final_iff`: nobody can move exactly when everybody has left and the collector has stopped
-/

namespace HttpLoad.Hall

variable {σ ρ : Type} {work : Work σ ρ} {h h' h₀ : Hall σ ρ}

/-- **A move, by what happens in it.** -/
inductive Move (work : Work σ ρ) (h : Hall σ ρ) : Mover → Hall σ ρ → Prop
  | claim {id : Nat} {w : Worker ρ} (hw : h.workers[id]? = some w) (hs : w.stage = .ready) :
      Move work h (.worker id) (h.claim id w)
  | perform {id : Nat} {w : Worker ρ} {number : UInt64} (hw : h.workers[id]? = some w)
      (hs : w.stage = .claimed number) (hn : number.toNat < work.total) :
      Move work h (.worker id) (h.perform work id number.toNat w)
  | overshoot {id : Nat} {w : Worker ρ} {number : UInt64} (hw : h.workers[id]? = some w)
      (hs : w.stage = .claimed number) (hn : work.total ≤ number.toNat) :
      Move work h (.worker id) (h.leave id w)
  | send {id : Nat} {w : Worker ρ} {result : ρ} (hw : h.workers[id]? = some w)
      (hs : w.stage = .holding result) (ho : h.closed = false) :
      Move work h (.worker id) (h.send id w result)
  | giveUp {id : Nat} {w : Worker ρ} {result : ρ} (hw : h.workers[id]? = some w)
      (hs : w.stage = .holding result) (hc : h.closed = true) :
      Move work h (.worker id) (h.leave id w)
  | collect {result : ρ} {rest : List ρ} (ho : h.closed = false)
      (hc : h.channel = result :: rest) :
      Move work h .collector
        ({ h with channel := rest, collected := h.collected ++ [result] }.note (.collected result))
  | close (ho : h.closed = false) (hc : h.channel = []) (hg : h.allGone = true) :
      Move work h .collector ({ h with closed := true }.note .closed)

theorem Move.step? {mover : Mover} (m : Move work h mover h') : h.step? work mover = some h' := by
  cases m with
  | claim hw hs =>
    simp only [Hall.step?, workerStep?, hw, Worker.deedWith?, hs]
    rfl
  | perform hw hs hn =>
    simp only [Hall.step?, workerStep?, hw, Worker.deedWith?, hs, if_pos hn]
    rfl
  | overshoot hw hs hn =>
    simp only [Hall.step?, workerStep?, hw, Worker.deedWith?, hs, if_neg (Nat.not_lt.mpr hn)]
    rfl
  | send hw hs ho =>
    have hopen : ¬h.closed = true := by simp [ho]
    simp only [Hall.step?, workerStep?, hw, Worker.deedWith?, hs, if_neg hopen]
    rfl
  | giveUp hw hs hc =>
    simp only [Hall.step?, workerStep?, hw, Worker.deedWith?, hs, if_pos hc]
    rfl
  | collect ho hc => simp [Hall.step?, collectorStep?, ho, hc]
  | close ho hc hg => simp [Hall.step?, collectorStep?, ho, hc, hg]

/-- A worker that has left does not move. -/
theorem workerStep?_of_gone {id : Nat} {w : Worker ρ} (hw : h.workers[id]? = some w)
    (hs : w.stage = .gone) : h.workerStep? work id = none := by
  simp only [workerStep?, hw, Worker.deedWith?, hs]
  rfl

theorem Move.of_workerStep? {id : Nat} (hs : h.workerStep? work id = some h') :
    Move work h (.worker id) h' := by
  cases hw : h.workers[id]? with
  | none => simp [workerStep?, hw] at hs
  | some w =>
    -- the stage of a worker decides which move it makes, and there is one move of each mover
    have hunique {other : Hall σ ρ} (m : Move work h (.worker id) other) :
        Move work h (.worker id) h' := by
      obtain rfl : other = h' := Option.some.inj (m.step?.symm.trans hs)
      exact m
    cases hst : w.stage with
    | ready => exact hunique (.claim hw hst)
    | claimed number =>
      by_cases hn : number.toNat < work.total
      · exact hunique (.perform hw hst hn)
      · exact hunique (.overshoot hw hst (Nat.not_lt.mp hn))
    | holding result =>
      cases hc : h.closed with
      | true => exact hunique (.giveUp hw hst hc)
      | false => exact hunique (.send hw hst hc)
    | gone => exact nomatch (workerStep?_of_gone hw hst).symm.trans hs

theorem Move.of_collectorStep? (hs : h.collectorStep? = some h') : Move work h .collector h' := by
  unfold collectorStep? at hs
  split at hs
  next => simp at hs
  next ho =>
    have ho : h.closed = false := by simpa using ho
    split at hs
    next hc => exact Option.some.inj hs ▸ .collect ho hc
    next hc =>
      split at hs
      next hg => exact Option.some.inj hs ▸ .close ho hc hg
      next => simp at hs

/-- **The relation is the step function.** -/
theorem step?_eq_some_iff {mover : Mover} :
    h.step? work mover = some h' ↔ Move work h mover h' := by
  refine ⟨fun hs => ?_, Move.step?⟩
  cases mover with
  | worker id => exact .of_workerStep? hs
  | collector => exact .of_collectorStep? hs

/-- A move is one event. -/
theorem Move.exists_event {mover : Mover} (m : Move work h mover h') :
    ∃ e, h'.history = e :: h.history := by
  cases m <;> exact ⟨_, rfl⟩

/-! ## Runs -/

/-- **The state after the movers have moved in turn**, if each of them could. -/
def after (work : Work σ ρ) (h : Hall σ ρ) (movers : List Mover) : Option (Hall σ ρ) :=
  movers.foldl (fun h mover => h.bind fun h => h.step? work mover) (some h)

@[simp] theorem after_nil : h.after work [] = some h := rfl

theorem after_snoc (movers : List Mover) (mover : Mover) :
    h.after work (movers ++ [mover]) = (h.after work movers).bind fun h => h.step? work mover := by
  simp only [after, List.foldl_append, List.foldl_cons, List.foldl_nil]

theorem after_snoc_eq_some {movers : List Mover} {mover : Mover} :
    h₀.after work (movers ++ [mover]) = some h' ↔
      ∃ h, h₀.after work movers = some h ∧ Move work h mover h' := by
  rw [after_snoc, Option.bind_eq_some_iff]
  simp only [step?_eq_some_iff]

/-- **What every move preserves holds after every run**, if it holds at its start. -/
theorem after_invariant {P : Hall σ ρ → Prop} (start : P h₀)
    (move : ∀ {h mover h'}, P h → Move work h mover h' → P h') {movers : List Mover}
    (hrun : h₀.after work movers = some h) : P h := by
  induction movers using List.reverseRecOn generalizing h with
  | nil => exact Option.some.inj hrun ▸ start
  | append_singleton movers mover ih =>
    obtain ⟨h₁, hrun, m⟩ := after_snoc_eq_some.mp hrun
    exact move (ih hrun) m

/-! ## Final states -/

/-- Nobody can move. -/
def Final (work : Work σ ρ) (h : Hall σ ρ) : Prop := ∀ mover, h.step? work mover = none

theorem allGone_iff : h.allGone = true ↔ ∀ w ∈ h.workers, w.stage = .gone := by
  simp only [allGone, List.all_eq_true]
  refine forall₂_congr fun w _ => ?_
  cases w.stage <;> simp

/-- A worker that has not left can move. -/
theorem exists_move_of_stage_ne_gone (work : Work σ ρ) {id : Nat} {w : Worker ρ}
    (hw : h.workers[id]? = some w) (hg : w.stage ≠ .gone) : ∃ h', Move work h (.worker id) h' := by
  cases hs : w.stage with
  | ready => exact ⟨_, .claim hw hs⟩
  | claimed number =>
    by_cases hn : number.toNat < work.total
    · exact ⟨_, .perform hw hs hn⟩
    · exact ⟨_, .overshoot hw hs (Nat.not_lt.mp hn)⟩
  | holding result =>
    cases hc : h.closed with
    | true => exact ⟨_, .giveUp hw hs hc⟩
    | false => exact ⟨_, .send hw hs hc⟩
  | gone => exact absurd hs hg

theorem Final.not_move (hf : Final work h) {mover : Mover} : ¬ Move work h mover h' := fun m =>
  absurd m.step? (by simp [hf mover])

theorem Final.allGone (hf : Final work h) : h.allGone = true := by
  rw [allGone_iff]
  intro w hw
  obtain ⟨id, hid⟩ := List.mem_iff_getElem?.mp hw
  by_contra hg
  obtain ⟨h', m⟩ := exists_move_of_stage_ne_gone work hid hg
  exact hf.not_move m

/-- **When nobody can move, the collector has stopped.** -/
theorem Final.closed (hf : Final work h) : h.closed = true := by
  by_contra ho
  have ho : h.closed = false := by simpa using ho
  cases hc : h.channel with
  | nil => exact hf.not_move (.close ho hc hf.allGone)
  | cons result rest => exact hf.not_move (.collect ho hc)

/-- Nobody can move exactly when everybody has left and the collector has stopped. -/
theorem final_iff : Final work h ↔ h.allGone = true ∧ h.closed = true := by
  refine ⟨fun hf => ⟨hf.allGone, hf.closed⟩, ?_⟩
  rintro ⟨hg, hc⟩ (id | _)
  · cases hw : h.workers[id]? with
    | none => simp [step?, workerStep?, hw]
    | some w => exact workerStep?_of_gone hw (allGone_iff.mp hg w (List.mem_of_getElem? hw))
  · simp [step?, collectorStep?, hc]

end HttpLoad.Hall
