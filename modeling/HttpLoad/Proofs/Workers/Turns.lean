import HttpLoad.Proofs.Workers.Termination

/-!
# Taking turns brings a run to its end

A run in turns is one of the runs: each worker moves if it can, and the collector after it. In every
turn a worker moves, as long as there is one that has not left, so the turns that are given suffice.
What each turn uses up is the number of moves that workers still have to make. The collector empties
the channel after every move, so it can stop as soon as the last worker has left.

## Main definitions

* `Hall.Reaches work h h'`: some movers lead from `h` to `h'`
* `Hall.round work h id`: a move of a worker, and one of the collector
* `Hall.effort h total`: what the moves of the collector leave as it is, and those of a worker lower
* `Hall.Tidy work workers world h`: the ledger, with an empty channel

## Main results

* `Tidy.turn`: a turn lowers the effort, or the collector has stopped after it
* `final_finish`: the run in turns is a run, and nobody can move at its end
-/

namespace HttpLoad

/-- A worker that has a request has at least one move to make. -/
theorem Stage.isBusy_le_movesLeft {ρ : Type} (total : Nat) (stage : Stage ρ) :
    (if stage.isBusy total then 1 else 0) ≤ stage.movesLeft total := by
  cases stage with
  | claimed number => by_cases hn : number.toNat < total <;> simp [isBusy, movesLeft, hn]
  | ready | holding | gone => simp [isBusy, movesLeft]

namespace Hall

variable {σ ρ : Type} {work : Work σ ρ} {workers : Nat} {world : σ} {h h' h'' : Hall σ ρ}

/-! ## Turns are moves -/

/-- **Some movers lead from one state to another.** -/
def Reaches (work : Work σ ρ) (h h' : Hall σ ρ) : Prop := ∃ movers, h.after work movers = some h'

theorem Reaches.refl (work : Work σ ρ) (h : Hall σ ρ) : Reaches work h h := ⟨[], rfl⟩

theorem Reaches.trans (hr : Reaches work h h') (hr' : Reaches work h' h'') :
    Reaches work h h'' := by
  obtain ⟨movers, hrun⟩ := hr
  obtain ⟨more, hmore⟩ := hr'
  refine ⟨movers ++ more, ?_⟩
  rw [after, List.foldl_append]
  rw [after] at hrun
  rw [hrun]
  exact hmore

/-- Whoever is asked to move makes one of the moves, or leaves everything as it is. -/
theorem advance_cases (work : Work σ ρ) (h : Hall σ ρ) (mover : Mover) :
    (h.step? work mover = none ∧ h.advance work mover = h) ∨
      Move work h mover (h.advance work mover) := by
  cases hs : h.step? work mover with
  | none => exact .inl ⟨rfl, by rw [advance, hs, Option.getD_none]⟩
  | some next =>
    refine .inr (step?_eq_some_iff.mp ?_)
    rw [advance, hs, Option.getD_some]

theorem reaches_advance (work : Work σ ρ) (h : Hall σ ρ) (mover : Mover) :
    Reaches work h (h.advance work mover) := by
  rcases advance_cases work h mover with ⟨-, hstays⟩ | m
  · rw [hstays]
    exact .refl work h
  · exact ⟨[mover], m.step?⟩

/-- A move of a worker, and one of the collector. -/
def round (work : Work σ ρ) (h : Hall σ ρ) (id : Nat) : Hall σ ρ :=
  (h.advance work (.worker id)).advance work .collector

theorem turn_eq (work : Work σ ρ) (h : Hall σ ρ) :
    h.turn work = ((List.range h.workers.length).foldl (round work) h).advance work .collector :=
  rfl

theorem reaches_rounds (work : Work σ ρ) (ids : List Nat) (h : Hall σ ρ) :
    Reaches work h (ids.foldl (round work) h) := by
  induction ids generalizing h with
  | nil => exact .refl work h
  | cons id ids ih =>
    exact ((reaches_advance work h _).trans (reaches_advance work _ _)).trans (ih (h.round work id))

theorem reaches_turns (work : Work σ ρ) (left : Nat) (h : Hall σ ρ) :
    Reaches work h (h.turns work left) := by
  induction left generalizing h with
  | zero => exact .refl work h
  | succ left ih =>
    rw [turns]
    split
    · exact .refl work h
    · exact ((reaches_rounds work _ h).trans (reaches_advance work _ _)).trans (ih (h.turn work))

/-! ## What a turn uses up -/

/-- **The effort**: the moves still to come, with the moves that the collector has made. -/
def effort (h : Hall σ ρ) (total : Nat) : Nat :=
  h.movesLeft total + h.collected.length + if h.closed then 1 else 0

theorem effort_start (total workers : Nat) (world : σ) :
    (start workers world : Hall σ ρ).effort total = 4 * total + 2 * workers + 1 := by
  rw [effort, movesLeft_start]
  rfl

theorem inFlight_le_workersLeft (h : Hall σ ρ) (total : Nat) :
    h.inFlight total ≤ h.workersLeft total := by
  rw [inFlight, workersLeft]
  induction h.workers with
  | nil => exact Nat.le_refl 0
  | cons w ws ih =>
    rw [List.countP_cons, List.map_cons, List.sum_cons, Nat.add_comm]
    exact Nat.add_le_add (w.stage.isBusy_le_movesLeft total) ih

namespace Ledger

variable (l : Ledger work workers world h)
include l

/-- Every result still has to be collected or has been, and the collector has to stop or has
stopped. -/
theorem total_lt_effort : work.total < h.effort work.total := by
  have hflight := inFlight_le_workersLeft h work.total
  have hnumbers := l.length_pending_add
  have hresults := l.length_held_add
  rw [inFlight_eq] at hflight
  rw [effort, movesLeft]
  split <;> omega

/-- The collector's moves are counted in the effort, whether they are made or to come. -/
theorem effort_collector (fit : work.total + workers < 2 ^ 64) (m : Move work h .collector h') :
    h'.effort work.total = h.effort work.total := by
  have hmove := l.movesLeft_move fit m
  rw [effort, effort]
  cases m with
  | collect ho hc =>
    simp only [note, ho, List.length_append, List.length_singleton] at hmove ⊢
    omega
  | close ho hc hg =>
    simp only [note, ho, if_true, Bool.false_eq_true, if_false] at hmove ⊢
    omega

/-- A worker's move lowers the effort. -/
theorem effort_worker {id : Nat} (fit : work.total + workers < 2 ^ 64)
    (m : Move work h (.worker id) h') : h'.effort work.total + 1 = h.effort work.total := by
  have hmove := l.movesLeft_move fit m
  have hkept : h'.collected = h.collected ∧ h'.closed = h.closed := by
    cases m <;> exact ⟨rfl, rfl⟩
  rw [effort, effort, hkept.1, hkept.2]
  omega

end Ledger

namespace Ledger

variable (l : Ledger work workers world h) (fit : work.total + workers < 2 ^ 64)
include l fit

theorem advance (mover : Mover) : Ledger work workers world (h.advance work mover) := by
  rcases advance_cases work h mover with ⟨-, hstays⟩ | m
  · rw [hstays]
    exact l
  · exact l.move fit m

theorem effort_advance_collector :
    (h.advance work .collector).effort work.total = h.effort work.total := by
  rcases advance_cases work h .collector with ⟨-, hstays⟩ | m
  · rw [hstays]
  · exact l.effort_collector fit m

end Ledger

/-- **Between two rounds**: the ledger is kept, and nothing is in the channel. -/
structure Tidy (work : Work σ ρ) (workers : Nat) (world : σ) (h : Hall σ ρ) : Prop where
  ledger : Ledger work workers world h
  channel : h.channel = []

theorem tidy_start (work : Work σ ρ) (workers : Nat) (world : σ) :
    Tidy work workers world (start workers world) :=
  ⟨ledger_start work workers world, rfl⟩

/-- The collector takes the only result out of the channel. -/
theorem Ledger.tidy_advance_collector (l : Ledger work workers world h)
    (fit : work.total + workers < 2 ^ 64) (hlength : h.channel.length ≤ 1) :
    Tidy work workers world (h.advance work .collector) := by
  refine ⟨l.advance fit .collector, ?_⟩
  rcases advance_cases work h .collector with ⟨hnone, hstays⟩ | m
  · rw [hstays]
    cases hc : h.closed with
    | true => exact (l.shut hc).1
    | false =>
      cases hchannel : h.channel with
      | nil => rfl
      | cons result rest =>
        have m : Move work h .collector _ := .collect hc hchannel
        exact absurd (hnone.symm.trans m.step?) (by simp)
  · generalize h.advance work .collector = next at m
    cases m with
    | @collect result rest ho hc =>
      rw [hc, List.length_cons] at hlength
      exact List.eq_nil_of_length_eq_zero (Nat.le_zero.mp (Nat.le_of_succ_le_succ hlength))
    | close ho hc hg => exact hc

/-- The collector never changes where workers stand. -/
theorem workers_advance_collector (work : Work σ ρ) (h : Hall σ ρ) :
    (h.advance work .collector).workers = h.workers := by
  rcases advance_cases work h .collector with ⟨-, hstays⟩ | m
  · rw [hstays]
  · generalize h.advance work .collector = next at m
    cases m <;> rfl

/-- Whether the worker with a number has left, if there is one. -/
def GoneAt (h : Hall σ ρ) (id : Nat) : Prop := ∀ w, h.workers[id]? = some w → w.stage = .gone

theorem goneAt_of_step?_eq_none {id : Nat} (hnone : h.step? work (.worker id) = none) :
    h.GoneAt id := by
  intro w hw
  by_contra hs
  obtain ⟨next, m⟩ := exists_move_of_stage_ne_gone work hw hs
  exact absurd (hnone.symm.trans m.step?) (by simp)

namespace Tidy

variable (t : Tidy work workers world h) (fit : work.total + workers < 2 ^ 64)
include t fit

omit fit in
/-- A move of a worker puts at most one result into the empty channel. -/
theorem length_channel_advance_le (id : Nat) :
    (h.advance work (.worker id)).channel.length ≤ 1 := by
  have hempty := t.channel
  rcases advance_cases work h (.worker id) with ⟨-, hstays⟩ | m
  · rw [hstays, hempty]
    exact Nat.zero_le 1
  · generalize h.advance work (.worker id) = next at m
    cases m with
    | @send id w result hw hs ho =>
      show (h.channel ++ [result]).length ≤ 1
      rw [hempty]
      exact Nat.le_refl 1
    | claim | perform | overshoot | giveUp =>
      show h.channel.length ≤ 1
      rw [hempty]
      exact Nat.zero_le 1

theorem round (id : Nat) : Tidy work workers world (h.round work id) :=
  (t.ledger.advance fit _).tidy_advance_collector fit (t.length_channel_advance_le id)

/-- **A round lowers the effort**, or its worker had left and nothing happened to the workers. -/
theorem effort_round (id : Nat) :
    (h.round work id).effort work.total < h.effort work.total ∨
      h.GoneAt id ∧ (h.round work id).effort work.total = h.effort work.total ∧
        (h.round work id).workers = h.workers := by
  have hcollector := (t.ledger.advance fit (.worker id)).effort_advance_collector fit
  rcases advance_cases work h (.worker id) with ⟨hnone, hstays⟩ | m
  · refine .inr ⟨goneAt_of_step?_eq_none hnone, ?_, ?_⟩
    · rw [Hall.round, hcollector, hstays]
    · rw [Hall.round, workers_advance_collector, hstays]
  · have hworker := t.ledger.effort_worker fit m
    rw [Hall.round, hcollector]
    exact .inl (Nat.lt_of_succ_le (Nat.le_of_eq hworker))

/-- The rounds of several workers, by induction on them. -/
theorem rounds (ids : List Nat) :
    Tidy work workers world (ids.foldl (Hall.round work) h) ∧
      ((ids.foldl (Hall.round work) h).effort work.total < h.effort work.total ∨
        (∀ id ∈ ids, h.GoneAt id) ∧
          (ids.foldl (Hall.round work) h).effort work.total = h.effort work.total ∧
          (ids.foldl (Hall.round work) h).workers = h.workers) := by
  induction ids generalizing h with
  | nil => exact ⟨t, .inr ⟨by simp, rfl, rfl⟩⟩
  | cons id ids ih =>
    obtain ⟨htidy, hrest⟩ := ih (t.round fit id)
    refine ⟨htidy, ?_⟩
    rw [List.foldl_cons]
    -- one round that lowers the effort is enough, since no other raises it
    rcases t.effort_round fit id with hlt | ⟨hgone, heffort, hworkers⟩
    · rcases hrest with hrest | ⟨-, hrest, -⟩ <;> exact .inl (by omega)
    · have hsame : ∀ other, (h.round work id).GoneAt other ↔ h.GoneAt other := by
        intro other
        rw [GoneAt, GoneAt, hworkers]
      rcases hrest with hrest | ⟨hids, hrest, hrestWorkers⟩
      · exact .inl (by omega)
      · refine .inr ⟨?_, hrest.trans heffort, hrestWorkers.trans hworkers⟩
        intro other hother
        rcases List.mem_cons.mp hother with rfl | hother
        · exact hgone
        · exact (hsame other).mp (hids other hother)

/-- **A turn lowers the effort, or the collector has stopped after it**: when no worker moves, all
of them have left, and the channel is empty. -/
theorem turn : Tidy work workers world (h.turn work) ∧
    ((h.turn work).effort work.total < h.effort work.total ∨ (h.turn work).closed = true) := by
  rw [turn_eq]
  obtain ⟨htidy, hrounds⟩ := t.rounds fit (List.range h.workers.length)
  generalize (List.range h.workers.length).foldl (Hall.round work) h = last at htidy hrounds
  have hlength : last.channel.length ≤ 1 := by
    rw [htidy.channel]
    exact Nat.zero_le 1
  refine ⟨htidy.ledger.tidy_advance_collector fit hlength, ?_⟩
  rw [htidy.ledger.effort_advance_collector fit]
  rcases hrounds with hlt | ⟨hgone, -, hworkers⟩
  · exact .inl hlt
  · right
    have hall : last.allGone = true := by
      rw [allGone_iff, hworkers]
      intro w hw
      obtain ⟨id, hid, rfl⟩ := List.getElem_of_mem hw
      exact hgone id (List.mem_range.mpr hid) _ (List.getElem?_eq_getElem hid)
    cases hc : last.closed with
    | true => rw [advance, step?, collectorStep?, hc, if_pos rfl, Option.getD_none, hc]
    | false =>
      have m : Move work last .collector _ := .close hc htidy.channel hall
      rw [advance, m.step?]
      rfl

/-- As many turns as are given, or as many as it takes until the collector has stopped. -/
theorem turns (left : Nat) : Tidy work workers world (h.turns work left) ∧
    ((h.turns work left).closed = true ∨
      (h.turns work left).effort work.total + left ≤ h.effort work.total) := by
  induction left generalizing h with
  | zero => exact ⟨t, .inr (Nat.le_refl _)⟩
  | succ left ih =>
    rw [Hall.turns]
    split
    next hc => exact ⟨t, .inl hc⟩
    next =>
      obtain ⟨hturn, hlowered⟩ := t.turn fit
      obtain ⟨htidy, hends⟩ := ih hturn
      refine ⟨htidy, ?_⟩
      rcases hends with hc | heffort
      · exact .inl hc
      · rcases hlowered with hlt | hc
        · exact .inr (by omega)
        · left
          cases left with
          | zero => exact hc
          | succ left =>
            rw [Hall.turns, if_pos hc]
            exact hc

end Tidy

/-- **The run in turns is a run, and nobody can move at its end.** -/
theorem final_finish (work : Work σ ρ) (workers : Nat) (world : σ)
    (fit : work.total + workers < 2 ^ 64) :
    Reaches work (start workers world) ((start workers world).finish work) ∧
      Final work ((start workers world).finish work) := by
  refine ⟨reaches_turns work _ _, ?_⟩
  obtain ⟨htidy, hends⟩ := (tidy_start work workers world).turns fit
    ((start workers world : Hall σ ρ).turnsNeeded work)
  have hclosed : ((start workers world).finish work).closed = true := by
    rcases hends with hc | heffort
    · exact hc
    · -- that many turns would have used up more effort than there is
      have hleast := htidy.ledger.total_lt_effort
      rw [effort_start, turnsNeeded, start, List.length_replicate] at heffort
      rw [turnsNeeded, start, List.length_replicate] at hleast
      omega
  exact final_iff.mpr ⟨(htidy.ledger.shut hclosed).2, hclosed⟩

end Hall

end HttpLoad
