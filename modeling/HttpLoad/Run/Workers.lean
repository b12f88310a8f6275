/-!
# Workers that share the requests of a run

The workers of a run claim request numbers from a shared counter, perform the request with the
claimed number, and send the result through a channel to a collector. A worker whose claim lies
beyond the last request leaves. The collector takes results out of the channel until the channel is
empty and all workers have left. Whoever moves next is not determined: `step?` gives the move of
each, and a run is any sequence of moves. What has happened is kept as a list of events.

## Main definitions

* `Work`: how many requests there are, and how one is performed
* `Stage`, `Worker`: where a worker stands
* `Event`: what can happen
* `Deed`, `Worker.deedWith?`: what a worker does next
* `Hall`, `Hall.start`: the workers with what they share, and how they start
* `Hall.act`: what a deed changes
* `Hall.step?`: the move of a worker or of the collector, if it can move
* `Hall.finish`: moves in turns, until the collector has closed the channel
-/

namespace HttpLoad

/-- **The requests of a run**: how many there are, and how a worker performs the one with a number.
The world `σ` is what performing a request may change. -/
structure Work (σ ρ : Type) where
  total : Nat
  perform : (worker number : Nat) → σ → ρ × σ

/-- **Where a worker stands.** -/
inductive Stage (ρ : Type) where
  /-- About to claim a number. -/
  | ready
  | claimed (number : UInt64)
  /-- With a result that is not sent yet. -/
  | holding (result : ρ)
  | gone
deriving DecidableEq

/-- **A worker**: where it stands, and how many requests it has performed. -/
structure Worker (ρ : Type) where
  stage : Stage ρ := .ready
  completed : Nat := 0

/-- **What a worker does** in a move. -/
inductive Deed (ρ : Type) where
  | claim
  | perform (number : Nat) (result : ρ)
  | send (result : ρ)
  | leave

/-- **What a worker does next**, if it has not left. `perform` performs the request with a number.
Nobody takes a result out of a closed channel, so a worker that holds one leaves then. -/
def Worker.deedWith? {m : Type → Type} [Monad m] {ρ : Type} (total : Nat) (closed : Bool)
    (perform : Nat → m ρ) (w : Worker ρ) : m (Option (Deed ρ)) :=
  match w.stage with
  | .ready => return some .claim
  | .claimed number =>
    if number.toNat < total then do
      let result ← perform number.toNat
      return some (.perform number.toNat result)
    else return some .leave
  | .holding result => return some (if closed then .leave else .send result)
  | .gone => return none

/-- **What can happen.** -/
inductive Event (ρ : Type) where
  | claimed (worker : Nat) (number : UInt64)
  | performed (worker number : Nat) (result : ρ)
  | sent (worker : Nat)
  | left (worker completed : Nat)
  | collected (result : ρ)
  | closed

/-- Who moves. -/
inductive Mover where
  | worker (id : Nat)
  | collector
deriving DecidableEq, Repr

/-- **The workers with what they share.** Workers are numbered from zero. -/
structure Hall (σ ρ : Type) where
  /-- The number that is claimed next. It has 64 bits and wraps around. -/
  counter : UInt64
  workers : List (Worker ρ)
  /-- The results on their way, the oldest first. -/
  channel : List ρ
  /-- The results that have arrived, in the order of their arrival. -/
  collected : List ρ
  /-- Whether the collector has stopped taking results. -/
  closed : Bool
  world : σ
  /-- What has happened, the latest first. -/
  history : List (Event ρ)

namespace Hall

variable {σ ρ : Type}

/-- **The start of a run**: nothing is claimed, and all workers are ready. -/
def start (workers : Nat) (world : σ) : Hall σ ρ where
  counter := 0
  workers := List.replicate workers {}
  channel := []
  collected := []
  closed := false
  world := world
  history := []

/-- Whether all workers have left. -/
def allGone (h : Hall σ ρ) : Bool :=
  h.workers.all fun w =>
    match w.stage with
    | .gone => true
    | _ => false

/-- A worker moved to a stage. -/
def put (h : Hall σ ρ) (id : Nat) (w : Worker ρ) : Hall σ ρ :=
  { h with workers := h.workers.set id w }

def note (h : Hall σ ρ) (e : Event ρ) : Hall σ ρ := { h with history := e :: h.history }

/-- A worker takes the next number. -/
def claim (h : Hall σ ρ) (id : Nat) (w : Worker ρ) : Hall σ ρ :=
  ({ h with counter := h.counter + 1 }.put id { w with stage := .claimed h.counter }).note
    (.claimed id h.counter)

/-- A worker has performed the request with a number, and holds its result. -/
def hold (h : Hall σ ρ) (id number : Nat) (w : Worker ρ) (result : ρ) : Hall σ ρ :=
  (h.put id { stage := .holding result, completed := w.completed + 1 }).note
    (.performed id number result)

/-- A worker performs the request that it has claimed. -/
def perform (work : Work σ ρ) (h : Hall σ ρ) (id number : Nat) (w : Worker ρ) : Hall σ ρ :=
  let (result, world) := work.perform id number h.world
  { h with world := world }.hold id number w result

/-- A worker leaves, and with it its end of the channel. -/
def leave (h : Hall σ ρ) (id : Nat) (w : Worker ρ) : Hall σ ρ :=
  (h.put id { w with stage := .gone }).note (.left id w.completed)

/-- A worker puts its result into the channel. -/
def send (h : Hall σ ρ) (id : Nat) (w : Worker ρ) (result : ρ) : Hall σ ρ :=
  ({ h with channel := h.channel ++ [result] }.put id { w with stage := .ready }).note (.sent id)

/-- **What a deed changes.** -/
def act (h : Hall σ ρ) (id : Nat) (w : Worker ρ) : Deed ρ → Hall σ ρ
  | .claim => h.claim id w
  | .perform number result => h.hold id number w result
  | .send result => h.send id w result
  | .leave => h.leave id w

/-- The move of a worker: it does what it does next. -/
def workerStep? (work : Work σ ρ) (h : Hall σ ρ) (id : Nat) : Option (Hall σ ρ) :=
  match h.workers[id]? with
  | none => none
  | some w =>
    let deciding : StateM σ (Option (Deed ρ)) :=
      w.deedWith? work.total h.closed (work.perform id)
    let (deed?, world) := deciding h.world
    deed?.map ({ h with world := world }.act id w)

/-- The move of the collector: it takes the oldest result, or it stops when there is none and nobody
is left to send one. -/
def collectorStep? (h : Hall σ ρ) : Option (Hall σ ρ) :=
  if h.closed then none
  else
    match h.channel with
    | result :: rest =>
      some ({ h with channel := rest, collected := h.collected ++ [result] }.note
        (.collected result))
    | [] => if h.allGone then some ({ h with closed := true }.note .closed) else none

/-- **The move of a worker or of the collector**, if it can move. -/
def step? (work : Work σ ρ) (h : Hall σ ρ) : Mover → Option (Hall σ ρ)
  | .worker id => h.workerStep? work id
  | .collector => h.collectorStep?

/-- The move of someone, or none. -/
def advance (work : Work σ ρ) (h : Hall σ ρ) (mover : Mover) : Hall σ ρ :=
  (h.step? work mover).getD h

/-- One move of each worker, and one of the collector after each. -/
def turn (work : Work σ ρ) (h : Hall σ ρ) : Hall σ ρ :=
  ((List.range h.workers.length).foldl
    (fun h id => (h.advance work (.worker id)).advance work .collector) h).advance work .collector

/-- Turns until the collector has stopped, at most as many as are given. -/
def turns (work : Work σ ρ) : Nat → Hall σ ρ → Hall σ ρ
  | 0, h => h
  | left + 1, h => if h.closed then h else turns work left (h.turn work)

/-- A number of turns that is enough: a request takes a worker three moves, and two more moves make
it leave. -/
def turnsNeeded (work : Work σ ρ) (h : Hall σ ρ) : Nat := 3 * work.total + 2 * h.workers.length + 2

/-- **The run in turns**, until the collector has stopped. -/
def finish (work : Work σ ρ) (h : Hall σ ρ) : Hall σ ρ := h.turns work (h.turnsNeeded work)

end Hall

end HttpLoad
