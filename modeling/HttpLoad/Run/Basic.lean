import HttpLoad.Log.Basic
import HttpLoad.Request.Proxy
import HttpLoad.Run.Files
import HttpLoad.Run.Workers

/-!
# A run

A run has a pool of clients, one for each of its workers. First the clients are warmed up: requests
that are not measured are dealt to them in turn. Then the workers share the measured requests.

## Main definitions

* `positiveCount`, `countFromZero`: an integer as a count
* `Deadline`, `Deadline.ofSeconds`: how long a request may take
* `Work.ofBodies`: requests that are sent with their bodies
* `ClientPool`, `ClientPool.make`: clients, at least one of them
* `RunPlan`, `RunPlan.workers`: what a run does, and with how many workers
* `ClientPool.warmUpWith`: warm-up requests, sent by any means
* `RunPlan.warmUp`: the requests that are not measured
* `RunPlan.execute`: the whole run
* `RunRecord`, `RunRecord.samples`, `RunRecord.log`: what is known of a run
-/

namespace HttpLoad

/-!
## Counts and deadlines

Counts are given as integers and deadlines as seconds. Both are checked, and a deadline is rounded
to whole nanoseconds.
-/

/-- An integer as a count of at least one. -/
def positiveCount (option : String) (value : Int) : Except LoadError Nat :=
  if value ≤ 0 then .error (Refusal.notPositive option).error else .ok value.toNat

/-- An integer as a count that may be zero. -/
def countFromZero (option : String) (value : Int) : Except LoadError Nat :=
  if value < 0 then .error (Refusal.negative option).error else .ok value.toNat

/-- **How long a request may take**, in nanoseconds. -/
structure Deadline where
  nanos : Nat
deriving DecidableEq, Repr

namespace Deadline

/-- The nanoseconds of a second. -/
def nanosPerSecond : Nat := 1000000000

/-- The number of seconds from which on a deadline is too large. -/
def secondsMax : Nat := Nat.pow 2 64

def seconds (d : Deadline) : Nat := d.nanos / nanosPerSecond

/-- The nanoseconds beyond the whole seconds. -/
def subsecond (d : Deadline) : Nat := d.nanos % nanosPerSecond

/-- **A deadline from seconds**: the exact value, rounded to the nearest nanosecond, a half going
to the even one. -/
def ofSeconds (option : String) (seconds : Double) : Except LoadError Deadline :=
  if !seconds.isFinite || seconds.isZero || seconds.negative then
    .error (Refusal.notPositive option).error
  else if secondsMax * Double.one ≤ seconds.units then .error (Refusal.tooLarge option).error
  else .ok ⟨roundHalfEven (seconds.units * nanosPerSecond) Double.one⟩

end Deadline

/-! ## Plans and runs -/

/-- **Work with bodies**: the request with a number is sent with the body of that number. How it is
sent may also depend on the worker, on the number and on the world. -/
def Work.ofBodies {σ ρ : Type} (total : Nat) (bodies : Bodies)
    (send : (worker number : Nat) → Option Bytes → σ → ρ × σ) : Work σ ρ where
  total := total
  perform := fun worker number s => send worker number (bodies.get? number) s

/-- **Clients**, numbered from zero. They differ in nothing but their connections. -/
structure ClientPool where
  size : Nat
  deadline : Deadline
  size_pos : 0 < size

namespace ClientPool

/-- A pool of a size, which must not be zero. -/
def make (size : Nat) (deadline : Deadline) : Except LoadError ClientPool :=
  if h : 0 < size then .ok ⟨size, deadline, h⟩ else .error Refusal.emptyPool.error

/-- The deadline that the client with a number keeps, if there is one with it. -/
def get? (pool : ClientPool) (id : Nat) : Option Deadline :=
  if id < pool.size then some pool.deadline else none

/-- The deadlines of all clients. -/
def clients (pool : ClientPool) : List Deadline := List.replicate pool.size pool.deadline

/-- The client that a warm-up request is dealt to. -/
def dealt (pool : ClientPool) (number : Nat) : Nat := number % pool.size

end ClientPool

/-- The greatest number of results that room is made for before they arrive. -/
def roomMax : Nat := 65536

/-- The number of results that room is made for in a run of `total` requests. -/
def roomFor (total : Nat) : Nat := min total roomMax

/-- **What a run does.** -/
structure RunPlan where
  request : RequestSpec
  bodies : Bodies
  total : Nat
  concurrency : Nat
  deadline : Deadline
  /-- How many requests are sent before the measured ones. -/
  warmUps : Nat
  /-- Where the report is written to, if anywhere. -/
  reportPath : Option String
deriving DecidableEq

/-- A warm-up request. -/
structure WarmUp where
  client : Nat
  number : Nat
  result : Performed

/-- **What is known of a run.** -/
structure RunRecord where
  workers : Nat
  /-- The requests that were not measured, in their order. -/
  warmUps : List WarmUp
  /-- The measured results, in the order of their arrival. -/
  results : List Performed
  /-- What happened while requests were measured. -/
  history : List (Event Performed)
  wallTime : WallTime

namespace RunRecord

/-- The measured samples, in the order of their arrival. -/
def samples (r : RunRecord) : List Sample := r.results.map Prod.fst

/-- What is known of a run when its workers have shared the requests. -/
def ofHall {σ : Type} (pool : ClientPool) (warmUps : List WarmUp) (hall : Hall σ Performed)
    (wallTime : WallTime) : RunRecord where
  workers := pool.size
  warmUps := warmUps
  results := hall.collected
  history := hall.history
  wallTime := wallTime

end RunRecord

/-- **The warm-up requests** from `number` on, `left` of them, dealt to the clients one after the
other. `send` has a client send the request with a number. -/
def ClientPool.warmUpWith {m : Type → Type} [Monad m] (pool : ClientPool)
    (send : (client number : Nat) → m Performed) : (number left : Nat) → m (List WarmUp)
  | _, 0 => return []
  | number, left + 1 => do
    let result ← send (pool.dealt number) number
    let rest ← warmUpWith pool send (number + 1) left
    return ⟨pool.dealt number, number, result⟩ :: rest

namespace RunPlan

/-- The number of workers: never more than there are requests. -/
def workers (plan : RunPlan) : Nat := min plan.concurrency plan.total

/-- A plan whose requests are sent through proxies. -/
def through (plan : RunPlan) (proxies : Proxies) : RunPlan :=
  { plan with request := proxies.authorize plan.request }

variable {σ : Type} (net : Network σ)

/-- The request with a number, sent by any client. -/
def send (plan : RunPlan) (number : Nat) (s : σ) : Performed × σ :=
  Client.execute net plan.request (plan.bodies.get? number) s

/-- The warm-up requests from `number` on, `left` of them, sent over a network. -/
def warmUpFrom (plan : RunPlan) (pool : ClientPool) (number left : Nat) : StateM σ (List WarmUp) :=
  pool.warmUpWith (fun _ number => plan.send net number) number left

/-- **The requests that are not measured.** -/
def warmUp (plan : RunPlan) (pool : ClientPool) (s : σ) : List WarmUp × σ :=
  plan.warmUpFrom net pool 0 plan.warmUps s

/-- The measured requests as work for the workers. -/
def work (plan : RunPlan) : Work σ Performed :=
  Work.ofBodies plan.total plan.bodies fun _ _ body s => Client.execute net plan.request body s

/-- The measured requests, sent by the workers of a pool in turns. -/
def measure (plan : RunPlan) (pool : ClientPool) (s : σ) : Hall σ Performed :=
  (Hall.start pool.size s).finish (plan.work net)

/-- The run with a given pool. -/
def executeWith (plan : RunPlan) (pool : ClientPool) (s : σ) : RunRecord × σ :=
  let (warmUps, before) := plan.warmUp net pool s
  let hall := plan.measure net pool before
  (.ofHall pool warmUps hall (net.wallTime before hall.world), hall.world)

/-- **The whole run.** -/
def execute (plan : RunPlan) (s : σ) : Except LoadError (RunRecord × σ) := do
  let pool ← ClientPool.make plan.workers plan.deadline
  return plan.executeWith net pool s

end RunPlan

/-! ### The log of a run -/

namespace RunRecord

/-- Where lines about requests and about the run come from. -/
def clientOrigin : String := "billbench_client"
def runOrigin : String := "billbench_loadgen::worker"

def number (n : Nat) : String := String.ofList (decimalDigits n)

/-- The line about a request that failed. -/
def failureLines (result : Performed) : List LogLine :=
  match result with
  | (sample, some what) =>
    [{ level := .debug
       origin := clientOrigin
       message := "request failed before a response was received"
       fields := [("error", what.text), ("kind", (sample.failure?.getD what.why).name)] }]
  | (_, none) => []

/-- The lines about a warm-up request. -/
def warmUpLines (w : WarmUp) : List LogLine :=
  failureLines w.result ++
    [{ level := .debug
       origin := runOrigin
       message := "warm-up request done"
       fields := [
        ("index", number w.number),
        ("status", w.result.1.statusKey),
        ("latency_ms", String.ofList (w.result.1.latency.text))] }]

/-- The lines about an event. -/
def eventLines : Event Performed → List LogLine
  | .performed _ _ result => failureLines result
  | .left worker completed =>
    [{ level := .debug
       origin := runOrigin
       message := "worker finished"
       fields := [("worker_id", number worker), ("completed", number completed)] }]
  | _ => []

/-- The line that announces warm-up requests, if there are any. -/
def warmUpAnnouncement (plan : RunPlan) : List LogLine :=
  if plan.warmUps = 0 then []
  else
    [{ level := .info
       origin := runOrigin
       message := "warming up"
       fields := [("count", number plan.warmUps)] }]

/-- The line that announces the measured requests. -/
def startLine (plan : RunPlan) : LogLine where
  level := .info
  origin := runOrigin
  message := "starting measured run"
  fields := [
    ("method", plan.request.method.name),
    ("url", plan.request.url),
    ("requests", number plan.total),
    ("workers", number plan.workers)]

/-- The line about the end of the run. -/
def endLine (r : RunRecord) : LogLine where
  level := .info
  origin := runOrigin
  message := "measured run finished"
  fields := [
    ("completed", number r.results.length),
    ("wall_time_sec", String.ofList r.wallTime.toDouble.text)]

/-- **The log of a run.** -/
def log (plan : RunPlan) (r : RunRecord) : List LogLine :=
  warmUpAnnouncement plan ++ r.warmUps.flatMap warmUpLines ++ [startLine plan]
    ++ r.history.reverse.flatMap eventLines ++ [r.endLine]

end RunRecord

end HttpLoad
