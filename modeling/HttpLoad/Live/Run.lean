import Std.Time
import HttpLoad.Live.Connection
import HttpLoad.Run.Basic

/-!
# Runs on a real network

A client keeps the connection that it has used last, and uses it again if it leads to the same host
and port. One instant is fixed for all that belongs to one request, redirects among it.

The workers of a run are tasks of their own. They share their hall: each of them looks at where it
stands, does what is next outside, and then moves the hall as the step function does.

## Main definitions

* `LiveClient`, `LiveClient.exchange`: a client with its connection, and a request sent and answered
* `LiveClient.perform`: the sample of one request
* `Console`, `Console.say`: where the log is shown
* `LiveRun.work`: a worker
* `LiveRun.execute`: the whole run
-/

namespace HttpLoad

/-! ## Clients -/

/-- A connection that may be used again, and where it leads. -/
structure KeptConnection where
  peer : Peer
  connection : Connection

/-- **A client with its connection.** -/
structure LiveClient where
  deadline : Deadline
  proxies : Proxies
  kept : IO.Ref (Option KeptConnection)

namespace LiveClient

/-- A client that has no connection yet. -/
def make (proxies : Proxies) (deadline : Deadline) : BaseIO LiveClient :=
  return ⟨deadline, proxies, ← IO.mkRef none⟩

/-- The answer to a request that has been sent. -/
partial def receiveAnswer (c : Connection) (limit : Instant) (method : Method) (soFar : Bytes) :
    IO Received := do
  match Answer.read method none soFar with
  | some received => return received
  | none =>
    match ← c.receive limit with
    | .ok bytes => receiveAnswer c limit method (soFar ++ bytes)
    | .error what =>
      return (Answer.read method (some what) soFar).getD ⟨.failed what, false⟩

/-- A request sent and answered on a connection, which is kept if it may be used again. -/
def exchangeOn (client : LiveClient) (limit : Instant) (request : WireRequest) (c : Connection) :
    IO Answer := do
  match ← c.send limit request.bytes with
  | .error what => return .failed what
  | .ok () =>
    let received ← receiveAnswer c limit request.method []
    if received.reusable then
      client.kept.set (some ⟨request.peer, c⟩)
    return received.answer

/-- A request sent and answered on a new connection. -/
def exchangeAnew (client : LiveClient) (limit : Instant) (request : WireRequest) : IO Answer := do
  match ← Connection.open_ limit request.peer.host request.peer.port with
  | .error what => return .failed what
  | .ok c => client.exchangeOn limit request c

/-- The kept connection, if it leads to where a request is sent. It is kept no longer. -/
def take (client : LiveClient) (request : WireRequest) : BaseIO (Option Connection) := do
  let kept ← client.kept.swap none
  return (kept.filter fun k => k.peer == request.peer).map KeptConnection.connection

/-- **A request sent and answered.** A kept connection may have been closed meanwhile; a new one is
opened then. -/
def exchange (client : LiveClient) (limit : Instant) (request : WireRequest) : IO Answer := do
  if request.peer.scheme ≠ "http" then return .failed .unsecured
  match ← client.take request with
  | none => client.exchangeAnew limit request
  | some c =>
    match ← client.exchangeOn limit request c with
    | .failed what =>
      if what = .hungUp then client.exchangeAnew limit request else return .failed what
    | answer => return answer

/-- Nanoseconds as a time. -/
def wallTime (nanos : Nat) : WallTime :=
  ⟨nanos / Deadline.nanosPerSecond, nanos % Deadline.nanosPerSecond⟩

/-- The milliseconds of a second. -/
def millisPerSecond : Nat := 1000

/-- **The sample of one request**, and what the log says if it failed. -/
def perform (client : LiveClient) (spec : RequestSpec) (body : Option Bytes) : IO Performed := do
  let start ← Instant.now
  let limit := start.after client.deadline.nanos
  let ending ← Client.endingWith (fun r => client.exchange limit (client.proxies.route r)) spec body
  let stop ← Instant.now
  let latency := (wallTime (stop.nanos - start.nanos)).toDouble * Double.ofNat millisPerSecond
  return Client.performed spec latency ending

end LiveClient

/-! ## The log -/

/-- **Where the log is shown.** -/
structure Console where
  filter : LogFilter

namespace Console

/-- The time in front of a line. -/
def stamp (t : Std.Time.PlainDateTime) : String :=
  let part (width : Nat) (n : Int) : String := String.ofList (paddedDecimal width n.toNat)
  part 4 t.date.year.toInt ++ "-" ++ part 2 t.date.month.val ++ "-" ++ part 2 t.date.day.val
    ++ "T" ++ part 2 t.time.hour.val ++ ":" ++ part 2 t.time.minute.val
    ++ ":" ++ part 2 t.time.second.val

/-- **A line shown**, if the filter lets it through. -/
def say (console : Console) (line : LogLine) : IO Unit := do
  if console.filter.shows line then
    IO.eprintln (stamp (← Std.Time.PlainDateTime.now) ++ " " ++ line.text)

end Console

/-! ## Runs -/

/-- **A run that is going on**: its plan, and the hall of its workers. The requests that they
perform change the world outside, so that the hall has none of its own. -/
structure LiveRun where
  console : Console
  plan : RunPlan
  clients : Array LiveClient
  hall : IO.Ref (Hall Unit Performed)

namespace LiveRun

variable (run : LiveRun)

/-- The request with a number, sent by the client with an id. -/
def send (id number : Nat) : IO Performed :=
  match run.clients[id]? with
  | some client => client.perform run.plan.request (run.plan.bodies.get? number)
  | none => throw (IO.userError "no client has this number")

/-- A warm-up request, and the lines about it. -/
def sendWarmUp (id number : Nat) : IO Performed := do
  let result ← run.send id number
  (RunRecord.warmUpLines ⟨id, number, result⟩).forM run.console.say
  return result

/-- The hall moved, and what it is then. -/
def move (step : Hall Unit Performed → Hall Unit Performed) : BaseIO (Hall Unit Performed) :=
  run.hall.modifyGet fun h => (step h, step h)

/-- **A worker**: it does what is next until it has left. The collector moves after each deed. -/
partial def work (id : Nat) : IO Unit := do
  let hall ← run.hall.get
  let some worker := hall.workers[id]? | return
  let some deed ← worker.deedWith? run.plan.total hall.closed (run.send id) | return
  let moved ← run.move fun h => h.act id worker deed
  ((moved.history.take 1).flatMap RunRecord.eventLines).forM run.console.say
  let _ ← run.move fun h => h.collectorStep?.getD h
  work id

/-- What is left of a hall to be collected, when all workers have left. -/
def collectRest (h : Hall Unit Performed) : Hall Unit Performed :=
  (List.range (h.channel.length + 1)).foldl (fun h _ => h.collectorStep?.getD h) h

/-- The requests that are measured, and how long that takes. All workers are waited for. -/
def measure : IO (Hall Unit Performed × WallTime) := do
  let start ← Instant.now
  let tasks ← (List.range run.clients.size).mapM fun id =>
    IO.asTask (run.work id) Task.Priority.dedicated
  for task in tasks do
    IO.ofExcept (← IO.wait task)
  let hall ← run.move collectRest
  let stop ← Instant.now
  return (hall, LiveClient.wallTime (stop.nanos - start.nanos))

/-- The run with a given pool, through proxies. -/
def executeWith (console : Console) (proxies : Proxies) (plan : RunPlan) (pool : ClientPool) :
    IO RunRecord := do
  let clients ← pool.clients.toArray.mapM fun deadline => LiveClient.make proxies deadline
  let run : LiveRun := ⟨console, plan, clients, ← IO.mkRef (Hall.start pool.size ())⟩
  (RunRecord.warmUpAnnouncement plan).forM console.say
  let warmUps ← pool.warmUpWith run.sendWarmUp 0 plan.warmUps
  console.say (RunRecord.startLine plan)
  let (hall, wallTime) ← run.measure
  let record := RunRecord.ofHall pool warmUps hall wallTime
  console.say record.endLine
  return record

/-- **The whole run**, through proxies. -/
def execute (console : Console) (proxies : Proxies) (plan : RunPlan) :
    IO (Except LoadError RunRecord) := do
  let plan := plan.through proxies
  match ClientPool.make plan.workers plan.deadline with
  | .error e => return .error e
  | .ok pool =>
    try return .ok (← executeWith console proxies plan pool)
    catch e => return .error (.worker e.toString)

end LiveRun

end HttpLoad
