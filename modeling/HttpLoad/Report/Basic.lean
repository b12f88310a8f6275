import HttpLoad.Stats.Basic

/-!
# Samples and reports

The samples of a run and the time that it took are reduced to a report. Numbers keep their full
precision in a report; they are rounded to two decimal places where it is written.

## Main definitions

* `Histogram`, `Histogram.bump`: counts by name, and one more under a name
* `Histogram.ofNames`: how often each name occurs
* `Histogram.count`: the count under a name
* `Failure`: why no whole response arrived
* `Outcome`, `Sample`: how a request ended, and how long it took
* `Sample.succeeded`: a response with a status of the class 2xx
* `Sample.statusKey`, `Sample.cause?`: under which names a sample is counted
* `WallTime`: how long a run took
* `Report`, `Report.ofSamples`: the statistics of a run
* `createdIds`: the ids that successful requests created
* `Report.toJson`: the report as it is written
-/

namespace HttpLoad

/-!
## Histograms

Counts by name, in ascending order of the names.
-/

/-- **Counts by name**, in ascending order of the names. -/
abbrev Histogram := List (String × Nat)

namespace Histogram

/-- One more under a name. -/
def bump (name : String) : Histogram → Histogram
  | [] => [(name, 1)]
  | (n, c) :: rest =>
    if name = n then (n, c + 1) :: rest
    else if name < n then (name, 1) :: (n, c) :: rest
    else (n, c) :: bump name rest

/-- **How often each name occurs.** -/
def ofNames (names : List String) : Histogram :=
  names.foldl (fun h name => bump name h) []

/-- The count under a name. -/
def count (h : Histogram) (name : String) : Nat := (h.lookup name).getD 0

def toJson (h : Histogram) : Json := .object (h.map fun (name, c) => (name, .count c))

end Histogram

/-!
## The outcome of a request

A request ends with a response, whatever its status, or fails before a whole response has arrived.
Either way its latency is kept, and the two together are a sample of the run.
-/

/-- **Why no whole response arrived.** -/
inductive Failure where
  | timeout
  | nameLookup
  | secureChannel
  | connection
  | readBody
  | request
deriving DecidableEq, Repr

namespace Failure

/-- All failures, in the order in which they are listed. -/
def all : List Failure := [timeout, nameLookup, secureChannel, connection, readBody, request]

def name : Failure → String
  | timeout => "Timeout"
  | nameLookup => "DnsError"
  | secureChannel => "TlsError"
  | connection => "ConnectError"
  | readBody => "ReadError"
  | request => "RequestError"

/-- The failure with a name. -/
def ofName? (name : String) : Option Failure := all.find? fun f => f.name == name

/-- The failure with a name, or what is wrong with the name. -/
def ofName (name : String) : Except Json.Fault Failure :=
  match ofName? name with
  | some f => .ok f
  | none => .error ⟨.unknownVariant name (all.map Failure.name), none⟩

/-- The place of a failure in the list of all of them. -/
def rank (f : Failure) : Nat := all.idxOf f

end Failure

/-- **How a request ended.** -/
inductive Outcome where
  /-- A response; the id is there if the request asked for it and the body held it. -/
  | response (status bytes : Nat) (createdId : Option Int)
  | failed (why : Failure)
deriving DecidableEq

/-- **A sample**: the latency of a request in milliseconds, and its outcome. -/
structure Sample where
  latency : Double
  outcome : Outcome
deriving DecidableEq

/-- Whether a status is of the class 2xx. -/
def isSuccess (status : Nat) : Bool := 200 ≤ status && status < 300

/-- The name under which failed requests are counted among the statuses. -/
def failedKey : String := "exception"

/-- The name under which a status is counted. -/
def statusName (status : Nat) : String := String.ofList (decimalDigits status)

namespace Sample

def status? (s : Sample) : Option Nat :=
  match s.outcome with
  | .response status _ _ => some status
  | .failed _ => none

def failure? (s : Sample) : Option Failure :=
  match s.outcome with
  | .response _ _ _ => none
  | .failed why => some why

/-- The length of the response's body; zero without a response. -/
def bytes (s : Sample) : Nat :=
  match s.outcome with
  | .response _ bytes _ => bytes
  | .failed _ => 0

def createdId? (s : Sample) : Option Int :=
  match s.outcome with
  | .response _ _ id => id
  | .failed _ => none

/-- Whether the sample is a success: a response with a status of the class 2xx. -/
def succeeded (s : Sample) : Bool :=
  match s.outcome with
  | .response status _ _ => isSuccess status
  | .failed _ => false

/-- The name under which the sample is counted among the statuses. -/
def statusKey (s : Sample) : String :=
  match s.outcome with
  | .response status _ _ => statusName status
  | .failed _ => failedKey

/-- The name under which the sample is counted among the causes of failure; none for a success. -/
def cause? (s : Sample) : Option String :=
  match s.outcome with
  | .response status _ _ =>
    if isSuccess status then none else some ("HttpStatus" ++ statusName status)
  | .failed why => some why.name

end Sample

/-! ## Reports -/

/-- **How long a run took.** -/
structure WallTime where
  seconds : Nat
  nanos : Nat
deriving DecidableEq

/-- A wall time in seconds: whole seconds plus the fraction, each rounded on its own. -/
def WallTime.toDouble (t : WallTime) : Double :=
  Double.ofNat t.seconds + Double.ofNat t.nanos / Double.ofNat 1000000000

/-- `part` of `total` in percent; zero of nothing. -/
def percentage (part total : Nat) : Double :=
  if total = 0 then Double.zero
  else Double.ofNat part / Double.ofNat total * hundred

/-- **What a report says first**: counts, the share of successes and the speed. -/
structure Summary where
  total : Nat
  successes : Nat
  failures : Nat
  successRate : Double
  throughput : Double
  wallTime : Double
deriving DecidableEq

/-- The members of a written summary. -/
def Summary.members (s : Summary) : List (String × Json) := [
  ("total_requests", .count s.total),
  ("success_count", .count s.successes),
  ("failure_count", .count s.failures),
  ("success_rate_pct", roundedReal s.successRate),
  ("throughput_req_per_sec", roundedReal s.throughput),
  ("total_wall_time_sec", roundedReal s.wallTime)]

/-- **The statistics of a run.** -/
structure Report where
  summary : Summary
  latency : LatencyStats
  /-- The sizes of the bodies of successful responses. -/
  sizes : SizeStats
  /-- How often each status arose; a request without a response counts as well. -/
  statuses : Histogram
  /-- How often each cause of failure arose. -/
  causes : Histogram
deriving DecidableEq

/-- The successes among samples. -/
def successes (samples : List Sample) : List Sample := samples.filter Sample.succeeded

/-- **The ids that successful requests created**, in the order of the samples. -/
def createdIds (samples : List Sample) : List Int := (successes samples).filterMap Sample.createdId?

namespace Report

/-- Requests per second; zero if no time has passed. -/
def throughput (total : Nat) (seconds : Double) : Double :=
  if Double.zero.below seconds then Double.ofNat total / seconds else Double.zero

/-- **The report of a run.** -/
def ofSamples (samples : List Sample) (wall : WallTime) : Report :=
  let good := successes samples
  let total := samples.length
  { summary :=
      { total := total
        successes := good.length
        failures := total - good.length
        successRate := percentage good.length total
        throughput := throughput total wall.toDouble
        wallTime := wall.toDouble }
    latency := LatencyStats.ofSamples (samples.map Sample.latency)
    sizes := SizeStats.ofSizes (good.map Sample.bytes)
    statuses := Histogram.ofNames (samples.map Sample.statusKey)
    causes := Histogram.ofNames (samples.filterMap Sample.cause?) }

def toJson (r : Report) : Json :=
  .object [
    ("summary", .object r.summary.members),
    ("latency_ms", r.latency.toJson),
    ("response_size_bytes", r.sizes.toJson),
    ("status_code_distribution", r.statuses.toJson),
    ("error_distribution", r.causes.toJson)]

end Report

end HttpLoad
