import HttpLoad.Cleanup.Store
import HttpLoad.Report.Basic

/-!
# Reports of bill-posting runs

A run that creates bills reports in addition what it was asked to do, which bills it created and
how their deletion went.

## Main definitions

* `Target`, `RunParameters`: what the run was asked to do
* `PostReport`, `PostReport.of`: the report of the run
* `PostReport.toJson`, `PostReport.summaryLine`: the report as it is written, and in one line
-/

namespace HttpLoad

/-- **What a run is directed at.** -/
structure Target where
  name : String
  url : String
deriving DecidableEq, Repr

def Target.toJson (t : Target) : Json :=
  .object [("name", .text t.name), ("url", .text t.url)]

/-- **What a run was asked to do.** -/
structure RunParameters where
  marker : String
  requests : Nat
  concurrency : Nat
  timeoutSeconds : Double
  minLines : Nat
  maxLines : Nat
  seed : Nat
  linesPerBill : List Nat
deriving DecidableEq

def RunParameters.toJson (p : RunParameters) : Json :=
  .object [
    ("prefix", .text p.marker),
    ("requests", .count p.requests),
    ("concurrency", .count p.concurrency),
    ("timeout_sec", .real p.timeoutSeconds),
    ("min_lines", .count p.minLines),
    ("max_lines", .count p.maxLines),
    ("seed", .count p.seed),
    ("lines_per_bill", .list (p.linesPerBill.map .count))]

/-- **The report of a bill-posting run.** -/
structure PostReport where
  target : Target
  parameters : RunParameters
  report : Report
  createdBillIds : List Int
  cleanup : CleanupResult
deriving DecidableEq

namespace PostReport

/-- **The report of a run**, of its samples and of its cleanup. -/
def of (target : Target) (parameters : RunParameters) (samples : List Sample) (wall : WallTime)
    (cleanup : CleanupResult) : PostReport where
  target := target
  parameters := parameters
  report := Report.ofSamples samples wall
  createdBillIds := createdIds samples
  cleanup := cleanup

/-- The number of bills that were created. -/
def createdCount (r : PostReport) : Nat := r.createdBillIds.length

/-- The share of requests that created a bill, in percent. -/
def createdRate (r : PostReport) : Double := percentage r.createdCount r.report.summary.total

/-- How often a status arose. -/
def statusCount (r : PostReport) (status : Nat) : Nat := r.report.statuses.count (statusName status)

/-- The summary: that of the report, and how the bills fared. -/
def summaryMembers (r : PostReport) : List (String × Json) :=
  r.report.summary.members ++ [
    ("created_count", .count r.createdCount),
    ("created_rate_pct", roundedReal r.createdRate),
    ("http_201_count", .count (r.statusCount 201)),
    ("http_409_count", .count (r.statusCount 409)),
    ("http_400_count", .count (r.statusCount 400)),
    ("http_500_count", .count (r.statusCount 500))]

def toJson (r : PostReport) : Json :=
  .object [
    ("target", r.target.toJson),
    ("run", r.parameters.toJson),
    ("summary", .object r.summaryMembers),
    ("latency_ms", r.report.latency.toJson),
    ("response_size_bytes", r.report.sizes.toJson),
    ("status_code_distribution", r.report.statuses.toJson),
    ("error_distribution", r.report.causes.toJson),
    ("created_bill_ids", .list (r.createdBillIds.map .integer)),
    ("cleanup", r.cleanup.toJson)]

/-- A double as it stands in a report; what has no text there is written as zero. -/
def lineNumber (x : Double) : String :=
  let rounded := twoPlaces x
  if rounded.isFinite then String.ofList rounded.text else "0.0"

/-- **The report in one line.** -/
def summaryLine (r : PostReport) : String :=
  r.target.name
    ++ " | success=" ++ lineNumber r.report.summary.successRate
    ++ "% created=" ++ lineNumber r.createdRate
    ++ "% thr=" ++ lineNumber r.report.summary.throughput
    ++ " req/s avg=" ++ lineNumber r.report.latency.avg
    ++ "ms p95=" ++ lineNumber r.report.latency.p95
    ++ "ms p99=" ++ lineNumber r.report.latency.p99
    ++ "ms deleted=" ++ String.ofList (decimalDigits r.cleanup.deletedIds.length)

end PostReport

end HttpLoad
