import HttpLoad.Bill.Batch
import HttpLoad.Program.Bench
import HttpLoad.Report.Posting

/-!
# The program for bill-posting runs

It generates bills, posts each of them once, deletes what it has created, and reports all of that.

## Main definitions

* `PostArguments`, `PostArguments.parse`: what the options say
* `PostArguments.settings`: checked settings, or what is wrong with them
* `PostSettings.plan`: the plan of the run
* `PostProgram.Calendar`: when the program is run
* `PostProgram.runIn`: the program with given options
* `PostProgram.run`: the whole program
-/

namespace HttpLoad

/-!
## Settings

The options of the program that posts generated bills, the settings that they amount to once they
are checked, and the plan of the run with the bills as its bodies.
-/

/-- **What the options of a bill-posting run say**, with what holds without them. -/
structure PostArguments where
  name : String := "POST-Target"
  url : String := ""
  requests : Int := 10
  concurrency : Int := 5
  timeoutSeconds : Double := Double.ofNat 10
  minLines : Int := 10
  maxLines : Int := 15
  marker : Option String := none
  seed : UInt64 := 42
  skipsCleanup : Bool := false
  quiet : Bool := false
  reportPath : Option String := none
  store : StoreSettings :=
    { host := "localhost"
      port := 5440
      database := "api_lang_arena"
      user := "api_lang_user"
      password := "api_lang_password" }
deriving DecidableEq

/-- **Checked settings of a bill-posting run.** -/
structure PostSettings where
  name : String
  url : String
  marker : String
  total : Nat
  concurrency : Nat
  timeoutSeconds : Double
  minLines : Nat
  maxLines : Nat
  seed : UInt64
  skipsCleanup : Bool
  quiet : Bool
  reportPath : Option String
  store : StoreSettings
deriving DecidableEq

namespace PostArguments

/-- The greatest number of a port. -/
def portMax : Int := 65535

/-- The greatest seed. -/
def seedMax : Nat := Nat.pow 2 64 - 1

/-- A seed from its text. -/
def seed? (text : String) : Option UInt64 :=
  (parseNat? text.toList).bind fun n => if n ≤ seedMax then some (UInt64.ofNat n) else none

/-- The options. -/
def options : List (OptionSpec PostArguments) := [
  { name := "name"
    valueName := "NAME"
    action := .text fun v a => { a with name := v } },
  { name := "url"
    valueName := "URL"
    action := .text fun v a => { a with url := v }
    required := true },
  { name := "requests"
    valueName := "REQUESTS"
    action := .count fun v a => { a with requests := v } },
  { name := "concurrency"
    valueName := "CONCURRENCY"
    action := .count fun v a => { a with concurrency := v } },
  { name := "timeout-sec"
    valueName := "TIMEOUT_SEC"
    action := .real fun v a => { a with timeoutSeconds := v } },
  { name := "min-lines"
    valueName := "MIN_LINES"
    action := .count fun v a => { a with minLines := v } },
  { name := "max-lines"
    valueName := "MAX_LINES"
    action := .count fun v a => { a with maxLines := v } },
  { name := "prefix"
    valueName := "PREFIX"
    action := .text fun v a => { a with marker := some v } },
  { name := "seed"
    valueName := "SEED"
    action := .parsed false seed? fun v a => { a with seed := v } },
  { name := "skip-cleanup"
    action := .flag fun a => { a with skipsCleanup := true } },
  { name := "quiet"
    action := .flag fun a => { a with quiet := true } },
  { name := "output-json"
    valueName := "OUTPUT_JSON"
    action := .path fun v a => { a with reportPath := some v } },
  { name := "db-host"
    valueName := "DB_HOST"
    action := .text fun v a => { a with store := { a.store with host := v } }
    variableName := some "POSTGRES_HOST" },
  { name := "db-port"
    valueName := "DB_PORT"
    action := .integer false 0 portMax fun v a =>
      { a with store := { a.store with port := v.toNat } }
    variableName := some "POSTGRES_PORT" },
  { name := "db-name"
    valueName := "DB_NAME"
    action := .text fun v a => { a with store := { a.store with database := v } }
    variableName := some "POSTGRES_DB" },
  { name := "db-user"
    valueName := "DB_USER"
    action := .text fun v a => { a with store := { a.store with user := v } }
    variableName := some "POSTGRES_USER" },
  { name := "db-password"
    valueName := "DB_PASSWORD"
    action := .text fun v a => { a with store := { a.store with password := v } }
    variableName := some "POSTGRES_PASSWORD" }]

/-- **The options of a command line**, some of which may come from the environment. -/
def parse (environment : List (String × String)) (words : List String) :
    Except UsageFault PostArguments :=
  readOptions options {} environment words

/-- The marker of the run's bills: the given one, which must not be blank, or one made from the
time. -/
def checkedMarker (a : PostArguments) (unixSeconds : Nat) : Except LoadError String :=
  match a.marker with
  | none => .ok (defaultMarker unixSeconds)
  | some marker =>
    if (Blank.trim marker.toList).isEmpty then .error Refusal.blankMarker.error else .ok marker

/-- The numbers of lines: positive, and in order. -/
def lineCounts (a : PostArguments) : Except LoadError (Nat × Nat) :=
  if a.minLines ≤ 0 ∨ a.maxLines ≤ 0 then .error Refusal.lineCountsNotPositive.error
  else if a.maxLines < a.minLines then .error Refusal.lineCountsReversed.error
  else .ok (a.minLines.toNat, a.maxLines.toNat)

/-- **Checked settings**, or the first thing that is wrong with them. The marker may depend on the
time in seconds. -/
def settings (a : PostArguments) (unixSeconds : Nat) : Except LoadError PostSettings := do
  let total ← positiveCount "--requests" a.requests
  let concurrency ← positiveCount "--concurrency" a.concurrency
  let _ ← Deadline.ofSeconds "--timeout-sec" a.timeoutSeconds
  let (minLines, maxLines) ← a.lineCounts
  let _ ← webAddress a.url
  let marker ← a.checkedMarker unixSeconds
  return {
    name := a.name
    url := a.url
    marker := marker
    total := total
    concurrency := concurrency
    timeoutSeconds := a.timeoutSeconds
    minLines := minLines
    maxLines := maxLines
    seed := a.seed
    skipsCleanup := a.skipsCleanup
    quiet := a.quiet
    reportPath := a.reportPath
    store := a.store }

end PostArguments

namespace PostSettings

/-- The bills of the run. -/
def batch (s : PostSettings) (issuedAt : Date) : Except DrawFault Batch :=
  Batch.generate s.marker s.total s.minLines s.maxLines issuedAt s.seed

/-- **The plan of the run**: every request creates a bill, so nothing is sent to warm up. -/
def plan (s : PostSettings) (bodies : List Bytes) : Except LoadError RunPlan := do
  let deadline ← Deadline.ofSeconds "--timeout-sec" s.timeoutSeconds
  return {
    request := { method := Method.post, url := s.url, headers := [], capturesId := true }
    bodies := .each bodies
    total := s.total
    concurrency := s.concurrency
    deadline := deadline
    warmUps := 0
    reportPath := s.reportPath }

def target (s : PostSettings) : Target := { name := s.name, url := s.url }

/-- What the run was asked to do, as it is reported. -/
def parameters (s : PostSettings) (linesPerBill : List Nat) : RunParameters where
  marker := s.marker
  requests := s.total
  concurrency := s.concurrency
  timeoutSeconds := s.timeoutSeconds
  minLines := s.minLines
  maxLines := s.maxLines
  seed := s.seed.toNat
  linesPerBill := linesPerBill

end PostSettings

/-! ## The program -/

namespace PostProgram

/-- Where the program's own lines come from. -/
def origin : String := "billbench_post"

/-- **When the program is run.** -/
structure Calendar where
  unixSeconds : Nat
  today : Date

/-- The line about the generated bills. -/
def generatedLine (s : PostSettings) (count : Nat) : LogLine where
  level := .info
  origin := origin
  message := "payloads generated"
  fields := [("prefix", s.marker), ("bills", RunRecord.number count)]

/-- The cleanup of a run, and the lines about it. -/
def cleanUp (s : PostSettings) (contact : StoreContact) : CleanupResult × List LogLine :=
  if s.skipsCleanup then (.skipped, [])
  else
    let (result, line) := connectAndCleanup s.store contact s.marker
    (result, [line])

/-- The report of a run and its cleanup. -/
def report (s : PostSettings) (batch : Batch) (record : RunRecord) (cleanup : CleanupResult) :
    PostReport :=
  .of s.target (s.parameters batch.linesPerBill) record.samples record.wallTime cleanup

/-- The report, about to be written. -/
def closing (filter : LogFilter) (s : PostSettings) (r : PostReport) : Closing where
  report := r.toJson
  reportPath := s.reportPath
  filter := filter
  origin := origin
  summary := if s.quiet then none else some r.summaryLine

section

variable {m : Type → Type} [Monad m] (out : Outside m)

/-- The cleanup of a run. The store is not turned to if that is skipped. -/
def cleanUpIn (s : PostSettings) : m CleanupResult := do
  let contact ← if s.skipsCleanup then pure (.error unreachable) else out.contact s.store s.marker
  let (result, lines) := cleanUp s contact
  lines.forM (out.log (out.filter s.quiet))
  return result

/-- The run with a plan for its batch, its cleanup and its report. -/
def runPlan (s : PostSettings) (batch : Batch) (plan : RunPlan) : m Nat := do
  out.log (out.filter s.quiet) (generatedLine s batch.bills.length)
  match ← out.execute (out.filter s.quiet) plan with
  | .error e => out.stop e
  | .ok record =>
    let cleanup ← cleanUpIn out s
    (closing (out.filter s.quiet) s (report s batch record cleanup)).finish out

/-- The run with its settings. Its bills are generated before anything else is done. -/
def runSettings (s : PostSettings) (today : Date) : m Nat :=
  match s.batch today with
  | .error fault => out.crash fault.message
  | .ok batch =>
    match s.plan batch.bodies with
    | .error e => out.stop e
    | .ok plan => runPlan out s batch plan

/-- **The program with given options.** -/
def runIn (when_ : Calendar) (arguments : PostArguments) : m Nat :=
  match arguments.settings when_.unixSeconds with
  | .error e => out.stop e
  | .ok s => runSettings out s when_.today

end

variable {σ : Type} (around : Surroundings σ) (when_ : Calendar) (contact : StoreContact)

/-- The program with given options in its surroundings. -/
def runWith (arguments : PostArguments) : ProgramResult σ :=
  around.resultOf contact fun out => runIn out when_ arguments

/-- **The whole program**, unless its command line is wrong. -/
def run : Except UsageFault (ProgramResult σ) :=
  (PostArguments.parse around.environment around.words).map (runWith around when_ contact)

end PostProgram

end HttpLoad
