import HttpLoad.Program.Basic

/-!
# The program for generic runs

It sends one request over and over and reports how that went. All settings are checked before
anything is sent.

## Main definitions

* `webAddress`: the web address that a text is
* `BenchArguments`: what the options say
* `BenchArguments.parse`: the options of a command line
* `BenchArguments.plan`: the plan of the run, or what is wrong with the settings
* `BenchProgram.runIn`: the program with given options
* `BenchProgram.run`: the whole program
-/

namespace HttpLoad

/-- **The web address that a text is**, or what is wrong with it. -/
def webAddress (text : String) : Except LoadError Url :=
  match Address.parse text.toList with
  | .ok (.web url) => .ok url
  | .ok other =>
    .error (Refusal.badUrl text ("unsupported scheme '" ++ other.scheme ++ "'")).error
  | .error fault => .error (Refusal.badUrl text fault.message).error

/-! ## Settings -/

/-- **What the options of a generic run say**, with what holds without them. -/
structure BenchArguments where
  url : String := ""
  method : String := "GET"
  requests : Int := 100
  concurrency : Int := 10
  timeoutSeconds : Double := Double.ofNat 10
  headers : List String := []
  payloadFile : Option String := none
  warmUps : Int := 5
  reportPath : Option String := none
deriving DecidableEq

/-- The range of integers with 64 bits. -/
def int64Min : Int := -0x8000000000000000
def int64Max : Int := 0x7fffffffffffffff

/-- An option with a count, which may be negative until it is checked. -/
def OptionAction.count {α : Type} (put : Int → α → α) : OptionAction α :=
  OptionAction.integer true int64Min int64Max put

namespace BenchArguments

/-- The options. -/
def options : List (OptionSpec BenchArguments) := [
  { name := "url"
    valueName := "URL"
    action := .text fun v a => { a with url := v }
    required := true },
  { name := "method"
    valueName := "METHOD"
    action := .text fun v a => { a with method := v } },
  { name := "requests"
    valueName := "REQUESTS"
    action := .count fun v a => { a with requests := v } },
  { name := "concurrency"
    valueName := "CONCURRENCY"
    action := .count fun v a => { a with concurrency := v } },
  { name := "timeout-sec"
    valueName := "TIMEOUT_SEC"
    action := .real fun v a => { a with timeoutSeconds := v } },
  { name := "header"
    valueName := "HEADERS"
    action := .texts fun v a => { a with headers := a.headers ++ [v] } },
  { name := "payload-file"
    valueName := "PAYLOAD_FILE"
    action := .path fun v a => { a with payloadFile := some v } },
  { name := "warmup-requests"
    valueName := "WARMUP_REQUESTS"
    action := .count fun v a => { a with warmUps := v } },
  { name := "output-json"
    valueName := "OUTPUT_JSON"
    action := .path fun v a => { a with reportPath := some v } }]

/-- **The options of a command line.** -/
def parse (words : List String) : Except UsageFault BenchArguments :=
  readOptions options {} [] words

/-- The bodies of the run: the content of the payload file, if there is one. -/
def bodies (a : BenchArguments) (read : String → Except FileFault Bytes) :
    Except LoadError Bodies :=
  match a.payloadFile with
  | none => .ok .none
  | some path => (loadPayload path (read path)).map Bodies.shared

/-- **The plan of the run**, or the first thing that is wrong with the settings. `read`
reads files. -/
def plan (a : BenchArguments) (read : String → Except FileFault Bytes) :
    Except LoadError RunPlan := do
  let total ← positiveCount "--requests" a.requests
  let concurrency ← positiveCount "--concurrency" a.concurrency
  let warmUps ← countFromZero "--warmup-requests" a.warmUps
  let deadline ← Deadline.ofSeconds "--timeout-sec" a.timeoutSeconds
  let _ ← webAddress a.url
  let method ← Method.parse a.method
  let headers ← Headers.parse a.headers
  let bodies ← a.bodies read
  return {
    request := { method := method, url := a.url, headers := headers, capturesId := false }
    bodies := bodies
    total := total
    concurrency := concurrency
    deadline := deadline
    warmUps := warmUps
    reportPath := a.reportPath }

end BenchArguments

/-! ## The program -/

namespace BenchProgram

/-- Where the program's own lines come from. -/
def origin : String := "billbench"

/-- The report of a run, about to be written. -/
def closing (filter : LogFilter) (plan : RunPlan) (record : RunRecord) : Closing where
  report := (Report.ofSamples record.samples record.wallTime).toJson
  reportPath := plan.reportPath
  filter := filter
  origin := origin
  summary := none

section

variable {m : Type → Type} [Monad m] (out : Outside m)

/-- The content of the payload file; it is not looked at if there is none. -/
def payload (arguments : BenchArguments) : m (Except FileFault Bytes) :=
  match arguments.payloadFile with
  | none => return .ok []
  | some path => out.read path

/-- The program with a plan, or with what is wrong with its settings. -/
def runPlan : Except LoadError RunPlan → m Nat
  | .error e => out.stop e
  | .ok plan => do
    match ← out.execute (out.filter false) plan with
    | .error e => out.stop e
    | .ok record => (closing (out.filter false) plan record).finish out

/-- **The program with given options.** -/
def runIn (arguments : BenchArguments) : m Nat := do
  let content ← payload out arguments
  runPlan out (arguments.plan fun _ => content)

end

variable {σ : Type} (around : Surroundings σ)

/-- The program with given options in its surroundings. It does not turn to the store. -/
def runWith (arguments : BenchArguments) : ProgramResult σ :=
  around.resultOf (.error unreachable) fun out => runIn out arguments

/-- **The whole program**, unless its command line is wrong. -/
def run : Except UsageFault (ProgramResult σ) :=
  (BenchArguments.parse around.words).map (runWith around)

end BenchProgram

end HttpLoad
