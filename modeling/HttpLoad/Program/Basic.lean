import HttpLoad.Cleanup.Store
import HttpLoad.Program.Options
import HttpLoad.Run.Basic

/-!
# Programs

A program reads its command line, does its run, and ends with a status and what it has written: the
report to the standard output, log lines, errors and summaries to the standard error. It is written
once, for whatever it reaches through its outside. In one outside what a program finds around it is
a value, and so is what it leaves behind.

## Main definitions

* `Outside`: what a program reaches
* `Closing`, `Closing.finish`: a report about to be written, and how a program ends with it
* `Surroundings`: what a program finds around it
* `Surroundings.outside`, `Surroundings.resultOf`: the outside that surroundings are, and a program
  in it
* `ProgramResult`: what a program leaves behind
* `ProgramResult.refused`: how a program ends that finds its settings wrong
-/

namespace HttpLoad

/-- The variable of the environment that holds a log filter. -/
def logVariable : String := "BILLBENCH_LOG"

/-- A line with its end. -/
def endLine (line : String) : String := line ++ "\n"

/-- The log as far as a filter shows it. -/
def LogFilter.shown (filter : LogFilter) (log : List LogLine) : String :=
  String.join ((log.filter filter.shows).map fun line => endLine line.text)

/-! ## Programs and their outside -/

/-- **What a program reaches**, in a monad. -/
structure Outside (m : Type → Type) where
  /-- The log filter that is asked for, if any. -/
  logSetting : Option String
  read : String → m (Except FileFault Bytes)
  write : String → Bytes → m (Except FileFault Unit)
  /-- A run, through the proxies that are asked for, with its log. -/
  execute : LogFilter → RunPlan → m (Except LoadError RunRecord)
  /-- The store that settings tell of, turned to because of the bills of a marker. -/
  contact : StoreSettings → (marker : String) → m StoreContact
  /-- A line of the log, as far as a filter shows it. -/
  log : LogFilter → LogLine → m Unit
  /-- A text on the standard output. -/
  print : String → m Unit
  /-- A text on the standard error. -/
  tell : String → m Unit

namespace Outside

variable {m : Type → Type} [Monad m] (out : Outside m)

/-- The log filter of a program, by whether it is to be quiet. -/
def filter (quiet : Bool) : LogFilter := .ofSetting out.logSetting quiet

/-- A program that stops because of an error. -/
def stop (e : LoadError) : m Nat := do
  out.tell (endLine e.message)
  return e.exitStatus

/-- The status of a program that has crashed. -/
def crashStatus : Nat := 101

/-- A program that crashes. -/
def crash (message : String) : m Nat := do
  out.tell (endLine message)
  return crashStatus

end Outside

/-- **A report about to be written.** -/
structure Closing where
  report : Json
  reportPath : Option String
  filter : LogFilter
  /-- Where the program's own lines come from. -/
  origin : String
  /-- The report in one line, if it is asked for. -/
  summary : Option String

namespace Closing

variable {m : Type → Type} [Monad m] (out : Outside m)

/-- The text of the report. -/
def text (c : Closing) : String := c.report.pretty

/-- The line about a report that has been written. -/
def writtenLine (c : Closing) (path : String) : LogLine where
  level := .info
  origin := c.origin
  message := "report written"
  fields := [("path", path)]

/-- The report written to its file, if it has one. -/
def write (c : Closing) : m (Except LoadError Unit) := do
  match c.reportPath with
  | none => return .ok ()
  | some path =>
    match ← out.write path (Bytes.ofString c.text) with
    | .ok () =>
      out.log c.filter (c.writtenLine path)
      return .ok ()
    | .error fault => return .error (unwritten path fault)

/-- The report in one line, told if it is asked for. -/
def summarize (c : Closing) : m Unit :=
  match c.summary with
  | none => return ()
  | some line => out.tell (endLine line)

/-- **How a program ends** with a report: it prints the report, and then writes it to its file. -/
def finish (c : Closing) : m Nat := do
  out.print (endLine c.text)
  match ← c.write out with
  | .ok () =>
    c.summarize out
    return 0
  | .error e => out.stop e

end Closing

/-! ## An outside of values -/

/-- **What a program finds around it.** -/
structure Surroundings (σ : Type) where
  words : List String
  environment : List (String × String)
  files : FileStore
  network : Network σ
  state : σ

/-- **What a program has done** so far. -/
structure Traces (σ : Type) where
  stdout : String := ""
  stderr : String := ""
  files : FileStore
  state : σ
  /-- Whether the store of bills was turned to. -/
  usedStore : Bool := false

/-- **What a program leaves behind.** -/
structure ProgramResult (σ : Type) extends Traces σ where
  exitStatus : Nat

/-- What a program leaves behind that ends with a status. -/
def ProgramResult.ofEnding {σ : Type} (ending : Nat × Traces σ) : ProgramResult σ :=
  { ending.2 with exitStatus := ending.1 }

namespace Traces

variable {σ : Type} (t : Traces σ)

def print (text : String) : Traces σ := { t with stdout := t.stdout ++ text }

def tell (text : String) : Traces σ := { t with stderr := t.stderr ++ text }

end Traces

namespace Surroundings

variable {σ : Type} (around : Surroundings σ)

/-- The protection that sessions with the store have to have. -/
def storeProtection : StoreProtection := .ofEnvironment around.environment

/-- **A run** in the network around, through the proxies that are asked for. -/
def execute (plan : RunPlan) : Except LoadError (RunRecord × σ) :=
  let proxies := Proxies.ofEnvironment around.environment
  (plan.through proxies).execute (proxies.network around.network) around.state

/-- A run in the state that a program has come to. -/
def executeAfter (filter : LogFilter) (plan : RunPlan) :
    StateM (Traces σ) (Except LoadError RunRecord) := fun t =>
  match { around with state := t.state }.execute plan with
  | .error e => (.error e, t)
  | .ok (record, state) =>
    (.ok record, { t with state := state }.tell (filter.shown (record.log plan)))

/-- A file written among those that a program has come to. -/
def writeAfter (path : String) (content : Bytes) : StateM (Traces σ) (Except FileFault Unit) :=
  fun t =>
    match t.files.write path content with
    | .error fault => (.error fault, t)
    | .ok files => (.ok (), { t with files := files })

/-- **The outside that surroundings are**, with a store that is reached in a certain way. -/
def outside (contact : StoreContact) : Outside (StateM (Traces σ)) where
  logSetting := around.environment.lookup logVariable
  read path := fun t => (t.files.read path, t)
  write := writeAfter
  execute := around.executeAfter
  contact _ _ := fun t => (contact, { t with usedStore := true })
  log filter line := fun t => ((), t.tell (filter.shown [line]))
  print text := fun t => ((), t.print text)
  tell text := fun t => ((), t.tell text)

/-- What there is before a program has done anything. -/
def untouched : Traces σ := { files := around.files, state := around.state }

/-- **A program in its surroundings**, from its start to its end. -/
def resultOf (contact : StoreContact)
    (program : Outside (StateM (Traces σ)) → StateM (Traces σ) Nat) : ProgramResult σ :=
  .ofEnding (program (around.outside contact) around.untouched)

end Surroundings

/-- A program that finds its settings wrong: it has done nothing. -/
def ProgramResult.refused {σ : Type} (around : Surroundings σ) (e : LoadError) :
    ProgramResult σ where
  exitStatus := e.exitStatus
  stdout := ""
  stderr := endLine e.message
  files := around.files
  state := around.state

end HttpLoad
