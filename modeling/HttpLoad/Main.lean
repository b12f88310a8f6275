import HttpLoad.Live.Run
import HttpLoad.Program.Posting

/-!
# The command line

The first word of the command line chooses the program, the others are its options. The programs
are those of values, with the machine as their outside.

## Main definitions

* `Machine.outside`: the machine as an outside
* `main`: the program that is asked for
-/

namespace HttpLoad.Machine

/-- A failure of the operating system as a fault of a file. -/
def faultOf : IO.Error → FileFault
  | .noFileOrDirectory .. => .missing
  | .inappropriateType _ code wording => .system code.toNat wording
  | .permissionDenied _ code wording => .system code.toNat wording
  | .resourceExhausted _ code wording => .system code.toNat wording
  | .invalidArgument _ code wording => .system code.toNat wording
  | .otherError code wording => .system code.toNat wording
  | .resourceBusy code wording => .system code.toNat wording
  | .hardwareFault code wording => .system code.toNat wording
  | e => .system 5 e.toString

/-- The content of a file. -/
def readFile (path : String) : IO (Except FileFault Bytes) := do
  try return .ok (← IO.FS.readBinFile path).toList
  catch e => return .error (faultOf e)

/-- A file written. -/
def writeFile (path : String) (content : Bytes) : IO (Except FileFault Unit) := do
  try return .ok (← IO.FS.writeBinFile path ⟨content.toArray⟩)
  catch e => return .error (faultOf e)

/-- The variables of the environment with given names. -/
def environment (names : List String) : IO (List (String × String)) :=
  names.filterMapM fun name => return (← IO.getEnv name).map fun value => (name, value)

/-- The proxies that are asked for. -/
def proxies : IO Proxies := return .ofEnvironment (← environment Proxies.variableNames)

/-- The protection that sessions with the store have to have. -/
def protection : IO StoreProtection :=
  return .ofEnvironment (← environment [StoreProtection.variableName])

/-- The day and the time now. -/
def calendar : IO (Option PostProgram.Calendar) := do
  let now ← Std.Time.Timestamp.now
  let today ← Std.Time.PlainDate.now
  return (Date.ofParts? today.year.toInt today.month.val.toNat today.day.val.toNat).map
    fun date => ⟨now.toSecondsSinceUnixEpoch.val.toNat, date⟩

/-- A wrong command line, or help that was asked for. -/
def explain (help : String) (fault : UsageFault) : IO UInt32 := do
  match fault.message? with
  | some text => IO.eprintln ("error: " ++ text ++ "\n\n" ++ help)
  | none => IO.print help
  return UInt32.ofNat fault.exitStatus

/-- **The machine as an outside**: its files, its network and its store. -/
def outside : IO (Outside IO) := do
  let logSetting ← IO.getEnv logVariable
  let proxies ← proxies
  let protection ← protection
  return {
    logSetting := logSetting
    read := readFile
    write := writeFile
    execute := fun filter plan => LiveRun.execute ⟨filter⟩ proxies plan
    contact := LiveStore.contact protection
    log := fun filter line => Console.say ⟨filter⟩ line
    print := fun text => IO.print text
    tell := fun text => IO.eprint text }

/-- The program for generic runs. -/
def bench (words : List String) : IO UInt32 := do
  match BenchArguments.parse words with
  | .error fault => explain (helpText BenchProgram.origin BenchArguments.options) fault
  | .ok arguments => return UInt32.ofNat (← BenchProgram.runIn (← outside) arguments)

/-- The program for bill-posting runs. -/
def post (words : List String) : IO UInt32 := do
  let environment ← environment (PostArguments.options.filterMap OptionSpec.variableName)
  match PostArguments.parse environment words with
  | .error fault => explain (helpText PostProgram.origin PostArguments.options) fault
  | .ok arguments =>
    let some calendar ← calendar | throw (IO.userError "the date is out of range")
    return UInt32.ofNat (← PostProgram.runIn (← outside) calendar arguments)

/-- What is said when no program is chosen. -/
def overview : String := "Usage: httpload (bench | post) [OPTIONS]\n"

end HttpLoad.Machine

/-- **The program that is asked for.** -/
def main (words : List String) : IO UInt32 := do
  match words with
  | "bench" :: words => HttpLoad.Machine.bench words
  | "post" :: words => HttpLoad.Machine.post words
  | _ =>
    IO.eprint HttpLoad.Machine.overview
    return 2
