import HttpLoad.Json.Decoder

/-!
# What can go wrong with a run

A request that fails is data of the run and no error. Errors are what keeps a run from starting,
or its report from being written.

## Main definitions

* `LoadError`, `LoadError.message`: an error and its wording
* `LoadError.exitStatus`: the status that a program ends with
* `LoadError.toJson`, `LoadError.decode`: the text of an error, and back
* `Refusal`, `Refusal.message`: a refusal and its wording
* `Refusal.error`: the refusal as an error of the run
-/

namespace HttpLoad

/-! ## Errors -/

/-- **An error of a run.** -/
inductive LoadError where
  | invalidArgument (text : String)
  | invalidHeader (header : String)
  | payloadFile (path reason : String)
  | payloadJson (path reason : String)
  | clientBuild (text : String)
  | worker (text : String)
  | output (path reason : String)
  | store (text : String)
deriving DecidableEq, Repr

namespace LoadError

def name : LoadError → String
  | invalidArgument _ => "InvalidArgument"
  | invalidHeader _ => "InvalidHeader"
  | payloadFile _ _ => "PayloadFile"
  | payloadJson _ _ => "PayloadJson"
  | clientBuild _ => "ClientBuild"
  | worker _ => "Worker"
  | output _ _ => "Output"
  | store _ => "Store"

def message : LoadError → String
  | invalidArgument text => text
  | invalidHeader header => "Invalid header '" ++ header ++ "'. Use 'Header: Value'."
  | payloadFile path reason => "Cannot read payload file " ++ path ++ ": " ++ reason
  | payloadJson path reason => "Payload file " ++ path ++ " is not valid JSON: " ++ reason
  | clientBuild text => "Failed to build HTTP client: " ++ text
  | worker text => "Worker task failed: " ++ text
  | output path reason => "Failed to write report to " ++ path ++ ": " ++ reason
  | store text => "Store error: " ++ text

/-- Whether the error is found before the first request is sent. -/
def isEarly : LoadError → Bool
  | worker _ => false
  | output _ _ => false
  | store _ => false
  | _ => true

/-- The status that a program ends with: two before the first request, one after it. -/
def exitStatus (e : LoadError) : Nat := if e.isEarly then 2 else 1

/-- The content of an error with a path. -/
def located (path reason : String) : Json :=
  .object [("path", .text path), ("reason", .text reason)]

def content : LoadError → Json
  | invalidArgument text => .text text
  | invalidHeader header => .text header
  | payloadFile path reason => located path reason
  | payloadJson path reason => located path reason
  | clientBuild text => .text text
  | worker text => .text text
  | output path reason => located path reason
  | store text => .text text

/-- An error as an object with its name as the only key. -/
def toJson (e : LoadError) : Json := .object [(e.name, e.content)]

/-- The error's name as it stands in complaints. -/
def qualified (name : String) : String := "struct variant BenchError::" ++ name

/-- The content of an error with a path: both fields are texts. -/
def locatedRecord (title : String) (make : String → String → LoadError) :
    Json.Record (Option String × Option String) LoadError where
  title := title
  start := (none, none)
  fields := [
    { name := "path"
      given := fun s => s.1.isSome
      read := fun s bytes => do
        let (path, rest) ← Json.decodeText "a string" bytes
        return ((some path, s.2), rest) },
    { name := "reason"
      given := fun s => s.2.isSome
      read := fun s bytes => do
        let (reason, rest) ← Json.decodeText "a string" bytes
        return ((s.1, some reason), rest) }]
  finish
    | (some path, some reason) => .ok (make path reason)
    | (none, _) => .error "path"
    | (_, none) => .error "reason"

/-- An error with a text. -/
def textVariant (name : String) (make : String → LoadError) : Json.Variant LoadError where
  name := name
  form := "newtype variant"
  content := fun bytes => do
    let (text, rest) ← Json.decodeText "a string" bytes
    return (make text, rest)

/-- An error with a path and a reason. -/
def locatedVariant (name : String) (make : String → String → LoadError) :
    Json.Variant LoadError where
  name := name
  form := "struct variant"
  content := (locatedRecord (qualified name) make).decode

def variants : List (Json.Variant LoadError) := [
  textVariant "InvalidArgument" invalidArgument,
  textVariant "InvalidHeader" invalidHeader,
  locatedVariant "PayloadFile" payloadFile,
  locatedVariant "PayloadJson" payloadJson,
  textVariant "ClientBuild" clientBuild,
  textVariant "Worker" worker,
  locatedVariant "Output" output,
  textVariant "Store" store]

/-- **An error from its text.** -/
def decode : Json.Decoder LoadError := Json.decodeVariant variants

end LoadError

/-!
## Why settings are refused

Settings are checked before anything is sent. A refusal names the option and what is asked of it.
-/

/-- **Why settings are refused.** -/
inductive Refusal where
  | notPositive (option : String)
  | negative (option : String)
  | tooLarge (option : String)
  | lineCountsNotPositive
  | lineCountsReversed
  | blankMarker
  | emptyPool
  | badMethod (name : String)
  | badUrl (url why : String)
deriving DecidableEq, Repr

namespace Refusal

def message : Refusal → String
  | notPositive option => option ++ " must be greater than 0"
  | negative option => option ++ " must be 0 or greater"
  | tooLarge option => option ++ " is too large"
  | lineCountsNotPositive => "--min-lines and --max-lines must be greater than 0"
  | lineCountsReversed => "--min-lines cannot be greater than --max-lines"
  | blankMarker => "--prefix must not be empty"
  | emptyPool => "client pool size must be greater than 0"
  | badMethod name => "Invalid HTTP method '" ++ name ++ "'"
  | badUrl url why => "Invalid --url '" ++ url ++ "': " ++ why

/-- A refusal as an error of the run. -/
def error (r : Refusal) : LoadError := .invalidArgument r.message

end Refusal

end HttpLoad
