import HttpLoad.LoadError
import HttpLoad.Log.Basic

/-!
# The store of bills

The bills of a run are deleted in the store itself, past the service under test. Whatever goes
wrong with that ends up in the report.

## Main definitions

* `Like.escape`: a text as a pattern for itself
* `Like.billPattern`: the pattern for the bills of a run
* `Like.accepts`: whether a text fits a pattern
* `CleanupResult`: a cleanup that was skipped, done or attempted in vain
* `CleanupResult.toJson`: its section of a report
* `StoreSettings`: how the store is reached
* `StoreProtection`: whether sessions with the store have to be secured
* `BillStore`: a store, given by what it answers to a deletion
* `cleanup`: the bills of a run deleted
* `StoreScript`: a store whose answers are fixed, and what it gets to see
-/

namespace HttpLoad

/-!
## Patterns for bill numbers

The bills of a run are found again by a pattern of SQL's `LIKE`: a percent sign stands for any text,
an underscore for any one character, and a backslash takes the special meaning from the character
behind it.
-/

namespace Like

/-- Whether a character has a meaning of its own in patterns. -/
def isSpecial (c : Char) : Bool := c == '%' || c == '_' || c == '\\'

/-- A text as a pattern that only the text itself fits. -/
def escape (cs : List Char) : List Char :=
  cs.flatMap fun c => if isSpecial c then ['\\', c] else [c]

/-- **The pattern for the bills of a run**: its marker, a dash and anything. -/
def billPattern (marker : String) : String :=
  String.ofList (escape marker.toList ++ ['-', '%'])

/-- The ends of a text, itself among them. -/
def suffixes : List Char → List (List Char)
  | [] => [[]]
  | c :: cs => (c :: cs) :: suffixes cs

/-- **Whether a text fits a pattern.** A backslash at the end of a pattern fits nothing. -/
def accepts : List Char → List Char → Bool
  | [], text => text.isEmpty
  | '%' :: pattern, text => (suffixes text).any (accepts pattern)
  | '_' :: pattern, text =>
    match text with
    | [] => false
    | _ :: rest => accepts pattern rest
  | ['\\'], _ => false
  | '\\' :: c :: pattern, text =>
    match text with
    | [] => false
    | d :: rest => c == d && accepts pattern rest
  | c :: pattern, text =>
    match text with
    | [] => false
    | d :: rest => c == d && accepts pattern rest

end Like

/-!
## How a cleanup went

A run's bills are deleted afterwards as far as that is possible. What came of it is reported and
never fails the run.
-/

/-- **How a cleanup went.** -/
inductive CleanupResult where
  | skipped
  | deleted (ids : List Int)
  | failed (message : String)
deriving DecidableEq, Repr

namespace CleanupResult

def attempted : CleanupResult → Bool
  | skipped => false
  | _ => true

/-- The ids of the bills that were deleted. -/
def deletedIds : CleanupResult → List Int
  | deleted ids => ids
  | _ => []

def message? : CleanupResult → Option String
  | failed message => some message
  | _ => none

def toJson (r : CleanupResult) : Json :=
  .object [
    ("attempted", .bool r.attempted),
    ("deleted_count", .count r.deletedIds.length),
    ("deleted_ids", .list (r.deletedIds.map .integer)),
    ("error", .ofOption .text r.message?)]

end CleanupResult

/-! ## Deleting bills -/

/-- **How the store is reached.** -/
structure StoreSettings where
  host : String
  port : Nat
  database : String
  user : String
  password : String
deriving DecidableEq, Repr

namespace StoreSettings

/-- What is shown in place of a password. -/
def redacted : String := "<redacted>"

/-- The settings as they are shown, each with its name. The password is not among them. -/
def shown (s : StoreSettings) : List (String × String) := [
  ("host", Quoted.quote s.host),
  ("port", String.ofList (decimalDigits s.port)),
  ("database", Quoted.quote s.database),
  ("user", Quoted.quote s.user),
  ("password", Quoted.quote redacted)]

/-- The settings in one line. -/
def lineText (s : StoreSettings) : String :=
  "DbConfig \x7b " ++ String.intercalate ", " (s.shown.map fun (n, v) => n ++ ": " ++ v) ++ " \x7d"

/-- The settings with a line for each. -/
def blockText (s : StoreSettings) : String :=
  "DbConfig \x7b\n" ++ String.join (s.shown.map fun (n, v) => "    " ++ n ++ ": " ++ v ++ ",\n")
    ++ "\x7d"

end StoreSettings

/-- **Whether sessions with the store have to be secured.** They never are, so that a store is out
of reach where that is demanded. -/
inductive StoreProtection where
  | optional
  | demanded
deriving DecidableEq, Repr

namespace StoreProtection

/-- The variable of the environment that tells of protection. -/
def variableName : String := "PGSSLMODE"

/-- The values with which sessions have to be secured. -/
def demanding : List String := ["require", "verify-ca", "verify-full"]

/-- The protection that the environment asks for, in capitals or small letters. -/
def ofEnvironment (environment : List (String × String)) : StoreProtection :=
  match environment.lookup variableName with
  | some value => if demanding.contains (value.map Char.toLower) then .demanded else .optional
  | none => .optional

/-- The error of a session that would have to be secured. -/
def unavailable : LoadError :=
  .store ("error occurred while attempting to establish a TLS connection: "
    ++ "TLS upgrade required by connect options but SQLx was built without TLS support enabled")

end StoreProtection

/-- **A store**, given by what it answers when the bills of a marker are to be deleted. -/
structure BillStore where
  delete : String → Except LoadError (List Int)

/-- The origin of the lines that a cleanup logs. -/
def cleanupOrigin : String := "billbench_loadgen::cleanup"

/-- **The bills of a run deleted**: how that went, and the line about it. -/
def cleanup (store : BillStore) (marker : String) : CleanupResult × LogLine :=
  match store.delete marker with
  | .ok ids =>
    (.deleted ids,
      { level := .info
        origin := cleanupOrigin
        message := "cleanup finished"
        fields := [
          ("prefix", Quoted.quote marker),
          ("deleted", String.ofList (decimalDigits ids.length))] })
  | .error e =>
    (.failed e.message,
      { level := .warn
        origin := cleanupOrigin
        message := "cleanup failed"
        fields := [("prefix", Quoted.quote marker), ("error", e.message)] })

/-- A store that was reached, or why it was not. -/
abbrev StoreContact := Except LoadError BillStore

/-- **A cleanup** of a store that first has to be reached. -/
def connectAndCleanup (settings : StoreSettings) (contact : StoreContact) (marker : String) :
    CleanupResult × LogLine :=
  match contact with
  | .ok store => cleanup store marker
  | .error e =>
    (.failed e.message,
      { level := .warn
        origin := cleanupOrigin
        message := "cannot connect to bills database"
        fields := [
          ("host", settings.host),
          ("port", String.ofList (decimalDigits settings.port)),
          ("error", e.message)] })

/-- The statement that deletes bills by a pattern. -/
def deleteStatement : String :=
  "DELETE FROM bill WHERE bill_number LIKE $1 ESCAPE '\\' RETURNING id"

/-- A complaint of a database: its code and its wording. -/
structure DatabaseFault where
  code : String
  message : String
deriving DecidableEq, Repr

/-- A store that nobody answers for in time. -/
def unreachable : LoadError := .store "pool timed out while waiting for an open connection"

/-- A complaint as an error of the run. -/
def DatabaseFault.error (fault : DatabaseFault) : LoadError :=
  .store ("error returned from database: " ++ fault.message)

/-- The complaints at the start of a session after which another one is tried until time is up. -/
def passingCodes : List String := ["53300", "57P03"]

/-- A complaint at the start of a session as an error of the run. -/
def DatabaseFault.startupError (fault : DatabaseFault) : LoadError :=
  if passingCodes.contains fault.code then unreachable else fault.error

/-- **A store whose answers are fixed.** -/
structure StoreScript where
  startupFault : Option DatabaseFault := none
  deletionFault : Option DatabaseFault := none
  asksPassword : Bool := false
  ids : List Int := []
deriving DecidableEq, Repr

/-- What a store gets to see. -/
structure StoreSession where
  user : String
  database : String
  password : Option String
  /-- The statement and its parameter, if the session got that far. -/
  statement : Option (String × String)
deriving DecidableEq, Repr

namespace StoreScript

/-- The store as it is reached with a protection. -/
def contact (script : StoreScript) (protection : StoreProtection) : StoreContact :=
  match protection, script.startupFault with
  | .demanded, _ => .error StoreProtection.unavailable
  | .optional, some fault => .error fault.startupError
  | .optional, none =>
    .ok ⟨fun _ =>
      match script.deletionFault with
      | some fault => .error fault.error
      | none => .ok script.ids⟩

/-- **What the store gets to see** when the bills of a marker are to be deleted: nothing, if the
session would have to be secured. -/
def session? (script : StoreScript) (protection : StoreProtection) (settings : StoreSettings)
    (marker : String) : Option StoreSession :=
  match protection with
  | .demanded => none
  | .optional =>
    some {
      user := settings.user
      database := settings.database
      password := if script.asksPassword then some settings.password else none
      statement :=
        if script.startupFault.isSome then none
        else some (deleteStatement, Like.billPattern marker) }

end StoreScript

end HttpLoad
