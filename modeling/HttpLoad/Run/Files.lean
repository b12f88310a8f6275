import HttpLoad.LoadError

/-!
# Files, and what is read from and written to them

A run reads at most one file, its payload, and writes at most one, its report. The files that it
can reach are a value: contents and directories by place, where a place is the list of the names
that lead there from the working directory. Of what is not below the working directory only that is
known which every system has.

## Main definitions

* `FileFault`, `FileFault.message`: why a file cannot be read or written
* `Place`, `Place.above`: where something stands, and where its directory does
* `FileStore`: the files and directories that a run can reach
* `FileStore.read`, `FileStore.write`: a file's content, and the store with a file written
* `Bodies`, `Bodies.get?`: the bodies of a run, and the body of a request
* `canonicalText`: a JSON document in the form in which it is sent
* `loadPayload`: the body that a file holds
* `keyText?`, `objectOf`: an object from entries whose keys are values
* `writeDocument`: a document written to a file
-/

namespace HttpLoad

/-! ## Files -/

/-- **Why a file cannot be read or written.** -/
inductive FileFault where
  | missing
  | notDirectory
  | isDirectory
  | nameTooLong
  | nulInName
  | noSpace
  /-- A fault that only the operating system has a name for. -/
  | system (code : Nat) (wording : String)
deriving DecidableEq, Repr

def FileFault.message : FileFault → String
  | missing => "No such file or directory (os error 2)"
  | notDirectory => "Not a directory (os error 20)"
  | isDirectory => "Is a directory (os error 21)"
  | nameTooLong => "File name too long (os error 36)"
  | nulInName => "file name contained an unexpected NUL byte"
  | noSpace => "No space left on device (os error 28)"
  | system code wording =>
    wording ++ " (os error " ++ String.ofList (decimalDigits code) ++ ")"

/-- What a path leads to. -/
inductive FileEntry where
  | file (content : Bytes)
  | directory
  /-- A device that is empty and takes whatever is written to it. -/
  | sink
  /-- A device that takes nothing. -/
  | full
deriving DecidableEq

/-- **Where something stands**: the names that lead there from the working directory. The directory
above a place is named only where no name can be taken back; the name of the root comes first, if it
comes at all. -/
abbrev Place := List String

namespace Place

/-- The name of the directory above. -/
def aboveName : String := ".."

/-- The name of the root of all files. -/
def rootName : String := "/"

/-- **The directory above** a place. Above the root there is the root itself. -/
def above (place : Place) : Place :=
  match place.getLast? with
  | none => [aboveName]
  | some last =>
    if last = aboveName then place ++ [aboveName]
    else if last = rootName then place
    else place.dropLast

/-- The names of a path as it is written. -/
def names (written : String) : List String :=
  ((written.toList.splitOnP (· == '/')).map String.ofList).filter (· ≠ "")

/-- The place that a path starts from. -/
def startOf (written : String) : Place := if written.startsWith "/" then [rootName] else []

/-- One name further, whether or not there is anything. -/
def step (place : Place) (name : String) : Place :=
  if name = "." then place
  else if name = aboveName then place.above
  else place ++ [name]

end Place

/-- **The files and directories** that a run can reach, the latest first. A directory that holds
something need not be listed itself. -/
structure FileStore where
  entries : List (Place × FileEntry) := []

namespace FileStore

/-- What is found on every system. -/
def common : List (Place × FileEntry) := [
  ([Place.rootName], .directory),
  ([Place.rootName, "tmp"], .directory),
  ([Place.rootName, "dev", "null"], .sink),
  ([Place.rootName, "dev", "full"], .full)]

/-- The greatest length of a name in bytes. -/
def nameMax : Nat := 255

/-- The length in bytes from which on a path is too long. -/
def pathMax : Nat := 4096

/-- What stands at a place. The working directory and those above it are there. -/
def entry? (store : FileStore) (place : Place) : Option FileEntry :=
  if place.all (· = Place.aboveName) then some .directory
  else
    let known := store.entries ++ common
    match known.lookup place with
    | some entry => some entry
    | none => if known.any fun e => place.isPrefixOf e.1 then some .directory else none

/-- One name further: the directory above, the same directory, or the entry with that name. -/
def enter (store : FileStore) (place : Place) (name : String) : Except FileFault Place :=
  match store.entry? place with
  | none => .error .missing
  | some .directory =>
    if nameMax < name.utf8ByteSize then .error .nameTooLong else .ok (place.step name)
  | some _ => .error .notDirectory

/-- The place that a written path leads to. -/
def resolve (store : FileStore) (written : String) : Except FileFault Place :=
  if written.toList.contains '\x00' then .error .nulInName
  else if pathMax ≤ written.utf8ByteSize then .error .nameTooLong
  else if written = "" then .error .missing
  else (Place.names written).foldlM store.enter (Place.startOf written)

/-- What an entry that is no directory holds. -/
def contentOf? : FileEntry → Option Bytes
  | .file content => some content
  | .directory => none
  | .sink => some []
  | .full => some []

/-- **The content of a file.** -/
def read (store : FileStore) (written : String) : Except FileFault Bytes := do
  let place ← store.resolve written
  match store.entry? place with
  | none => throw .missing
  | some entry =>
    match contentOf? entry with
    | none => throw .isDirectory
    | some content => if written.endsWith "/" then throw .notDirectory else return content

/-- **The store with a file written.** Its directory must be there already. -/
def write (store : FileStore) (written : String) (content : Bytes) :
    Except FileFault FileStore := do
  let place ← store.resolve written
  if written.endsWith "/" then throw .isDirectory
  match store.entry? place with
  | some .directory => throw .isDirectory
  | some .sink => return store
  | some .full => throw .noSpace
  | _ => return { entries := (place, .file content) :: store.entries }

/-- A store with one more entry, whether or not its directory is there. -/
def insert (store : FileStore) (written : String) (entry : FileEntry) : FileStore :=
  let place := (Place.names written).foldl Place.step (Place.startOf written)
  { entries := (place, entry) :: store.entries }

end FileStore

/-!
## Request bodies

The bodies of a run are addressed by the number of the request: none, one for all, or one each.
-/

/-- **The bodies of a run.** -/
inductive Bodies where
  | none
  | shared (body : Bytes)
  | each (bodies : List Bytes)
deriving DecidableEq

/-- The body of the request with a number. -/
def Bodies.get? : Bodies → Nat → Option Bytes
  | .none, _ => Option.none
  | .shared body, _ => some body
  | .each bodies, i => bodies[i]?

/-- **A JSON document in the form in which it is sent**: compact, with sorted keys. -/
def canonicalText (document : Bytes) : Except Json.Fault String :=
  (Json.parse document).map Json.compact

/-- **The body that a file holds**: its document in the form in which it is sent. -/
def loadPayload (path : String) (content : Except FileFault Bytes) : Except LoadError Bytes :=
  match content with
  | .error fault => .error (.payloadFile path fault.message)
  | .ok document =>
    match canonicalText document with
    | .error fault => .error (.payloadJson path (fault.message document))
    | .ok text => .ok (Bytes.ofString text)

/-!
## Documents

A document is a JSON value about to be printed or written to a file. The keys of its objects must
have a text, which not every value has.
-/

/-- The text of a value as a key, if it has one. -/
def keyText? : Json → Option String
  | .text s => some s
  | .integer i => some (String.ofList (integerText i))
  | .bool b => some (if b then "true" else "false")
  | _ => none

/-- What is named as the path of a document that is printed. -/
def standardOutput : String := "<stdout>"

/-- The error of a document that has no text. -/
def badKey : LoadError := .output standardOutput "key must be a string"

/-- An entry with the text of its key. -/
def memberOf (entry : Json × Json) : Except LoadError (String × Json) :=
  match keyText? entry.1 with
  | some key => .ok (key, entry.2)
  | none => .error badKey

/-- **An object from entries** whose keys are values. -/
def objectOf (entries : List (Json × Json)) : Except LoadError Json :=
  (entries.mapM memberOf).map Json.object

/-- The error of a document that cannot be written to its file. -/
def unwritten (path : String) (fault : FileFault) : LoadError := .output path fault.message

/-- **A document written to a file**, in the layout of reports. -/
def writeDocument (files : FileStore) (path : String) (document : Json) :
    Except LoadError FileStore :=
  match files.write path (Bytes.ofString document.pretty) with
  | .ok files => .ok files
  | .error fault => .error (unwritten path fault)

end HttpLoad
