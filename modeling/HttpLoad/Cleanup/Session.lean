import HttpLoad.Cleanup.Store

/-!
# A session with the store

The store is a database server that is spoken to in messages: a letter, a length and a content. A
session is opened with a name and, if asked for, a password in clear text; then one statement is
sent with its parameter, and rows come back.

## Main definitions

* `StoreMessage`, `StoreMessage.read?`: a message of the server
* `StoreMessage.opening`, `StoreMessage.statement`: what a client sends
* `SessionStage.next`: what follows from a message
-/

namespace HttpLoad

/-! ## What is sent -/

/-- A number in four bytes, the most significant one first. -/
def fourBytes (n : Nat) : Bytes :=
  [UInt8.ofNat (n >>> 24), UInt8.ofNat (n >>> 16), UInt8.ofNat (n >>> 8), UInt8.ofNat n]

/-- A number in two bytes. -/
def twoBytes (n : Nat) : Bytes := [UInt8.ofNat (n >>> 8), UInt8.ofNat n]

/-- A text with a zero byte at its end. -/
def zeroEnded (s : String) : Bytes := Bytes.ofString s ++ [0]

/-- **A message of the server.** -/
structure StoreMessage where
  letter : Char
  content : Bytes
deriving DecidableEq

namespace StoreMessage

/-- A message as bytes; its length counts itself. -/
def bytes (m : StoreMessage) : Bytes :=
  Bytes.ofString m.letter.toString ++ fourBytes (m.content.length + 4) ++ m.content

/-- The version of the protocol. -/
def version : Nat := 0x30000

/-- **The message that opens a session**, which has no letter. -/
def opening (settings : StoreSettings) : Bytes :=
  let content := fourBytes version
    ++ zeroEnded "user" ++ zeroEnded settings.user
    ++ zeroEnded "database" ++ zeroEnded settings.database ++ [0]
  fourBytes (content.length + 4) ++ content

/-- The message with a password. -/
def password (settings : StoreSettings) : Bytes := bytes ⟨'p', zeroEnded settings.password⟩

/-- **The messages with a statement** and its only parameter. -/
def statement (sql parameter : String) : Bytes :=
  let value := Bytes.ofString parameter
  bytes ⟨'P', zeroEnded "" ++ zeroEnded sql ++ twoBytes 0⟩
    ++ bytes ⟨'B', zeroEnded "" ++ zeroEnded "" ++ twoBytes 0 ++ twoBytes 1
      ++ fourBytes value.length ++ value ++ twoBytes 0⟩
    ++ bytes ⟨'E', zeroEnded "" ++ fourBytes 0⟩
    ++ bytes ⟨'S', []⟩

/-- The message that ends a session. -/
def farewell : Bytes := bytes ⟨'X', []⟩

/-! ## What comes back -/

/-- The number that bytes stand for, the most significant one first. -/
def numberOf (bytes : Bytes) : Nat := bytes.foldl (fun n b => 256 * n + b.toNat) 0

/-- **The message at the start of bytes**, and what follows it, if it is complete. -/
def read? (bytes : Bytes) : Option (StoreMessage × Bytes) :=
  match bytes with
  | letter :: a :: b :: c :: d :: rest =>
    let length := numberOf [a, b, c, d] - 4
    let content := rest.take length
    if content.length < length then none
    else some (⟨Char.ofNat letter.toNat, content⟩, rest.drop length)
  | _ => none

/-- The parts of a complaint: a letter and a text each. -/
def complaintParts : Nat → Bytes → List (Char × String)
  | 0, _ => []
  | fuel + 1, letter :: rest =>
    if letter = 0 then []
    else
      let text := rest.takeWhile (· != 0)
      (Char.ofNat letter.toNat, (Bytes.toString? text).getD "")
        :: complaintParts fuel ((rest.drop text.length).drop 1)
  | _, [] => []

/-- The complaint that a content is. -/
def complaint (content : Bytes) : DatabaseFault :=
  let parts := complaintParts (content.length + 1) content
  { code := (parts.lookup 'C').getD "", message := (parts.lookup 'M').getD "" }

/-- The integer in the only column of a row. -/
def rowId? (content : Bytes) : Option Int :=
  match content with
  | _ :: _ :: a :: b :: c :: d :: value =>
    (parseInt? ((value.take (numberOf [a, b, c, d])).map fun b => Char.ofNat b.toNat))
  | _ => none

end StoreMessage

/-! ## The course of a session -/

/-- **How far a session has come.** -/
inductive SessionStage where
  | opening
  /-- The statement has been sent; ids that have come back, the last one first, or a complaint. -/
  | deleting (ids : List Int) (fault : Option DatabaseFault)
deriving DecidableEq

/-- **What follows from a message.** -/
inductive SessionStep where
  | continue (stage : SessionStage) (reply : Bytes)
  | finished (result : Except LoadError (List Int))

/-- The error of a server that wants to be convinced in another way. -/
def unknownAuthentication : LoadError := .store "authentication method is not supported"

namespace SessionStage

/-- The store as it has been reached, by the stage in which a session has ended and by its
result. -/
def contact (stage : SessionStage) (result : Except LoadError (List Int)) : StoreContact :=
  match stage, result with
  | .opening, .error e => .error e
  | _, result => .ok ⟨fun _ => result⟩

/-- What a server asks for when a session is opened. -/
def authenticate (settings : StoreSettings) (content : Bytes) : SessionStep :=
  let asked := StoreMessage.numberOf (content.take 4)
  if asked = 0 then .continue .opening []
  else if asked = 3 then .continue .opening (StoreMessage.password settings)
  else .finished (.error unknownAuthentication)

/-- **What follows from a message** in a session in which the bills of a marker are deleted. -/
def next (settings : StoreSettings) (marker : String) (stage : SessionStage) (m : StoreMessage) :
    SessionStep :=
  match stage with
  | .opening =>
    if m.letter = 'R' then authenticate settings m.content
    else if m.letter = 'E' then .finished (.error (StoreMessage.complaint m.content).startupError)
    else if m.letter = 'Z' then
      .continue (.deleting [] none)
        (StoreMessage.statement deleteStatement (Like.billPattern marker))
    else .continue .opening []
  | .deleting ids fault =>
    if m.letter = 'D' then
      .continue (.deleting ((StoreMessage.rowId? m.content).toList ++ ids) fault) []
    else if m.letter = 'E' then
      .continue (.deleting ids (some (StoreMessage.complaint m.content))) []
    else if m.letter = 'Z' then
      .finished (match fault with
        | some fault => .error fault.error
        | none => .ok ids.reverse)
    else .continue stage []

end SessionStage

end HttpLoad
