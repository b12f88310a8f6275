import Std.Async.DNS
import Std.Async.TCP
import Std.Async.Timer
import HttpLoad.Cleanup.Session
import HttpLoad.Request.Basic

/-!
# Connections to other machines

A connection is opened to a host and a port, takes bytes and gives bytes, and whatever is done with
it is given up at an instant that was fixed before. What goes wrong comes back as a value.

The store of bills is reached over a connection and asked to delete the bills of a run. A server
that cannot be reached is tried again until time is up.

## Main definitions

* `Instant`: when to give up
* `Connection.open_`: a connection to a host
* `Connection.send`, `Connection.receive`: bytes sent and received
* `LiveStore.contact`: the store with what it has answered, or why it was not reached
-/

namespace HttpLoad

open Std.Async (Async Selectable Selector)
open Std.Net (IPAddr IPv4Addr IPv6Addr SocketAddress SocketAddressV4 SocketAddressV6)

/-- **When to give up**, in nanoseconds of a clock that never goes back. -/
structure Instant where
  nanos : Nat

namespace Instant

/-- The instant now. -/
def now : BaseIO Instant := return ⟨← IO.monoNanosNow⟩

/-- The instant some nanoseconds after another one. -/
def after (start : Instant) (nanos : Nat) : Instant := ⟨start.nanos + nanos⟩

/-- The nanoseconds of a millisecond. -/
def nanosPerMilli : Nat := 1000000

/-- The longest time that is waited for at once, in milliseconds. -/
def waitMax : Nat := Nat.pow 2 40

/-- The milliseconds until an instant, rounded up. -/
def millisLeft (limit : Instant) : BaseIO Std.Time.Millisecond.Offset := do
  let now ← Instant.now
  return .ofNat (min waitMax ((limit.nanos - now.nanos + nanosPerMilli - 1) / nanosPerMilli))

/-- What an action yields, unless that takes too long. -/
def bound {α : Type} (limit : Instant) (action : Async α) : IO (Option α) := do
  let left ← limit.millisLeft
  let late : Async (Option α) := do
    Std.Async.sleep left
    return none
  Async.block (Async.race (some <$> action) late)

end Instant

/-- **A connection** to another machine. -/
structure Connection where
  socket : Std.Async.TCP.Socket.Client

namespace Connection

/-- A number with 32 bits as an address. -/
def fourParts (n : Nat) : IPv4Addr :=
  let part (k : Nat) : UInt8 := UInt8.ofNat (n >>> (8 * k))
  .ofParts (part 3) (part 2) (part 1) (part 0)

/-- Eight numbers with 16 bits as an address. -/
def eightParts (pieces : List Nat) : IPv6Addr :=
  let part (k : Nat) : UInt16 := UInt16.ofNat (pieces.getD k 0)
  ⟨#v[part 0, part 1, part 2, part 3, part 4, part 5, part 6, part 7]⟩

/-- An address with a port. -/
def place (port : Nat) : IPAddr → SocketAddress
  | .v4 addr => .v4 ⟨addr, UInt16.ofNat port⟩
  | .v6 addr => .v6 ⟨addr, UInt16.ofNat port⟩

/-- The addresses of a host, which has to be looked up if it is given by its name. -/
def addresses (limit : Instant) : Host → IO (Except Breakdown (List IPAddr))
  | .ipv4 address => return .ok [.v4 (fourParts address)]
  | .ipv6 pieces => return .ok [.v6 (eightParts pieces)]
  | .name name => do
    try
      match ← limit.bound (Std.Async.DNS.getAddrInfo (String.ofList name) "") with
      | some found => return if found.isEmpty then .error .unknownName else .ok found.toList
      | none => return .error .expired
    catch _ => return .error .unknownName

/-- A failure while a connection was being opened. -/
def unopened (e : IO.Error) : Breakdown :=
  ⟨.connection, "client error (connect): tcp connect error: " ++ e.toString⟩

/-- A connection to the first of some addresses that accepts one. `last` is what has gone wrong. -/
def toFirst (limit : Instant) (port : Nat) (last : Breakdown) :
    List IPAddr → IO (Except Breakdown Connection)
  | [] => return .error last
  | address :: rest => do
    try
      let socket ← Std.Async.TCP.Socket.Client.mk
      match ← limit.bound (socket.connect (place port address)) with
      | some () =>
        socket.noDelay
        return .ok ⟨socket⟩
      | none => return .error .expired
    catch e => toFirst limit port (unopened e) rest

/-- **A connection to a host.** -/
def open_ (limit : Instant) (host : Host) (port : Nat) : IO (Except Breakdown Connection) := do
  match ← addresses limit host with
  | .error what => return .error what
  | .ok found => toFirst limit port .unknownName found

/-- **Bytes sent.** -/
def send (c : Connection) (limit : Instant) (bytes : Bytes) : IO (Except Breakdown Unit) := do
  try
    match ← limit.bound (c.socket.send ⟨bytes.toArray⟩) with
    | some () => return .ok ()
    | none => return .error .expired
  catch _ => return .error .hungUp

/-- How many bytes are taken at once. -/
def portionMax : UInt64 := 65536

/-- **The bytes that come next**, unless the connection ends before. -/
def receive (c : Connection) (limit : Instant) : IO (Except Breakdown Bytes) := do
  let left ← limit.millisLeft
  let next : Async (Except Breakdown Bytes) := do
    let timer ← Selector.sleep left
    Selectable.one #[
      .case (c.socket.recvSelector portionMax) fun portion =>
        match portion with
        | some bytes => return .ok bytes.toList
        | none => return .error .hungUp,
      .case timer fun _ => return .error .expired]
  try Async.block next catch _ => return .error .hungUp

end Connection

/-! ## Sessions with the store -/

namespace LiveStore

/-- The error of a connection that fails. -/
def broken (what : Breakdown) : LoadError :=
  .store ("error communicating with database: " ++ what.text)

/-- A session from a stage on. `soFar` has come and is not read yet. -/
partial def converse (c : Connection) (limit : Instant) (settings : StoreSettings)
    (marker : String) (stage : SessionStage) (soFar : Bytes) : IO StoreContact := do
  match StoreMessage.read? soFar with
  | none =>
    match ← c.receive limit with
    | .error what => return stage.contact (.error (broken what))
    | .ok bytes => converse c limit settings marker stage (soFar ++ bytes)
  | some (message, rest) =>
    match stage.next settings marker message with
    | .finished result =>
      let _ ← c.send limit StoreMessage.farewell
      return stage.contact result
    | .continue stage reply =>
      if reply.isEmpty then converse c limit settings marker stage rest
      else
        match ← c.send limit reply with
        | .error what => return stage.contact (.error (broken what))
        | .ok () => converse c limit settings marker stage rest

/-- How long a server is tried to be reached, in nanoseconds. -/
def patience : Nat := 5 * 1000000000

/-- How long is waited before the next trial, in milliseconds. -/
def pause : UInt32 := 100

/-- A connection to the store, which is tried again until an instant. -/
partial def connect (limit : Instant) (settings : StoreSettings) :
    IO (Except LoadError Connection) := do
  match Host.parse settings.host.toList with
  | .error _ => return .error (broken .unknownName)
  | .ok host =>
    match ← Connection.open_ limit host settings.port with
    | .ok c => return .ok c
    | .error what =>
      if what.why ≠ .connection then return .error (broken what)
      else if (← limit.millisLeft).val ≤ pause.toNat then return .error unreachable
      else
        IO.sleep pause
        connect limit settings

/-- **The store with what it has answered** to a deletion of a marker's bills. -/
def contact (protection : StoreProtection) (settings : StoreSettings) (marker : String) :
    IO StoreContact := do
  let limit := (← Instant.now).after patience
  match ← connect limit settings with
  | .error e => return .error e
  | .ok c =>
    if protection = .demanded then return .error StoreProtection.unavailable
    match ← c.send limit (StoreMessage.opening settings) with
    | .error what => return .error (broken what)
    | .ok () => converse c limit settings marker .opening []

end LiveStore

end HttpLoad
