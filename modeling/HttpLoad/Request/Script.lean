import HttpLoad.Request.Message

/-!
# A service that answers from a script

A service can be given by a list of replies that it sends in turn, over and over, whatever it is
asked. It keeps every request that reaches it in full. The network around it is a single machine:
nothing else listens, and no name but its own is known.

## Main definitions

* `Reply`, `Mishap`: what the service sends, and what goes wrong with it
* `Reply.bytes`: a reply as bytes
* `Service`, `Service.respond`: the service, and its answer to a request
* `Service.network`: the network around a service
-/

namespace HttpLoad

/-- **What goes wrong with a reply.** -/
inductive Mishap where
  /-- The connection is closed without an answer. -/
  | close
  /-- What is sent is no response. -/
  | garbage
  /-- The connection is closed before the body is complete. -/
  | truncate
  /-- Nothing is sent, and the connection stays open. -/
  | stall
  /-- The body is begun and never completed. -/
  | stallBody
deriving DecidableEq, Repr

/-- **What a service sends.** -/
structure Reply where
  status : Nat := 200
  /-- The fields as they are written. -/
  fields : List (String × Bytes) := []
  body : Bytes := []
  /-- Whether the body comes in chunks. -/
  inChunks : Bool := false
  mishap : Option Mishap := none
deriving DecidableEq

namespace Reply

/-- How many bytes more a reply tells of than it has, if it is cut off. -/
def shortfall (r : Reply) : Nat :=
  match r.mishap with
  | some .truncate => 10
  | some .stallBody => 1
  | _ => 0

/-- The field that tells where the body ends. -/
def framingLine (r : Reply) : Bytes :=
  if r.inChunks then Field.line "transfer-encoding" (Bytes.ofString "chunked")
  else
    Field.line "content-length" (Bytes.ofChars (decimalDigits (r.body.length + r.shortfall)))

/-- The body as it is sent. In chunks it is complete, unless the connection stays open within it. -/
def bodyBytes (r : Reply) : Bytes :=
  if !r.inChunks then r.body
  else if r.mishap = some .stallBody then []
  else Chunk.encode r.body

/-- **A reply as bytes.** -/
def bytes (r : Reply) : Bytes :=
  match r.mishap with
  | some .close => []
  | some .stall => []
  | some .garbage => Bytes.ofString "no response" ++ lineEnd
  | _ =>
    Bytes.ofString "HTTP/1.1 " ++ Bytes.ofChars (decimalDigits r.status) ++ lineEnd
      ++ (r.fields.flatMap fun f => Field.line f.1 f.2) ++ r.framingLine
      ++ Field.line "connection" (Bytes.ofString "close") ++ lineEnd ++ r.bodyBytes

/-- How a client notices that no more bytes follow. -/
def ending (r : Reply) : Breakdown :=
  match r.mishap with
  | some .stall => .expired
  | some .stallBody => .expired
  | _ => .hungUp

/-- The answer that a reply to a request with a method is. -/
def answer (r : Reply) (method : Method) : Answer := .ofBytes method r.ending r.bytes

end Reply

/-- **A service that answers from a script.** -/
structure Service where
  replies : List Reply
  /-- The requests that it has received, the latest first. -/
  received : List WireRequest := []

namespace Service

/-- The reply that is next. -/
def nextReply (s : Service) : Reply :=
  (s.replies[s.received.length % s.replies.length]?).getD {}

/-- How long a service takes the body of a request to be: as long as it is told, or empty. -/
def expectedLength (request : WireRequest) : Nat :=
  ((request.headers.lookup "content-length").bind fun value =>
    parseNat? ((Field.trim value).map Field.char)).getD 0

/-- **The answer to a request** that reaches the service, which keeps the request. If the request is
not complete, it is waited for in vain. -/
def respond (request : WireRequest) (s : Service) : Answer × Service :=
  let length := expectedLength request
  if request.body.length < length then (.failed .expired, s)
  else
    (s.nextReply.answer request.method,
      { s with received := { request with body := request.body.take length } :: s.received })

/-! ## The network around a service -/

/-- The address at which a machine reaches itself. -/
def loopback : Host := .ipv4 0x7f000001

/-- The name of a machine for itself. -/
def loopbackName : Host := .name "localhost".toList

/-- **The network around a service** that listens at a port. It takes no time. -/
def network (port : Nat) : Network Service where
  exchange := fun request s =>
    if request.peer.scheme ≠ "http" then (.failed .unsecured, s)
    else if (request.peer.host = loopback ∨ request.peer.host = loopbackName)
        ∧ request.peer.port = port then s.respond request
    else
      match request.peer.host with
      | .name _ =>
        (.failed (if request.peer.host = loopbackName then .refused else .unknownName), s)
      | _ => (.failed .refused, s)
  latency := fun _ _ => Double.zero
  wallTime := fun _ _ => ⟨0, 0⟩

end Service

end HttpLoad
