import HttpLoad.Bill.Basic
import HttpLoad.Request.Message
import HttpLoad.Url.Address

/-!
# One request, from sending it to its outcome

A client builds the request, sends it, and follows redirects: a response with one of five statuses
and a usable location is answered by another request. A failure on the way is the outcome of the
request; nothing is raised.

## Main definitions

* `RequestSpec`: what the requests of a run have in common
* `Attempt`, `Attempt.first?`: a request about to be sent, and the first one of a spec
* `Attempt.wire`: a request as it is put on the wire
* `Redirect.next`: what follows from a response
* `Client.digest`: what a client does with an answer
* `Client.followWith`, `Client.endingWith`: requests sent until nothing follows, by any means
* `Client.follow`, `Client.ending`: requests sent over a network until nothing follows
* `Client.execute`: the sample of one request
-/

namespace HttpLoad

/-- **What the requests of a run have in common.** -/
structure RequestSpec where
  method : Method
  url : String
  headers : Headers
  /-- Whether the ids of created bills are read from the responses. -/
  capturesId : Bool
deriving DecidableEq

/-- **A request about to be sent.** -/
structure Attempt where
  /-- The address as the request carries it. -/
  uri : Uri
  /-- The address as it is understood. -/
  url : Url
  /-- The address of the request before, if this one follows from another one. -/
  previous : Option Url := none
  method : Method
  /-- The fields that the spec and the body ask for. -/
  headers : Headers
  body : Bytes
deriving DecidableEq

namespace Attempt

/-! ### What a request carries -/

/-- The referring address: the one before, without name and password. An address that was looked up
in secret is not given away. -/
def referer? (previous next : Url) : Option Bytes :=
  if previous.scheme = "https" ∧ next.scheme = "http" then none
  else some (Bytes.ofChars previous.bare.anonymous.chars)

/-- The fields that are meant for one host only. -/
def confidentialFields : List String :=
  ["authorization", "cookie", "cookie2", "proxy-authorization", "www-authenticate"]

/-- Whether two addresses lead to one host and port. -/
def sameHost (u v : Url) : Bool := u.host == v.host && u.effectivePort == v.effectivePort

/-- The fields of a request that follows from another one, with the address of that as the referring
one. What was meant for one host is not sent to another one. -/
def movedHeaders (headers : Headers) (previous next : Url) : Headers :=
  let kept :=
    if sameHost previous next then headers
    else confidentialFields.foldl (fun h name => h.erase name) headers
  match referer? previous next with
  | some referer => kept.put "referer" referer
  | none => kept

/-- The fields of a request. -/
def sentHeaders (a : Attempt) : Headers :=
  match a.previous with
  | some previous => movedHeaders a.headers previous a.url
  | none => a.headers

/-- What a request names: the target on the host, or the host itself where a way to it is asked
for. -/
def target (a : Attempt) : List Char :=
  if a.method = Method.connect then a.uri.authority else a.uri.target

/-- **A request as it is put on the wire.** -/
def wire (a : Attempt) : WireRequest :=
  WireRequest.framed {
    url := a.url
    peer := a.url.peer
    method := a.method
    target := a.target
    headers := a.sentHeaders
    body := a.body }

/-! ### The first request -/

/-- A field put behind the others unless there is one with its name. -/
def supply (name : String) (value : Bytes) (headers : Headers) : Headers :=
  if headers.has name then headers else headers.put name value

/-- The fields of a request. Those of the spec come first: a body is JSON unless they say otherwise,
anything is accepted, and the credentials are those of the address. -/
def fieldsFor (credentials : Option Bytes) (headers : Headers) (body : Option Bytes) : Headers :=
  let authorized := (credentials.map fun c => supply "authorization" c headers).getD headers
  let typed :=
    if body.isSome then supply "content-type" (Bytes.ofString "application/json") authorized
    else authorized
  supply "accept" (Bytes.ofString "*/*") typed

/-- The failure of a request that cannot be built. -/
def unbuildable (text : String) : Breakdown := ⟨.request, "builder error" ++ text⟩

/-- What the log says behind an address. -/
def forAddress (text : List Char) : String := " for url (" ++ String.ofList text ++ ")"

/-- What the log says behind the address of a request. -/
def forUrl (u : Url) : String := forAddress u.chars

/-- The failure of a request to an address that is none of the web. -/
def foreignScheme (address : List Char) : Breakdown :=
  unbuildable (forAddress address ++ ": url scheme is not allowed")

/-- **The first request** of a spec, with a body or without. A name and a password in the address
are sent as credentials and are no part of the address from then on. -/
def first? (spec : RequestSpec) (body : Option Bytes) : Except Breakdown Attempt :=
  match Address.parse spec.url.toList with
  | .error fault => .error (unbuildable (": " ++ fault.message.map Char.toLower))
  | .ok (.web given) =>
    let credentials := Credentials.of? given
    let url := if credentials.isSome then given.anonymous else given
    match Uri.parse? url.chars with
    | none => .error (unbuildable (forUrl url ++ ": parsed url is not a valid uri"))
    | some uri =>
      .ok {
        uri := uri
        url := url
        method := spec.method
        headers := fieldsFor (credentials.map Credentials.value) spec.headers body
        body := body.getD [] }
  | .ok other => .error (foreignScheme other.bareChars)

end Attempt

/-! ## Redirects -/

/-- **What follows from a response.** -/
inductive Redirect where
  /-- Nothing: the response is the answer. -/
  | stay
  /-- A request that cannot be sent. -/
  | refused (what : Breakdown)
  | follow (next : Attempt)

namespace Redirect

/-- The fields that describe a body. -/
def bodyFields : List String :=
  ["content-type", "content-length", "content-encoding", "transfer-encoding"]

/-- A request without its body. -/
def withoutBody (a : Attempt) : Attempt :=
  { a with headers := bodyFields.foldl (fun h name => h.erase name) a.headers, body := [] }

/-- The request that a status asks to be sent in place of the one it answers, if it is the status of
a redirect. After some of them a request only fetches what the other one has stored. -/
def recast? (a : Attempt) (status : Nat) : Option Attempt :=
  if status = 301 ∨ status = 302 then
    some (if a.method = Method.post then { withoutBody a with method := Method.get } else a)
  else if status = 303 then
    some { withoutBody a with method := if a.method = Method.head then a.method else Method.get }
  else if status = 307 ∨ status = 308 then some a
  else none

/-- The request to another address. -/
def moved (a : Attempt) (uri : Uri) (url : Url) : Attempt :=
  { a with uri := uri, url := url, previous := some a.url }

/-- What an address that a location names leads to. One that no request can carry leads nowhere, and
one that is none of the web cannot be sent to. -/
def toward (a : Attempt) (address : Address) : Redirect :=
  let text := address.bareChars
  match address, Uri.parse? text with
  | .web url, some uri => .follow (moved a uri url.bare)
  | .web _, none => .stay
  | _, some uri => .refused (Attempt.foreignScheme uri.chars)
  | _, none =>
    if Uri.isLoneAuthority text then .refused (Attempt.foreignScheme text) else .stay

/-- The address that a location names, seen from an address. -/
def named? (base : Url) (location : Bytes) : Option Address := do
  let text ← location.toString?
  (Address.join base text.toList).toOption

/-- **What follows from a response** to a request. -/
def next (a : Attempt) (status : Nat) (location : Option Bytes) : Redirect :=
  match recast? a status, location.bind (named? a.url) with
  | some a', some address => toward a' address
  | _, _ => .stay

end Redirect

/-- A sample, and what the log says about it if the request failed. -/
abbrev Performed := Sample × Option Breakdown

namespace Client

/-- How many redirects are followed for one request. -/
def redirectsMax : Nat := 10

/-- How a request ended: with a status and a body, or not. -/
abbrev Ending := Except Breakdown (Nat × Bytes)

/-- A failure while a request was being sent. -/
def whileSending (u : Url) (what : Breakdown) : Breakdown :=
  { what with text := "error sending request" ++ Attempt.forUrl u ++ ": " ++ what.text }

/-- A failure while a body was being read. -/
def whileReading (what : Breakdown) : Breakdown :=
  { what with
    text := "error decoding response body: request or response body error: " ++ what.text }

/-- The failure of a request that was sent on too often. -/
def tooManyRedirects (u : Url) : Breakdown :=
  ⟨.request, "error following redirect" ++ Attempt.forUrl u.bare ++ ": too many redirects"⟩

/-- The request that follows from a response. It is not sent before the body of the response has
ended. How the body ends does not matter, unless there is no time left. -/
def afterBody (origin : Url) (body : Except Breakdown Bytes) (next : Attempt) :
    Except Breakdown Attempt :=
  match body with
  | .error what => if what = .expired then .error (whileSending origin .expired) else .ok next
  | .ok _ => .ok next

/-- **What a client does with the answer to a request**: it is done, or it tries to send another
one. `origin` is the address that the request started with. -/
def digest (origin : Url) (a : Attempt) : Answer → Ending ⊕ Except Breakdown Attempt
  | .failed what => .inl (.error (whileSending origin what))
  | .response status location body =>
    match Redirect.next a status location with
    | .stay =>
      match body with
      | .ok bytes => .inl (.ok (status, bytes))
      | .error what => .inl (.error (whileReading what))
    | .refused what => .inr (.error what)
    | .follow next => .inr (afterBody origin body next)

section

variable {m : Type → Type} [Monad m] (exchange : WireRequest → m Answer)

/-- **Requests sent until nothing follows**, at most `left` of them after the first one. `exchange`
sends one request and waits for its answer. -/
def followWith (origin : Url) : Nat → Attempt → m Ending
  | 0, a => do
    match digest origin a (← exchange a.wire) with
    | .inl e => return e
    | .inr _ => return .error (tooManyRedirects a.url)
  | left + 1, a => do
    match digest origin a (← exchange a.wire) with
    | .inl e => return e
    | .inr (.error what) => return .error what
    | .inr (.ok next) => followWith origin left next

/-- How the request of a spec ends, with a body or without. -/
def endingWith (spec : RequestSpec) (body : Option Bytes) : m Ending :=
  match Attempt.first? spec body with
  | .ok a => followWith exchange a.url redirectsMax a
  | .error what => return .error what

end

/-- The outcome of a request, by how it ended. -/
def outcomeOf (capturesId : Bool) : Ending → Outcome
  | .ok (status, body) =>
    .response status body.length
      (if capturesId && isSuccess status then CreatedId.parse? body else none)
  | .error what => .failed what.why

/-- The sample of a request that took a time, by how it ended. -/
def performed (spec : RequestSpec) (latency : Double) (e : Ending) : Performed :=
  ({ latency := latency, outcome := outcomeOf spec.capturesId e },
    match e with
    | .ok _ => none
    | .error what => some what)

variable {σ : Type} (net : Network σ)

/-- Requests sent over a network until nothing follows. -/
def follow (origin : Url) (left : Nat) (a : Attempt) : StateM σ Ending :=
  followWith net.exchange origin left a

/-- How the request of a spec ends over a network. -/
def ending (spec : RequestSpec) (body : Option Bytes) : StateM σ Ending :=
  endingWith net.exchange spec body

/-- **The sample of one request**, and what the log says if it failed. -/
def execute (spec : RequestSpec) (body : Option Bytes) (s : σ) : Performed × σ :=
  let (e, s') := ending net spec body s
  (performed spec (net.latency s s') e, s')

end Client

end HttpLoad
