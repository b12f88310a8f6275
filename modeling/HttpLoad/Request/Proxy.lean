import HttpLoad.Request.Exchange

/-!
# Proxies

A proxy takes requests for other hosts and passes them on. Which requests are sent to one is told by
the environment: a proxy for each scheme or for all of them, and the hosts that are exempt.

## Main definitions

* `Proxy`, `Proxy.parse?`: a proxy
* `Exemption`, `Exemption.covers`: hosts that no proxy is used for
* `Proxies`, `Proxies.ofEnvironment`: the proxies that the environment asks for
* `Proxies.route`, `Proxies.network`: a request sent to its proxy, and a network behind proxies
* `Proxies.authorize`: a spec with the credentials that its proxy asks for
-/

namespace HttpLoad

/-- **A proxy.** -/
structure Proxy where
  peer : Peer
  /-- The credentials that are sent to it with each request. -/
  credentials : Option Credentials
deriving DecidableEq, Repr

namespace Proxy

/-- The schemes of proxies that understand requests. -/
def webSchemes : List String := ["http", "https"]

/-- The schemes of proxies that pass on connections. None of them can be spoken to. -/
def relaySchemes : List String := ["socks4", "socks4a", "socks5", "socks5h"]

/-- The host of an authority, with brackets around an address of pieces. -/
def hostChars (authority : List Char) : List Char :=
  let place := (authority.reverse.takeWhile (· != '@')).reverse
  if place.head? = some '[' then place.takeWhile (· != ']') ++ [']']
  else place.takeWhile (· != ':')

/-- The port behind the last colon of an authority, if there is one. -/
def port? (authority : List Char) : Option Nat :=
  if authority.contains ':' then
    (parseNat? (authority.reverse.takeWhile (· != ':')).reverse).filter (· ≤ Authority.portMax)
  else none

/-- The one who is spoken to at an authority. What is no host is taken for an unknown name. -/
def peerAt (scheme : String) (authority : List Char) : Peer :=
  let name := hostChars authority
  { scheme := scheme
    host := match Host.parse name with
      | .ok host => host
      | .error _ => .name name
    port := (port? authority).getD ((defaultPort? "http").getD 0) }

/-- The text of characters with codes. Bytes that are no text are replaced. -/
def decoded (cs : List Char) : String := Bytes.repaired (Percent.decode (Bytes.ofChars cs))

/-- The name and the password in front of an at-sign. -/
def credentialsOf (userinfo : List Char) : Credentials :=
  let name := userinfo.takeWhile (· != ':')
  { name := decoded name
    password := match userinfo.drop name.length with
      | _ :: password => some (decoded password)
      | [] => none }

/-- A proxy of a scheme at an authority. -/
def at? (scheme : String) (authority : List Char) : Option Proxy :=
  let userinfo := authority.takeWhile (· != '@')
  match authority.drop userinfo.length with
  | _ :: place =>
    if Uri.isAuthority place then
      some ⟨peerAt scheme place,
        if webSchemes.contains scheme then some (credentialsOf userinfo) else none⟩
    else none
  | [] => some ⟨peerAt scheme authority, none⟩

/-- **A proxy from its text**: an address, of which only scheme and authority count, or an authority
alone. -/
def parse? (text : String) : Option Proxy :=
  let cs := text.toList
  match Uri.parse? cs with
  | some uri =>
    let scheme := String.ofList uri.scheme
    if webSchemes.contains scheme || relaySchemes.contains scheme then at? scheme uri.authority
    else none
  | none => if Uri.isLoneAuthority cs then at? "http" cs else none

end Proxy

/-! ## Exemptions -/

/-- **Hosts that no proxy is used for.** -/
inductive Exemption where
  /-- Addresses of `width` bits of which the first `fixed` ones are those of `value`. -/
  | addresses (width value fixed : Nat)
  /-- A name in small letters, with all that ends in it behind a dot. -/
  | domain (cs : List Char)
deriving DecidableEq, Repr

namespace Exemption

/-- The bits of an address: how many they are, and the number that they stand for. -/
def bits? : Host → Option (Nat × Nat)
  | .name _ => none
  | .ipv4 address => some (32, address)
  | .ipv6 pieces => some (128, pieces.foldl (fun n piece => 65536 * n + piece) 0)

/-- An address from its text, without brackets. -/
def address? (cs : List Char) : Option (Nat × Nat) :=
  match Ipv6.tail? cs with
  | some pieces => some (32, pieces.foldl (fun n piece => 65536 * n + piece) 0)
  | none => (Ipv6.parse? cs).bind fun pieces => bits? (.ipv6 pieces)

/-- Addresses from their text: one of them, or a range of them with its number of fixed bits. -/
def addresses? (cs : List Char) : Option Exemption :=
  let first := cs.takeWhile (· != '/')
  match address? first, cs.drop first.length with
  | some (width, value), [] => some (.addresses width value width)
  | some (width, value), _ :: digits =>
    ((parseDigits? digits).filter fun fixed => fixed ≤ width && digits.length ≤ 3).map
      (.addresses width value)
  | none, _ => none

/-- The exemption that a part of a list is, if it is one. -/
def parse? (cs : List Char) : Option Exemption :=
  let part := Blank.trim cs
  if part.isEmpty then none
  else some ((addresses? part).getD (.domain (part.map Char.toLower)))

/-- The exemptions of a list, which are separated by commas. -/
def parseAll (list : String) : List Exemption :=
  (list.toList.splitOnP (· == ',')).filterMap parse?

/-- Whether a name is exempt by another one. -/
def coversName (exempt name : List Char) : Bool :=
  let behind := if exempt.head? = some '.' then exempt.drop 1 else exempt
  exempt == ['*'] || name == behind || ('.' :: behind).isSuffixOf name

/-- **Whether a host is exempt.** -/
def covers (e : Exemption) (host : Host) : Bool :=
  match e, host with
  | .domain exempt, .name cs => coversName exempt cs
  | .addresses width value fixed, host =>
    match bits? host with
    | some (w, v) => w == width && v >>> (width - fixed) == value >>> (width - fixed)
    | none => false
  | _, _ => false

end Exemption

/-! ## Proxies -/

/-- **The proxies that are used.** -/
structure Proxies where
  http : Option Proxy := none
  https : Option Proxy := none
  exemptions : List Exemption := []
deriving DecidableEq, Repr

namespace Proxies

/-- The variable that shows that the environment is that of a request, so that it is not trusted. -/
def requestVariable : String := "REQUEST_METHOD"

/-- The variables that hold proxies and exemptions. Of two names of a variable the first one counts,
if it is set at all. -/
def allVariables : List String := ["ALL_PROXY", "all_proxy"]
def httpVariables : List String := ["HTTP_PROXY", "http_proxy"]
def httpsVariables : List String := ["HTTPS_PROXY", "https_proxy"]
def exemptVariables : List String := ["NO_PROXY", "no_proxy"]

/-- The names of all variables that tell of proxies. -/
def variableNames : List String :=
  requestVariable :: (allVariables ++ httpVariables ++ httpsVariables ++ exemptVariables)

/-- The value of the first variable that is set. -/
def valueOf (environment : List (String × String)) (names : List String) : String :=
  (names.findSome? fun name => environment.lookup name).getD ""

/-- **The proxies that the environment asks for.** -/
def ofEnvironment (environment : List (String × String)) : Proxies :=
  if (environment.lookup requestVariable).isSome then {}
  else
    let proxy? (names : List String) := Proxy.parse? (valueOf environment names)
    { http := (proxy? httpVariables).or (proxy? allVariables)
      https := (proxy? httpsVariables).or (proxy? allVariables)
      exemptions := Exemption.parseAll (valueOf environment exemptVariables) }

/-- The proxy that requests for an address are sent to, if any. -/
def for? (p : Proxies) (u : Url) : Option Proxy :=
  if p.exemptions.any fun e => e.covers u.host then none
  else if u.scheme = "http" then p.http
  else if u.scheme = "https" then p.https
  else none

/-- **A request sent to its proxy**, if there is one. A proxy has to be told the whole address,
unless the request would have to be kept from it or is for a way to the host. -/
def route (p : Proxies) (r : WireRequest) : WireRequest :=
  match p.for? r.url with
  | none => r
  | some proxy =>
    { r with
      peer := proxy.peer
      target :=
        if r.method = Method.connect ∨ r.url.scheme = "https" then r.target
        else r.url.bare.chars }

/-- **A network behind proxies.** -/
def network {σ : Type} (p : Proxies) (net : Network σ) : Network σ :=
  { net with exchange := fun r s => net.exchange (p.route r) s }

/-- The credentials that the proxy of an address asks for, if they may be seen on the way. -/
def credentials? (p : Proxies) (u : Url) : Option Credentials :=
  if u.scheme = "http" then (p.for? u).bind Proxy.credentials else none

/-- **A spec with the credentials that its proxy asks for**, unless it has some. -/
def authorize (p : Proxies) (spec : RequestSpec) : RequestSpec :=
  match Address.parse spec.url.toList with
  | .ok (.web url) =>
    match p.credentials? url with
    | some credentials =>
      let headers := Attempt.supply "proxy-authorization" credentials.value spec.headers
      { spec with headers := headers }
    | none => spec
  | _ => spec

end Proxies

end HttpLoad
