import PackageFinder.Http.Call
import PackageFinder.Http.Timeout
import PackageFinder.Program
import PackageFinder.Settings.Basic
import PackageFinder.Url.Parser

/-!
# Clients

A client turns calls into requests.  It is made from the settings, which have to name a timeout that
can be waited for and proxies that can be asked.
-/

namespace PackageFinder.Http

/-- The answer to a request where the network cannot be reached. -/
def Request.unanswered (r : Request) : Answer := .error (.sending r.url.text .unreachable)

/-- Which requests go through a proxy. -/
inductive ProxyScope where
  /-- All requests. -/
  | all
  /-- Plain requests. -/
  | http
  /-- Encrypted requests. -/
  | https
  deriving DecidableEq, Repr

/-- A proxy. -/
structure Proxy where
  /-- Which requests go through it. -/
  scope : ProxyScope
  /-- Its address. -/
  url : Url
  deriving DecidableEq, Repr

/-- What makes requests. -/
structure Client where
  /-- How long to wait for an answer, in nanoseconds. -/
  timeout : Nat
  /-- Whether certificates are checked. -/
  verifySsl : Bool
  /-- The proxies. -/
  proxies : List Proxy
  /-- What the requests call themselves. -/
  userAgent : String
  deriving DecidableEq, Repr

/-- Whether the host of an address can be written into a request. -/
def hasPlainHost (u : Url) : Bool :=
  match u.host with
  | some (.name text) => !text.any (Url.isAmong "\"\x60\x7b\x7d")
  | _ => true

/-- The schemes of requests. -/
def isWebScheme (scheme : List Char) : Bool :=
  decide (scheme = "http".toList) || decide (scheme = "https".toList)

namespace Proxy

/-- The proxy at an address. -/
def ofUrl (scope : ProxyScope) (u : Url) : Except TransportError Proxy :=
  if !isWebScheme u.scheme then .error .unknownProxyScheme
  else if !hasPlainHost u then .error .badProxyHost
  else .ok ⟨scope, u⟩

/-- Reads the address of a proxy.  One that names no scheme or no host is read as that of a plain
proxy; if it is none, the first reason counts. -/
def parse (scope : ProxyScope) (text : String) : Except TransportError Proxy :=
  let assumePlain (reason : TransportError) : Except TransportError Proxy :=
    match Url.parse ("http://" ++ text) with
    | .ok u => if u.hasHost then ofUrl scope u else .error reason
    | .error _ => .error reason
  match Url.parse text with
  | .ok u => if u.hasHost then ofUrl scope u else assumePlain (.proxyRefused u.text)
  | .error .relativeWithoutBase => assumePlain (.badProxy .relativeWithoutBase)
  | .error cause => .error (.badProxy cause)

/-- The proxy of an optional setting. -/
def ofSetting (scope : ProxyScope) : Option String → Except TransportError (List Proxy)
  | none => .ok []
  | some text => (parse scope text).map ([·])

/-- The proxies of the settings; one for all requests wins over the others. -/
def ofSettings (s : ProxySettings) : Except TransportError (List Proxy) :=
  match s.all with
  | some text => (parse .all text).map ([·])
  | none => do
    let http ← ofSetting .http s.http
    let https ← ofSetting .https s.https
    return http ++ https

end Proxy

namespace Client

/-- What requests call themselves when nothing is set. -/
def defaultUserAgent : String := Program.name ++ "/" ++ Program.version

/-- The client of some settings. -/
def ofSettings (s : OutgoingSettings) : Except FetchError Client :=
  match nanoseconds? s.requestTimeout with
  | none => .error (.invalidTimeout s.requestTimeout)
  | some timeout => match Proxy.ofSettings s.proxies with
    | .error e => .error (.transport e)
    | .ok proxies =>
      .ok ⟨timeout, s.verifySsl, proxies, s.userAgent.getD defaultUserAgent⟩

/-- May stand in a header: anything but control characters, of which the tab is allowed. -/
def isHeaderChar (c : Char) : Bool := (!Url.isControl c) || c = '\t'

/-- The request for a call, or why there can be none. -/
def request (c : Client) (call : Call) : Except TransportError Request :=
  match Url.parse call.address with
  | .error cause => .error (.badAddress cause)
  | .ok u =>
    if !u.hasHost then .error (.schemeRefused u.text)
    else
      let plain := u.withoutUser
      let target := if call.params.isEmpty then plain else plain.addPairs call.params
      if !c.userAgent.toList.all isHeaderChar then .error .badUserAgent
      else if !isWebScheme target.scheme then .error (.schemeRefused target.text)
      else if !hasPlainHost target then .error (.notRequestable target.text)
      else .ok ⟨target, call.accept, c.userAgent⟩

/-- How calls are answered when requests are. -/
def network (c : Client) (wire : Request → Answer) : Network := fun call =>
  match c.request call with
  | .error e => .error e
  | .ok r => wire r

end Client

end PackageFinder.Http
