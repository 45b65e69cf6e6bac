import SqlCluster.Http.Coding
import SqlCluster.Journal.Basic
import SqlCluster.Uri.Join
/-!
The client. It follows the redirects of a read, up to a limit, and never those of a write; but of
either it looks at where a redirect leads. Credentials are those of the first URL, and are left
behind when a redirect leads to another origin.
-/
namespace SqlCluster

open Http

structure World (σ : Type) where
  server : σ
  sent : List Request
  journal : Journal

namespace World

variable {σ : Type}

def note (w : World σ) (t : Tracer) (message : String) : World σ :=
  { w with journal := t.note message w.journal }

def log (w : World σ) (severity : Severity) (channel : Channel) (message : String) : World σ :=
  { w with journal := w.journal.log ⟨severity, channel, message⟩ }

def exchange (w : World σ) (serve : Server σ) (r : Request) : Outcome × World σ :=
  let answer := serve w.server r
  (answer.1, { w with server := answer.2, sent := w.sent ++ [r] })

end World

namespace Http

/-- Why the client gives no response: its request failed, a URL is none that it takes, or it gives
up in a way of its own. -/
inductive SendError where
  | failed (f : Failure)
  | invalid (e : UrlError)
  | reference (e : Uri.SplitError)
  | name (e : Name.NameError)
  | timeout (e : NumberError)
  | header (e : HeaderError)
  | unknownScheme (url : List Char)
  | cancelled
  deriving DecidableEq, Repr

def SendError.failure? : SendError → Option Failure
  | .failed f => some f
  | .invalid e => some ⟨.invalidUrl, e.message⟩
  | _ => none

/-- A client follows so many redirects of a read. -/
structure Client where
  maxRedirects : Nat
  deriving DecidableEq, Repr

namespace Client

def redirectCodes : List Int := [301, 302, 303, 307, 308]

def invalidUrl {α : Type} : Except UrlError α → Except SendError α
  | .ok a => .ok a
  | .error e => .error (.invalid e)

def checkHost (u : Url) : Except SendError Unit :=
  match u.hostName with
  | .ok _ => .ok ()
  | .error e => .error (.name e)

def spelled (location : String) : Except SendError Url :=
  match Url.parse location.toList with
  | .error e =>
      .error (.failed ⟨.remoteProtocol, "Invalid URL in location header: " ++ e.message ++ "."⟩)
  | .ok u => if u.scheme.isEmpty then .ok u else (checkHost u).map fun _ => u

def hosted (origin target : Url) : Except SendError Url :=
  if !target.scheme.isEmpty && target.host.isEmpty then invalidUrl (target.withHost origin.host)
  else .ok target

def resolved (origin target : Url) : Except SendError Url :=
  if target.isAbsolute then .ok target
  else match Uri.join origin.text target.text with
    | .ok cs => invalidUrl (Url.parse cs)
    | .error e => .error (.reference e)

def fragmented (origin target : Url) : Except SendError Url :=
  let inherited := Uri.unescape (origin.fragment.getD [])
  if !inherited.isEmpty && (Uri.unescape (target.fragment.getD [])).isEmpty then
    invalidUrl (target.withFragment inherited)
  else .ok target

def locate (origin : Url) (location : String) : Except SendError Url := do
  let target ← spelled location
  let target ← hosted origin target
  let target ← resolved origin target
  let target ← fragmented origin target
  checkHost target
  return target

def redirect? (origin : Url) (r : Response) : Option (Except SendError Url) :=
  if redirectCodes.contains r.status then r.location?.map (locate origin) else none

def Request.redirected (r : Request) (target : Url) : Request :=
  { r with
    url := target
    credentials :=
      if target.sameOrigin r.url || r.url.isUpgrade target then r.credentials else none }

/-- A response as it came, read: its headers are ASCII, its content is decoded, and its request went
to a URL with a scheme. -/
def receive (url : Url) (r : Response) : Except SendError Response :=
  match r.checkHeaders with
  | .error e => .error (.header e)
  | .ok () => match r.decoded with
      | .error e => .error (.failed ⟨.decoding, e.message⟩)
      | .ok r => if url.scheme = [] then .error (.unknownScheme url.text) else .ok r

variable {σ : Type}

def exchange (serve : Server σ) (r : Request) (w : World σ) : Except SendError Response × World σ :=
  match w.exchange serve r with
  | (.cancelled, w) => (.error .cancelled, w)
  | (.failure f, w) => (.error (.failed f), w)
  | (.response res, w) => (receive r.url res, w)

def follow (serve : Server σ) : Nat → Request → World σ → Except SendError Response × World σ
  | 0, _, w => (.error (.failed ⟨.tooManyRedirects, "Exceeded maximum allowed redirects."⟩), w)
  | fuel + 1, r, w =>
      match exchange serve r w with
      | (.error e, w) => (.error e, w)
      | (.ok res, w) =>
          match redirect? r.url res with
          | none => (.ok res, w)
          | some (.error e) => (.error e, w)
          | some (.ok target) => follow serve fuel (Request.redirected r target) w

def sendOnce (serve : Server σ) (r : Request) (w : World σ) : Except SendError Response × World σ :=
  match exchange serve r w with
  | (.error e, w) => (.error e, w)
  | (.ok res, w) =>
      match redirect? r.url res with
      | some (.error e) => (.error e, w)
      | _ => (.ok res, w)

def target (url : List Char) : Except UrlError Url := do
  let u ← Url.parse url
  if u.isAbsolute then return u else u.asPath

def request (method : Method) (body : List UInt8) (timeout : Value) (u : Url) :
    Except SendError Request :=
  match checkHost u with
  | .error e => .error e
  | .ok () => match timeout.toDouble with
      | .error e => .error (.timeout e)
      | .ok seconds => .ok ⟨method, u, body, u.credentials?, seconds⟩

def prepare (method : Method) (url : List Char) (body : List UInt8) (timeout : Value) :
    Except SendError Request :=
  invalidUrl (target url) >>= request method body timeout

def send (c : Client) (serve : Server σ) (method : Method) (url : List Char) (body : List UInt8)
    (timeout : Value) (w : World σ) : Except SendError Response × World σ :=
  match prepare method url body timeout with
  | .error e => (.error e, w)
  | .ok r => match method with
      | .get => follow serve (c.maxRedirects + 1) r w
      | .post => sendOnce serve r w

end Client

end Http

end SqlCluster
