import SqlCluster.Executor.Target
import SqlCluster.Cluster.Topology
import SqlCluster.Fault.Basic
import SqlCluster.Http.Client
/-!
Running an operation against a cluster. The peers are tried in order, each once, and the first that
answers with success wins; what goes wrong with one is noted and the next is tried. Redirects of a
write are followed by hand, with the same body. Credentials go along only to peers of the cluster.
-/
namespace SqlCluster

open Http

/-- How operations are run: the settings and the peers in force, and where diagnostics go. -/
structure Executor where
  client : Client
  config : Config
  topology : Topology
  tracer : Tracer
  favorSeed : Bool
  maxRedirects : Int
  deriving Repr

inductive Attempt where
  | answered (body : List UInt8)
  | failed (f : PeerFailure)
  | escaped (f : Fault)
  deriving Repr

/-- A request as it was handed to the client, what the client gave for it, and how many requests it
sent for that. -/
structure Call where
  method : Method
  url : List Char
  body : List UInt8
  answer : Except SendError Response
  requests : Nat
  deriving Repr

/-- The requests handed to the client in order, what came of them, and the world they left. -/
structure Run (σ α : Type) where
  calls : List Call
  outcome : α
  world : World σ

namespace Run

variable {σ α : Type}

def after (calls : List Call) (r : Run σ α) : Run σ α := { r with calls := calls ++ r.calls }

end Run

/-- How a redirect's target is gone to: as it is spelled, with the credentials put in, or without
them because it is none of the cluster's peers. -/
inductive Passage where
  | plain
  | admitted (url : List Char)
  | foreign (host : List Char) (port : Nat)
  deriving DecidableEq, Repr

structure Redirect where
  spelled : List Char
  passage : Passage
  deriving DecidableEq, Repr

def Redirect.target (r : Redirect) : List Char :=
  match r.passage with
  | .admitted url => url
  | _ => r.spelled

/-- Where an answer leaves a peer: done with, or at another URL. -/
inductive Hop where
  | done (a : Attempt)
  | onward (r : Redirect)
  deriving Repr

namespace Executor

variable {σ : Type}

def redirectCodes : List Int := [301, 302, 307, 308]

def defaultRedirects : Int := 10

def ownClient : Client := ⟨defaultRedirects.toNat⟩

def knownPeers (x : Executor) : List Peer :=
  x.topology.peers ++ x.config.seeds ++ x.topology.seed.toList

def trusted (x : Executor) : List (List Char × Nat) :=
  x.knownPeers.map fun p => (Text.lower p.host.toList, p.port)

def failure (peer : Peer) (url : List Char) (kind : FailureKind) (detail : String)
    (statusCode : Option Int) : Attempt :=
  .failed ⟨peer.address, shownUrl url, kind, detail, statusCode⟩

def shownChars : Nat := 200

def statusDetail (status : Int) (text : List Char) : String :=
  "got HTTP " ++ toString status ++ ": " ++
    String.ofList (Text.trim Text.isBlank (text.take shownChars))

def hostText (host : List Char) : String := if host = [] then "None" else String.ofList host

def impliedPort (scheme : List Char) : Nat := if scheme = "https".toList then 443 else 80

/-- Credentials go to a target that names no user, if it is one of the cluster's peers. -/
def passage (x : Executor) (url : List Char) : Except Fault Passage :=
  match Uri.split url with
  | .error e => .error (.reference e)
  | .ok parts =>
      if !(parts.username.getD []).isEmpty || !x.config.hasCredentials then .ok .plain
      else match parts.port? with
        | .error _ => .ok .plain
        | .ok given =>
            let port := given.getD (impliedPort parts.scheme)
            if x.trusted.contains (parts.hostname, port) then
              match x.config.userinfo? with
              | some user => .ok (.admitted (Uri.Parts.text
                  { parts with authority := user ++ '@' :: parts.authority }))
              | none => .error .unquotable
            else .ok (.foreign parts.hostname port)

def redirect (x : Executor) (url : List Char) (location : String) : Except Fault Redirect :=
  match Uri.join url location.toList with
  | .error e => .error (.reference e)
  | .ok spelled => (x.passage spelled).map fun p => ⟨spelled, p⟩

def noteRedirect (x : Executor) (url : List Char) (r : Redirect) (w : World σ) : World σ :=
  let w := match r.passage with
    | .foreign host port =>
        (w.note x.tracer ("not sending credentials to unknown redirect target " ++
          shownUrl r.spelled)).log .warning .executor
            ("redirect to " ++ hostText host ++ ":" ++ toString port ++
              " outside the cluster; credentials not forwarded")
    | _ => w
  w.note x.tracer (shownUrl url ++ " redirected to " ++ shownUrl r.target)

def methodOf (operation : Operation) : Method := if operation.isData then .post else .get

/-- The kind of failure that an exception of the client counts as. A timeout and too many redirects
are told apart first, since the classes of the others hold them too. -/
def kindOf (c : Cause) : FailureKind :=
  if c.isA .timeout then .timeout
  else if c.isA .tooManyRedirects then .redirect
  else if c.isA .transport then .connection
  else .protocol

/-- Every exception of the client is caught: none is of a class beside these two. -/
theorem isA_http_or_invalidUrl (c : Cause) : c.isA .http = true ∨ c.isA .invalidUrl = true := by
  cases c <;> decide

theorem kindOf_eq_timeout_iff (c : Cause) : kindOf c = .timeout ↔ c.isA .timeout = true := by
  cases c <;> decide

theorem kindOf_eq_redirect_iff (c : Cause) : kindOf c = .redirect ↔ c = .tooManyRedirects := by
  cases c <;> decide

theorem kindOf_eq_connection_iff (c : Cause) :
    kindOf c = .connection ↔ c.isA .transport = true ∧ c.isA .timeout = false := by
  cases c <;> decide

theorem kindOf_ne_status (c : Cause) : kindOf c ≠ .status := by cases c <;> decide

def described (f : Http.Failure) : String := String.ofList (Uri.redactText f.text.toList)

/-- What the lack of a response means for a peer. Failures on the way are the peer's. -/
def unsent (peer : Peer) (url : List Char) : SendError → Attempt
  | .failed f => failure peer url (kindOf f.cause) (described f) none
  | .invalid e =>
      failure peer url (kindOf .invalidUrl) (described ⟨.invalidUrl, e.message⟩) none
  | .reference e => .escaped (.reference e)
  | .name e => .escaped (.hostName e)
  | .timeout e => .escaped (.number e)
  | .header e => .escaped (.header e)
  | .unknownScheme u => .escaped (.unknownScheme u)
  | .cancelled => .escaped .cancelled

def isRedirect (operation : Operation) (r : Response) : Bool :=
  operation.isData && redirectCodes.contains r.status

def next (x : Executor) (operation : Operation) (peer : Peer) (url : List Char) :
    Except SendError Response → Hop
  | .error e => .done (unsent peer url e)
  | .ok r =>
      if isRedirect operation r then
        let location := r.location?.getD ""
        if location = "" then
          .done (failure peer url .status "redirect without Location header" (some r.status))
        else match x.redirect url location with
          | .error f => .done (.escaped f)
          | .ok target => .onward target
      else if r.status = 200 then .done (.answered r.body)
      else match r.text with
        | .error e => .done (.escaped (.units e))
        | .ok text => .done (failure peer url .status (statusDetail r.status text) (some r.status))

def hops (x : Executor) (serve : Server σ) (operation : Operation) (peer : Peer)
    (body : List UInt8) : Nat → List Char → World σ → Run σ Attempt
  | 0, url, w =>
      ⟨[], failure peer url .redirect ("more than " ++ toString x.maxRedirects ++ " redirects") none,
        w⟩
  | fuel + 1, url, w =>
      let sent := x.client.send serve (methodOf operation) url body x.config.timeout w
      let call : Call :=
        ⟨methodOf operation, url, body, sent.1, sent.2.sent.length - w.sent.length⟩
      match x.next operation peer url sent.1 with
      | .done a => ⟨[call], a, sent.2⟩
      | .onward r =>
          (hops x serve operation peer body fuel r.target (x.noteRedirect url r sent.2)).after [call]

def noteUrl (t : Tracer) (operation : Operation) (url : List Char) (j : Journal) : Journal :=
  t.note ("assembled URL for " ++ operation.name ++ ": " ++ shownUrl url) j

def attempt (x : Executor) (serve : Server σ) (operation : Operation) (body : List UInt8)
    (queue : Bool) (peer : Peer) (w : World σ) : Run σ Attempt :=
  match x.config.assembleUrl? operation peer queue with
  | none => ⟨[], .escaped .unquotable, w⟩
  | some url =>
      let w := { w with journal := noteUrl x.tracer operation url w.journal }
      x.hops serve operation peer body (x.maxRedirects + 1).toNat url w

def tryPeers (x : Executor) (serve : Server σ) (operation : Operation) (body : List UInt8)
    (queue : Bool) :
    List Peer → List PeerFailure → World σ → Run σ (Except Fault (List UInt8))
  | [], failures, w =>
      ⟨[], .error (.allPeersFailed failures), w.log .warning .executor
        (operation.name ++ " failed on all " ++ toString failures.length ++ " peer(s)")⟩
  | peer :: peers, failures, w =>
      let number := toString failures.length
      let w := w.note x.tracer ("trying peer #" ++ number ++ ": " ++ peer.address)
      let r := x.attempt serve operation body queue peer w
      match r.outcome with
      | .answered content =>
          ⟨r.calls, .ok content, r.world.note x.tracer ("peer #" ++ number ++ " answered OK")⟩
      | .escaped f => ⟨r.calls, .error f, r.world⟩
      | .failed f =>
          let w := r.world.note x.tracer ("peer #" ++ number ++ " failed: " ++ f.text)
          let w := w.log .debug .executor ("peer " ++ peer.address ++ " failed: " ++ f.text)
          (tryPeers x serve operation body queue peers (failures ++ [f]) w).after r.calls

/-- The requests for an operation, up to the first peer that answers with success. -/
def walk (x : Executor) (serve : Server σ) (operation : Operation) (body : List UInt8)
    (queue : Bool) (w : World σ) : Run σ (Except Fault (List UInt8)) :=
  match x.topology.orderedPeers x.favorSeed with
  | [] => ⟨[], .error .noPeers, w⟩
  | peer :: peers =>
      let w := w.note x.tracer
        (operation.name ++ ": " ++ toString (peers.length + 1) ++ " peer(s) to try")
      x.tryPeers serve operation body queue (peer :: peers) [] w

def execute (x : Executor) (serve : Server σ) (operation : Operation) (body : List UInt8)
    (queue : Bool) (w : World σ) : Except Fault (List UInt8) × World σ :=
  let r := x.walk serve operation body queue w
  (r.outcome, r.world)

end Executor

end SqlCluster
