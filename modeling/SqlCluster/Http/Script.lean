import SqlCluster.Http.Message
/-!
A cluster that answers from a script: for each peer and path the outcomes in order, of which the
last one repeats. Where nothing is scripted, connections are refused.
-/
namespace SqlCluster.Http

structure Route where
  peer : List Char
  path : List Char
  outcomes : List Outcome
  deriving DecidableEq, Repr

namespace Script

def portText (u : Url) : List Char :=
  match u.port with
  | some n => if n = 0 then unnamed u.scheme else Text.decimalInt n
  | none => unnamed u.scheme
where
  unnamed (scheme : List Char) : List Char :=
    if scheme = "http".toList then ['8', '0']
    else if scheme = "https".toList then ['4', '4', '3'] else "None".toList

def peerOf (u : Url) : List Char :=
  Url.bracketed ((u.hostName.toOption).getD u.host) ++ ':' :: portText u

def pathOf (u : Url) : List Char := Uri.unescape u.requestPath

def refused (peer : List Char) : Outcome :=
  .failure ⟨.connect, "connection refused: " ++ String.ofList peer⟩

def advance : List Outcome → Option (Outcome × List Outcome)
  | [] => none
  | [o] => some (o, [o])
  | o :: p :: rest => some (o, p :: rest)

def answer (peer path : List Char) : List Route → Outcome × List Route
  | [] => (refused peer, [])
  | r :: rs =>
      if r.peer = peer ∧ r.path = path then
        match advance r.outcomes with
        | some (o, left) => (o, { r with outcomes := left } :: rs)
        | none => (refused peer, r :: rs)
      else
        let next := answer peer path rs
        (next.1, r :: next.2)

def serve : Server (List Route) := fun routes r => answer (peerOf r.url) (pathOf r.url) routes

end Script

end SqlCluster.Http
