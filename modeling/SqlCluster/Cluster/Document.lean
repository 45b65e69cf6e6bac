import SqlCluster.Cluster.Topology
import SqlCluster.Peer.Parse
import SqlCluster.Json.Field
import SqlCluster.Json.Reader
/-!
The two documents from which a cluster is discovered. The status names the leader by its key among
the nodes' addresses; the list of nodes marks the leader and the nodes that can be reached.
-/
namespace SqlCluster

inductive DiscoveryError where
  | undecodable (path : String)
  | address (text : String)
  | noNodes
  | undetermined (cause : String)
  deriving DecidableEq, Repr

def DiscoveryError.message : DiscoveryError → String
  | .undecodable path => "could not decode " ++ path ++ " response"
  | .address t => "could not parse API address " ++ Text.Quoted.quote t
  | .noNodes => "discovery found no reachable nodes"
  | .undetermined cause => "could not determine leader from /nodes: " ++ cause

namespace Discovery

open Json

structure Status where
  leader : String
  addresses : List (String × String)
  deriving DecidableEq, Repr

def leaderKey? : Json → Option String
  | .null => some ""
  | .text s => some s
  | .map ms => do
      let key ← fieldOr? "node_id" "" text? ms
      let _ ← fieldOr? "addr" "" text? ms
      return key
  | _ => none

def addressOf? : Json → Option String
  | .map ms => fieldOr? "api_addr" "" text? ms
  | _ => none

def storeOf? : Json → Option Status
  | .map ms => do
      let leader ← fieldOr? "leader" "" leaderKey? ms
      let addresses ← fieldOr? "metadata" [] (mapOf? addressOf?) ms
      return ⟨leader, addresses⟩
  | _ => none

def statusOf? : Json → Option Status
  | .map ms => (member? "store" ms).bind storeOf?
  | _ => none

structure Node where
  address : String
  reachable : Bool
  leader : Bool
  deriving DecidableEq, Repr

def nodeOf? : Json → Option Node
  | .map ms => do
      let address ← fieldOr? "api_addr" "" text? ms
      let _ ← fieldOr? "addr" "" text? ms
      let reachable ← fieldOr? "reachable" false bool? ms
      let leader ← fieldOr? "leader" false bool? ms
      return ⟨address, reachable, leader⟩
  | _ => none

def nodesOf? (j : Json) : Option (List Node) := (mapOf? nodeOf? j).map fun es => es.map (·.2)

def peerOf (address : String) : Except DiscoveryError Peer :=
  match Peer.parse address.toList Peer.defaultPort with
  | .ok p => .ok p
  | .error _ => .error (.address address)

def peersOf : List String → Except DiscoveryError (List Peer)
  | [] => .ok []
  | a :: as => do
      let p ← peerOf a
      let ps ← peersOf as
      return p :: ps

def Status.leaderAddress? (s : Status) : Option String :=
  if s.leader = "" then none
  else match s.addresses.find? (·.1 = s.leader) with
    | some e => if e.2 = "" then none else some e.2
    | none => none

def Status.otherAddresses (s : Status) : List String :=
  (s.addresses.filter fun e => e.1 ≠ s.leader ∧ e.2 ≠ "").map (·.2)

def Status.topology (s : Status) : Except DiscoveryError (Option Topology) :=
  match s.leaderAddress? with
  | none => .ok none
  | some a => do
      let leader ← peerOf a
      let others ← peersOf s.otherAddresses
      return some (.make (some leader) others none)

/-- The leader and the other peers among the nodes; of several leaders the last counts. -/
def electedOf : List Node → Option Peer → List Peer → Except DiscoveryError (Option Peer × List Peer)
  | [], leader, others => .ok (leader, others)
  | n :: ns, leader, others =>
      if n.reachable ∧ n.address ≠ "" then do
        let p ← peerOf n.address
        if n.leader then electedOf ns (some p) others else electedOf ns leader (others ++ [p])
      else electedOf ns leader others

def parseStatus (body : List UInt8) : Except DiscoveryError (Option Topology) :=
  match (Json.answer? body).bind statusOf? with
  | some s => s.topology
  | none => .error (.undecodable "/status")

def parseNodes (body : List UInt8) : Except DiscoveryError Topology :=
  match (Json.answer? body).bind nodesOf? with
  | some ns => (electedOf ns none []).map fun r => .make r.1 r.2 none
  | none => .error (.undecodable "/nodes")

end Discovery

end SqlCluster
