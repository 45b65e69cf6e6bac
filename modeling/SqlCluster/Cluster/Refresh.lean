import SqlCluster.Cluster.Document
import SqlCluster.Fault.Basic
import SqlCluster.Http.Client
import SqlCluster.Operation
/-!
Discovering a cluster: its status is asked for first, and the list of nodes where the status is not
to be had or leaves the leader open. What is found takes over the seed of the topology in use.
-/
namespace SqlCluster.Discovery

variable {σ : Type}

abbrev Fetch (σ : Type) := Operation → World σ → Except Fault (List UInt8) × World σ

def peerText : Option Peer → String
  | some p => p.address
  | none => "None"

def noteOthers (t : Tracer) : Nat → List Peer → World σ → World σ
  | _, [], w => w
  | n, p :: ps, w =>
      noteOthers t (n + 1) ps (w.note t ("other peer #" ++ toString n ++ ": " ++ p.address))

/-- What was found becomes the new topology, unless it holds no peer. -/
def install (current found : Topology) (t : Tracer) (w : World σ) :
    Except Fault Topology × World σ :=
  if found.peers.isEmpty then (.error (.discovery .noNodes), w)
  else
    let next := found.withSeed current.seed
    let w := w.note t ("leader: " ++ peerText next.leader)
    let w := noteOthers t 0 next.others w
    (.ok next, w.log .debug .cluster
      ("cluster topology refreshed: leader=" ++ peerText next.leader ++ " peers=" ++
        toString next.peers.length))

def viaNodes (fetch : Fetch σ) (current : Topology) (t : Tracer) (w : World σ) :
    Except Fault Topology × World σ :=
  match fetch .nodes (w.note t "getting leader from /nodes") with
  | (.error f, w) =>
      if f.isLibrary && !f.isDiscovery then (.error (.discovery (.undetermined f.message)), w)
      else (.error f, w)
  | (.ok body, w) =>
      match parseNodes body with
      | .error e => (.error (.discovery e), w)
      | .ok found => install current found t w

def statusOutcome : Except Fault (List UInt8) → Except Fault (Option Topology)
  | .error f => .error f
  | .ok body => match parseStatus body with
      | .error e => .error (.discovery e)
      | .ok found => .ok found

def refresh (fetch : Fetch σ) (current : Topology) (t : Tracer) (w : World σ) :
    Except Fault Topology × World σ :=
  let r := fetch .status (w.note t "getting leader from /status")
  match statusOutcome r.1 with
  | .error f =>
      if f.isLibrary then
        viaNodes fetch current t (r.2.note t ("/status discovery failed: " ++ f.message))
      else (.error f, r.2)
  | .ok none => viaNodes fetch current t r.2
  | .ok (some found) =>
      install current found t (r.2.note t "leader successfully determined using /status")

end SqlCluster.Discovery
