import SqlCluster.Peer.Basic
/-!
What a client believes about its cluster: the leader, the other peers, and the seed it started from.
The leader is not among the others, and no peer comes twice.
-/
namespace SqlCluster

structure Topology where
  leader : Option Peer
  others : List Peer
  seed : Option Peer
  deriving DecidableEq, Repr

namespace Topology

def make (leader : Option Peer) (others : List Peer) (seed : Option Peer) : Topology :=
  ⟨leader, distinct (others.filter fun p => some p ≠ leader), seed⟩

def peers (t : Topology) : List Peer := t.leader.toList ++ t.others

/-- The peers in the order in which requests try them: the leader first, or the seed before it. -/
def orderedPeers (t : Topology) (favorSeed : Bool) : List Peer :=
  match favorSeed, t.seed with
  | true, some s => distinct (s :: t.peers)
  | _, _ => t.peers

def withSeed (t : Topology) (seed : Option Peer) : Topology := make t.leader t.others seed

theorem leader_not_mem_others (leader : Option Peer) (others : List Peer) (seed : Option Peer)
    (p : Peer) (h : leader = some p) : p ∉ (make leader others seed).others := by
  simp [make, mem_distinct, h]

end Topology

end SqlCluster
