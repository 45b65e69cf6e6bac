import SqlCluster.Proofs.Cluster.Topology
import SqlCluster.Proofs.Peer.Distinct
/-!
The orders in which a topology is gone through. Both hold each peer once; the leader comes first, or
the seed before it, and the others keep the order in which they were named.
-/
namespace SqlCluster.Topology

variable {leader seed : Option Peer} {others : List Peer} {t : Topology}

/-- The order that favours the seed `s`, told from the order that does not. -/
structure SeedFirst (s : Peer) (leader : Option Peer) (plain favoured : List Peer) : Prop where
  head : favoured.head? = some s
  rest : favoured.tail = plain.filter (· ≠ s)
  mem : ∀ p, p ∈ favoured ↔ p = s ∨ p ∈ plain
  second : ∀ l, leader = some l → l ≠ s → favoured[1]? = some l

/-- A topology and its orders, told from what it was made from. -/
structure Arranged (leader : Option Peer) (others : List Peer) (seed : Option Peer) (t : Topology) :
    Prop where
  leader_eq : t.leader = leader
  seed_eq : t.seed = seed
  firsts : Firsts (fun p => leader ≠ some p) others t.others
  plain : t.orderedPeers false = leader.toList ++ t.others
  nodup : ∀ favorSeed, (t.orderedPeers favorSeed).Nodup
  unseeded : seed = none → t.orderedPeers true = t.orderedPeers false
  seeded : ∀ s, seed = some s →
    SeedFirst s leader (t.orderedPeers false) (t.orderedPeers true)
  reseeded : ∀ s, t.withSeed s = { t with seed := s } ∧
    (t.withSeed s).orderedPeers false = t.orderedPeers false
  reseeded_twice : ∀ s r, (t.withSeed s).withSeed r = t.withSeed r
  rebuilt : make t.leader t.others t.seed = t ∧
    ∀ favorSeed, (make t.leader t.others t.seed).orderedPeers favorSeed = t.orderedPeers favorSeed

theorem others_make (leader : Option Peer) (others : List Peer) (seed : Option Peer) :
    Firsts (fun p => leader ≠ some p) others (make leader others seed).others := by
  have hf : (make leader others seed).others =
      distinct (others.filter fun p => leader ≠ some p) := by
    simp only [make, ne_comm]
  rw [hf]
  exact firsts_distinct _ others

theorem orderedPeers_of_seed {s : Peer} (hs : t.seed = some s) :
    t.orderedPeers true = distinct (s :: t.peers) := by
  simp only [orderedPeers, hs]

theorem orderedPeers_of_unseeded (hs : t.seed = none) :
    t.orderedPeers true = t.orderedPeers false := by
  simp only [orderedPeers, hs]

theorem Distinct.make_eq (h : t.Distinct) (seed : Option Peer) :
    make t.leader t.others seed = { t with seed := seed } := by
  have hkeep : (t.others.filter fun p => some p ≠ t.leader) = t.others := by
    refine List.filter_eq_self.mpr ?_
    intro p hp
    simpa using fun hl => h.leader p hl.symm hp
  rw [make, hkeep, distinct_of_nodup h.others]

theorem Distinct.withSeed_eq (h : t.Distinct) (seed : Option Peer) :
    t.withSeed seed = { t with seed := seed } := h.make_eq seed

theorem Distinct.seedFirst (h : t.Distinct) {s : Peer} (hs : t.seed = some s) :
    SeedFirst s t.leader (t.orderedPeers false) (t.orderedPeers true) := by
  have hplain : t.orderedPeers false = t.peers := rfl
  have hf : t.orderedPeers true = s :: t.peers.filter (· ≠ s) := by
    rw [orderedPeers_of_seed hs, distinct, distinct_of_nodup h.nodup_peers]
  rw [hplain, hf]
  refine ⟨rfl, rfl, ?_, ?_⟩
  · intro p
    by_cases hp : p = s <;> simp [hp]
  · intro l hl hne
    simp [peers, hl, hne]

/-- Both orders of a topology are told from the leader, the others and the seed that it is made
from. -/
theorem arranged_make (leader : Option Peer) (others : List Peer) (seed : Option Peer) :
    Arranged leader others seed (make leader others seed) := by
  have hd := distinct_make leader others seed
  refine ⟨rfl, rfl, others_make leader others seed, rfl, hd.nodup_orderedPeers, ?_, ?_, ?_, ?_, ?_⟩
  · intro hs
    exact orderedPeers_of_unseeded (t := make leader others seed) hs
  · intro s hs
    exact hd.seedFirst hs
  · intro s
    rw [hd.withSeed_eq s]
    exact ⟨rfl, rfl⟩
  · intro s r
    rw [hd.withSeed_eq s, hd.withSeed_eq r]
    exact Distinct.withSeed_eq ⟨hd.leader, hd.others⟩ r
  · have hm : make (make leader others seed).leader (make leader others seed).others
        (make leader others seed).seed = make leader others seed := hd.make_eq seed
    exact ⟨hm, fun favorSeed => by rw [hm]⟩

end SqlCluster.Topology
