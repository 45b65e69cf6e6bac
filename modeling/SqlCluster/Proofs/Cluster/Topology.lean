import SqlCluster.Cluster.Topology
/-!
Topologies that hold each peer once: the leader stands apart from the others, and no other comes
twice. Every topology that is made is one of them, and so are the orders in which it is gone
through.
-/
namespace SqlCluster.Topology

structure Distinct (t : Topology) : Prop where
  leader : ∀ p, t.leader = some p → p ∉ t.others
  others : t.others.Nodup

theorem distinct_make (leader : Option Peer) (others : List Peer) (seed : Option Peer) :
    (make leader others seed).Distinct :=
  ⟨fun p h => leader_not_mem_others leader others seed p h, nodup_distinct _⟩

theorem distinct_withSeed (t : Topology) (seed : Option Peer) : (t.withSeed seed).Distinct :=
  distinct_make t.leader t.others seed

theorem mem_peers {t : Topology} {p : Peer} : p ∈ t.peers ↔ t.leader = some p ∨ p ∈ t.others := by
  simp [peers]

theorem mem_peers_make {leader : Option Peer} {others : List Peer} {seed : Option Peer} {p : Peer} :
    p ∈ (make leader others seed).peers ↔ leader = some p ∨ p ∈ others := by
  rw [mem_peers]
  simp only [make, mem_distinct, List.mem_filter, decide_eq_true_eq]
  constructor
  · rintro (h | h)
    · exact .inl h
    · exact .inr h.1
  · rintro (h | h)
    · exact .inl h
    · by_cases hl : leader = some p
      · exact .inl hl
      · exact .inr ⟨h, fun he => hl he.symm⟩

theorem mem_peers_withSeed {t : Topology} {seed : Option Peer} {p : Peer} :
    p ∈ (t.withSeed seed).peers ↔ p ∈ t.peers := by
  rw [withSeed, mem_peers_make, mem_peers]

theorem peers_withSeed_ne_nil {t : Topology} (h : t.peers ≠ []) (seed : Option Peer) :
    (t.withSeed seed).peers ≠ [] := by
  obtain ⟨p, hp⟩ := List.exists_mem_of_ne_nil t.peers h
  exact List.ne_nil_of_mem (mem_peers_withSeed.mpr hp)

theorem Distinct.nodup_peers {t : Topology} (h : t.Distinct) : t.peers.Nodup := by
  rw [peers]
  cases hl : t.leader with
  | none => simpa using h.others
  | some p =>
      have hp := h.leader p hl
      simpa using ⟨hp, h.others⟩

theorem Distinct.nodup_orderedPeers {t : Topology} (h : t.Distinct) (favorSeed : Bool) :
    (t.orderedPeers favorSeed).Nodup := by
  unfold orderedPeers
  split
  · exact nodup_distinct _
  · exact h.nodup_peers

theorem orderedPeers_ne_nil {t : Topology} (h : t.peers ≠ []) (favorSeed : Bool) :
    t.orderedPeers favorSeed ≠ [] := by
  unfold orderedPeers
  split
  · next s _ => exact List.ne_nil_of_mem (mem_distinct.mpr List.mem_cons_self)
  · exact h

end SqlCluster.Topology
