import Mathlib.Data.List.Basic
import SqlCluster.Cluster.Document
import SqlCluster.Proofs.Cluster.Topology
/-!
What becomes of the nodes of a list. Those that follow are all kept; of those that claim to lead
only the last one is, so a peer is lost exactly when a later claimant displaces it and no follower
has its address.
-/
namespace SqlCluster.Discovery

def Node.IsUsable (n : Node) : Prop := n.reachable = true ∧ n.address ≠ ""

instance (n : Node) : Decidable n.IsUsable := inferInstanceAs (Decidable (_ ∧ _))

def Node.peer? (n : Node) : Option Peer :=
  if n.IsUsable then (peerOf n.address).toOption else none

/-- The peers of the usable nodes, in order. -/
def reported (ns : List Node) : List Peer := ns.filterMap Node.peer?

def claimants (ns : List Node) : List Peer := reported (ns.filter (·.leader))

def followers (ns : List Node) : List Peer := reported (ns.filter (!·.leader))

theorem mem_reported {ns : List Node} {p : Peer} :
    p ∈ reported ns ↔ p ∈ claimants ns ∨ p ∈ followers ns := by
  simp only [claimants, followers, reported, List.mem_filterMap, List.mem_filter,
    Bool.not_eq_true']
  constructor
  · rintro ⟨n, hn, hp⟩
    cases hl : n.leader with
    | true => exact .inl ⟨n, ⟨hn, hl⟩, hp⟩
    | false => exact .inr ⟨n, ⟨hn, hl⟩, hp⟩
  · rintro (⟨n, hn, hp⟩ | ⟨n, hn, hp⟩)
    · exact ⟨n, hn.1, hp⟩
    · exact ⟨n, hn.1, hp⟩

theorem electedOf_eq {ns : List Node}
    (h : ∀ n ∈ ns, n.IsUsable → ∃ p, peerOf n.address = .ok p) (leader : Option Peer)
    (others : List Peer) :
    electedOf ns leader others = .ok ((claimants ns).getLast?.or leader, others ++ followers ns) := by
  induction ns generalizing leader others with
  | nil => simp [electedOf, claimants, followers, reported]
  | cons n ns ih =>
      have ih := ih fun m hm => h m (List.mem_cons_of_mem n hm)
      rw [electedOf]
      by_cases hu : n.IsUsable
      · obtain ⟨p, hp⟩ := h n List.mem_cons_self hu
        have hn : n.peer? = some p := by rw [Node.peer?, if_pos hu, hp]; rfl
        rw [if_pos (show n.reachable = true ∧ n.address ≠ "" from hu), hp]
        cases hl : n.leader with
        | true =>
            have hc : claimants (n :: ns) = p :: claimants ns := by
              simp [claimants, reported, hl, hn]
            have hf : followers (n :: ns) = followers ns := by simp [followers, reported, hl]
            rw [hc, hf, List.getLast?_cons]
            simp only [bind, Except.bind, if_true, ih]
            cases (claimants ns).getLast? <;> rfl
        | false =>
            have hc : claimants (n :: ns) = claimants ns := by simp [claimants, reported, hl]
            have hf : followers (n :: ns) = p :: followers ns := by
              simp [followers, reported, hl, hn]
            rw [hc, hf]
            simp [bind, Except.bind, ih]
      · have hn : n.peer? = none := if_neg hu
        have hc : claimants (n :: ns) = claimants ns := by
          cases hl : n.leader <;> simp [claimants, reported, hl, hn]
        have hf : followers (n :: ns) = followers ns := by
          cases hl : n.leader <;> simp [followers, reported, hl, hn]
        rw [if_neg (show ¬(n.reachable = true ∧ n.address ≠ "") from hu), ih, hc, hf]

/-- Of the usable nodes' peers the topology holds, each once, all followers and the last claimant;
it holds them all exactly when no claimant but the last stands alone. -/
theorem peers_of_parseNodes {body : List UInt8} {ns : List Node}
    (hb : (Json.answer? body).bind nodesOf? = some ns)
    (h : ∀ n ∈ ns, n.IsUsable → ∃ p, peerOf n.address = .ok p) :
    ∃ t, parseNodes body = .ok t ∧ t.peers.Nodup ∧ t.leader = (claimants ns).getLast? ∧
      (∀ p, p ∈ t.peers ↔ (claimants ns).getLast? = some p ∨ p ∈ followers ns) ∧
      ((∀ p, p ∈ t.peers ↔ p ∈ reported ns) ↔
        ∀ p ∈ claimants ns, (claimants ns).getLast? = some p ∨ p ∈ followers ns) := by
  have ht : parseNodes body = .ok (.make (claimants ns).getLast? (followers ns) none) := by
    simp [parseNodes, hb, electedOf_eq h, Except.map]
  have hm (p : Peer) : p ∈ (Topology.make (claimants ns).getLast? (followers ns) none).peers ↔
      (claimants ns).getLast? = some p ∨ p ∈ followers ns := Topology.mem_peers_make
  refine ⟨_, ht, (Topology.distinct_make _ _ _).nodup_peers, rfl, hm, ?_⟩
  simp only [hm, mem_reported]
  constructor
  · intro hall p hp
    exact (hall p).mpr (.inl hp)
  · intro hc p
    constructor
    · rintro (hp | hp)
      · exact .inl (List.mem_of_getLast? hp)
      · exact .inr hp
    · rintro (hp | hp)
      · exact hc p hp
      · exact .inr hp

/-- Two nodes claim to lead, one follows and one is out of reach. -/
def rivalLeadersDocument : List UInt8 := Text.Utf8.encode
  ("\x7b\"1\":\x7b\"api_addr\":\"a:4001\",\"reachable\":true,\"leader\":true\x7d," ++
    "\"2\":\x7b\"api_addr\":\"http://b:4001\",\"reachable\":true\x7d," ++
    "\"3\":\x7b\"api_addr\":\"d:4001\",\"reachable\":false\x7d," ++
    "\"4\":\x7b\"api_addr\":\"c\",\"reachable\":true,\"leader\":true\x7d\x7d").toList

def rivalLeaders : List Node :=
  [⟨"a:4001", true, true⟩, ⟨"http://b:4001", true, false⟩, ⟨"d:4001", false, false⟩, ⟨"c", true, true⟩]

theorem rivalLeaders_read :
    (Json.answer? rivalLeadersDocument).bind nodesOf? = some rivalLeaders := by decide +kernel

theorem rivalLeaders_named : ∀ n ∈ rivalLeaders, n.IsUsable → ∃ p, peerOf n.address = .ok p := by
  have h : ∀ n ∈ rivalLeaders, (peerOf n.address).toOption.isSome = true := by decide +kernel
  intro n hn _
  have hn := h n hn
  cases hp : peerOf n.address with
  | ok p => exact ⟨p, rfl⟩
  | error e => simp [hp, Except.toOption] at hn

theorem rivalLeaders_displaced :
    (Json.answer? rivalLeadersDocument).bind nodesOf? = some rivalLeaders ∧
      (∀ n ∈ rivalLeaders, n.IsUsable → ∃ p, peerOf n.address = .ok p) ∧
      ⟨"a", 4001⟩ ∈ reported rivalLeaders ∧
      parseNodes rivalLeadersDocument = .ok ⟨some ⟨"c", 4001⟩, [⟨"b", 4001⟩], none⟩ ∧
      ¬∀ p, p ∈ (Topology.mk (some ⟨"c", 4001⟩) [⟨"b", 4001⟩] none).peers ↔
        p ∈ reported rivalLeaders := by
  have ha : ⟨"a", 4001⟩ ∈ reported rivalLeaders := by decide +kernel
  have hp : parseNodes rivalLeadersDocument = .ok ⟨some ⟨"c", 4001⟩, [⟨"b", 4001⟩], none⟩ := by
    rw [parseNodes, rivalLeaders_read]
    decide +kernel
  refine ⟨rivalLeaders_read, rivalLeaders_named, ha, hp, ?_⟩
  intro h
  exact absurd ((h ⟨"a", 4001⟩).mpr ha) (by decide)

theorem rivalLeaders_peers :
    (Json.answer? rivalLeadersDocument).bind nodesOf? = some rivalLeaders ∧
      (∀ n ∈ rivalLeaders, n.IsUsable → ∃ p, peerOf n.address = .ok p) ∧
      ∃ t, parseNodes rivalLeadersDocument = .ok t ∧ t.peers.Nodup ∧
        t.leader = (claimants rivalLeaders).getLast? ∧
        (∀ p, p ∈ t.peers ↔
          (claimants rivalLeaders).getLast? = some p ∨ p ∈ followers rivalLeaders) ∧
        ((∀ p, p ∈ t.peers ↔ p ∈ reported rivalLeaders) ↔
          ∀ p ∈ claimants rivalLeaders,
            (claimants rivalLeaders).getLast? = some p ∨ p ∈ followers rivalLeaders) :=
  ⟨rivalLeaders_read, rivalLeaders_named, peers_of_parseNodes rivalLeaders_read rivalLeaders_named⟩

end SqlCluster.Discovery
