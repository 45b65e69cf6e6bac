import SqlCluster.Proofs.Cluster.Nodes
import SqlCluster.Proofs.Json.Members
import SqlCluster.Proofs.Json.Nested
/-!
The two documents of one cluster. However a status and a list of nodes are written for the same
nodes, they give the same topology, and nodes that share an address do not set them apart.
-/
namespace SqlCluster.Discovery

open Json

structure Member where
  id : String
  address : String
  leader : Bool
  deriving DecidableEq, Repr

namespace Member

def entry (m : Member) : String × String := (m.id, m.address)

def node (m : Member) : String × Node := (m.id, ⟨m.address, true, m.leader⟩)

def peer? (m : Member) : Option Peer :=
  if m.address = "" then none else (peerOf m.address).toOption

end Member

/-- Nodes with names of their own, one of which leads and has an address. -/
structure Ensemble (ms : List Member) (leader : Member) : Prop where
  unique : (ms.map (·.id)).Nodup
  named : ∀ m ∈ ms, m.id ≠ ""
  addressed : ∀ m ∈ ms, m.address = "" ∨ ∃ p, peerOf m.address = .ok p
  led : ms.filter (·.leader) = [leader]
  found : leader.address ≠ ""

inductive LeaderForm (key : String) : Json → Prop
  | bare : LeaderForm key (.text key)
  | object {fields : List (String × Json)} {address : String} (hu : KeyedOnce fields)
      (hk : ("node_id", .text key) ∈ fields) (ha : Gives fields "addr" (.text "") (.text address)) :
      LeaderForm key (.map fields)

inductive AddressForm (address : String) : Json → Prop
  | map {fields : List (String × Json)} (hu : KeyedOnce fields)
      (ha : Gives fields "api_addr" (.text "") (.text address)) : AddressForm address (.map fields)

inductive StoreForm (key : String) (entries : List (String × String)) : Json → Prop
  | map {fields members : List (String × Json)} {leader : Json} (hu : KeyedOnce fields)
      (hl : ("leader", leader) ∈ fields) (hk : LeaderForm key leader)
      (hm : ("metadata", .map members) ∈ fields)
      (hs : List.Forall₂ (fun e m => m.1 = e.1 ∧ AddressForm e.2 m.2) entries members) :
      StoreForm key entries (.map fields)

/-- A status that names the leader and the nodes' addresses, among whatever else it says. -/
inductive StatusForm (key : String) (entries : List (String × String)) : Json → Prop
  | map {fields : List (String × Json)} {store : Json} (hu : KeyedOnce fields)
      (hs : ("store", store) ∈ fields) (h : StoreForm key entries store) :
      StatusForm key entries (.map fields)

inductive NodeForm (n : Node) : Json → Prop
  | map {fields : List (String × Json)} {address : String} (hu : KeyedOnce fields)
      (ha : Gives fields "api_addr" (.text "") (.text n.address))
      (ho : Gives fields "addr" (.text "") (.text address))
      (hr : Gives fields "reachable" (.bool false) (.bool n.reachable))
      (hl : Gives fields "leader" (.bool false) (.bool n.leader)) : NodeForm n (.map fields)

inductive NodesForm (entries : List (String × Node)) : Json → Prop
  | map {members : List (String × Json)}
      (hs : List.Forall₂ (fun e m => m.1 = e.1 ∧ NodeForm e.2 m.2) entries members) :
      NodesForm entries (.map members)

variable {key address : String} {entries : List (String × String)} {j : Json}

theorem leaderKey?_of_form (h : LeaderForm key j) : leaderKey? j = some key := by
  cases h with
  | bare => rfl
  | object hu hk ha =>
      simp only [leaderKey?, textOr?_of_gives hu (.inl hk), textOr?_of_gives hu ha,
        Option.bind_eq_bind, Option.bind_some, Option.pure_def]

theorem addressOf?_of_form (h : AddressForm address j) : addressOf? j = some address := by
  obtain ⟨hu, ha⟩ := h
  exact textOr?_of_gives hu ha

theorem statusOf?_of_form (hu : KeyedOnce entries) (h : StatusForm key entries j) :
    statusOf? j = some ⟨key, entries⟩ := by
  obtain ⟨htop, hs, ⟨hstore, hl, hk, hm, hall⟩⟩ := h
  have haddresses : mapOf? addressOf? (.map _) = some entries :=
    mapOf?_of_forall₂ hu (hall.imp fun _ _ he => ⟨he.1, addressOf?_of_form he.2⟩)
  rw [statusOf?, member?_of_mem htop hs]
  simp only [storeOf?, fieldOr?_of_mem hstore hl, fieldOr?_of_mem hstore hm, leaderKey?_of_form hk,
    haddresses, Option.bind_eq_bind, Option.bind_some, Option.pure_def]

theorem nodeOf?_of_form {n : Node} (h : NodeForm n j) : nodeOf? j = some n := by
  obtain ⟨hu, ha, ho, hr, hl⟩ := h
  simp only [nodeOf?, textOr?_of_gives hu ha, textOr?_of_gives hu ho, boolOr?_of_gives hu hr,
    boolOr?_of_gives hu hl, Option.bind_eq_bind, Option.bind_some, Option.pure_def]

theorem nodesOf?_of_form {entries : List (String × Node)} (hu : KeyedOnce entries)
    (h : NodesForm entries j) : nodesOf? j = some (entries.map (·.2)) := by
  obtain ⟨hs⟩ := h
  rw [nodesOf?, mapOf?_of_forall₂ hu (hs.imp fun _ _ he => ⟨he.1, nodeOf?_of_form he.2⟩),
    Option.map_some]

variable {ms : List Member} {leader : Member}

def restOf (ms : List Member) : List Peer := (ms.filter (!·.leader)).filterMap Member.peer?

theorem peersOf_eq {as : List String} (h : ∀ a ∈ as, ∃ p, peerOf a = .ok p) :
    peersOf as = .ok (as.filterMap fun a => (peerOf a).toOption) := by
  induction as with
  | nil => rfl
  | cons a as ih =>
      obtain ⟨p, hp⟩ := h a List.mem_cons_self
      rw [peersOf, hp, ih fun b hb => h b (List.mem_cons_of_mem a hb), List.filterMap_cons, hp]
      rfl

theorem otherAddresses_eq (h : ∀ m ∈ ms, m.id ≠ key ↔ m.leader = false) :
    (Status.otherAddresses ⟨key, ms.map Member.entry⟩).filterMap (fun a => (peerOf a).toOption) =
      restOf ms := by
  -- Being another node than the leader and not leading are the same, so either filter will do.
  have hrest : (ms.filter fun m => m.id ≠ key ∧ m.address ≠ "") =
      (ms.filter (!·.leader)).filter fun m => m.address ≠ "" := by
    rw [List.filter_filter]
    refine List.filter_congr fun m hm => ?_
    simp only [h m hm, Bool.decide_and, Bool.and_comm, Bool.decide_eq_false]
  calc (Status.otherAddresses ⟨key, ms.map Member.entry⟩).filterMap (fun a => (peerOf a).toOption)
    _ = (ms.filter fun m => m.id ≠ key ∧ m.address ≠ "").filterMap
          fun m => (peerOf m.address).toOption := by
        simp only [Status.otherAddresses, List.filter_map, List.filterMap_map]
        rfl
    _ = restOf ms := by
        rw [hrest, List.filterMap_filter, restOf]
        congr 1
        funext m
        simp only [Member.peer?, ne_eq, decide_not, Bool.not_eq_true', decide_eq_false_iff_not,
          ite_not]

theorem reported_nodes (ms : List Member) (leads : Bool → Bool) :
    reported (((ms.map Member.node).map (·.2)).filter (leads ·.leader)) =
      (ms.filter (leads ·.leader)).filterMap Member.peer? := by
  rw [reported, List.map_map, List.filter_map, List.filterMap_map]
  congr 1
  funext m
  simp only [Function.comp_apply, Node.peer?, Member.node, Member.peer?, Node.IsUsable, true_and,
    ne_eq, ite_not]

namespace Ensemble

theorem mem (h : Ensemble ms leader) : leader ∈ ms := by
  have hm : leader ∈ ms.filter (·.leader) := by rw [h.led]; exact List.mem_cons_self
  exact List.mem_of_mem_filter hm

theorem peer? (h : Ensemble ms leader) : ∃ p, peerOf leader.address = .ok p :=
  (h.addressed leader h.mem).resolve_left h.found

theorem leads_iff (h : Ensemble ms leader) {m : Member} (hm : m ∈ ms) :
    m.id ≠ leader.id ↔ m.leader = false := by
  have hmem : m ∈ ms.filter (·.leader) ↔ m = leader := by rw [h.led, List.mem_singleton]
  have hl : m.leader = true ↔ m = leader := by
    rw [← hmem, List.mem_filter]
    exact ⟨fun hl => ⟨hm, hl⟩, fun hl => hl.2⟩
  rw [← Bool.not_eq_true, hl]
  refine not_congr ⟨?_, ?_⟩
  · exact fun hid => List.inj_on_of_nodup_map h.unique hm h.mem hid
  · rintro rfl
    rfl

theorem unique_entries {α : Type} (h : Ensemble ms leader) {f : Member → String × α}
    (hf : ∀ m, (f m).1 = m.id) : KeyedOnce (ms.map f) := by
  rw [KeyedOnce, List.map_map, show (·.1) ∘ f = (·.id) from funext hf]
  exact h.unique

theorem topology_status (h : Ensemble ms leader) {p : Peer} (hp : peerOf leader.address = .ok p) :
    (Status.mk leader.id (ms.map Member.entry)).topology =
      .ok (some (.make (some p) (restOf ms) none)) := by
  have hfind := find?_of_keyedOnce (h.unique_entries (f := Member.entry) fun _ => rfl)
    (List.mem_map_of_mem h.mem)
  have haddress : (Status.mk leader.id (ms.map Member.entry)).leaderAddress? =
      some leader.address := by
    have hfind : (ms.map Member.entry).find? (·.1 = leader.id) =
        some (leader.id, leader.address) := hfind
    simp only [Status.leaderAddress?, if_neg (h.named leader h.mem), hfind, if_neg h.found]
  have hothers : ∀ a ∈ (Status.mk leader.id (ms.map Member.entry)).otherAddresses,
      ∃ p, peerOf a = .ok p := by
    intro a ha
    simp only [Status.otherAddresses, List.mem_map, List.mem_filter, decide_eq_true_eq] at ha
    obtain ⟨e, ⟨⟨m, hm, rfl⟩, -, hne⟩, rfl⟩ := ha
    exact (h.addressed m hm).resolve_left hne
  rw [Status.topology, haddress]
  simp only [hp, peersOf_eq hothers, otherAddresses_eq fun m hm => h.leads_iff hm]
  rfl

theorem elected_nodes (h : Ensemble ms leader) {p : Peer} (hp : peerOf leader.address = .ok p) :
    electedOf ((ms.map Member.node).map (·.2)) none [] = .ok (some p, restOf ms) := by
  have hnamed : ∀ n ∈ (ms.map Member.node).map (·.2), n.IsUsable → ∃ p, peerOf n.address = .ok p := by
    intro n hn hu
    simp only [List.map_map, List.mem_map] at hn
    obtain ⟨m, hm, rfl⟩ := hn
    exact (h.addressed m hm).resolve_left hu.2
  have hleader : leader.peer? = some p := by rw [Member.peer?, if_neg h.found, hp]; rfl
  have hclaim : claimants ((ms.map Member.node).map (·.2)) = [p] := by
    have hc := reported_nodes ms id
    simp only [id] at hc
    rw [claimants, hc, h.led, List.filterMap_cons, hleader]
    rfl
  have hfollow : followers ((ms.map Member.node).map (·.2)) = restOf ms := reported_nodes ms (!·)
  rw [electedOf_eq hnamed, hclaim, hfollow]
  rfl

theorem mem_peers_iff (h : Ensemble ms leader) {p q : Peer} (hp : peerOf leader.address = .ok p) :
    q ∈ (Topology.make (some p) (restOf ms) none).peers ↔ ∃ m ∈ ms, m.peer? = some q := by
  have hleader : leader.peer? = some p := by rw [Member.peer?, if_neg h.found, hp]; rfl
  simp only [Topology.mem_peers_make, restOf, List.mem_filterMap, List.mem_filter,
    Bool.not_eq_true']
  constructor
  · rintro (hq | ⟨m, ⟨hm, -⟩, hq⟩)
    · exact ⟨leader, h.mem, hleader.trans hq⟩
    · exact ⟨m, hm, hq⟩
  · rintro ⟨m, hm, hq⟩
    by_cases hid : m.id = leader.id
    · obtain rfl := List.inj_on_of_nodup_map h.unique hm h.mem hid
      exact .inl (hleader.symm.trans hq)
    · exact .inr ⟨m, ⟨hm, (h.leads_iff hm).mp hid⟩, hq⟩

end Ensemble

/-- A status and a list of nodes that are written for the same nodes, all of them reachable, give
the same topology: the leader's peer leads, and the peers are those of all nodes with an address. -/
theorem parseStatus_eq_parseNodes (h : Ensemble ms leader) {status nodes : Json}
    (hs : StatusForm leader.id (ms.map Member.entry) status)
    (hn : NodesForm (ms.map Member.node) nodes) {a b : List UInt8} (ha : BodyOf status a)
    (hb : BodyOf nodes b) :
    ∃ t, parseStatus a = .ok (some t) ∧ parseNodes b = .ok t ∧
      (∃ p, peerOf leader.address = .ok p ∧ t.leader = some p) ∧
      ∀ q, q ∈ t.peers ↔ ∃ m ∈ ms, m.peer? = some q := by
  obtain ⟨p, hp⟩ := h.peer?
  have hstatus := statusOf?_of_form (h.unique_entries (f := Member.entry) fun _ => rfl) hs
  have hnodes := nodesOf?_of_form (h.unique_entries (f := Member.node) fun _ => rfl) hn
  refine ⟨.make (some p) (restOf ms) none, ?_, ?_, ⟨p, hp, rfl⟩, fun q => h.mem_peers_iff hp⟩
  · rw [parseStatus, answer?_of_bodyOf ha, Option.bind_some, hstatus]
    exact h.topology_status hp
  · rw [parseNodes, answer?_of_bodyOf hb, Option.bind_some, hnodes]
    simp only [h.elected_nodes hp]
    rfl

def secondMember : Member := ⟨"2", "http://A:4001", true⟩

/-- The leader shares its address with one node, two others share theirs, and one has none. -/
def sharedAddressMembers : List Member :=
  [⟨"1", "a", false⟩, secondMember, ⟨"3", "", false⟩, ⟨"4", "b:4001", false⟩, ⟨"5", "b", false⟩]

def addressFields (m : Member) : String × Json := (m.id, .map [("api_addr", .text m.address)])

def sharedAddressStatus : Json :=
  .map [("build", .null), ("store", .map [("leader", .map [("node_id", .text "2")]),
    ("metadata", .map (sharedAddressMembers.map addressFields))])]

def nodeFields (m : Member) : String × Json :=
  (m.id, .map [("api_addr", .text m.address), ("reachable", .bool true), ("leader", .bool m.leader)])

def sharedAddressNodes : Json := .map (sharedAddressMembers.map nodeFields)

theorem sharedAddressMembers_ensemble : Ensemble sharedAddressMembers secondMember where
  unique := by decide
  named := by decide
  addressed := by
    have h : ∀ m ∈ sharedAddressMembers, m.address = "" ∨ (peerOf m.address).isOk = true := by
      decide +kernel
    intro m hm
    refine (h m hm).imp_right fun hok => ?_
    cases hp : peerOf m.address with
    | ok p => exact ⟨p, rfl⟩
    | error e => rw [hp] at hok; cases hok
  led := by decide
  found := by decide

theorem sharedAddressStatus_form :
    StatusForm "2" (sharedAddressMembers.map Member.entry) sharedAddressStatus := by
  refine .map (by decide) (.tail _ (.head _)) (.map (by decide) (.head _) ?_ (.tail _ (.head _)) ?_)
  · exact .object (by decide) (.head _) (.inr ⟨rfl, by decide⟩)
  · rw [List.forall₂_map_left_iff, List.forall₂_map_right_iff]
    exact List.forall₂_same.mpr fun m _ => ⟨rfl, .map (by simp [KeyedOnce]) (.inl (.head _))⟩

theorem sharedAddressNodes_form :
    NodesForm (sharedAddressMembers.map Member.node) sharedAddressNodes := by
  refine .map ?_
  rw [List.forall₂_map_left_iff, List.forall₂_map_right_iff]
  refine List.forall₂_same.mpr fun m _ => ⟨rfl, .map (by simp [KeyedOnce]) (.inl (.head _))
    (.inr ⟨rfl, by simp [Lacks]⟩) (.inl (.tail _ (.head _))) (.inl (.tail _ (.tail _ (.head _))))⟩

theorem sharedAddressMembers_agreed :
    Ensemble sharedAddressMembers secondMember ∧
      StatusForm secondMember.id (sharedAddressMembers.map Member.entry) sharedAddressStatus ∧
      NodesForm (sharedAddressMembers.map Member.node) sharedAddressNodes ∧
      BodyOf sharedAddressStatus (Text.Utf8.encode (render sharedAddressStatus)) ∧
      BodyOf sharedAddressNodes (Text.Utf8.encode (render sharedAddressNodes)) ∧
      ∃ t, parseStatus (Text.Utf8.encode (render sharedAddressStatus)) = .ok (some t) ∧
        parseNodes (Text.Utf8.encode (render sharedAddressNodes)) = .ok t ∧
        (∃ p, peerOf secondMember.address = .ok p ∧ t.leader = some p) ∧
        ∀ q, q ∈ t.peers ↔ ∃ m ∈ sharedAddressMembers, m.peer? = some q := by
  have hs : BodyOf sharedAddressStatus (Text.Utf8.encode (render sharedAddressStatus)) :=
    bodyOf_render
      (by simp [sharedAddressStatus, sharedAddressMembers, addressFields, Floatless, FloatlessMembers])
      (by decide +kernel) (by decide)
  have hn : BodyOf sharedAddressNodes (Text.Utf8.encode (render sharedAddressNodes)) :=
    bodyOf_render
      (by simp [sharedAddressNodes, sharedAddressMembers, nodeFields, Floatless, FloatlessMembers])
      (by decide +kernel) (by decide)
  exact ⟨sharedAddressMembers_ensemble, sharedAddressStatus_form, sharedAddressNodes_form, hs, hn,
    parseStatus_eq_parseNodes sharedAddressMembers_ensemble sharedAddressStatus_form
      sharedAddressNodes_form hs hn⟩

end SqlCluster.Discovery
