import SqlCluster.Proofs.Cluster.Agreement
import SqlCluster.Proofs.Cluster.Ordering
import SqlCluster.Proofs.Json.Collected
import SqlCluster.Proofs.Outcome
/-!
What a status comes to. The leader's key is looked up among the nodes; where it leads to an address,
all nodes that have one are kept, and an address that names no peer spoils the whole.
-/
namespace SqlCluster.Discovery

open Json

def FieldSays (fields : List (String × Json)) (name s : String) : Prop :=
  member? name fields = some (.text s) ∨ member? name fields = none ∧ s = ""

inductive LeaderSays : Option Json → String → Prop
  | absent : LeaderSays none ""
  | null : LeaderSays (some .null) ""
  | bare (key : String) : LeaderSays (some (.text key)) key
  | object {fields : List (String × Json)} {key : String} (h : FieldSays fields "node_id" key) :
      LeaderSays (some (.map fields)) key

/-- The nodes in the order in which their keys first come, each with the address that is said of it
last. -/
inductive MetadataSays : Option Json → List (String × String) → Prop
  | absent : MetadataSays none []
  | map {nodes : List (String × Json)} {es : List (String × String)}
      (keys : es.map (·.1) = distinct (nodes.map (·.1)))
      (addresses : ∀ e ∈ es, ∃ fields, member? e.1 nodes = some (.map fields) ∧
        FieldSays fields "api_addr" e.2) : MetadataSays (some (.map nodes)) es

def StatusSays (doc : Json) (s : Status) : Prop :=
  ∃ top store, doc = .map top ∧ member? "store" top = some (.map store) ∧
    LeaderSays (member? "leader" store) s.leader ∧
    MetadataSays (member? "metadata" store) s.addresses

theorem fieldSays_of_fieldOr? {fields : List (String × Json)} {name s : String}
    (h : fieldOr? name "" text? fields = some s) : FieldSays fields name s := by
  rw [fieldOr?] at h
  split at h
  · next hn => exact .inr ⟨hn, (Option.some.inj h).symm⟩
  · next j hj =>
      cases j with
      | text t =>
          cases h
          exact .inl hj
      | _ => cases h

theorem leaderSays_of_leaderKey? {j : Json} {key : String} (h : leaderKey? j = some key) :
    LeaderSays (some j) key := by
  cases j with
  | null =>
      cases h
      exact .null
  | text s =>
      cases h
      exact .bare key
  | map fields =>
      obtain ⟨k, hk, h⟩ := Option.bind_eq_some_iff.mp h
      obtain ⟨_, _, h⟩ := Option.bind_eq_some_iff.mp h
      cases h
      exact .object (fieldSays_of_fieldOr? hk)
  | _ => cases h

theorem metadataSays_of_mapOf? {j : Json} {es : List (String × String)}
    (h : mapOf? addressOf? j = some es) : MetadataSays (some j) es := by
  cases j with
  | map nodes =>
      have hc := collected_of_mapOf? h
      refine .map hc.keys fun e he => ?_
      obtain ⟨k, hk, hread⟩ := hc.said e he
      cases k with
      | map fields => exact ⟨fields, hk, fieldSays_of_fieldOr? hread⟩
      | _ => cases hread
  | _ => cases h

theorem MetadataSays.keyedOnce {m : Option Json} {es : List (String × String)}
    (h : MetadataSays m es) : KeyedOnce es := by
  cases h with
  | absent => exact List.nodup_nil
  | map keys _ =>
      rw [KeyedOnce, keys]
      exact nodup_distinct _

theorem statusSays_of_statusOf? {doc : Json} {s : Status} (h : statusOf? doc = some s) :
    StatusSays doc s := by
  cases doc with
  | map top =>
      obtain ⟨j, hj, h⟩ := Option.bind_eq_some_iff.mp h
      cases j with
      | map store =>
          obtain ⟨key, hk, h⟩ := Option.bind_eq_some_iff.mp h
          obtain ⟨es, hes, h⟩ := Option.bind_eq_some_iff.mp h
          cases h
          refine ⟨top, store, rfl, hj, ?_, ?_⟩
          · rw [fieldOr?] at hk
            split at hk
            · next hn =>
                cases hk
                rw [hn]
                exact .absent
            · next hl =>
                rw [hl]
                exact leaderSays_of_leaderKey? hk
          · rw [fieldOr?] at hes
            split at hes
            · next hn =>
                cases hes
                rw [hn]
                exact .absent
            · next hm =>
                rw [hm]
                exact metadataSays_of_mapOf? hes
      | _ => cases h
  | _ => cases h

def addressed (es : List (String × String)) : List Peer :=
  es.filterMap fun e => if e.2 = "" then none else (peerOf e.2).toOption

def Misspelt (es : List (String × String)) (a : String) : Prop :=
  (∃ key, (key, a) ∈ es) ∧ a ≠ "" ∧ ∀ p, peerOf a ≠ .ok p

/-- No leader is named, or it is none of the nodes, or has no address. -/
def Status.Open (s : Status) : Prop :=
  s.leader = "" ∨ (∀ a, (s.leader, a) ∉ s.addresses) ∨ (s.leader, "") ∈ s.addresses

/-- The topology is led by the leader's peer, and its peers are those of all nodes that have an
address. -/
def Status.Kept (s : Status) (t : Topology) : Prop :=
  ∃ a p, (s.leader, a) ∈ s.addresses ∧ peerOf a = .ok p ∧ t.leader = some p ∧ t.peers.Nodup ∧
    (∀ q, q ∈ t.peers ↔ q ∈ addressed s.addresses) ∧
    Firsts (· ≠ p) (addressed s.addresses) t.others

structure Status.Resolves (s : Status) (result : Except DiscoveryError (Option Topology)) :
    Prop where
  unresolved : result = .ok none ↔ s.Open
  refused : ¬s.Open → ((∃ e, result = .error e) ↔ ∃ a, Misspelt s.addresses a)
  blamed : ∀ e, result = .error e → ∃ a, e = .address a ∧ Misspelt s.addresses a
  kept : ¬s.Open → (¬∃ a, Misspelt s.addresses a) → ∃ t, result = .ok (some t) ∧ s.Kept t

section Topology

variable {s : Status} {a : String} {e : DiscoveryError}

theorem error_of_peerOf (h : peerOf a = .error e) : e = .address a := by
  rw [peerOf] at h
  split at h
  · cases h
  · exact (Except.error.inj h).symm

theorem error_of_peersOf {as : List String} (h : peersOf as = .error e) :
    ∃ a ∈ as, e = .address a ∧ peerOf a = .error e := by
  induction as with
  | nil => cases h
  | cons a as ih =>
      rw [peersOf] at h
      cases hp : peerOf a with
      | error f =>
          rw [hp] at h
          cases h
          exact ⟨a, List.mem_cons_self, error_of_peerOf hp, hp⟩
      | ok p =>
          rw [hp] at h
          cases hps : peersOf as with
          | error f =>
              rw [hps] at h
              cases h
              obtain ⟨b, hb, he⟩ := ih hps
              exact ⟨b, List.mem_cons_of_mem a hb, he⟩
          | ok ps =>
              rw [hps] at h
              cases h

theorem mem_otherAddresses :
    a ∈ s.otherAddresses ↔ ∃ key, (key, a) ∈ s.addresses ∧ key ≠ s.leader ∧ a ≠ "" := by
  simp only [Status.otherAddresses, List.mem_map, List.mem_filter, decide_eq_true_eq]
  constructor
  · rintro ⟨e, ⟨he, hk, ha⟩, rfl⟩
    exact ⟨e.1, he, hk, ha⟩
  · rintro ⟨key, he, hk, ha⟩
    exact ⟨(key, a), ⟨he, hk, ha⟩, rfl⟩

theorem leaderAddress?_eq_some (h : s.leaderAddress? = some a) :
    s.leader ≠ "" ∧ (s.leader, a) ∈ s.addresses ∧ a ≠ "" := by
  rw [Status.leaderAddress?] at h
  split at h
  · cases h
  · next hl =>
      split at h
      · next e he =>
          split at h
          · cases h
          · next ha =>
              cases h
              have hk : e.1 = s.leader := by simpa using List.find?_some he
              exact ⟨hl, hk ▸ List.mem_of_find?_eq_some he, ha⟩
      · cases h

theorem leaderAddress?_eq_none (hu : KeyedOnce s.addresses) :
    s.leaderAddress? = none ↔ s.Open := by
  constructor
  · intro h
    rw [Status.leaderAddress?] at h
    split at h
    · next hl => exact .inl hl
    · split at h
      · next e he =>
          split at h
          · next ha =>
              have hk : e.1 = s.leader := by simpa using List.find?_some he
              exact .inr (.inr (hk ▸ ha ▸ List.mem_of_find?_eq_some he))
          · cases h
      · next hn =>
          refine .inr (.inl fun a ha => ?_)
          exact List.find?_eq_none.mp hn _ ha (by simp)
  · intro h
    cases ha : s.leaderAddress? with
    | none => rfl
    | some a =>
        obtain ⟨hl, hmem, hne⟩ := leaderAddress?_eq_some ha
        rcases h with h | h | h
        · exact absurd h hl
        · exact absurd hmem (h a)
        · have he := List.inj_on_of_nodup_map hu hmem h rfl
          exact absurd (Prod.mk.inj he).2 hne

theorem filter_others (hu : KeyedOnce s.addresses) {p : Peer} (ha : (s.leader, a) ∈ s.addresses)
    (hp : peerOf a = .ok p) :
    (s.otherAddresses.filterMap fun b => (peerOf b).toOption).filter (· ≠ p) =
      (addressed s.addresses).filter (· ≠ p) := by
  rw [Status.otherAddresses, addressed, List.filterMap_map, List.filterMap_filter,
    List.filter_filterMap, List.filter_filterMap]
  refine List.filterMap_congr fun e he => ?_
  by_cases hk : e.1 = s.leader
  · have heq : e = (s.leader, a) := List.inj_on_of_nodup_map hu he ha hk
    by_cases hne : a = "" <;> simp [heq, hne, hp, Except.toOption, Option.filter]
  · by_cases hne : e.2 = "" <;> simp [hk, hne]

theorem kept_make (hu : KeyedOnce s.addresses) (ha : s.leaderAddress? = some a) {p : Peer}
    (hp : peerOf a = .ok p) :
    s.Kept (.make (some p) (s.otherAddresses.filterMap fun b => (peerOf b).toOption) none) := by
  obtain ⟨-, hmem, hne⟩ := leaderAddress?_eq_some ha
  have hothers := filter_others hu hmem hp
  have hself : p ∈ addressed s.addresses :=
    List.mem_filterMap.mpr ⟨_, hmem, by simp [hne, hp, Except.toOption]⟩
  refine ⟨a, p, hmem, hp, rfl, (Topology.distinct_make _ _ _).nodup_peers, fun q => ?_, ?_⟩
  · rw [Topology.mem_peers_make]
    by_cases hq : q = p
    · subst hq
      exact iff_of_true (.inl rfl) hself
    · have hpq : some p ≠ some q := fun he => hq (Option.some.inj he).symm
      have hiff : q ∈ (s.otherAddresses.filterMap fun b => (peerOf b).toOption).filter (· ≠ p) ↔
          q ∈ (addressed s.addresses).filter (· ≠ p) := by rw [hothers]
      simpa [List.mem_filter, hq, hpq] using hiff
  · have hf : (Topology.make (some p)
        (s.otherAddresses.filterMap fun b => (peerOf b).toOption) none).others =
          distinct ((addressed s.addresses).filter (· ≠ p)) := by
      rw [← hothers]
      simp only [Topology.make, ne_eq, Option.some.injEq]
    rw [hf]
    exact firsts_distinct (· ≠ p) _

theorem resolves_none (ho : s.Open) : s.Resolves (.ok none) :=
  ⟨iff_of_true rfl ho, absurd ho, fun _ h => (by cases h), absurd ho⟩

theorem resolves_error (ho : ¬s.Open) (hm : Misspelt s.addresses a) :
    s.Resolves (.error (.address a)) := by
  refine ⟨iff_of_false (fun h => by cases h) ho, fun _ => iff_of_true ⟨_, rfl⟩ ⟨a, hm⟩, ?_,
    fun _ hn => absurd ⟨a, hm⟩ hn⟩
  rintro e he
  cases he
  exact ⟨a, rfl, hm⟩

theorem resolves_some {t : Topology} (ho : ¬s.Open) (hn : ¬∃ b, Misspelt s.addresses b)
    (hk : s.Kept t) : s.Resolves (.ok (some t)) := by
  refine ⟨iff_of_false (fun h => by cases h) ho, fun _ => iff_of_false ?_ hn,
    fun _ h => (by cases h), fun _ _ => ⟨t, rfl, hk⟩⟩
  rintro ⟨e, he⟩
  cases he

theorem not_misspelt (hu : KeyedOnce s.addresses) (ha : (s.leader, a) ∈ s.addresses) {p : Peer}
    (hp : peerOf a = .ok p) {ps : List Peer} (hps : peersOf s.otherAddresses = .ok ps) :
    ¬∃ b, Misspelt s.addresses b := by
  rintro ⟨b, ⟨key, hk⟩, hne, hb⟩
  by_cases hl : key = s.leader
  · have he := List.inj_on_of_nodup_map hu hk ha hl
    exact hb p ((Prod.mk.inj he).2 ▸ hp)
  · have hmem : b ∈ s.otherAddresses := mem_otherAddresses.mpr ⟨key, hk, hl, hne⟩
    cases hpb : peerOf b with
    | ok q => exact hb q hpb
    | error f =>
        obtain ⟨g, hg⟩ := Outcome.error_of_mem (g := peersOf) (fun _ _ => rfl) hmem hpb
        rw [hps] at hg
        cases hg

theorem resolves_topology (hu : KeyedOnce s.addresses) : s.Resolves s.topology := by
  cases ha : s.leaderAddress? with
  | none =>
      have hr : s.topology = .ok none := by rw [Status.topology, ha]
      rw [hr]
      exact resolves_none ((leaderAddress?_eq_none hu).mp ha)
  | some a =>
      have ho : ¬s.Open := fun h => by
        rw [(leaderAddress?_eq_none hu).mpr h] at ha
        cases ha
      obtain ⟨-, hmem, hne⟩ := leaderAddress?_eq_some ha
      -- Which of the two readings fails is told apart; either failure blames an address.
      cases hp : peerOf a with
      | error e =>
          have hr : s.topology = .error (.address a) := by
            rw [Status.topology, ha, ← error_of_peerOf hp]
            simp only [hp, bind, Except.bind]
          rw [hr]
          exact resolves_error ho ⟨⟨_, hmem⟩, hne, fun p h => by rw [hp] at h; cases h⟩
      | ok p =>
          cases hps : peersOf s.otherAddresses with
          | error e =>
              obtain ⟨b, hb, rfl, hbe⟩ := error_of_peersOf hps
              obtain ⟨key, hk, -, hbne⟩ := mem_otherAddresses.mp hb
              have hr : s.topology = .error (.address b) := by
                rw [Status.topology, ha]
                simp only [hp, hps, bind, Except.bind]
              rw [hr]
              exact resolves_error ho ⟨⟨key, hk⟩, hbne, fun q h => by rw [hbe] at h; cases h⟩
          | ok ps =>
              have hall := not_misspelt hu hmem hp hps
              have hothers : ps = s.otherAddresses.filterMap fun b => (peerOf b).toOption := by
                refine Except.ok.inj (hps.symm.trans (peersOf_eq fun b hb => ?_))
                obtain ⟨key, hk, -, hbne⟩ := mem_otherAddresses.mp hb
                by_contra hn
                exact hall ⟨b, ⟨key, hk⟩, hbne, fun q hq => hn ⟨q, hq⟩⟩
              have hr : s.topology = .ok (some (.make (some p) ps none)) := by
                rw [Status.topology, ha]
                simp only [hp, hps, bind, Except.bind, pure, Except.pure]
              rw [hr, hothers]
              exact resolves_some ho hall (kept_make hu ha hp)

end Topology

/-- A status that can be read says the leader's key and the nodes' addresses, and comes to what
these resolve to. -/
theorem parseStatus_resolves {body : List UInt8} {doc : Json} {s : Status}
    (hb : Json.answer? body = some doc) (hs : statusOf? doc = some s) :
    StatusSays doc s ∧ KeyedOnce s.addresses ∧ s.Resolves (parseStatus body) := by
  have hst := statusSays_of_statusOf? hs
  have hu : KeyedOnce s.addresses := by
    obtain ⟨_, _, _, _, _, hm⟩ := hst
    exact hm.keyedOnce
  refine ⟨hst, hu, ?_⟩
  rw [parseStatus, hb, Option.bind_some, hs]
  exact resolves_topology hu

/-- The leader shares its address with the first node, which is said twice; one node has none. -/
def repeatedPeerDocument : List UInt8 := Text.Utf8.encode
  ("\x7b\"store\":\x7b\"leader\":\x7b\"node_id\":\"2\"\x7d,\"metadata\":\x7b" ++
    "\"1\":\x7b\"api_addr\":\"b:http\"\x7d,\"2\":\x7b\"api_addr\":\"http://A:4001\"\x7d," ++
    "\"3\":\x7b\"addr\":\"c:4002\"\x7d,\"4\":\x7b\"api_addr\":\"b\"\x7d," ++
    "\"1\":\x7b\"api_addr\":\"a:4001\"\x7d\x7d\x7d\x7d").toList

def repeatedPeerStatus : Status :=
  ⟨"2", [("1", "a:4001"), ("2", "http://A:4001"), ("3", ""), ("4", "b")]⟩

theorem repeatedPeerStatus_read :
    (Json.answer? repeatedPeerDocument).bind statusOf? = some repeatedPeerStatus := by
  decide +kernel

theorem repeatedPeerStatus_resolves :
    ∃ doc, Json.answer? repeatedPeerDocument = some doc ∧ statusOf? doc = some repeatedPeerStatus ∧
      StatusSays doc repeatedPeerStatus ∧ KeyedOnce repeatedPeerStatus.addresses ∧
      repeatedPeerStatus.Resolves (parseStatus repeatedPeerDocument) ∧
      parseStatus repeatedPeerDocument = .ok (some ⟨some ⟨"a", 4001⟩, [⟨"b", 4001⟩], none⟩) := by
  obtain ⟨doc, hb, hs⟩ := Option.bind_eq_some_iff.mp repeatedPeerStatus_read
  obtain ⟨hst, hu, hr⟩ := parseStatus_resolves hb hs
  refine ⟨doc, hb, hs, hst, hu, hr, ?_⟩
  rw [parseStatus, repeatedPeerStatus_read]
  decide +kernel

end SqlCluster.Discovery
