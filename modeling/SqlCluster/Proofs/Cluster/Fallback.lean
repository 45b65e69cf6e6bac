import SqlCluster.Proofs.Cluster.Refresh
/-!
What a discovery asks, and when. The cluster is asked for its status, then at most once for its
nodes; what this comes to is told from the answers and the seed in use.
-/
namespace SqlCluster

namespace Discovery

structure Ask where
  operation : Operation
  answer : Except Fault (List UInt8)

end Discovery

open Discovery

variable {σ : Type}

namespace World

def watched (w : World σ) : World (List Ask × σ) := ⟨([], w.server), w.sent, w.journal⟩

def bare (w : World (List Ask × σ)) : World σ := ⟨w.server.2, w.sent, w.journal⟩

def asks (w : World (List Ask × σ)) : List Ask := w.server.1

theorem bare_note (w : World (List Ask × σ)) (t : Tracer) (message : String) :
    (w.note t message).bare = w.bare.note t message := rfl

theorem bare_log (w : World (List Ask × σ)) (severity : Severity) (channel : Channel)
    (message : String) : (w.log severity channel message).bare =
      w.bare.log severity channel message := rfl

theorem asks_note (w : World (List Ask × σ)) (t : Tracer) (message : String) :
    (w.note t message).asks = w.asks := rfl

end World

namespace Discovery

variable {fetch : Fetch σ} {current found : Topology} {t : Tracer}

def recorded (fetch : Fetch σ) : Fetch (List Ask × σ) := fun operation w =>
  let r := fetch operation w.bare
  (r.1, ⟨(w.asks ++ [⟨operation, r.1⟩], r.2.server), r.2.sent, r.2.journal⟩)

/-- The record changes nothing, and has grown by these questions. -/
structure Recorded (w : World (List Ask × σ)) (asks : List Ask)
    (r : Except Fault Topology × World (List Ask × σ)) (plain : Except Fault Topology × World σ) :
    Prop where
  outcome : r.1 = plain.1
  bare : r.2.bare = plain.2
  asks : r.2.asks = w.asks ++ asks

def FallsBack : Except Fault (List UInt8) → Prop
  | .error f => f.isLibrary = true
  | .ok body => ∀ found, parseStatus body ≠ .ok (some found)

def installed (current found : Topology) : Except Fault Topology :=
  if found.peers.isEmpty then .error (.discovery .noNodes) else .ok (found.withSeed current.seed)

def nodesOutcome (current : Topology) : Except Fault (List UInt8) → Except Fault Topology
  | .error f =>
      if f.isLibrary && !f.isDiscovery then .error (.discovery (.undetermined f.message))
      else .error f
  | .ok body => match parseNodes body with
      | .error e => .error (.discovery e)
      | .ok found => installed current found

inductive Course (current : Topology) : List Ask → Except Fault Topology → Prop
  | status {body : List UInt8} {found : Topology} (h : parseStatus body = .ok (some found)) :
      Course current [⟨.status, .ok body⟩] (installed current found)
  | foreign {f : Fault} (h : f.isLibrary = false) :
      Course current [⟨.status, .error f⟩] (.error f)
  | nodes {a b : Except Fault (List UInt8)} (h : FallsBack a) :
      Course current [⟨.status, a⟩, ⟨.nodes, b⟩] (nodesOutcome current b)

theorem bare_noteOthers (ps : List Peer) (n : Nat) (w : World (List Ask × σ)) :
    (noteOthers t n ps w).bare = noteOthers t n ps w.bare := by
  induction ps generalizing n w with
  | nil => rfl
  | cons p ps ih => rw [noteOthers, noteOthers, ih, World.bare_note]

theorem asks_noteOthers (ps : List Peer) (n : Nat) (w : World (List Ask × σ)) :
    (noteOthers t n ps w).asks = w.asks := by
  induction ps generalizing n w with
  | nil => rfl
  | cons p ps ih => rw [noteOthers, ih, World.asks_note]

theorem fst_install (w : World σ) : (install current found t w).1 = installed current found := by
  rw [install, installed]
  split <;> rfl

theorem recorded_install (current found : Topology) (t : Tracer) (w : World (List Ask × σ)) :
    Recorded w [] (install current found t w) (install current found t w.bare) := by
  refine ⟨by rw [fst_install, fst_install], ?_, ?_⟩
  · rw [install, install]
    split
    · rfl
    · dsimp only
      rw [World.bare_log, bare_noteOthers, World.bare_note]
  · rw [List.append_nil, install]
    split
    · rfl
    · exact asks_noteOthers _ _ _

theorem recorded_viaNodes (w : World (List Ask × σ)) :
    ∃ b, Recorded w [⟨.nodes, b⟩] (viaNodes (recorded fetch) current t w)
        (viaNodes fetch current t w.bare) ∧
      (viaNodes fetch current t w.bare).1 = nodesOutcome current b := by
  simp only [viaNodes, recorded, World.bare_note, World.asks_note]
  cases hr : fetch .nodes (w.bare.note t "getting leader from /nodes") with
  | mk b v =>
      refine ⟨b, ?_⟩
      cases b with
      | error f =>
          simp only [nodesOutcome]
          split <;> exact ⟨⟨rfl, rfl, rfl⟩, rfl⟩
      | ok body =>
          simp only [nodesOutcome]
          cases parseNodes body with
          | error e => exact ⟨⟨rfl, rfl, rfl⟩, rfl⟩
          | ok found =>
              have h := recorded_install current found t
                ⟨(w.asks ++ [⟨.nodes, .ok body⟩], v.server), v.sent, v.journal⟩
              exact ⟨⟨h.outcome, h.bare, h.asks.trans (List.append_nil _)⟩, fst_install v⟩

theorem fallsBack_of_parseStatus {body : List UInt8} {e : Except DiscoveryError (Option Topology)}
    (h : parseStatus body = e) (he : ∀ found, e ≠ .ok (some found)) : FallsBack (.ok body) := by
  intro found
  rw [h]
  exact he found

theorem recorded_fallback {a : Except Fault (List UInt8)} (h : FallsBack a)
    {w x : World (List Ask × σ)} (hx : x.asks = w.asks ++ [⟨.status, a⟩]) :
    ∃ asks, Recorded w asks (viaNodes (recorded fetch) current t x)
        (viaNodes fetch current t x.bare) ∧
      Course current asks (viaNodes fetch current t x.bare).1 := by
  obtain ⟨b, hb, ho⟩ := recorded_viaNodes x
  refine ⟨[⟨.status, a⟩, ⟨.nodes, b⟩], ⟨hb.outcome, hb.bare, ?_⟩, ?_⟩
  · rw [hb.asks, hx, List.append_assoc]
    rfl
  · rw [ho]
    exact .nodes h

theorem recorded_refresh (fetch : Fetch σ) (current : Topology) (t : Tracer)
    (w : World (List Ask × σ)) :
    ∃ asks, Recorded w asks (refresh (recorded fetch) current t w) (refresh fetch current t w.bare) ∧
      Course current asks (refresh fetch current t w.bare).1 := by
  have hask : (recorded fetch .status (w.note t "getting leader from /status")).1 =
      (fetch .status (w.bare.note t "getting leader from /status")).1 := rfl
  have hbare : (recorded fetch .status (w.note t "getting leader from /status")).2.bare =
      (fetch .status (w.bare.note t "getting leader from /status")).2 := rfl
  have hasks : (recorded fetch .status (w.note t "getting leader from /status")).2.asks =
      w.asks ++ [⟨.status, (fetch .status (w.bare.note t "getting leader from /status")).1⟩] := rfl
  -- From here on only the answer and the two worlds matter, not how they were come by.
  simp only [refresh]
  generalize recorded fetch .status (w.note t "getting leader from /status") = watched at *
  generalize fetch .status (w.bare.note t "getting leader from /status") = plain at *
  obtain ⟨a, x⟩ := watched
  obtain ⟨b, v⟩ := plain
  subst hask hbare
  dsimp only at hasks ⊢
  cases a with
  | error f =>
      cases hf : f.isLibrary with
      | true =>
          simp only [statusOutcome, hf, if_true]
          exact recorded_fallback (show FallsBack (.error f) from hf) hasks
      | false =>
          simp only [statusOutcome, hf, Bool.false_eq_true, if_false]
          exact ⟨_, ⟨rfl, rfl, hasks⟩, .foreign hf⟩
  | ok body =>
      cases hp : parseStatus body with
      | error e =>
          have hf : (Fault.discovery e).isLibrary = true := rfl
          simp only [statusOutcome, hp, hf, if_true]
          exact recorded_fallback (fallsBack_of_parseStatus hp (by simp)) hasks
      | ok answer =>
          cases answer with
          | none =>
              simp only [statusOutcome, hp]
              exact recorded_fallback (fallsBack_of_parseStatus hp (by simp)) hasks
          | some found =>
              simp only [statusOutcome, hp]
              obtain ⟨ho, hb, ha⟩ := recorded_install current found t
                (x.note t "leader successfully determined using /status")
              rw [fst_install]
              refine ⟨_, ⟨by rw [ho, fst_install, fst_install], hb, ?_⟩, .status hp⟩
              rw [ha, List.append_nil, World.asks_note, hasks]

/-- The status is asked for first, and the nodes just when it has to be. The library's own faults
come to a discovery fault at most, and a foreign one ends everything as it is. -/
structure Orderly (current : Topology) (asks : List Ask) (outcome : Except Fault Topology) : Prop where
  order : ∃ a, asks = [⟨.status, a⟩] ∧ ¬FallsBack a ∨
    ∃ b, asks = [⟨.status, a⟩, ⟨.nodes, b⟩] ∧ FallsBack a
  library : (∀ ask ∈ asks, ∀ f, ask.answer = .error f → f.isLibrary = true) →
    (∃ next, outcome = .ok next) ∨ ∃ f, outcome = .error f ∧ f.isDiscovery = true
  foreign : ∀ ask ∈ asks, ∀ f, ask.answer = .error f → f.isLibrary = false →
    outcome = .error f ∧ asks.getLast? = some ask
  found : ∀ next, outcome = .ok next → next.peers ≠ [] ∧ next.seed = current.seed

inductive Settled (current : Topology) : Except Fault Topology → Prop
  | found {next : Topology} (h : Renewed current next) : Settled current (.ok next)
  | failed {f : Fault} (h : f.isDiscovery = true) : Settled current (.error f)

theorem settled_installed (current found : Topology) : Settled current (installed current found) := by
  rw [installed]
  split
  · exact .failed rfl
  · next h => exact .found ⟨found, by simpa using h, rfl⟩

theorem settled_nodesOutcome {b : Except Fault (List UInt8)}
    (h : ∀ f, b = .error f → f.isLibrary = true) : Settled current (nodesOutcome current b) := by
  cases b with
  | error f =>
      rw [nodesOutcome, h f rfl, Bool.true_and]
      cases hd : f.isDiscovery with
      | true => exact .failed hd
      | false => exact .failed rfl
  | ok body =>
      rw [nodesOutcome]
      split
      · exact .failed rfl
      · exact settled_installed _ _

theorem nodesOutcome_foreign {f : Fault} (h : f.isLibrary = false) :
    nodesOutcome current (.error f) = .error f := by
  simp [nodesOutcome, h]

theorem Settled.ok_or_discovery {outcome : Except Fault Topology} (h : Settled current outcome) :
    (∃ next, outcome = .ok next) ∨ ∃ f, outcome = .error f ∧ f.isDiscovery = true := by
  cases h with
  | found h => exact .inl ⟨_, rfl⟩
  | failed h => exact .inr ⟨_, rfl, h⟩

theorem Settled.renewed {outcome : Except Fault Topology} (h : Settled current outcome)
    {next : Topology} (hn : outcome = .ok next) : next.peers ≠ [] ∧ next.seed = current.seed := by
  cases h with
  | found h =>
      cases hn
      exact ⟨h.peers_ne_nil, h.seed⟩
  | failed h => cases hn

theorem orderly_status {body : List UInt8} (h : parseStatus body = .ok (some found)) :
    Orderly current [⟨.status, .ok body⟩] (installed current found) where
  order := ⟨.ok body, .inl ⟨rfl, fun hf => hf found h⟩⟩
  library _ := (settled_installed current found).ok_or_discovery
  foreign := by
    intro ask hask f hf
    rw [List.mem_singleton.mp hask] at hf
    cases hf
  found _ := (settled_installed current found).renewed

theorem orderly_foreign {f : Fault} (h : f.isLibrary = false) :
    Orderly current [⟨.status, .error f⟩] (.error f) where
  order := ⟨.error f, .inl ⟨rfl, by simp [FallsBack, h]⟩⟩
  library := by
    intro hall
    have hf := hall _ List.mem_cons_self f rfl
    rw [h] at hf
    cases hf
  foreign := by
    intro ask hask g hg _
    rw [List.mem_singleton.mp hask] at hg ⊢
    cases hg
    exact ⟨rfl, rfl⟩
  found := nofun

theorem orderly_nodes {a b : Except Fault (List UInt8)} (h : FallsBack a) :
    Orderly current [⟨.status, a⟩, ⟨.nodes, b⟩] (nodesOutcome current b) where
  order := ⟨a, .inr ⟨b, rfl, h⟩⟩
  library := by
    intro hall
    refine (settled_nodesOutcome fun f hf => ?_).ok_or_discovery
    exact hall ⟨.nodes, b⟩ (List.mem_cons_of_mem _ List.mem_cons_self) f hf
  foreign := by
    intro ask hask f hf hl
    rcases List.mem_cons.mp hask with rfl | hask
    · obtain rfl : a = .error f := hf
      rw [show f.isLibrary = true from h] at hl
      cases hl
    · obtain rfl := List.mem_singleton.mp hask
      obtain rfl : b = .error f := hf
      exact ⟨nodesOutcome_foreign hl, rfl⟩
  found := by
    intro next hn
    refine (settled_nodesOutcome fun f hf => ?_).renewed hn
    subst hf
    cases hl : f.isLibrary with
    | true => rfl
    | false =>
        rw [nodesOutcome_foreign hl] at hn
        cases hn

theorem Course.orderly {asks : List Ask} {outcome : Except Fault Topology}
    (h : Course current asks outcome) : Orderly current asks outcome := by
  cases h with
  | status h => exact orderly_status h
  | foreign h => exact orderly_foreign h
  | nodes h => exact orderly_nodes h

theorem refresh_of_seed {other : Topology} (h : other.seed = current.seed) :
    refresh fetch other t = refresh fetch current t := by
  have hinstall (found : Topology) (w : World σ) :
      install other found t w = install current found t w := by
    simp only [install, h]
  have hnodes (w : World σ) : viaNodes fetch other t w = viaNodes fetch current t w := by
    simp only [viaNodes, hinstall]
  funext w
  simp only [refresh, hinstall, hnodes]

/-- A discovery that is watched comes to the same as one that is not. It takes one of three courses,
falls back to the nodes just when it has to, fails in one way, and knows the topology in use by its
seed alone. -/
theorem orderly_refresh (fetch : Fetch σ) (current : Topology) (t : Tracer) (w : World σ) :
    let plain := refresh fetch current t w
    let watched := refresh (recorded fetch) current t w.watched
    watched.1 = plain.1 ∧ watched.2.bare = plain.2 ∧
      Course current watched.2.asks plain.1 ∧ Orderly current watched.2.asks plain.1 ∧
      ∀ other : Topology, other.seed = current.seed → refresh fetch other t w = plain := by
  intro plain watched
  obtain ⟨asks, h, hc⟩ := recorded_refresh fetch current t w.watched
  have hasks : watched.2.asks = asks := h.asks
  rw [hasks]
  refine ⟨h.outcome, h.bare, hc, hc.orderly, ?_⟩
  intro other ho
  exact congrFun (refresh_of_seed ho) w

def statuslessFetch : Fetch Unit := fun operation w =>
  match operation with
  | .nodes => (.ok (Text.Utf8.encode
      "\x7b\"1\":\x7b\"api_addr\":\"c\",\"reachable\":true\x7d\x7d".toList), w)
  | _ => (.error .noPeers, w)

def staleTopology : Topology := ⟨some ⟨"d", 4001⟩, [], some ⟨"s", 4001⟩⟩

theorem statuslessFetch_orderly :
    let plain := refresh statuslessFetch staleTopology ⟨.silent, []⟩ ⟨(), [], .empty⟩
    let watched := refresh (recorded statuslessFetch) staleTopology ⟨.silent, []⟩
      (World.watched ⟨(), [], .empty⟩)
    plain.1.toOption = some ⟨none, [⟨"c", 4001⟩], some ⟨"s", 4001⟩⟩ ∧
      watched.2.asks.map (·.operation) = [.status, .nodes] ∧
      watched.1 = plain.1 ∧ watched.2.bare = plain.2 ∧
      Course staleTopology watched.2.asks plain.1 ∧ Orderly staleTopology watched.2.asks plain.1 ∧
      ∀ other : Topology, other.seed = staleTopology.seed →
        refresh statuslessFetch other ⟨.silent, []⟩ ⟨(), [], .empty⟩ = plain :=
  ⟨by decide +kernel, by decide +kernel,
    orderly_refresh statuslessFetch staleTopology ⟨.silent, []⟩ ⟨(), [], .empty⟩⟩

end Discovery

end SqlCluster
