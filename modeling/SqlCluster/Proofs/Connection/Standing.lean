import SqlCluster.Proofs.Connection.History
import SqlCluster.Proofs.Connection.Lifecycle
import SqlCluster.Proofs.Peer.Distinct
/-!
What a data operation asks, and of whom. Its requests go by the settings and the topology that the
history before it has put in force, and by no others.
-/
namespace SqlCluster

open Text Http

def BatchKind.isQueued (kind : BatchKind) (queuedWrites : Bool) : Bool :=
  match kind with
  | .queue => true
  | .write => queuedWrites
  | _ => false

theorem BatchKind.isQueued_eq (kind : BatchKind) (queuedWrites : Bool) :
    (decide (kind.operation = .execute) && (decide (kind = .queue) || queuedWrites)) =
      kind.isQueued queuedWrites := by
  cases kind <;> rfl

/-- One slot for each of some first peers, which opens with the request for its peer. There is none
only for want of peers or of credentials that can be spelled. -/
def AsksInTurn (config : Config) (peers : List Peer) (path query : List Char) (calls : List Call) :
    Prop :=
  ∃ slots blocks, slots <+: peers ∧ calls = blocks.flatten ∧
    List.Forall₂ (fun peer block => ∃ c rest, block = c :: rest ∧ c.Asks config peer path query)
      slots blocks ∧
    (slots = [] → peers = [] ∨ config.userPart? = none)

theorem orderedPeers_make (config : Config) (tracer : Tracer) (favorSeed favor : Bool)
    (given : Option Http.Client) (room : Nat) :
    (Connection.make config tracer favorSeed given room).topology.orderedPeers favor =
      distinct config.seeds := by
  simp only [Connection.make, Config.seed]
  cases config.seeds with
  | nil => cases favor <;> rfl
  | cons p ps =>
      -- The first seed is kept out of the others and stands in front of them once.
      have hpeers : (Topology.make (some p) ps (some p)).peers = distinct (p :: ps) := by
        simp only [Topology.peers, Topology.make, distinct_filter, Option.toList_some,
          List.singleton_append, distinct, ne_eq, Option.some.injEq]
      simp only [List.head?_cons, List.drop_one, List.tail_cons]
      cases favor with
      | false => exact hpeers
      | true =>
          have ho : (Topology.make (some p) ps (some p)).orderedPeers true =
            distinct (p :: (Topology.make (some p) ps (some p)).peers) := rfl
          rw [ho, hpeers, distinct_cons_distinct]

theorem map_latest {α β γ : Type} (g : β → γ) (f : α → Option β) (before : β) (as : List α) :
    g (latest f before as) = latest (fun a => (f a).map g) (g before) as := by
  induction as generalizing before with
  | nil => rfl
  | cons a as ih =>
      rw [latest_cons, latest_cons, ih]
      cases f a <;> rfl

namespace Connection

variable {σ : Type} {serve : Server σ} {c : Connection} {step : Step} {kind : BatchKind} {w : World σ}
  {seeds : List Peer}

def peersAfter (config : Config) (favorSeed : Bool) (es : List Entry) : List Peer :=
  latest (fun e => e.found.map (·.orderedPeers favorSeed)) (distinct config.seeds) es

theorem orderedPeers_after (config : Config) (tracer : Tracer) (favorSeed : Bool)
    (given : Option Http.Client) (room : Nat) (serve : Server σ) (w : World σ) (steps : List Step) :
    let start := (make config tracer favorSeed given room, w)
    let x := (after serve steps start).1.executor
    x.topology.orderedPeers x.favorSeed =
      peersAfter config favorSeed (history serve steps start) := by
  intro start x
  have ht : x.topology = latest Entry.found start.1.topology (history serve steps start) :=
    topology_after serve steps start
  have hf : x.favorSeed = favorSeed := favorSeed_after serve steps start
  have hmap := map_latest (fun t : Topology => t.orderedPeers favorSeed) Entry.found start.1.topology
    (history serve steps start)
  rw [ht, hf, hmap, orderedPeers_make, peersAfter]

structure Known (seeds : List Peer) (t : Topology) : Prop where
  seed : ∀ p, t.seed = some p → p ∈ seeds
  peers : ∀ p ∈ t.peers, p ∈ seeds ∨ p.IsSpelled

theorem known_make (config : Config) (tracer : Tracer) (favorSeed : Bool)
    (given : Option Http.Client) (room : Nat) :
    Known config.seeds (make config tracer favorSeed given room).topology := by
  have hseed {p : Peer} (h : config.seed = some p) : p ∈ config.seeds := List.mem_of_mem_head? h
  refine ⟨fun p h => hseed h, ?_⟩
  intro p hp
  rcases Topology.mem_peers_make.mp hp with h | h
  · exact .inl (hseed h)
  · exact .inl (List.mem_of_mem_drop h)

theorem known_discovery (h : Known seeds c.topology) {t : Topology}
    (ht : (c.discovery serve w).1 = .ok t) : Known seeds t := by
  have hs : t.seed = c.topology.seed := by
    have hf := Discovery.finding_refresh
      (fun operation w => c.executor.execute serve operation [] false w) c.topology c.tracer
      (w.note c.tracer "refreshing cluster info")
    rw [discovery] at ht
    rw [ht] at hf
    cases hf with
    | renewed hr => exact hr.seed
  refine ⟨fun p hp => h.seed p (hs ▸ hp), ?_⟩
  intro p hp
  exact .inr (Discovery.isRead_of_refresh ht p hp).isHosted.isSpelled

theorem known_found (h : Known seeds c.topology) {t : Topology}
    (ht : c.found? serve step w = some t) : Known seeds t := by
  obtain ⟨r, hr, ht⟩ := Option.bind_eq_some_iff.mp ht
  have hok : r = .ok t := by
    cases r with
    | ok u => exact congrArg Except.ok (Option.some.inj ht)
    | error f => cases ht
  rw [hok] at hr
  have opening (hr : (if c.isNew && !c.config.disableDiscovery.isTruthy then
      some (c.begun.discovery serve (c.greeted w)).1 else none) = some (.ok t)) : Known seeds t := by
    split at hr
    · exact known_discovery (c := c.begun) h (Option.some.inj hr)
    · cases hr
  have asking (hr : (if c.isOpen then some (c.discovery serve w).1 else none) = some (.ok t)) :
      Known seeds t := by
    split at hr
    · exact known_discovery h (Option.some.inj hr)
    · cases hr
  cases step with
  | «open» => exact opening hr
  | enter => exact opening hr
  | leader => exact asking hr
  | peers => exact asking hr
  | refresh => exact asking hr
  | _ => cases hr

theorem known_run (h : Known seeds c.topology) :
    Known seeds (c.run serve step w).2.1.topology := by
  rw [(held_run serve c step w).topology]
  cases hf : c.found? serve step w with
  | none => exact h
  | some t => exact known_found h hf

theorem known_after {p : Connection × World σ} (h : Known seeds p.1.topology) (steps : List Step) :
    Known seeds (after serve steps p).1.topology :=
  kept_after (P := fun c => Known seeds c.topology) (fun _ _ _ h => known_run h) steps h

theorem Known.orderedPeers {t : Topology} (h : Known seeds t) (favor : Bool) :
    ∀ p ∈ t.orderedPeers favor, p ∈ seeds ∨ p.IsSpelled := by
  intro p hp
  unfold Topology.orderedPeers at hp
  split at hp
  · next s hs =>
      rcases List.mem_cons.mp (mem_distinct.mp hp) with rfl | hp
      · exact .inl (h.seed p hs)
      · exact h.peers p hp
  · exact h.peers p hp

theorem eq_walkWith {r : Run σ (Except Fault (List UInt8))} (hk : step.kind? = some kind)
    (h : c.walk? serve step w = some r) : ∃ body v, r = c.walkWith serve kind body v := by
  have sent {batch : List Statement} {v : World σ} (h : c.dispatch? serve kind batch v = some r) :
      ∃ body v, r = c.walkWith serve kind body v := by
    unfold dispatch? at h
    split at h
    · obtain ⟨cs, -, rfl⟩ := Option.map_eq_some_iff.mp h
      exact ⟨_, _, rfl⟩
    · cases h
  unfold walk? at h
  split at h
  · cases hk
    split at h
    · exact sent h
    · cases h
  · cases hk
    split at h
    · exact sent h
    · cases h
  · cases h

theorem asksInTurn_walkWith {config : Config} {es : List Entry} (h : InForce config es c.config)
    {peers : List Peer} (hp : c.topology.orderedPeers c.favorSeed = peers) (kind : BatchKind)
    (body : List UInt8) (v : World σ) :
    AsksInTurn config peers kind.operation.path.toList
      (dataQuery (latest (Entry.set? Step.level?) config.level es)
        (latest (Entry.set? Step.transaction?) config.transaction.isTruthy es)
        (kind.isQueued (latest (Entry.set? Step.queuedWrites?) config.queuedWrites.isTruthy es)))
      (c.walkWith serve kind body v).calls := by
  have hd : kind.operation.isData = true := kind.isData_operation
  have hslotted : Executor.Slotted c.executor kind.operation body (decide (kind = .queue)) peers
      (c.walkWith serve kind body v).calls := hp ▸ slotted_walkWith c serve kind body v
  obtain ⟨slots, blocks, hslots, hcalls, hopens, hnone⟩ := hslotted
  refine ⟨slots, blocks, hslots, hcalls, hopens.imp ?_, ?_⟩
  · rintro peer block ⟨⟨call, rest, rfl, hu⟩, hall⟩
    obtain ⟨hmethod, -⟩ := hall call List.mem_cons_self
    rw [Executor.methodOf, if_pos hd] at hmethod
    have hasks := asks_of_url hd hmethod hu
    simp only [executor, kind.isQueued_eq, h.level, h.transaction, h.queuedWrites] at hasks
    exact ⟨call, rest, rfl, hasks.congr h.scheme.symm h.userPart.symm⟩
  · intro hs
    exact (hnone hs).imp id h.userPart.symm.trans

/-- Every data operation asks the peers that are in force, in their order, and each by the settings
that are in force. -/
theorem asks_in_turn_after (config : Config) (tracer : Tracer) (favorSeed : Bool)
    (given : Option Http.Client) (room : Nat) (serve : Server σ) (w : World σ) (steps : List Step) :
    let start := (make config tracer favorSeed given room, w)
    let p := after serve steps start
    let es := history serve steps start
    let level := latest (Entry.set? Step.level?) config.level es
    let transaction := latest (Entry.set? Step.transaction?) config.transaction.isTruthy es
    let queuedWrites := latest (Entry.set? Step.queuedWrites?) config.queuedWrites.isTruthy es
    let peers := peersAfter config favorSeed es
    (∀ peer ∈ peers, peer ∈ config.seeds ∨ peer.IsSpelled) ∧
      (∀ url, Config.ofUrl url = .ok config → ∀ peer ∈ peers, peer.IsSpelled) ∧
      (config.seeds ≠ [] → peers ≠ []) ∧
      ∀ step kind, step.kind? = some kind →
        (p.1.walk? serve step p.2 = none → p.2.Quiet (p.1.run serve step p.2).2.2) ∧
          ∀ r, p.1.walk? serve step p.2 = some r →
            (p.1.run serve step p.2).2.2.sent =
                p.2.sent ++ r.calls.filterMap (Call.request? config.timeout) ∧
              AsksInTurn config peers kind.operation.path.toList
                (dataQuery level transaction (kind.isQueued queuedWrites)) r.calls := by
  intro start p es level transaction queuedWrites peers
  have hp : p.1.topology.orderedPeers p.1.favorSeed = peers :=
    orderedPeers_after config tracer favorSeed given room serve w steps
  have hforce : InForce config es p.1.config := inForce_after serve steps start
  have hknown : ∀ peer ∈ peers, peer ∈ config.seeds ∨ peer.IsSpelled := by
    rw [← hp]
    exact (known_after (known_make config tracer favorSeed given room) steps).orderedPeers _
  refine ⟨hknown, ?_, ?_, ?_⟩
  · intro url hu peer hpeer
    exact (hknown peer hpeer).elim (Config.isSpelled_of_ofUrl hu peer) id
  · intro hs
    obtain ⟨seed, seeds, hs⟩ := List.exists_cons_of_ne_nil hs
    have hseed : config.seed = some seed := by rw [Config.seed, hs, List.head?_cons]
    have hseeded : Seeded seed p.1 :=
      seeded_after (seeded_make hseed tracer favorSeed given room) steps
    rw [← hp]
    exact Topology.orderedPeers_ne_nil hseeded.peopled _
  · intro step kind hk
    have hd := delivered_run serve p.1 p.2 hk
    refine ⟨?_, ?_⟩
    · intro hn
      rw [hn] at hd
      exact hd.quiet
    · intro r hr
      rw [hr] at hd
      refine ⟨?_, ?_⟩
      · rw [hd.sent_eq, ← hforce.timeout]
        rfl
      · obtain ⟨body, v, rfl⟩ := eq_walkWith hk hr
        exact asksInTurn_walkWith hforce hp kind body v

def leaderOutsideSeedsOnce : List Route :=
  leaderOutsideSeeds.map fun r => { r with outcomes := r.outcomes ++ [.response ⟨503, [], []⟩] }

def settingSteps : List Step :=
  [.open, .setLevel (.text "Strong"), .setLevel (.text "lost"), .setTransaction (.bool false),
    .setQueuedWrites (.int 1), .refresh]

theorem settingSteps_asks :
    let start :=
      (make twoSeeds ⟨.silent, []⟩ false none Json.usualRoom, ⟨leaderOutsideSeedsOnce, [], .empty⟩)
    let p := after Script.serve settingSteps start
    let step := Step.batch .write [.plain (.text "x")]
    step.kind? = some .write ∧ ∃ r, p.1.walk? Script.serve step p.2 = some r ∧ r.calls.length = 2 ∧
      AsksInTurn twoSeeds [⟨"c", 4001⟩, ⟨"b", 4001⟩] "/db/execute".toList
        "timings&level=strong&queue".toList r.calls := by
  intro start p step
  have hwalk : (p.1.walk? Script.serve step p.2).map (·.calls.length) = some 2 := by decide +kernel
  obtain ⟨r, hr, hcalls⟩ := Option.map_eq_some_iff.mp hwalk
  obtain ⟨-, -, -, h⟩ :=
    asks_in_turn_after twoSeeds ⟨.silent, []⟩ false none Json.usualRoom Script.serve
      ⟨leaderOutsideSeedsOnce, [], .empty⟩ settingSteps
  have hasks := ((h step .write rfl).2 r hr).2
  have hpeers : peersAfter twoSeeds false (history Script.serve settingSteps start) =
      [⟨"c", 4001⟩, ⟨"b", 4001⟩] := by decide +kernel
  have hquery : dataQuery
      (latest (Entry.set? Step.level?) twoSeeds.level (history Script.serve settingSteps start))
      (latest (Entry.set? Step.transaction?) twoSeeds.transaction.isTruthy
        (history Script.serve settingSteps start))
      (BatchKind.write.isQueued (latest (Entry.set? Step.queuedWrites?) twoSeeds.queuedWrites.isTruthy
        (history Script.serve settingSteps start))) = "timings&level=strong&queue".toList := by
    decide +kernel
  rw [hpeers, hquery] at hasks
  exact ⟨rfl, r, hr, hcalls, hasks⟩

end Connection

end SqlCluster
