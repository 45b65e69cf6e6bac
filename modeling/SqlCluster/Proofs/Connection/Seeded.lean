import SqlCluster.Connection.Step
import SqlCluster.Http.Script
import SqlCluster.Proofs.Cluster.Refresh
import SqlCluster.Proofs.Config.Obtained
import SqlCluster.Proofs.Executor.Peopled
/-!
A connection always has someone to talk to. Whatever is done with it, its settings and its topology
keep the seed that it started from, and its topology holds a peer, each of them once.
-/
namespace SqlCluster.Connection

open Http

variable {σ : Type} {serve : Server σ} {seed : Peer} {c : Connection} {w : World σ}

def after (serve : Server σ) : List Step → Connection × World σ → Connection × World σ
  | [], p => p
  | step :: steps, p => after serve steps (p.1.run serve step p.2).2

structure Seeded (seed : Peer) (c : Connection) : Prop where
  config : c.config.seed = some seed
  topology : c.topology.seed = some seed
  distinct : c.topology.Distinct
  peopled : c.topology.peers ≠ []

theorem Seeded.congr {d : Connection} (h : Seeded seed c) (hc : d.config.seeds = c.config.seeds)
    (ht : d.topology = c.topology) : Seeded seed d := by
  refine ⟨?_, ?_, ?_, ?_⟩
  · rw [Config.seed, hc]
    exact h.config
  · rw [ht]
    exact h.topology
  · rw [ht]
    exact h.distinct
  · rw [ht]
    exact h.peopled

theorem seeded_make {config : Config} (hs : config.seed = some seed) (tracer : Tracer)
    (favorSeed : Bool) (given : Option Http.Client) (room : Nat) :
    Seeded seed (make config tracer favorSeed given room) where
  config := hs
  topology := hs
  distinct := Topology.distinct_make _ _ _
  peopled := List.ne_nil_of_mem (Topology.mem_peers_make.mpr (.inl hs))

theorem requireExecutor_cases (c : Connection) :
    (∃ f, c.requireExecutor = .error f ∧ f.Peopled) ∨ c.requireExecutor = .ok c.executor := by
  simp only [requireExecutor]
  split
  · exact .inl ⟨.closed, rfl, trivial⟩
  · split
    · exact .inr rfl
    · exact .inl ⟨.notOpen, rfl, trivial⟩

theorem failsPeopled_executor {operation : Operation} {body : List UInt8} {queue : Bool}
    (hp : c.topology.peers ≠ []) :
    FailsPeopled (c.executor.execute serve operation body queue w).1 :=
  Executor.failsPeopled_execute (Topology.orderedPeers_ne_nil hp c.favorSeed)

/-- What a refresh does: it fails and changes nothing, or it installs what was found. -/
inductive Refreshed (c : Connection) : Except Fault Topology → Connection → Prop
  | failed {f : Fault} (h : c.topology.peers ≠ [] → f.Peopled) : Refreshed c (.error f) c
  | renewed {next : Topology} (h : Discovery.Renewed c.topology next) :
      Refreshed c (.ok next) { c with topology := next }

theorem refreshed_refresh (serve : Server σ) (c : Connection) (w : World σ) :
    Refreshed c (c.refresh serve w).1 (c.refresh serve w).2.1 := by
  rcases requireExecutor_cases c with ⟨f, hx, hf⟩ | hx
  · simp only [refresh, hx]
    exact .failed fun _ => hf
  · have hfound := Discovery.finding_refresh
      (fun operation w => c.executor.execute serve operation [] false w) c.topology c.tracer
      (w.note c.tracer "refreshing cluster info")
    simp only [refresh, hx]
    split
    · next f v hr =>
        rw [hr] at hfound
        cases hfound with
        | undiscovered e => exact .failed fun _ => trivial
        | unfetched hf => exact .failed fun hp => failsPeopled_executor hp _ hf
    · next t v hr =>
        rw [hr] at hfound
        cases hfound with
        | renewed h => exact .renewed h

theorem Seeded.of_refreshed {d : Connection} {r : Except Fault Topology} (h : Seeded seed c)
    (hr : Refreshed c r d) : Seeded seed d := by
  cases hr with
  | failed _ => exact h
  | renewed hn => exact ⟨h.config, hn.seed.trans h.topology, hn.distinct, hn.peers_ne_nil⟩

theorem Refreshed.failsPeopled {d : Connection} {r : Except Fault Topology}
    (hr : Refreshed c r d) (hp : c.topology.peers ≠ []) : FailsPeopled r := by
  cases hr with
  | failed h => exact failsPeopled_error (h hp)
  | renewed _ => exact failsPeopled_ok _

theorem failsPeopled_refresh (hp : c.topology.peers ≠ []) : FailsPeopled (c.refresh serve w).1 :=
  (refreshed_refresh serve c w).failsPeopled hp

def begun (c : Connection) : Connection := { c with started := true, client := c.client.opened }

/-- What opening does, one case for each way in which it can fall out. -/
inductive Opened (c : Connection) : Except Fault Unit → Connection → Prop
  | refused (h : c.closed = true) : Opened c (.error .closed) c
  | already (h : c.closed = false) (hs : c.started = true) : Opened c (.ok ()) c
  | undiscovered (h : c.closed = false) (hs : c.started = false)
      (hd : c.config.disableDiscovery.isTruthy = true) : Opened c (.ok ()) c.begun
  | discovered {next : Topology} (h : c.closed = false) (hs : c.started = false)
      (hn : Discovery.Renewed c.topology next) :
      Opened c (.ok ()) { c.begun with topology := next }
  | failed {f : Fault} (h : c.closed = false) (hs : c.started = false)
      (hf : c.topology.peers ≠ [] → f.Peopled) : Opened c (.error f) c.begun

theorem opened_open (serve : Server σ) (c : Connection) (w : World σ) :
    Opened c (c.open serve w).1 (c.open serve w).2.1 := by
  unfold «open»
  split
  · next hc => exact .refused hc
  · next hc =>
      have hc : c.closed = false := by simpa using hc
      split
      · next hs => exact .already hc hs
      · next hs =>
          have hs : c.started = false := by simpa using hs
          dsimp only
          split
          · next hd => exact .undiscovered hc hs hd
          · have hr := refreshed_refresh serve c.begun (w.note c.tracer
              ("opened connection to " ++
                String.intercalate ", " (c.config.seeds.map Peer.address)))
            split
            · next he =>
                rw [begun, he] at hr
                cases hr with
                | renewed hn => exact .discovered hc hs hn
            · next he =>
                rw [begun, he] at hr
                cases hr with
                | failed hf => exact .failed hc hs hf

theorem Seeded.of_opened {d : Connection} {r : Except Fault Unit} (h : Seeded seed c)
    (ho : Opened c r d) : Seeded seed d := by
  cases ho with
  | refused _ => exact h
  | already _ _ => exact h
  | undiscovered _ _ _ => exact h.congr rfl rfl
  | discovered _ _ hn =>
      exact ⟨h.config, hn.seed.trans h.topology, hn.distinct, hn.peers_ne_nil⟩
  | failed _ _ _ => exact h.congr rfl rfl

theorem seeded_open (h : Seeded seed c) : Seeded seed (c.open serve w).2.1 :=
  h.of_opened (opened_open serve c w)

theorem Opened.failsPeopled {d : Connection} {r : Except Fault Unit} (ho : Opened c r d)
    (hp : c.topology.peers ≠ []) : FailsPeopled r := by
  cases ho with
  | refused _ => exact failsPeopled_error trivial
  | already _ _ => exact failsPeopled_ok _
  | undiscovered _ _ _ => exact failsPeopled_ok _
  | discovered _ _ _ => exact failsPeopled_ok _
  | failed _ _ h => exact failsPeopled_error (h hp)

theorem failsPeopled_open (hp : c.topology.peers ≠ []) : FailsPeopled (c.open serve w).1 :=
  (opened_open serve c w).failsPeopled hp

theorem seeded_close (h : Seeded seed c) : Seeded seed (c.close w).1 := by
  simp only [close]
  split
  · exact h
  · exact h.congr rfl rfl

theorem seeded_enter (h : Seeded seed c) : Seeded seed (c.enter serve w).2.1 := by
  have ho : Seeded seed (c.open serve w).2.1 := seeded_open h
  simp only [enter]
  split
  · next he =>
      rw [he] at ho
      exact ho
  · next he =>
      rw [he] at ho
      exact seeded_close ho

theorem failsPeopled_enter (hp : c.topology.peers ≠ []) : FailsPeopled (c.enter serve w).1 := by
  have ho : FailsPeopled (c.open serve w).1 := failsPeopled_open hp
  simp only [enter]
  split
  · exact failsPeopled_ok _
  · next he => exact ho.error (congrArg Prod.fst he)

theorem seeded_change {o : Options} (ho : o.seeds = none) (h : Seeded seed c) :
    Seeded seed (c.change o).2 := by
  simp only [change]
  split
  · next config hc =>
      obtain ⟨-, scheme, timeout, -, -, rfl⟩ := Config.withOptions_eq_ok.mp hc
      exact h.congr (by simp [Config.changed, ho]) rfl
  · exact h

theorem failsPeopled_change (c : Connection) (o : Options) : FailsPeopled (c.change o).1 := by
  simp only [change]
  split
  · exact failsPeopled_ok _
  · exact failsPeopled_error trivial

theorem seeded_setLevel {v : Value} (h : Seeded seed c) : Seeded seed (c.setLevel v).2 := by
  simp only [setLevel]
  split
  · exact seeded_change rfl h
  · exact h

theorem failsPeopled_setLevel (c : Connection) (v : Value) : FailsPeopled (c.setLevel v).1 := by
  simp only [setLevel]
  split
  · exact failsPeopled_change c _
  · exact failsPeopled_error trivial

theorem seeded_unlessClosed {r : Except Fault Reply × Connection} (h : Seeded seed c)
    (hr : Seeded seed r.2) : Seeded seed (c.unlessClosed r).2 := by
  simp only [unlessClosed]
  split
  · exact h
  · exact hr

theorem failsPeopled_unlessClosed {r : Except Fault Reply × Connection} (hr : FailsPeopled r.1) :
    FailsPeopled (c.unlessClosed r).1 := by
  simp only [unlessClosed]
  split
  · exact failsPeopled_error trivial
  · exact hr

theorem failsPeopled_prepare (items : List Item) (w : World σ) :
    FailsPeopled (prepare items w).1 := by
  induction items generalizing w with
  | nil => exact failsPeopled_ok _
  | cons i is ih =>
      simp only [prepare]
      split
      · exact failsPeopled_error trivial
      · split
        · exact failsPeopled_ok _
        · exact ih _

theorem failsPeopled_single (item : Item) (parameters : List Value) (w : World σ) :
    FailsPeopled (single item parameters w).1 := by
  unfold single
  split
  · split
    · exact failsPeopled_ok _
    · exact failsPeopled_error trivial
  · exact failsPeopled_ok _
  · exact failsPeopled_error trivial
  · exact failsPeopled_error trivial
  · split
    · exact failsPeopled_ok _
    · exact failsPeopled_error trivial

theorem failsPeopled_send {kind : BatchKind} {batch : List Statement}
    (hp : c.topology.peers ≠ []) : FailsPeopled (c.send serve kind batch w).1 := by
  rcases requireExecutor_cases c with ⟨f, hx, hf⟩ | hx
  · simp only [send, hx]
    exact failsPeopled_error hf
  · simp only [send, hx]
    split
    · exact failsPeopled_error trivial
    · exact failsPeopled_executor hp

theorem failsPeopled_decode (kind : BatchKind) (body : List UInt8) :
    FailsPeopled (decode kind body) := by
  unfold decode
  split
  · split
    · exact failsPeopled_ok _
    · exact failsPeopled_error trivial
  · split
    · exact failsPeopled_ok _
    · exact failsPeopled_error trivial

theorem failsPeopled_onlyResult (s : Statement) (rs : List Result) :
    FailsPeopled (onlyResult s rs) := by
  unfold onlyResult
  split
  · split
    · exact failsPeopled_ok _
    · exact failsPeopled_error trivial
  · exact failsPeopled_error trivial

theorem failsPeopled_runBatch (kind : BatchKind) (items : List Item) (w : World σ)
    (hp : c.topology.peers ≠ []) : FailsPeopled (c.runBatch serve kind items w).1 := by
  have hprepare := failsPeopled_prepare items w
  unfold runBatch
  split
  · exact failsPeopled_error trivial
  · split
    · next he => exact hprepare.error (congrArg Prod.fst he)
    · exact failsPeopled_ok _
    · split
      · next he => exact FailsPeopled.error (failsPeopled_send hp) (congrArg Prod.fst he)
      · exact failsPeopled_decode kind _

theorem failsPeopled_runSingle (kind : BatchKind) (item : Item) (parameters : List Value)
    (w : World σ) (hp : c.topology.peers ≠ []) :
    FailsPeopled (c.runSingle serve kind item parameters w).1 := by
  have hsingle := failsPeopled_single item parameters w
  unfold runSingle
  split
  · next he => exact hsingle.error (congrArg Prod.fst he)
  · split
    · exact failsPeopled_onlyResult _ _
    · exact failsPeopled_runBatch kind _ _ hp

theorem seeded_run (h : Seeded seed c) (step : Step) : Seeded seed (c.run serve step w).2.1 := by
  have hr : Seeded seed (c.refresh serve w).2.1 := h.of_refreshed (refreshed_refresh serve c w)
  cases step with
  | batch kind items => exact h
  | single kind item parameters => exact h
  | «open» => exact seeded_open h
  | enter => exact seeded_enter h
  | exit => exact seeded_close h
  | close => exact seeded_close h
  | leader => exact hr
  | peers => exact hr
  | refresh => exact hr
  | setLevel v => exact seeded_unlessClosed h (seeded_setLevel h)
  | setTransaction v => exact seeded_unlessClosed h (seeded_change rfl h)
  | setQueuedWrites v => exact seeded_unlessClosed h (seeded_change rfl h)
  | level => exact seeded_unlessClosed h h
  | config => exact h
  | describe => exact h

theorem failsPeopled_run (step : Step) (hp : c.topology.peers ≠ []) :
    FailsPeopled (c.run serve step w).1 := by
  have hr : FailsPeopled (c.refresh serve w).1 := failsPeopled_refresh hp
  cases step with
  | batch kind items => exact failsPeopled_runBatch kind items w hp
  | single kind item parameters => exact failsPeopled_runSingle kind item parameters w hp
  | «open» => exact (failsPeopled_open hp).map _
  | enter => exact (failsPeopled_enter hp).map _
  | exit => exact failsPeopled_ok _
  | close => exact failsPeopled_ok _
  | leader => exact hr.map _
  | peers => exact hr.map _
  | refresh => exact hr.map _
  | setLevel v => exact failsPeopled_unlessClosed (failsPeopled_setLevel c v)
  | setTransaction v => exact failsPeopled_unlessClosed (failsPeopled_change c _)
  | setQueuedWrites v => exact failsPeopled_unlessClosed (failsPeopled_change c _)
  | level => exact failsPeopled_unlessClosed (failsPeopled_ok _)
  | config => exact failsPeopled_ok _
  | describe => exact failsPeopled_ok _

theorem kept_after {P : Connection → Prop}
    (hrun : ∀ (c : Connection) (step : Step) (w : World σ), P c → P (c.run serve step w).2.1)
    (steps : List Step) {p : Connection × World σ} (h : P p.1) : P (after serve steps p).1 := by
  induction steps generalizing p with
  | nil => exact h
  | cons step steps ih => exact ih (hrun p.1 step p.2 h)

theorem seeded_after {p : Connection × World σ} (h : Seeded seed p.1) (steps : List Step) :
    Seeded seed (after serve steps p).1 :=
  kept_after (P := Seeded seed) (fun _ step _ h => seeded_run h step) steps h

/-- Whatever is done with a connection, it keeps its seed and has a peer to ask. -/
theorem seeded_and_peopled_after {config : Config} (hc : config.Obtained) (tracer : Tracer)
    (favorSeed : Bool) (given : Option Http.Client) (room : Nat) (serve : Server σ) (w : World σ)
    (steps : List Step) :
    let p := after serve steps (make config tracer favorSeed given room, w)
    ∃ seed, config.seed = some seed ∧ p.1.config.seed = some seed ∧
      p.1.topology.seed = some seed ∧
      (∀ favor, p.1.topology.orderedPeers favor ≠ [] ∧ (p.1.topology.orderedPeers favor).Nodup) ∧
      (∀ leader, p.1.topology.leader = some leader → leader ∉ p.1.topology.others) ∧
      ∀ step f, (p.1.run serve step p.2).1 = .error f → f.kind ≠ .noPeers := by
  intro p
  obtain ⟨seed, seeds, hs⟩ := List.exists_cons_of_ne_nil hc.seeds_ne_nil
  have hseed : config.seed = some seed := by rw [Config.seed, hs, List.head?_cons]
  have h : Seeded seed p.1 := seeded_after (seeded_make hseed tracer favorSeed given room) steps
  refine ⟨seed, hseed, h.config, h.topology, ?_, h.distinct.leader, ?_⟩
  · intro favor
    exact ⟨Topology.orderedPeers_ne_nil h.peopled favor, h.distinct.nodup_orderedPeers favor⟩
  · intro step f hf
    exact (failsPeopled_run step h.peopled f hf).kind_ne

def twoSeeds : Config := { Config.default with seeds := [⟨"a", 4001⟩, ⟨"b", 4001⟩] }

/-- The second seed knows a leader that no seed names. -/
def leaderOutsideSeeds : List Route :=
  [⟨"b:4001".toList, "/status".toList, [.response ⟨200, [], Text.Utf8.encode
    ("\x7b\"store\":\x7b\"leader\":\"1\",\"metadata\":\x7b\"1\":\x7b\"api_addr\":\"c:4001\"\x7d," ++
      "\"2\":\x7b\"api_addr\":\"b:4001\"\x7d\x7d\x7d\x7d").toList⟩]⟩]

theorem leaderOutsideSeeds_seeded :
    twoSeeds.Obtained ∧
      let p := after Script.serve [.open, .setTransaction (.bool false), .refresh, .close]
        (make twoSeeds ⟨.silent, []⟩ false none Json.usualRoom, ⟨leaderOutsideSeeds, [], .empty⟩)
      p.1.topology = ⟨some ⟨"c", 4001⟩, [⟨"b", 4001⟩], some ⟨"a", 4001⟩⟩ ∧
      ∃ seed, twoSeeds.seed = some seed ∧ p.1.config.seed = some seed ∧
        p.1.topology.seed = some seed ∧
        (∀ favor, p.1.topology.orderedPeers favor ≠ [] ∧
          (p.1.topology.orderedPeers favor).Nodup) ∧
        (∀ leader, p.1.topology.leader = some leader → leader ∉ p.1.topology.others) ∧
        ∀ step f, (p.1.run Script.serve step p.2).1 = .error f → f.kind ≠ .noPeers := by
  have hm : Config.make { seeds := some twoSeeds.seeds } = .ok twoSeeds := rfl
  have hc : twoSeeds.Obtained := .make hm
  exact ⟨hc, by decide +kernel, seeded_and_peopled_after hc _ _ _ _ _ _ _⟩

end SqlCluster.Connection
