import SqlCluster.Proofs.Connection.Seeded
/-!
What a connection believes: its settings and its topology. An operation that fails leaves them as
they were. One that succeeds changes the topology only to what a complete discovery found, and the
settings only in the place that it names.
-/
namespace SqlCluster

open Http

def Step.discovers : Step → Bool
  | .open => true
  | .enter => true
  | .leader => true
  | .peers => true
  | .refresh => true
  | _ => false

namespace Connection

variable {σ α : Type} {serve : Server σ} {c d : Connection} {step : Step} {w : World σ}

def isNew (c : Connection) : Bool := !c.started && !c.closed

theorem isOpen_iff : c.isOpen = true ↔ c.started = true ∧ c.closed = false := by simp [isOpen]

theorem isNew_iff : c.isNew = true ↔ c.started = false ∧ c.closed = false := by simp [isNew]

theorem requireExecutor_of_isOpen (h : c.isOpen = true) : c.requireExecutor = .ok c.executor := by
  obtain ⟨hs, hc⟩ := isOpen_iff.mp h
  simp [requireExecutor, hs, hc]

theorem requireExecutor_of_not_isOpen (h : c.isOpen = false) :
    ∃ f, c.requireExecutor = .error f := by
  unfold requireExecutor
  split
  · exact ⟨_, rfl⟩
  · next hc =>
      have hs : c.started = false := by simpa [isOpen, hc] using h
      simp [hs]

/-- No operation but a setter changes the settings, and a setter only the one place that it is for.
-/
inductive Adjusted (b : Config) : Step → Config → Prop
  | kept (step : Step) : Adjusted b step b
  | level {v : Value} {l : Level} (h : Config.levelOf v = .ok l) :
      Adjusted b (.setLevel v) { b with level := l }
  | transaction (v : Value) :
      Adjusted b (.setTransaction v) { b with transaction := .bool v.isTruthy }
  | queuedWrites (v : Value) :
      Adjusted b (.setQueuedWrites v) { b with queuedWrites := .bool v.isTruthy }

structure Held (c : Connection) (step : Step) (found : Option Topology) (r : Except Fault α)
    (d : Connection) : Prop where
  topology : d.topology = found.getD c.topology
  config : Adjusted c.config step d.config
  failed : ∀ f, r = .error f → found = none ∧ d.config = c.config

theorem held_unchanged (r : Except Fault α) : Held c step none r c :=
  ⟨rfl, .kept step, fun _ _ => ⟨rfl, rfl⟩⟩

theorem Held.congr {found : Option Topology} {r : Except Fault α} {e : Connection}
    (h : Held c step found r d) (ht : e.topology = d.topology) (hc : e.config = d.config) :
    Held c step found r e := by
  refine ⟨ht.trans h.topology, hc ▸ h.config, ?_⟩
  intro f hf
  obtain ⟨hn, he⟩ := h.failed f hf
  exact ⟨hn, hc.trans he⟩

theorem Held.mapReply {found : Option Topology} {r : Except Fault α × Connection × World σ}
    (h : Held c step found r.1 r.2.1) (f : α → Reply) :
    Held c step found (mapReply f r).1 (mapReply f r).2.1 := by
  refine ⟨h.topology, h.config, ?_⟩
  intro g hg
  cases hr : r.1 with
  | ok a => simp [Connection.mapReply, hr, Except.map] at hg
  | error e => exact h.failed e hr

def discovery (serve : Server σ) (c : Connection) (w : World σ) : Except Fault Topology × World σ :=
  Discovery.refresh (fun operation w => c.executor.execute serve operation [] false w) c.topology
    c.tracer (w.note c.tracer "refreshing cluster info")

def greeted (c : Connection) (w : World σ) : World σ :=
  w.note c.tracer ("opened connection to " ++
    String.intercalate ", " (c.config.seeds.map Peer.address))

def learns? (serve : Server σ) (c : Connection) (step : Step) (w : World σ) :
    Option (Except Fault Topology) :=
  match step with
  | .leader | .peers | .refresh => if c.isOpen then some (c.discovery serve w).1 else none
  | .open | .enter =>
      if c.isNew && !c.config.disableDiscovery.isTruthy then
        some (c.begun.discovery serve (c.greeted w)).1
      else none
  | _ => none

def found? (serve : Server σ) (c : Connection) (step : Step) (w : World σ) : Option Topology :=
  (c.learns? serve step w).bind Except.toOption

def installed (c : Connection) : Except Fault Topology → Connection
  | .ok t => { c with topology := t }
  | .error _ => c

theorem held_installed (c : Connection) (r : Except Fault Topology) :
    Held c step r.toOption r (c.installed r) := by
  cases r with
  | error f => exact held_unchanged _
  | ok t => exact ⟨rfl, .kept step, fun _ he => nomatch he⟩

theorem refresh_of_isOpen (h : c.isOpen = true) :
    c.refresh serve w =
      ((c.discovery serve w).1, c.installed (c.discovery serve w).1, (c.discovery serve w).2) := by
  simp only [refresh, requireExecutor_of_isOpen h, discovery]
  split
  · next he => rw [he, installed]
  · next he => rw [he, installed]

theorem refresh_of_not_isOpen (serve : Server σ) (w : World σ) (h : c.isOpen = false) :
    ∃ f, c.refresh serve w = (.error f, c, w) := by
  obtain ⟨f, hf⟩ := requireExecutor_of_not_isOpen h
  exact ⟨f, by simp only [refresh, hf]⟩

theorem held_refresh (hs : c.learns? serve step w =
      if c.isOpen then some (c.discovery serve w).1 else none) :
    Held c step (c.found? serve step w) (c.refresh serve w).1 (c.refresh serve w).2.1 := by
  rw [found?, hs]
  cases h : c.isOpen with
  | true =>
      rw [refresh_of_isOpen h]
      exact held_installed c _
  | false =>
      obtain ⟨f, hf⟩ := refresh_of_not_isOpen serve w h
      rw [hf]
      exact held_unchanged _

theorem isOpen_begun (h : c.isNew = true) : c.begun.isOpen = true :=
  isOpen_iff.mpr ⟨rfl, (isNew_iff.mp h).2⟩

theorem open_of_isNew (h : c.isNew = true) :
    c.open serve w =
      if c.config.disableDiscovery.isTruthy then (.ok (), c.begun, c.greeted w)
      else match c.begun.refresh serve (c.greeted w) with
        | (.ok _, c, w) => (.ok (), c, w)
        | (.error f, c, w) => (.error f, c, warnDiscovery f w) := by
  obtain ⟨hs, hc⟩ := isNew_iff.mp h
  rw [«open», if_neg (by simp [hc]), if_neg (by simp [hs])]
  rfl

theorem open_of_not_isNew (h : c.isNew = false) :
    c.open serve w = (if c.closed then .error .closed else .ok (), c, w) := by
  cases hc : c.closed with
  | true => rw [«open», if_pos hc, if_pos rfl]
  | false =>
      have hs : c.started = true := by simpa [isNew, hc] using h
      rw [«open», if_neg (by simp [hc]), if_pos hs, if_neg Bool.false_ne_true]

theorem held_begun (h : c.isNew = true) (hd : c.config.disableDiscovery.isTruthy = false) :
    Held c step (c.begun.discovery serve (c.greeted w)).1.toOption (c.open serve w).1
      (c.open serve w).2.1 := by
  rw [open_of_isNew h, hd, refresh_of_isOpen (isOpen_begun h)]
  generalize c.begun.discovery serve (c.greeted w) = r
  obtain ⟨r, v⟩ := r
  cases r with
  | ok t => exact ⟨rfl, .kept step, fun _ he => nomatch he⟩
  | error f => exact ⟨rfl, .kept step, fun _ _ => ⟨rfl, rfl⟩⟩

theorem held_open (hs : c.learns? serve step w =
      if c.isNew && !c.config.disableDiscovery.isTruthy then
        some (c.begun.discovery serve (c.greeted w)).1
      else none) :
    Held c step (c.found? serve step w) (c.open serve w).1 (c.open serve w).2.1 := by
  rw [found?, hs]
  cases h : c.isNew with
  | false =>
      rw [open_of_not_isNew h]
      exact held_unchanged _
  | true =>
      cases hd : c.config.disableDiscovery.isTruthy with
      | true =>
          rw [open_of_isNew h, hd]
          exact ⟨rfl, .kept step, fun _ _ => ⟨rfl, rfl⟩⟩
      | false => exact held_begun h hd

theorem beliefs_close (c : Connection) (w : World σ) :
    (c.close w).1.topology = c.topology ∧ (c.close w).1.config = c.config := by
  unfold close
  split <;> exact ⟨rfl, rfl⟩

theorem held_close (r : Except Fault α) : Held c step none r (c.close w).1 :=
  have ⟨ht, hc⟩ := beliefs_close c w
  (held_unchanged r).congr ht hc

theorem held_enter :
    Held c .enter (c.found? serve .enter w) (c.enter serve w).1 (c.enter serve w).2.1 := by
  have ho : Held c .enter (c.found? serve .enter w) (c.open serve w).1 (c.open serve w).2.1 :=
    held_open rfl
  unfold enter
  split
  · next he =>
      rw [he] at ho
      exact ho
  · next f d v he =>
      rw [he] at ho
      obtain ⟨ht, hc⟩ := beliefs_close d v
      exact ho.congr ht hc

theorem change_cases {o : Options} (hs : o.seeds = none) (hc : o.scheme = none)
    (ht : o.timeout = none) :
    (c.config.seeds = [] ∧ ∃ f, c.change o = (.error f, c)) ∨
      c.config.seeds ≠ [] ∧ c.change o =
        (.ok .done, { c with config := c.config.changed o c.config.scheme c.config.timeout }) := by
  by_cases hp : c.config.seeds = []
  · refine .inl ⟨hp, ?_⟩
    cases ho : c.config.withOptions o with
    | error e => exact ⟨.config e, by simp only [change, ho]⟩
    | ok b => simpa [hs, hp] using (Config.withOptions_eq_ok.mp ho).1
  · refine .inr ⟨hp, ?_⟩
    have ho : c.config.withOptions o = .ok (c.config.changed o c.config.scheme c.config.timeout) :=
      Config.withOptions_eq_ok.mpr
        ⟨by simpa [hs] using hp, _, _, by rw [hc]; rfl, by rw [ht]; rfl, rfl⟩
    simp only [change, ho]

theorem held_unlessClosed {r : Except Fault Reply × Connection} (h : Held c step none r.1 r.2) :
    Held c step none (c.unlessClosed r).1 (c.unlessClosed r).2 := by
  unfold unlessClosed
  split
  · exact held_unchanged _
  · exact h

theorem held_change {o : Options} (hs : o.seeds = none) (hc : o.scheme = none)
    (ht : o.timeout = none)
    (ha : Adjusted c.config step (c.config.changed o c.config.scheme c.config.timeout)) :
    Held c step none (c.change o).1 (c.change o).2 := by
  rcases change_cases hs hc ht with ⟨-, f, hf⟩ | ⟨-, hd⟩
  · rw [hf]
    exact held_unchanged _
  · rw [hd]
    exact ⟨rfl, ha, fun _ he => nomatch he⟩

theorem held_setLevel (v : Value) :
    Held c (.setLevel v) none (c.setLevel v).1 (c.setLevel v).2 := by
  unfold setLevel
  split
  · next l hl => exact held_change rfl rfl rfl (.level hl)
  · exact held_unchanged _

theorem held_run (serve : Server σ) (c : Connection) (step : Step) (w : World σ) :
    Held c step (c.found? serve step w) (c.run serve step w).1 (c.run serve step w).2.1 := by
  cases step with
  | batch kind items => exact held_unchanged _
  | single kind item parameters => exact held_unchanged _
  | «open» => exact (held_open rfl).mapReply _
  | enter => exact held_enter.mapReply _
  | exit => exact held_close _
  | close => exact held_close _
  | leader => exact (held_refresh rfl).mapReply _
  | peers => exact (held_refresh rfl).mapReply _
  | refresh => exact (held_refresh rfl).mapReply _
  | setLevel v => exact held_unlessClosed (held_setLevel v)
  | setTransaction v => exact held_unlessClosed (held_change rfl rfl rfl (.transaction v))
  | setQueuedWrites v => exact held_unlessClosed (held_change rfl rfl rfl (.queuedWrites v))
  | level => exact held_unlessClosed (held_unchanged _)
  | config => exact held_unchanged _
  | describe => exact held_unchanged _

theorem discovers_of_learns {r : Except Fault Topology} (h : c.learns? serve step w = some r) :
    step.discovers = true := by
  cases step <;> first | rfl | cases h

/-- An operation that fails changes no belief. One that succeeds changes the topology only to what
its discovery found, and the settings only where it sets them. -/
theorem beliefs_run (serve : Server σ) (c : Connection) (step : Step) (w : World σ) :
    let r := c.run serve step w
    (∀ f, r.1 = .error f → r.2.1.topology = c.topology ∧ r.2.1.config = c.config) ∧
      (r.2.1.topology = c.topology ∨ step.discovers = true ∧
        c.learns? serve step w = some (.ok r.2.1.topology)) ∧
      Adjusted c.config step r.2.1.config := by
  intro r
  have h : Held c step (c.found? serve step w) r.1 r.2.1 := held_run serve c step w
  refine ⟨?_, ?_, h.config⟩
  · intro f hf
    obtain ⟨hn, hc⟩ := h.failed f hf
    exact ⟨by rw [h.topology, hn, Option.getD_none], hc⟩
  · have ht := h.topology
    cases hl : c.learns? serve step w with
    | none =>
        rw [found?, hl] at ht
        exact .inl ht
    | some l =>
        rw [found?, hl] at ht
        cases l with
        | error f => exact .inl ht
        | ok t =>
            have ht : r.2.1.topology = t := ht
            exact .inr ⟨discovers_of_learns hl, by rw [ht]⟩

end Connection

end SqlCluster
