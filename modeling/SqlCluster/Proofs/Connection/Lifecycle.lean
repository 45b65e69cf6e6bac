import SqlCluster.Proofs.Connection.Dispatch
/-!
A connection's life: new, open, closed. Only an open one talks to the cluster, but for the operation
that opens it. A closed one stays closed and refuses every operation, and the client that a
connection made for itself is closed with it.
-/
namespace SqlCluster

open Http

namespace Step

def opens : Step → Bool
  | .open => true
  | .enter => true
  | _ => false

def closes : Step → Bool
  | .exit => true
  | .close => true
  | _ => false

/-- The operations that a closed connection refuses. What is handed in as one statement has to be
one: a text with any arguments, or a statement with none beside it. -/
def isRefused : Step → Bool
  | .single _ (.plain _) _ => true
  | .single _ (.prepared _) parameters => parameters.isEmpty
  | .single _ (.other _) _ => false
  | .exit => false
  | .close => false
  | .config => false
  | .describe => false
  | _ => true

def isSingle : Step → Bool
  | .single _ _ _ => true
  | _ => false

end Step

namespace Connection

variable {σ : Type} {serve : Server σ} {c d : Connection} {step : Step} {w : World σ}

/-- An operation after which a connection is closed: one that closes it, or an entering that failed.
-/
def Ends (step : Step) (r : Except Fault Reply) : Prop :=
  step.closes = true ∨ step = .enter ∧ ∃ f, r = .error f

/-- Connections that differ in their beliefs at most. -/
structure SameStage (c d : Connection) : Prop where
  started : d.started = c.started
  closed : d.closed = c.closed
  client : d.client = c.client
  favorSeed : d.favorSeed = c.favorSeed

theorem SameStage.refl (c : Connection) : SameStage c c := ⟨rfl, rfl, rfl, rfl⟩

theorem SameStage.isNew (h : SameStage c d) : d.isNew = c.isNew := by
  rw [Connection.isNew, h.started, h.closed, Connection.isNew]

theorem sameStage_installed (c : Connection) (r : Except Fault Topology) :
    SameStage c (c.installed r) := by
  cases r <;> exact ⟨rfl, rfl, rfl, rfl⟩

theorem sameStage_refresh : SameStage c (c.refresh serve w).2.1 := by
  cases h : c.isOpen with
  | true =>
      rw [refresh_of_isOpen h]
      exact sameStage_installed c _
  | false =>
      obtain ⟨f, hf⟩ := refresh_of_not_isOpen serve w h
      rw [hf]
      exact .refl c

theorem sameStage_change (c : Connection) (o : Options) : SameStage c (c.change o).2 := by
  unfold change
  split
  · exact ⟨rfl, rfl, rfl, rfl⟩
  · exact .refl c

theorem sameStage_unlessClosed {r : Except Fault Reply × Connection} (h : SameStage c r.2) :
    SameStage c (c.unlessClosed r).2 := by
  unfold unlessClosed
  split
  · exact .refl c
  · exact h

theorem sameStage_setLevel (v : Value) : SameStage c (c.setLevel v).2 := by
  unfold setLevel
  split
  · exact sameStage_change c _
  · exact .refl c

theorem sameStage_run (ho : step.opens = false) (hc : step.closes = false) :
    SameStage c (c.run serve step w).2.1 := by
  cases step with
  | «open» => cases ho
  | enter => cases ho
  | exit => cases hc
  | close => cases hc
  | batch kind items => exact .refl c
  | single kind item parameters => exact .refl c
  | leader => exact sameStage_refresh
  | peers => exact sameStage_refresh
  | refresh => exact sameStage_refresh
  | setLevel v => exact sameStage_unlessClosed (sameStage_setLevel v)
  | setTransaction v => exact sameStage_unlessClosed (sameStage_change c _)
  | setQueuedWrites v => exact sameStage_unlessClosed (sameStage_change c _)
  | level => exact sameStage_unlessClosed (.refl c)
  | config => exact .refl c
  | describe => exact .refl c

theorem sameStage_open (h : c.isNew = true) : SameStage c.begun (c.open serve w).2.1 := by
  rw [open_of_isNew h]
  split
  · exact .refl _
  · have hr : SameStage c.begun (c.begun.refresh serve (c.greeted w)).2.1 := sameStage_refresh
    split
    · next he =>
        rw [he] at hr
        exact hr
    · next he =>
        rw [he] at hr
        exact hr

theorem close_of_closed (h : c.closed = true) : c.close w = (c, w) := by rw [close, if_pos h]

def shut (c : Connection) : Connection :=
  { c with closed := true, started := false, client := c.client.closed }

theorem close_of_not_closed (h : c.closed = false) :
    c.close w = (c.shut, w.note c.tracer "closing connection") := by
  rw [close, if_neg (by simp [h])]
  rfl

theorem quiet_close (c : Connection) (w : World σ) : w.Quiet (c.close w).2 := by
  cases h : c.closed with
  | true =>
      rw [close_of_closed h]
      exact .refl w
  | false =>
      rw [close_of_not_closed h]
      exact w.quiet_note _ _

theorem enter_cases (serve : Server σ) (c : Connection) (w : World σ) :
    (∃ d v, c.open serve w = (.ok (), d, v) ∧ c.enter serve w = (.ok (), d, v)) ∨
      ∃ f d v, c.open serve w = (.error f, d, v) ∧ c.enter serve w = (.error f, d.close v) := by
  unfold enter
  split
  · next d v h => exact .inl ⟨d, v, h, rfl⟩
  · next f d v h => exact .inr ⟨f, d, v, h, rfl⟩

theorem enter_of_not_isNew (h : c.isNew = false) :
    c.enter serve w = (if c.closed then .error .closed else .ok (), c, w) := by
  rw [enter, open_of_not_isNew h]
  cases hc : c.closed with
  | true => simp only [if_true, close_of_closed hc]
  | false => rfl

theorem closed_of_ends (h : Ends step (c.run serve step w).1) :
    (c.run serve step w).2.1.closed = true := by
  rcases h with h | ⟨rfl, f, hf⟩
  · cases step with
    | exit => exact closed_close c w
    | close => exact closed_close c w
    | _ => cases h
  · rcases enter_cases serve c w with ⟨d, v, -, he⟩ | ⟨f, d, v, -, he⟩
    · simp [run, mapReply, he, Except.map] at hf
    · simp only [run, mapReply, he]
      exact closed_close d v

theorem quiet_refresh (h : c.isOpen = false) : w.Quiet (c.refresh serve w).2.2 := by
  obtain ⟨f, hf⟩ := refresh_of_not_isOpen serve w h
  rw [hf]
  exact .refl w

theorem walk_of_not_isOpen (h : c.isOpen = false) : c.walk? serve step w = none := by
  unfold walk?
  split
  · split
    · exact dispatch_of_not_isOpen h
    · rfl
  · split
    · exact dispatch_of_not_isOpen h
    · rfl
  · rfl

theorem quiet_run (h : c.isOpen = false) (hn : step.opens = true → c.isNew = false) :
    w.Quiet (c.run serve step w).2.2 := by
  have sending {kind : BatchKind} (hk : step.kind? = some kind) :
      w.Quiet (c.run serve step w).2.2 := by
    have hd := delivered_run serve c w hk
    rw [walk_of_not_isOpen h] at hd
    exact hd.quiet
  cases step with
  | batch kind items => exact sending rfl
  | single kind item parameters => exact sending rfl
  | «open» =>
      simp only [run, mapReply, open_of_not_isNew (hn rfl)]
      exact .refl w
  | enter =>
      simp only [run, mapReply, enter_of_not_isNew (hn rfl)]
      exact .refl w
  | exit => exact quiet_close c w
  | close => exact quiet_close c w
  | leader => exact quiet_refresh h
  | peers => exact quiet_refresh h
  | refresh => exact quiet_refresh h
  | _ => exact .refl w

theorem isOpen_of_closed (h : c.closed = true) : c.isOpen = false := by simp [isOpen, h]

theorem isNew_of_closed (h : c.closed = true) : c.isNew = false := by simp [isNew, h]

theorem open_of_closed (h : c.closed = true) : c.open serve w = (.error .closed, c, w) := by
  rw [open_of_not_isNew (isNew_of_closed h), if_pos h]

theorem enter_of_closed (h : c.closed = true) : c.enter serve w = (.error .closed, c, w) := by
  rw [enter_of_not_isNew (isNew_of_closed h), if_pos h]

theorem refresh_of_closed (h : c.closed = true) : c.refresh serve w = (.error .closed, c, w) := by
  simp only [refresh, requireExecutor, h, if_true]

theorem unlessClosed_of_closed (h : c.closed = true) (r : Except Fault Reply × Connection) :
    c.unlessClosed r = (.error .closed, c) := by rw [unlessClosed, if_pos h]

theorem runBatch_of_closed (h : c.closed = true) (kind : BatchKind) (items : List Item) :
    c.runBatch serve kind items w = (.error .closed, w) := by rw [runBatch, if_pos h]

structure Inert (serve : Server σ) (p : Connection × World σ) : Prop where
  closed : p.1.closed = true
  unmoved : ∀ step, (p.1.run serve step p.2).2.1 = p.1
  quiet : ∀ step, p.2.Quiet (p.1.run serve step p.2).2.2
  refused : ∀ step, step.isRefused = true → (p.1.run serve step p.2).1 = .error .closed
  untraced : ∀ step, step.isRefused = true → step.isSingle = false →
    (p.1.run serve step p.2).2.2 = p.2
  harmless : ∀ step, step.closes = true → p.1.run serve step p.2 = (.ok .done, p)

theorem unmoved_run (h : c.closed = true) : (c.run serve step w).2.1 = c := by
  cases step with
  | batch kind items => rfl
  | single kind item parameters => rfl
  | «open» => simp only [run, mapReply, open_of_closed h]
  | enter => simp only [run, mapReply, enter_of_closed h]
  | exit => simp only [run, close_of_closed h]
  | close => simp only [run, close_of_closed h]
  | leader => simp only [run, mapReply, refresh_of_closed h]
  | peers => simp only [run, mapReply, refresh_of_closed h]
  | refresh => simp only [run, mapReply, refresh_of_closed h]
  | config => rfl
  | describe => rfl
  | _ => simp only [run, unlessClosed_of_closed h]

theorem refused_single (h : c.closed = true) {kind : BatchKind} {item : Item}
    {parameters : List Value} (hr : (Step.single kind item parameters).isRefused = true) :
    (c.runSingle serve kind item parameters w).1 = .error .closed := by
  cases item with
  | plain t => simp only [runSingle, single, made, runBatch_of_closed h]
  | prepared s =>
      have hp : parameters.isEmpty = true := hr
      simp only [runSingle, single, hp, if_true, runBatch_of_closed h]
  | other v => cases hr

theorem refused_run (h : c.closed = true) (hr : step.isRefused = true) :
    (c.run serve step w).1 = .error .closed ∧
      (step.isSingle = false → (c.run serve step w).2.2 = w) := by
  cases step with
  | batch kind items => simp only [run, runBatch_of_closed h, implies_true, and_self]
  | single kind item parameters => exact ⟨refused_single h hr, fun hs => nomatch hs⟩
  | «open» => simp only [run, mapReply, open_of_closed h, Except.map, implies_true, and_self]
  | enter => simp only [run, mapReply, enter_of_closed h, Except.map, implies_true, and_self]
  | leader => simp only [run, mapReply, refresh_of_closed h, Except.map, implies_true, and_self]
  | peers => simp only [run, mapReply, refresh_of_closed h, Except.map, implies_true, and_self]
  | refresh => simp only [run, mapReply, refresh_of_closed h, Except.map, implies_true, and_self]
  | exit => cases hr
  | close => cases hr
  | config => cases hr
  | describe => cases hr
  | _ => simp only [run, unlessClosed_of_closed h, implies_true, and_self]

theorem inert_of_closed (h : c.closed = true) (w : World σ) : Inert serve (c, w) where
  closed := h
  unmoved _ := unmoved_run h
  quiet _ := quiet_run (isOpen_of_closed h) fun _ => isNew_of_closed h
  refused _ hr := (refused_run h hr).1
  untraced _ hr := (refused_run h hr).2
  harmless step hs := by
    cases step with
    | exit => simp only [run, close_of_closed h]
    | close => simp only [run, close_of_closed h]
    | _ => cases hs

theorem after_of_closed (h : c.closed = true) (steps : List Step) (w : World σ) :
    (after serve steps (c, w)).1 = c ∧ w.Quiet (after serve steps (c, w)).2 := by
  induction steps generalizing w with
  | nil => exact ⟨rfl, .refl w⟩
  | cons step steps ih =>
      have hstep : (c.run serve step w).2 = (c, (c.run serve step w).2.2) :=
        Prod.ext (unmoved_run h) rfl
      have hq : w.Quiet (c.run serve step w).2.2 :=
        quiet_run (isOpen_of_closed h) fun _ => isNew_of_closed h
      obtain ⟨hc, hrest⟩ := ih (c.run serve step w).2.2
      rw [after, hstep]
      exact ⟨hc, hq.trans hrest⟩

inductive Lived (c : Connection) (step : Step) (d : Connection) : Prop
  | same (ho : step.opens = false) (hc : step.closes = false) (h : SameStage c d)
  | already (hn : c.isNew = false) (hc : step.closes = true → c.closed = true) (h : d = c)
  | opened (ho : step.opens = true) (hn : c.isNew = true) (h : SameStage c.begun d)
  | failed (ho : step.opens = true) (hn : c.isNew = true) (h : SameStage c.begun.shut d)
  | closed (hc : step.closes = true) (hn : c.closed = false) (h : d = c.shut)

theorem lived_close (h : step.closes = true) : Lived c step (c.close w).1 := by
  cases hc : c.closed with
  | true =>
      rw [close_of_closed hc]
      exact .already (isNew_of_closed hc) (fun _ => hc) rfl
  | false =>
      rw [close_of_not_closed hc]
      exact .closed h hc rfl

theorem lived_open : Lived c .open (c.open serve w).2.1 := by
  cases hn : c.isNew with
  | true => exact .opened rfl hn (sameStage_open hn)
  | false =>
      rw [open_of_not_isNew hn]
      exact .already hn (fun h => nomatch h) rfl

theorem lived_enter : Lived c .enter (c.enter serve w).2.1 := by
  cases hn : c.isNew with
  | true =>
      have ho : SameStage c.begun (c.open serve w).2.1 := sameStage_open hn
      rcases enter_cases serve c w with ⟨d, v, hd, he⟩ | ⟨f, d, v, hd, he⟩
      · rw [hd] at ho
        rw [he]
        exact .opened rfl hn ho
      · rw [hd] at ho
        have hc : d.closed = false := ho.closed.trans (isNew_iff.mp hn).2
        rw [he, close_of_not_closed hc]
        exact .failed rfl hn ⟨rfl, rfl, congrArg ClientState.closed ho.client, ho.favorSeed⟩
  | false =>
      rw [enter_of_not_isNew hn]
      exact .already hn (fun h => nomatch h) rfl

theorem lived_run (serve : Server σ) (c : Connection) (step : Step) (w : World σ) :
    Lived c step (c.run serve step w).2.1 := by
  cases step with
  | «open» => exact lived_open
  | enter => exact lived_enter
  | exit => exact lived_close rfl
  | close => exact lived_close rfl
  | _ => exact .same rfl rfl (sameStage_run rfl rfl)

theorem Lived.favorSeed (h : Lived c step d) : d.favorSeed = c.favorSeed := by
  cases h with
  | same _ _ h => exact h.favorSeed
  | already _ _ h => rw [h]
  | opened _ _ h => exact h.favorSeed
  | failed _ _ h => exact h.favorSeed
  | closed _ _ h => rw [h, shut]

theorem favorSeed_after (serve : Server σ) (steps : List Step) (p : Connection × World σ) :
    (after serve steps p).1.favorSeed = p.1.favorSeed :=
  kept_after (P := fun c => c.favorSeed = p.1.favorSeed)
    (fun c step w h => (lived_run serve c step w).favorSeed.trans h) steps rfl

theorem Lived.isNew (h : Lived c step d) (hd : d.isNew = true) :
    c.isNew = true ∧ step.opens = false ∧ step.closes = false := by
  cases h with
  | same ho hc h => exact ⟨h.isNew ▸ hd, ho, hc⟩
  | already hn _ h =>
      rw [h, hn] at hd
      cases hd
  | opened _ _ h =>
      rw [h.isNew] at hd
      cases (isNew_iff.mp hd).1
  | failed _ _ h =>
      rw [h.isNew] at hd
      cases (isNew_iff.mp hd).2
  | closed _ _ h =>
      rw [h] at hd
      cases (isNew_iff.mp hd).2

theorem isNew_of_after {steps : List Step} {p : Connection × World σ}
    (h : (after serve steps p).1.isNew = true) :
    p.1.isNew = true ∧ ∀ step ∈ steps, step.opens = false ∧ step.closes = false := by
  induction steps generalizing p with
  | nil =>
      refine ⟨h, ?_⟩
      intro step hs
      cases hs
  | cons step steps ih =>
      obtain ⟨hn, hrest⟩ := ih h
      obtain ⟨hp, hstep⟩ := (lived_run serve p.1 step p.2).isNew hn
      refine ⟨hp, ?_⟩
      intro s hs
      rcases List.mem_cons.mp hs with rfl | hs
      · exact hstep
      · exact hrest s hs

theorem Lived.shared {client : Http.Client} (h : Lived c step d) (hc : c.client = .shared client) :
    d.client = .shared client := by
  cases h with
  | same _ _ h => exact h.client.trans hc
  | already _ _ h => rw [h, hc]
  | opened _ _ h =>
      rw [h.client, begun, hc]
      rfl
  | failed _ _ h =>
      rw [h.client, shut, begun, hc]
      rfl
  | closed _ _ h =>
      rw [h, shut, hc]
      rfl

theorem shared_after {p : Connection × World σ} {client : Http.Client}
    (h : p.1.client = .shared client) (steps : List Step) :
    (after serve steps p).1.client = .shared client :=
  kept_after (P := fun c => c.client = .shared client)
    (fun c step w h => (lived_run serve c step w).shared h) steps h

/-- A client that the connection made when it was opened, and that is closed where the connection
is. -/
structure Made (c : Connection) : Prop where
  isNew : c.isNew = false
  client : c.client = .own c.closed

theorem Lived.made (h : Lived c step d) (hc : Made c) : Made d := by
  have hn {P : Prop} (h : c.isNew = true) : P := by
    rw [hc.isNew] at h
    cases h
  cases h with
  | same _ _ h => exact ⟨h.isNew.trans hc.isNew, by rw [h.client, h.closed, hc.client]⟩
  | already _ _ h => exact h ▸ hc
  | opened _ h _ => exact hn h
  | failed _ h _ => exact hn h
  | closed _ _ h =>
      rw [h]
      exact ⟨rfl, by rw [shut, hc.client]; rfl⟩

theorem made_after {p : Connection × World σ} (h : Made p.1) (steps : List Step) :
    Made (after serve steps p).1 :=
  kept_after (P := Made) (fun c step w h => (lived_run serve c step w).made h) steps h

def isOpenedIn (steps : List Step) : Bool :=
  ((steps.find? fun step => step.opens || step.closes).map Step.opens).getD false

theorem client_after {p : Connection × World σ} (hn : p.1.isNew = true)
    (hc : p.1.client = .unmade) (steps : List Step) :
    (after serve steps p).1.client.isClosed? =
      if isOpenedIn steps then some (after serve steps p).1.closed else none := by
  -- The client is unmade up to the first opening or closing. From an opening on `Made` carries the
  -- rest of the run, and from a closing on nothing changes.
  induction steps generalizing p with
  | nil =>
      rw [after, hc]
      rfl
  | cons step steps ih =>
      have made (h : Made (p.1.run serve step p.2).2.1) (ho : step.opens = true) :
          (after serve (step :: steps) p).1.client.isClosed? =
            if isOpenedIn (step :: steps) then some (after serve (step :: steps) p).1.closed
            else none := by
        have hopen : isOpenedIn (step :: steps) = true := by simp [isOpenedIn, ho]
        rw [hopen, if_pos rfl, after, (made_after h steps).client]
        rfl
      cases lived_run serve p.1 step p.2 with
      | same ho hcl h =>
          have hopen : isOpenedIn (step :: steps) = isOpenedIn steps := by
            simp [isOpenedIn, ho, hcl]
          rw [hopen, after]
          exact ih (h.isNew.trans hn) (h.client.trans hc)
      | already hold _ h =>
          rw [hn] at hold
          cases hold
      | opened ho _ h =>
          refine made ⟨h.isNew, ?_⟩ ho
          rw [h.client, h.closed, begun, hc, (isNew_iff.mp hn).2]
          rfl
      | failed ho _ h =>
          refine made ⟨h.isNew, ?_⟩ ho
          rw [h.client, h.closed, shut, begun, hc]
          rfl
      | closed hcl _ h =>
          have hclosed : (p.1.run serve step p.2).2.1.closed = true := by rw [h, shut]
          have hopen : isOpenedIn (step :: steps) = false := by
            have ho : step.opens = false := by
              cases step with
              | exit => rfl
              | close => rfl
              | _ => cases hcl
            simp [isOpenedIn, ho, hcl]
          have hafter : (after serve steps (p.1.run serve step p.2).2).1 =
              (p.1.run serve step p.2).2.1 := (after_of_closed hclosed steps _).1
          rw [hopen, after, hafter, h, shut, hc]
          rfl

/-- What is left of a connection that was closed: it stays as it is, and nobody hears of it again.
-/
def Rests (serve : Server σ) (p : Connection × World σ) : Prop :=
  ∀ steps, (after serve steps p).1 = p.1 ∧ p.2.Quiet (after serve steps p).2 ∧
    Inert serve (after serve steps p)

theorem rests_of_closed {p : Connection × World σ} (h : p.1.closed = true) : Rests serve p := by
  intro steps
  obtain ⟨hc, hq⟩ := after_of_closed h steps p.2
  refine ⟨hc, hq, inert_of_closed ?_ _⟩
  rw [hc]
  exact h

/-- The life of a connection, from its making through any operations. -/
theorem lifecycle_after (config : Config) (tracer : Tracer) (favorSeed : Bool)
    (given : Option Http.Client) (room : Nat) (serve : Server σ) (w : World σ) (steps : List Step) :
    let start := (make config tracer favorSeed given room, w)
    let p := after serve steps start
    let connected := connect serve config tracer favorSeed given room w
    ¬(p.1.isOpen = true ∧ p.1.closed = true) ∧
      (p.1.isOpen = false → ∀ step, p.2.Quiet (p.1.run serve step p.2).2.2 ∨
        step.opens = true ∧ ∀ s ∈ steps, s.opens = false ∧ s.closes = false) ∧
      (∀ step, Ends step (p.1.run serve step p.2).1 → Rests serve (p.1.run serve step p.2).2) ∧
      (p.1.client.isClosed? =
        if given.isSome then some false
        else if isOpenedIn steps then some p.1.closed else none) ∧
      connected.2 = after serve [.enter] start ∧
      ∀ f, connected.1 = .error f → Rests serve connected.2 := by
  intro start p connected
  refine ⟨?_, ?_, ?_, ?_, rfl, ?_⟩
  · rintro ⟨ho, hc⟩
    rw [isOpen_of_closed hc] at ho
    cases ho
  · intro ho step
    cases hn : step.opens && p.1.isNew with
    | true =>
        rw [Bool.and_eq_true] at hn
        exact .inr ⟨hn.1, (isNew_of_after hn.2).2⟩
    | false =>
        refine .inl (quiet_run ho ?_)
        intro hs
        rwa [hs, Bool.true_and] at hn
  · intro step hs
    exact rests_of_closed (closed_of_ends hs)
  · cases given with
    | none => exact client_after rfl rfl steps
    | some client =>
        have hc : p.1.client = .shared client := shared_after rfl steps
        rw [hc]
        rfl
  · intro f hf
    have hrun : (start.1.run serve .enter w).1 = .error f := by
      simp only [run, mapReply]
      rw [show (start.1.enter serve w).1 = .error f from hf]
      rfl
    exact rests_of_closed (closed_of_ends (.inr ⟨rfl, f, hrun⟩))

end Connection

end SqlCluster
