import SqlCluster.Proofs.Cluster.Transcript
import SqlCluster.Proofs.Connection.History
import SqlCluster.Proofs.Connection.Lifecycle
/-!
What a connection tells. Each of its operations gives the same, asks the cluster the same and leaves
the connection the same, whichever sink its lines go to.
-/
namespace SqlCluster.Connection

open Text Uri Http

variable {σ α β ρ : Type}

def through (c : Connection) (sink : Sink) : Connection := { c with tracer := ⟨sink, c.tracer.id⟩ }

/-- No peer that the connection knows has a line end in its host. -/
structure IsInline (c : Connection) : Prop where
  seeds : ∀ p ∈ c.config.seeds, p.IsInline
  peers : ∀ p ∈ c.topology.peers, p.IsInline
  seed : ∀ p, c.topology.seed = some p → p.IsInline

theorem isInline_make {config : Config} {url : List Char} (h : Config.ofUrl url = .ok config)
    (tracer : Tracer) (favorSeed : Bool) (given : Option Http.Client) (room : Nat) :
    (make config tracer favorSeed given room).IsInline := by
  have hseeds : ∀ p ∈ config.seeds, p.IsInline := fun p hp =>
    (Config.isHosted_of_ofUrl h p hp).inline
  refine ⟨hseeds, ?_, ?_⟩
  · intro p hp
    rcases Topology.mem_peers_make.mp hp with hp | hp
    · exact hseeds p (List.mem_of_mem_head? hp)
    · exact hseeds p (List.mem_of_mem_drop hp)
  · intro p hp
    exact hseeds p (List.mem_of_mem_head? hp)

theorem IsInline.orderedPeers {c : Connection} (h : c.IsInline) :
    ∀ p ∈ c.topology.orderedPeers c.favorSeed, p.IsInline := by
  intro p hp
  unfold Topology.orderedPeers at hp
  split at hp
  · next s hs =>
      rcases List.mem_cons.mp (mem_distinct.mp hp) with rfl | hp
      · exact h.seed p hs
      · exact h.peers p hp
  · exact h.peers p hp

def Suits (id : List Char) (h : Prop) (d : Connection) : Prop :=
  d.tracer.id = id ∧ (h → d.IsInline)

/-- An operation on a connection tells a transcript and leaves a connection of the same name. -/
def TellsOn (id : List Char) (h : Prop) (f : Sink → Journal → ρ × Connection × World σ) : Prop :=
  TellsAs (fun sink a w => (a.1, a.2.through sink, w)) id (Tidy h)
    (fun a : ρ × Connection => Suits id h a.2) f

variable {id : List Char} {h : Prop} {c : Connection} {serve : Server σ} {server : σ}
  {sent : List Request}

theorem suits_kept {d : Connection} (hc : Suits id h c) (hid : d.tracer.id = c.tracer.id)
    (hs : d.config.seeds = c.config.seeds) (ht : d.topology = c.topology) : Suits id h d := by
  refine ⟨hid.trans hc.1, ?_⟩
  intro hh
  have hi := hc.2 hh
  refine ⟨?_, ?_, ?_⟩
  · rw [hs]
    exact hi.seeds
  · rw [ht]
    exact hi.peers
  · rw [ht]
    exact hi.seed

theorem TellsOn.pure {r : ρ} (hc : Suits id h c) (server : σ) (sent : List Request) :
    TellsOn id h fun sink j => (r, c.through sink, ⟨server, sent, j⟩) :=
  TellsAs.pure (a := (r, c)) hc server sent

theorem TellsOn.elim {f : Sink → Journal → ρ × Connection × World σ} (hf : TellsOn id h f) :
    ∃ r d server sent es, Suits id h d ∧ (∀ e ∈ es, Tidy h e) ∧
      ∀ sink j, f sink j = (r, d.through sink, ⟨server, sent, j.replay ⟨sink, id⟩ es⟩) := by
  obtain ⟨⟨r, d⟩, server, sent, es, hd, hes, hf⟩ := hf
  exact ⟨r, d, server, sent, es, hd, hes, hf⟩

theorem requireExecutor_through (c : Connection) (sink : Sink) :
    (c.through sink).requireExecutor = c.requireExecutor.map (·.through sink) := by
  simp only [requireExecutor]
  split
  · next hc =>
      rw [if_pos (show c.closed = true from hc)]
      rfl
  · next hc =>
      rw [if_neg (show ¬c.closed = true from hc)]
      split
      · next hs =>
          rw [if_pos (show c.started = true from hs)]
          rfl
      · next hs =>
          rw [if_neg (show ¬c.started = true from hs)]
          rfl

theorem tells_execute (serve : Server σ) (hc : Suits id h c) (operation : Operation)
    (body : List UInt8) (queue : Bool) (server : σ) (sent : List Request) :
    Told id h fun sink j =>
      (c.executor.through sink).execute serve operation body queue ⟨server, sent, j⟩ := by
  obtain ⟨rfl, hc⟩ := hc
  exact Executor.tells_execute (x := c.executor) (fun hh => (hc hh).orderedPeers) server sent

theorem suits_found (hc : Suits id h c) {t : Topology} (ht : Discovery.Finds (.ok t))
    (hs : t.seed = c.topology.seed) : Suits id h { c with topology := t } := by
  obtain ⟨hid, hc⟩ := hc
  refine ⟨hid, ?_⟩
  intro hh
  refine ⟨(hc hh).seeds, ?_, ?_⟩
  · intro p hp
    exact (ht t rfl p hp).isHosted.inline
  · intro p hp
    exact (hc hh).seed p (hs ▸ hp)

theorem tells_refresh (serve : Server σ) (hc : Suits id h c) (server : σ) (sent : List Request) :
    TellsOn id h fun sink j => (c.through sink).refresh serve ⟨server, sent, j⟩ := by
  rcases requireExecutor_cases c with ⟨f, hx, -⟩ | hx
  · refine (TellsOn.pure (r := .error f) hc server sent).congr ?_
    intro sink j
    simp only [refresh, requireExecutor_through, hx]
    rfl
  · have hrefreshing : Tidy h (.notice .refreshing) :=
      tidy_of_texts fun _ => List.forall_mem_nil _
    let fetch (sink : Sink) : Discovery.Fetch σ := fun operation w =>
      (c.executor.through sink).execute serve operation [] false w
    have hfetch (operation : Operation) (server : σ) (sent : List Request) :
        Told id h fun sink j => fetch sink operation ⟨server, sent, j⟩ :=
      tells_execute serve hc operation [] false server sent
    obtain ⟨r, served, asked, es, hfinds, hes, hr⟩ :=
      (Discovery.tells_refresh hfetch c.topology server sent).elim
    have hrun (sink : Sink) (j : Journal) :
        Discovery.refresh (fetch sink) (c.through sink).topology (c.through sink).tracer
          (World.note ⟨server, sent, j⟩ (c.through sink).tracer "refreshing cluster info") =
            (r, ⟨served, asked,
              (Tracer.note ⟨sink, id⟩ Notice.refreshing.text j).replay ⟨sink, id⟩ es⟩) := by
      obtain ⟨rfl, -⟩ := hc
      exact hr sink _
    cases r with
    | error f =>
        have hdone := TellsOn.pure (r := Except.error (α := Topology) f) hc served asked
        have htold := (hdone.after hes).note hrefreshing
        refine htold.congr ?_
        intro sink j
        simp only [refresh, requireExecutor_through, hx, Except.map]
        rw [hrun]
    | ok t =>
        have hs : t.seed = c.topology.seed := by
          have hf := Discovery.finding_refresh (fetch .silent) c.topology ⟨.silent, id⟩
            ⟨server, sent, .empty⟩
          rw [hr] at hf
          cases hf with
          | renewed hn => exact hn.seed
        have hfound := suits_found hc hfinds hs
        have hdone := TellsOn.pure (r := Except.ok (ε := Fault) t) hfound served asked
        have htold := (hdone.after hes).note hrefreshing
        refine htold.congr ?_
        intro sink j
        simp only [refresh, requireExecutor_through, hx, Except.map]
        rw [hrun]
        rfl

theorem tidy_opened (hc : Suits id h c) : Tidy h (.notice (.opened c.config.seeds)) := by
  refine tidy_of_texts fun hh => List.forall_mem_singleton.mpr ?_
  refine within_intercalate (by decide) ?_
  intro s hs
  obtain ⟨p, hp, rfl⟩ := List.mem_map.mp hs
  exact ((hc.2 hh).seeds p hp).address

theorem tells_open (serve : Server σ) (hc : Suits id h c) (server : σ) (sent : List Request) :
    TellsOn id h fun sink j => (c.through sink).open serve ⟨server, sent, j⟩ := by
  cases hn : c.isNew with
  | false =>
      refine (TellsOn.pure (r := if c.closed then Except.error Fault.closed else .ok ()) hc server
        sent).congr ?_
      intro sink j
      rw [open_of_not_isNew (c := c.through sink) hn]
      rfl
  | true =>
      have hopened := tidy_opened hc
      have hsuits : Suits id h c.begun := suits_kept hc rfl rfl rfl
      have hconfig (sink : Sink) : (c.through sink).config = c.config := rfl
      have hbegun (sink : Sink) : (c.through sink).begun = c.begun.through sink := rfl
      have hgreeted (sink : Sink) (j : Journal) :
          (c.through sink).greeted (⟨server, sent, j⟩ : World σ) =
            ⟨server, sent, Tracer.note ⟨sink, id⟩ (Notice.opened c.config.seeds).text j⟩ := by
        obtain ⟨rfl, -⟩ := hc
        rfl
      cases hd : c.config.disableDiscovery.isTruthy with
      | true =>
          have hdone := TellsOn.pure (r := Except.ok (ε := Fault) ()) hsuits server sent
          refine (hdone.note hopened).congr ?_
          intro sink j
          rw [open_of_isNew (c := c.through sink) hn, hgreeted, hbegun, hconfig, if_pos hd]
      | false =>
          obtain ⟨r, d, served, asked, es, hkept, hes, hr⟩ :=
            (tells_refresh serve hsuits server sent).elim
          have hd : ¬c.config.disableDiscovery.isTruthy = true := by simp [hd]
          cases r with
          | ok t =>
              have hdone := TellsOn.pure (r := Except.ok (ε := Fault) ()) hkept served asked
              refine ((hdone.after hes).note hopened).congr ?_
              intro sink j
              rw [open_of_isNew (c := c.through sink) hn, hgreeted, hbegun, hconfig, if_neg hd, hr]
          | error f =>
              have hwarned : TellsOn id h fun sink j =>
                  (Except.error (α := Unit) f, d.through sink,
                    warnDiscovery f ⟨served, asked, j⟩) := by
                have hdone := TellsOn.pure (r := Except.error (α := Unit) f) hkept served asked
                simp only [warnDiscovery]
                split
                · exact hdone.log (r := ⟨.warning, .connection, _⟩) trivial
                · exact hdone
              refine ((hwarned.after hes).note hopened).congr ?_
              intro sink j
              rw [open_of_isNew (c := c.through sink) hn, hgreeted, hbegun, hconfig, if_neg hd, hr]

theorem tells_close {r : ρ} (hc : Suits id h c) (server : σ) (sent : List Request) :
    TellsOn id h fun sink j => (r, (c.through sink).close ⟨server, sent, j⟩) := by
  have hid : c.tracer.id = id := hc.1
  cases hcl : c.closed with
  | true =>
      refine (TellsOn.pure (r := r) hc server sent).congr ?_
      intro sink j
      rw [close_of_closed (c := c.through sink) hcl]
  | false =>
      have hclosing : Tidy h (.notice .closing) :=
        tidy_of_texts fun _ => List.forall_mem_nil _
      have hshut : Suits id h c.shut := suits_kept hc rfl rfl rfl
      refine ((TellsOn.pure (r := r) hshut server sent).note hclosing).congr ?_
      intro sink j
      rw [close_of_not_closed (c := c.through sink) hcl, ← hid]
      rfl

theorem tells_enter (serve : Server σ) (hc : Suits id h c) (server : σ) (sent : List Request) :
    TellsOn id h fun sink j => (c.through sink).enter serve ⟨server, sent, j⟩ := by
  obtain ⟨r, d, served, asked, es, hsuits, hes, hr⟩ :=
    (tells_open serve hc server sent).elim
  cases r with
  | ok u =>
      have hdone := TellsOn.pure (r := Except.ok (ε := Fault) u) hsuits served asked
      refine (hdone.after hes).congr ?_
      intro sink j
      simp only [enter, hr]
  | error f =>
      have hclosed := tells_close (r := Except.error (α := Unit) f) hsuits served asked
      refine (hclosed.after hes).congr ?_
      intro sink j
      simp only [enter, hr]

theorem tells_announce {give : Sink → α → World σ → β} {outcome : α → Prop}
    {g : Sink → World σ → β} (s : Statement)
    (hg : TellsAs give id (Tidy h) outcome fun sink j => g sink ⟨server, sent, j⟩) :
    TellsAs give id (Tidy h) outcome fun sink j =>
      g sink (World.announce ⟨server, sent, j⟩ s) := by
  simp only [World.announce]
  split
  · exact hg
  · exact hg.log (r := ⟨.debug, .statement, _⟩) trivial

theorem tells_announcedBy {give : Sink → α → World σ → β} {outcome : α → Prop}
    {g : Sink → World σ → β} (i : Item) (s : Statement)
    (hg : TellsAs give id (Tidy h) outcome fun sink j => g sink ⟨server, sent, j⟩) :
    TellsAs give id (Tidy h) outcome fun sink j =>
      g sink (announcedBy i s ⟨server, sent, j⟩) := by
  cases i with
  | plain t => exact tells_announce s hg
  | prepared _ => exact hg
  | other _ => exact hg

theorem tells_prepare (id : List Char) (h : Prop) (items : List Item) (server : σ)
    (sent : List Request) : Told id h fun _ j => prepare items ⟨server, sent, j⟩ := by
  induction items with
  | nil => exact Told.value id h (Except.ok []) server sent
  | cons i is ih =>
      cases hi : i.statement? with
      | error e =>
          refine (Told.value id h (.error (.batch e)) server sent).congr ?_
          intro _ j
          simp only [prepare, hi]
      | ok s =>
          obtain ⟨r, served, asked, es, hes, hr⟩ := ih.elim
          let rest (w : World σ) := ((prepare is w).1.map (s :: ·), (prepare is w).2)
          have hrest : Told id h fun _ j => rest ⟨server, sent, j⟩ := by
            refine ((Told.value id h (r.map (s :: ·)) served asked).after hes).congr ?_
            intro sink j
            simp only [rest, hr sink]
          have hannounced := tells_announcedBy (g := fun _ => rest) i s hrest
          refine hannounced.congr ?_
          intro _ j
          exact prepare_cons hi

theorem tells_single (id : List Char) (h : Prop) (item : Item) (parameters : List Value)
    (server : σ) (sent : List Request) :
    Told id h fun _ j => single item parameters ⟨server, sent, j⟩ := by
  have hmade (t : Template) : Told id h fun _ j => made t parameters ⟨server, sent, j⟩ := by
    let s : Statement := ⟨t, parameters⟩
    have hdone : Told id h fun _ j => (Except.ok (ε := Fault) s, ⟨server, sent, j⟩) :=
      .value id h _ server sent
    exact tells_announce (g := fun _ w => (Except.ok (ε := Fault) s, w)) s hdone
  have hfails (f : Fault) : Told id h fun _ j =>
      (Except.error (α := Statement) f, ⟨server, sent, j⟩) := .value id h _ server sent
  unfold single
  split
  · split
    · exact .value id h _ server sent
    · exact hfails _
  · exact hmade _
  · exact hfails _
  · exact hfails _
  · split
    · exact hmade _
    · exact hfails _

theorem tells_send (serve : Server σ) (hc : Suits id h c) (kind : BatchKind)
    (batch : List Statement) (server : σ) (sent : List Request) : Told id h fun sink j =>
      (c.through sink).send serve kind batch ⟨server, sent, j⟩ := by
  rcases requireExecutor_cases c with ⟨f, hx, -⟩ | hx
  · refine (Told.value id h (.error f) server sent).congr ?_
    intro sink j
    simp only [send, requireExecutor_through, hx]
    rfl
  · have hsending : Tidy h (.notice (.sending kind.operation batch.length)) :=
      tidy_of_texts fun _ => List.forall_mem_singleton.mpr (inline_name _)
    have hnote (sink : Sink) (j : Journal) : (c.through sink).noteBatch kind batch
        (⟨server, sent, j⟩ : World σ) = ⟨server, sent, Tracer.note ⟨sink, id⟩
          (Notice.sending kind.operation batch.length).text j⟩ := by
      obtain ⟨rfl, -⟩ := hc
      rfl
    have hroom (sink : Sink) : (c.through sink).room = c.room := rfl
    simp only [noteBatch] at hnote
    cases he : Statement.encodeAll c.room batch with
    | error e =>
        have hdone : Told id h fun _ j =>
            (Except.error (α := List UInt8) (Fault.batch (.encoding e)), ⟨server, sent, j⟩) :=
          .value id h _ server sent
        refine (hdone.note hsending).congr ?_
        intro sink j
        simp only [send, requireExecutor_through, hx, hroom, he, hnote, Except.map]
    | ok cs =>
        have hdone := tells_execute serve hc kind.operation (Utf8.encode cs)
          (decide (kind = .queue)) server sent
        refine (hdone.note hsending).congr ?_
        intro sink j
        simp only [send, requireExecutor_through, hx, hroom, he, hnote, Except.map]

theorem tells_runBatch (serve : Server σ) (hc : Suits id h c) (kind : BatchKind)
    (items : List Item) (server : σ) (sent : List Request) : Told id h fun sink j =>
      (c.through sink).runBatch serve kind items ⟨server, sent, j⟩ := by
  have hclosed (sink : Sink) : (c.through sink).closed = c.closed := rfl
  by_cases hcl : c.closed = true
  · refine (Told.value id h (.error .closed) server sent).congr ?_
    intro sink j
    rw [runBatch, hclosed, if_pos hcl]
  · obtain ⟨r, served, asked, es, hes, hr⟩ :=
      (tells_prepare id h items server sent).elim
    cases r with
    | error f =>
        refine ((Told.value id h (.error f) served asked).after hes).congr ?_
        intro sink j
        simp only [runBatch, hclosed, if_neg hcl, hr sink]
    | ok batch =>
        cases batch with
        | nil =>
            refine ((Told.value id h (.ok (nothing kind)) served asked).after hes).congr ?_
            intro sink j
            simp only [runBatch, hclosed, if_neg hcl, hr sink]
        | cons s ss =>
            obtain ⟨answer, left, asked', fs, hfs, ha⟩ :=
              (tells_send serve hc kind (s :: ss) served asked).elim
            refine (((Told.value id h (answer.bind (decode kind)) left asked').after hfs).after
              hes).congr ?_
            intro sink j
            simp only [runBatch, hclosed, if_neg hcl, hr sink, ha]
            cases answer <;> rfl

theorem tells_runSingle (serve : Server σ) (hc : Suits id h c) (kind : BatchKind) (item : Item)
    (parameters : List Value) (server : σ) (sent : List Request) : Told id h fun sink j =>
      (c.through sink).runSingle serve kind item parameters ⟨server, sent, j⟩ := by
  obtain ⟨r, served, asked, es, hes, hr⟩ :=
    (tells_single id h item parameters server sent).elim
  cases r with
  | error f =>
      refine ((Told.value id h (.error f) served asked).after hes).congr ?_
      intro sink j
      simp only [runSingle, hr sink]
  | ok s =>
      obtain ⟨answer, left, asked', fs, hfs, ha⟩ :=
        (tells_runBatch serve hc kind [.prepared s] served asked).elim
      let reply := ((c.through .silent).runSingle serve kind item parameters
        ⟨server, sent, .empty⟩).1
      refine (((Told.value id h reply left asked').after hfs).after hes).congr ?_
      intro sink j
      simp only [reply, runSingle, hr sink, ha]
      cases answer with
      | error f => rfl
      | ok r => cases r <;> rfl

theorem change_through (c : Connection) (o : Options) (sink : Sink) :
    (c.through sink).change o = ((c.change o).1, (c.change o).2.through sink) := by
  have hconfig : (c.through sink).config = c.config := rfl
  rw [change, change, hconfig]
  cases c.config.withOptions o <;> rfl

theorem setLevel_through (c : Connection) (v : Value) (sink : Sink) :
    (c.through sink).setLevel v = ((c.setLevel v).1, (c.setLevel v).2.through sink) := by
  rw [setLevel, setLevel]
  cases Config.levelOf v with
  | error e => rfl
  | ok l => exact change_through c _ sink

theorem unlessClosed_through (c : Connection) (sink : Sink) (r : Except Fault Reply × Connection) :
    (c.through sink).unlessClosed (r.1, r.2.through sink) =
      ((c.unlessClosed r).1, (c.unlessClosed r).2.through sink) := by
  have hclosed : (c.through sink).closed = c.closed := rfl
  rw [unlessClosed, unlessClosed, hclosed]
  split <;> rfl

theorem tells_unlessClosed {r : Except Fault Reply × Connection}
    (hr : Suits id h (c.unlessClosed r).2) (server : σ) (sent : List Request) :
    TellsOn id h fun sink j =>
      let s := (c.through sink).unlessClosed (r.1, r.2.through sink)
      (s.1, s.2, ⟨server, sent, j⟩) := by
  refine (TellsOn.pure (r := (c.unlessClosed r).1) hr server sent).congr ?_
  intro sink j
  simp only [unlessClosed_through]

theorem suits_set {o : Options} (hc : Suits id h c) (hs : o.seeds = none) (hn : o.scheme = none)
    (ht : o.timeout = none) : Suits id h (c.unlessClosed (c.change o)).2 := by
  rcases set_cases c hs hn ht with ⟨f, he⟩ | he
  · rw [he]
    exact hc
  · rw [he]
    exact suits_kept hc rfl (by simp [Config.changed, hs]) rfl

theorem suits_setLevel (hc : Suits id h c) (v : Value) :
    Suits id h (c.unlessClosed (c.setLevel v)).2 := by
  rcases setLevel_cases c v with ⟨f, he⟩ | ⟨l, -, he⟩
  · rw [he]
    exact hc
  · rw [he]
    exact suits_kept hc rfl rfl rfl

theorem TellsOn.kept {f : Sink → Journal → ρ × World σ} (hf : Told id h f) (hc : Suits id h c) :
    TellsOn id h fun sink j => ((f sink j).1, c.through sink, (f sink j).2) := by
  obtain ⟨r, served, asked, es, hes, hr⟩ := hf.elim
  refine ((TellsOn.pure (r := r) hc served asked).after hes).congr ?_
  intro sink j
  rw [hr]

theorem TellsOn.mapReply {f : Sink → Journal → Except Fault ρ × Connection × World σ}
    (hf : TellsOn id h f) (g : ρ → Reply) :
    TellsOn id h fun sink j => Connection.mapReply g (f sink j) := by
  obtain ⟨r, d, served, asked, es, hd, hes, hr⟩ := hf.elim
  refine ((TellsOn.pure (r := r.map g) hd served asked).after hes).congr ?_
  intro sink j
  rw [hr]
  rfl

theorem tells_run (serve : Server σ) (hc : Suits id h c) (step : Step) (server : σ)
    (sent : List Request) :
    TellsOn id h fun sink j => (c.through sink).run serve step ⟨server, sent, j⟩ := by
  cases step with
  | batch kind items => exact .kept (tells_runBatch serve hc kind items server sent) hc
  | single kind item parameters =>
      exact .kept (tells_runSingle serve hc kind item parameters server sent) hc
  | «open» => exact (tells_open serve hc server sent).mapReply _
  | enter => exact (tells_enter serve hc server sent).mapReply _
  | exit => exact tells_close hc server sent
  | close => exact tells_close hc server sent
  | leader => exact (tells_refresh serve hc server sent).mapReply _
  | peers => exact (tells_refresh serve hc server sent).mapReply _
  | refresh => exact (tells_refresh serve hc server sent).mapReply _
  | setLevel v =>
      refine (tells_unlessClosed (r := c.setLevel v) (suits_setLevel hc v) server sent).congr ?_
      intro sink j
      simp only [run, setLevel_through]
  | setTransaction v =>
      let o : Options := { transaction := some (.bool v.isTruthy) }
      have ho : Suits id h (c.unlessClosed (c.change o)).2 := suits_set hc rfl rfl rfl
      refine (tells_unlessClosed ho server sent).congr ?_
      intro sink j
      simp only [run, change_through, o]
  | setQueuedWrites v =>
      let o : Options := { queuedWrites := some (.bool v.isTruthy) }
      have ho : Suits id h (c.unlessClosed (c.change o)).2 := suits_set hc rfl rfl rfl
      refine (tells_unlessClosed ho server sent).congr ?_
      intro sink j
      simp only [run, change_through, o]
  | level =>
      let r : Except Fault Reply × Connection := (.ok (.text c.config.level.name), c)
      have hr : Suits id h (c.unlessClosed r).2 := by
        rw [unlessClosed]
        split
        · exact hc
        · exact hc
      exact tells_unlessClosed hr server sent
  | config => exact TellsOn.pure (r := Except.ok (Reply.config c.config)) hc server sent
  | describe => exact TellsOn.pure (r := Except.ok (Reply.text c.describe)) hc server sent

theorem tells_after (serve : Server σ) (hc : Suits id h c) (steps : List Step) (server : σ)
    (sent : List Request) :
    TellsAs (fun sink (d : Connection) w => (d.through sink, w)) id (Tidy h) (Suits id h)
      fun sink j => after serve steps (c.through sink, ⟨server, sent, j⟩) := by
  -- Each operation tells its part, and leaves a connection of which the same holds.
  induction steps generalizing c server sent with
  | nil => exact TellsAs.pure hc server sent
  | cons step steps ih =>
      obtain ⟨r, d, served, asked, es, hd, hes, hr⟩ :=
        (tells_run serve hc step server sent).elim
      refine ((ih hd served asked).after hes).congr ?_
      intro sink j
      simp only [after, hr]

end SqlCluster.Connection
