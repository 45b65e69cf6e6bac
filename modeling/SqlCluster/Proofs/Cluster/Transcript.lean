import SqlCluster.Proofs.Executor.Transcript
/-!
What a discovery tells, as long as what it fetches with tells a transcript. The peers it finds are
shown on one line each; what it failed with may take more.
-/
namespace SqlCluster.Discovery

open Text Uri Http

variable {σ α β : Type} {id : List Char} {h : Prop} {server : σ} {sent : List Request}

theorem inline_peerText {p : Option Peer} (hp : ∀ q, p = some q → q.IsInline) :
    Inline (peerText p).toList := by
  cases p with
  | none => decide
  | some p => exact (hp p rfl).address

theorem tells_noteOthers {give : Sink → α → World σ → β} {outcome : α → Prop}
    {g : Sink → World σ → β} {ps : List Peer} (hp : ∀ p ∈ ps, p.IsInline) (n : Nat)
    (hg : TellsAs give id (Tidy h) outcome fun sink j => g sink ⟨server, sent, j⟩) :
    TellsAs give id (Tidy h) outcome fun sink j =>
      g sink (noteOthers ⟨sink, id⟩ n ps ⟨server, sent, j⟩) := by
  induction ps generalizing n with
  | nil => exact hg
  | cons p ps ih =>
      have hother : Tidy h (.notice (.other n p)) :=
        tidy_of_texts fun _ => List.forall_mem_singleton.mpr (hp p List.mem_cons_self).address
      have hrest := (ih (fun q hq => hp q (List.mem_cons_of_mem p hq)) (n + 1)).note hother
      exact hrest

def Finds (r : Except Fault Topology) : Prop := ∀ t, r = .ok t → ∀ p ∈ t.peers, p.IsRead

theorem finds_error (f : Fault) : Finds (.error f) := by
  intro t ht
  cases ht

theorem tells_install (id : List Char) (h : Prop) (current : Topology) {found : Topology}
    (hf : ∀ p ∈ found.peers, p.IsRead) (server : σ) (sent : List Request) :
    Tells id (Tidy h) Finds fun sink j => install current found ⟨sink, id⟩ ⟨server, sent, j⟩ := by
  by_cases hn : found.peers.isEmpty = true
  · refine (Tells.pure (a := .error (.discovery .noNodes)) (finds_error _) server sent).congr ?_
    intro sink j
    rw [install, if_pos hn]
  · have hread : ∀ p ∈ (found.withSeed current.seed).peers, p.IsRead := fun p hp =>
      hf p (Topology.mem_peers_withSeed.mp hp)
    have hleader : Tidy h (.notice (.leader (found.withSeed current.seed).leader)) := by
      refine tidy_of_texts fun _ => List.forall_mem_singleton.mpr (inline_peerText ?_)
      intro p hp
      exact (hread p (Topology.mem_peers.mpr (.inl hp))).isHosted.inline
    have hothers : ∀ p ∈ (found.withSeed current.seed).others, p.IsInline := fun p hp =>
      (hread p (Topology.mem_peers.mpr (.inr hp))).isHosted.inline
    have hfinds : Finds (.ok (found.withSeed current.seed)) := by
      intro t ht
      cases ht
      exact hread
    have hdone : Tells id (Tidy h) Finds fun _ j =>
        (Except.ok (found.withSeed current.seed), ⟨server, sent, j⟩) :=
      Tells.pure hfinds server sent
    have hlogged (m : String) := hdone.log (r := ⟨.debug, .cluster, m⟩) trivial
    have htold (m : String) := (tells_noteOthers (g := fun _ w =>
      (Except.ok (found.withSeed current.seed), w.log .debug .cluster m)) hothers 0
        (hlogged m)).note hleader
    simp only [install, if_neg hn]
    exact htold _

section Fetching

variable {fetch : Sink → Fetch σ} (hfetch : ∀ operation server sent,
  Told id h fun sink j => fetch sink operation ⟨server, sent, j⟩)
include hfetch

theorem tells_viaNodes (current : Topology) (server : σ) (sent : List Request) :
    Tells id (Tidy h) Finds fun sink j =>
      viaNodes (fetch sink) current ⟨sink, id⟩ ⟨server, sent, j⟩ := by
  have hasking : Tidy h (.notice .askingNodes) :=
    tidy_of_texts fun _ => List.forall_mem_nil _
  obtain ⟨r, served, asked, es, hes, hr⟩ := (hfetch .nodes server sent).elim
  cases r with
  | error f =>
      have hdone (e : Fault) : Tells id (Tidy h) Finds fun _ j =>
          (Except.error e, ⟨served, asked, j⟩) := Tells.pure (finds_error e) served asked
      have htold (e : Fault) := ((hdone e).after hes).note hasking
      simp only [viaNodes, World.note, hr]
      split
      · exact htold _
      · exact htold _
  | ok body =>
      cases hp : parseNodes body with
      | error e =>
          have hdone : Tells id (Tidy h) Finds fun _ j =>
              (Except.error (.discovery e), ⟨served, asked, j⟩) :=
            Tells.pure (finds_error _) served asked
          have htold := (hdone.after hes).note hasking
          simp only [viaNodes, World.note, hr, hp]
          exact htold
      | ok found =>
          have hdone := tells_install id h current (isRead_of_parseNodes hp)
            served asked
          have htold := (hdone.after hes).note hasking
          simp only [viaNodes, World.note, hr, hp]
          exact htold

theorem tells_refresh (current : Topology) (server : σ) (sent : List Request) :
    Tells id (Tidy h) Finds fun sink j =>
      refresh (fetch sink) current ⟨sink, id⟩ ⟨server, sent, j⟩ := by
  have hasking : Tidy h (.notice .askingStatus) :=
    tidy_of_texts fun _ => List.forall_mem_nil _
  obtain ⟨r, served, asked, es, hes, hr⟩ := (hfetch .status server sent).elim
  have hnodes := tells_viaNodes hfetch current served asked
  cases ho : statusOutcome r with
  | error f =>
      simp only [refresh, World.note, hr, ho]
      split
      · have hfailed : Tidy h (.notice (.statusFailed f)) := tidy_statusFailed h f
        have htold := ((hnodes.note hfailed).after hes).note hasking
        exact htold
      · have hdone : Tells id (Tidy h) Finds fun _ j => (Except.error f, ⟨served, asked, j⟩) :=
          Tells.pure (finds_error f) served asked
        have htold := (hdone.after hes).note hasking
        exact htold
  | ok found =>
      cases found with
      | none =>
          have htold := (hnodes.after hes).note hasking
          simp only [refresh, World.note, hr, ho]
          exact htold
      | some found =>
          have hused : Tidy h (.notice .statusUsed) :=
            tidy_of_texts fun _ => List.forall_mem_nil _
          have hdone := tells_install id h current (isRead_of_statusOutcome ho)
            served asked
          have htold := ((hdone.note hused).after hes).note hasking
          simp only [refresh, World.note, hr, ho]
          exact htold

end Fetching

end SqlCluster.Discovery
