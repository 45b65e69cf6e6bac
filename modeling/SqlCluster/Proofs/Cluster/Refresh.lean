import SqlCluster.Cluster.Refresh
import SqlCluster.Proofs.Cluster.Topology
/-!
What a discovery can come to: a topology that was found, with the seed of the one in use; a fault of
the discovery itself; or a fault of asking the cluster.
-/
namespace SqlCluster.Discovery

variable {σ : Type} {fetch : Fetch σ} {current : Topology} {t : Tracer} {w : World σ}

/-- A topology that a document gave and that holds a peer, with the seed of the one in use. -/
def Renewed (current next : Topology) : Prop :=
  ∃ found : Topology, found.peers ≠ [] ∧ next = found.withSeed current.seed

inductive Finding (fetch : Fetch σ) (current : Topology) : Except Fault Topology → Prop
  | renewed {next : Topology} (h : Renewed current next) : Finding fetch current (.ok next)
  | undiscovered (e : DiscoveryError) : Finding fetch current (.error (.discovery e))
  | unfetched {operation : Operation} {v : World σ} {f : Fault}
      (h : (fetch operation v).1 = .error f) : Finding fetch current (.error f)

theorem finding_install (found : Topology) : Finding fetch current (install current found t w).1 := by
  cases hp : found.peers with
  | nil =>
      simp only [install, hp, List.isEmpty_nil, if_true]
      exact .undiscovered _
  | cons p ps =>
      simp only [install, hp, List.isEmpty_cons, Bool.false_eq_true, if_false]
      exact .renewed ⟨found, by simp [hp], rfl⟩

theorem finding_viaNodes : Finding fetch current (viaNodes fetch current t w).1 := by
  simp only [viaNodes]
  split
  · next f v hf =>
      split
      · exact .undiscovered _
      · exact .unfetched (congrArg Prod.fst hf)
  · split
    · exact .undiscovered _
    · exact finding_install _

theorem fetched_of_statusOutcome {r : Except Fault (List UInt8)} {f : Fault}
    (h : statusOutcome r = .error f) : r = .error f ∨ ∃ e, f = .discovery e := by
  cases r with
  | error g =>
      obtain rfl : g = f := Except.error.inj h
      exact .inl rfl
  | ok body =>
      simp only [statusOutcome] at h
      split at h
      · next e _ => exact .inr ⟨e, (Except.error.inj h).symm⟩
      · cases h

theorem finding_refresh (fetch : Fetch σ) (current : Topology) (t : Tracer) (w : World σ) :
    Finding fetch current (refresh fetch current t w).1 := by
  simp only [refresh]
  split
  · next f hf =>
      split
      · exact finding_viaNodes
      · rcases fetched_of_statusOutcome hf with h | ⟨e, rfl⟩
        · exact .unfetched h
        · exact .undiscovered e
  · exact finding_viaNodes
  · exact finding_install _

theorem Renewed.seed {next : Topology} (h : Renewed current next) : next.seed = current.seed := by
  obtain ⟨found, -, rfl⟩ := h
  rfl

theorem Renewed.distinct {next : Topology} (h : Renewed current next) : next.Distinct := by
  obtain ⟨found, -, rfl⟩ := h
  exact found.distinct_withSeed current.seed

theorem Renewed.peers_ne_nil {next : Topology} (h : Renewed current next) : next.peers ≠ [] := by
  obtain ⟨found, hp, rfl⟩ := h
  exact Topology.peers_withSeed_ne_nil hp current.seed

end SqlCluster.Discovery
