import SqlCluster.Proofs.Connection.Beliefs
/-!
The history of a connection. What is in force after a run can be read from it: each setting is as
the last successful setter left it, and the topology is the one that was found last.
-/
namespace SqlCluster

open Http

namespace Step

def level? : Step → Option Level
  | .setLevel v => (Config.levelOf v).toOption
  | _ => none

def transaction? : Step → Option Bool
  | .setTransaction v => some v.isTruthy
  | _ => none

def queuedWrites? : Step → Option Bool
  | .setQueuedWrites v => some v.isTruthy
  | _ => none

end Step

structure Entry where
  step : Step
  reply : Except Fault Reply
  found : Option Topology

def Entry.set? {β : Type} (f : Step → Option β) (e : Entry) : Option β :=
  match e.reply with
  | .ok _ => f e.step
  | .error _ => none

/-- The last value that a list gives for something, or the one that held before. -/
def latest {α β : Type} (f : α → Option β) (before : β) (as : List α) : β :=
  (as.filterMap f).getLastD before

theorem latest_cons {α β : Type} (f : α → Option β) (before : β) (a : α) (as : List α) :
    latest f before (a :: as) = latest f ((f a).getD before) as := by
  unfold latest
  cases h : f a with
  | none => rw [List.filterMap_cons_none h, Option.getD_none]
  | some b => rw [List.filterMap_cons_some h, List.getLastD_cons, Option.getD_some]

namespace Connection

variable {σ : Type} {serve : Server σ} {c : Connection} {step : Step} {w : World σ} {e : Entry}
  {es : List Entry} {a b d : Config}

def entry (serve : Server σ) (p : Connection × World σ) (step : Step) : Entry :=
  ⟨step, (p.1.run serve step p.2).1, p.1.found? serve step p.2⟩

def history (serve : Server σ) : List Step → Connection × World σ → List Entry
  | [], _ => []
  | step :: steps, p => entry serve p step :: history serve steps (p.1.run serve step p.2).2

structure InForce (b : Config) (es : List Entry) (c : Config) : Prop where
  level : c.level = latest (Entry.set? Step.level?) b.level es
  transaction :
    c.transaction.isTruthy = latest (Entry.set? Step.transaction?) b.transaction.isTruthy es
  queuedWrites :
    c.queuedWrites.isTruthy = latest (Entry.set? Step.queuedWrites?) b.queuedWrites.isTruthy es
  scheme : c.scheme = b.scheme
  userPart : c.userPart? = b.userPart?
  timeout : c.timeout = b.timeout

theorem inForce_nil (b : Config) : InForce b [] b := ⟨rfl, rfl, rfl, rfl, rfl, rfl⟩

theorem InForce.cons (h : InForce a [e] b) (k : InForce b es d) : InForce a (e :: es) d where
  level := by
    rw [k.level, h.level, latest_cons, latest_cons]
    rfl
  transaction := by
    rw [k.transaction, h.transaction, latest_cons, latest_cons]
    rfl
  queuedWrites := by
    rw [k.queuedWrites, h.queuedWrites, latest_cons, latest_cons]
    rfl
  scheme := k.scheme.trans h.scheme
  userPart := k.userPart.trans h.userPart
  timeout := k.timeout.trans h.timeout

theorem inForce_kept (hl : e.set? Step.level? = none) (ht : e.set? Step.transaction? = none)
    (hq : e.set? Step.queuedWrites? = none) : InForce b [e] b where
  level := by
    rw [latest_cons, hl]
    rfl
  transaction := by
    rw [latest_cons, ht]
    rfl
  queuedWrites := by
    rw [latest_cons, hq]
    rfl
  scheme := rfl
  userPart := rfl
  timeout := rfl

theorem inForce_failed {f : Fault} (h : e.reply = .error f) : InForce b [e] b := by
  have hn {β : Type} (g : Step → Option β) : e.set? g = none := by rw [Entry.set?, h]
  exact inForce_kept (hn _) (hn _) (hn _)

theorem set_cases (c : Connection) {o : Options} (hs : o.seeds = none) (hc : o.scheme = none)
    (ht : o.timeout = none) :
    (∃ f, c.unlessClosed (c.change o) = (.error f, c)) ∨
      c.unlessClosed (c.change o) =
        (.ok .done, { c with config := c.config.changed o c.config.scheme c.config.timeout }) := by
  unfold unlessClosed
  split
  · exact .inl ⟨.closed, rfl⟩
  · exact (change_cases hs hc ht).imp And.right And.right

theorem setLevel_cases (c : Connection) (v : Value) :
    (∃ f, c.unlessClosed (c.setLevel v) = (.error f, c)) ∨
      ∃ l, Config.levelOf v = .ok l ∧ c.unlessClosed (c.setLevel v) =
        (.ok .done, { c with config := { c.config with level := l } }) := by
  unfold setLevel
  split
  · next l hl =>
      rcases set_cases c (o := { level := some l }) rfl rfl rfl with h | h
      · exact .inl h
      · exact .inr ⟨l, hl, h⟩
  · refine .inl ?_
    unfold unlessClosed
    split
    · exact ⟨.closed, rfl⟩
    · exact ⟨_, rfl⟩

theorem inForce_quiet {p : Connection × World σ} (ha : Adjusted p.1.config step d)
    (hl : step.level? = none) (ht : step.transaction? = none) (hq : step.queuedWrites? = none) :
    InForce p.1.config [entry serve p step] d := by
  have hn {β : Type} {f : Step → Option β} (h : f step = none) :
      (entry serve p step).set? f = none := by
    rw [Entry.set?]
    split
    · exact h
    · rfl
  cases ha with
  | kept => exact inForce_kept (hn hl) (hn ht) (hn hq)
  | level h =>
      rw [Step.level?, h] at hl
      cases hl
  | transaction v => cases ht
  | queuedWrites v => cases hq

theorem inForce_set {p : Connection × World σ} {r : Except Fault Reply × Connection}
    (hr : p.1.run serve step p.2 = (r.1, r.2, p.2))
    (h : (∃ f, r = (.error f, p.1)) ∨ ∃ b, r = (.ok .done, { p.1 with config := b }) ∧
      ∀ found, InForce p.1.config [⟨step, .ok .done, found⟩] b) :
    InForce p.1.config [entry serve p step] (p.1.run serve step p.2).2.1.config := by
  rcases h with ⟨f, rfl⟩ | ⟨b, rfl, hb⟩
  · have hreply : (entry serve p step).reply = .error f := by rw [entry, hr]
    rw [hr]
    exact inForce_failed hreply
  · have he : entry serve p step = ⟨step, .ok .done, p.1.found? serve step p.2⟩ := by
      rw [entry, hr]
    rw [he, hr]
    exact hb _

theorem inForce_run (serve : Server σ) (p : Connection × World σ) (step : Step) :
    InForce p.1.config [entry serve p step] (p.1.run serve step p.2).2.1.config := by
  have ha : Adjusted p.1.config step (p.1.run serve step p.2).2.1.config :=
    (held_run serve p.1 step p.2).config
  -- Only for a setter does success have to be told from failure: the others set nothing.
  cases step with
  | setLevel v =>
      refine inForce_set rfl ((setLevel_cases p.1 v).imp id ?_)
      rintro ⟨l, hl, hd⟩
      refine ⟨_, hd, ?_⟩
      intro found
      have hset : Entry.set? Step.level? ⟨.setLevel v, .ok .done, found⟩ = some l := by
        rw [Entry.set?, Step.level?, hl]
        rfl
      refine ⟨?_, rfl, rfl, rfl, rfl, rfl⟩
      rw [latest_cons, hset]
      rfl
  | setTransaction v =>
      refine inForce_set rfl ((set_cases p.1 rfl rfl rfl).imp id ?_)
      intro hd
      exact ⟨_, hd, fun found => ⟨rfl, rfl, rfl, rfl, rfl, rfl⟩⟩
  | setQueuedWrites v =>
      refine inForce_set rfl ((set_cases p.1 rfl rfl rfl).imp id ?_)
      intro hd
      exact ⟨_, hd, fun found => ⟨rfl, rfl, rfl, rfl, rfl, rfl⟩⟩
  | _ => exact inForce_quiet ha rfl rfl rfl

theorem inForce_after (serve : Server σ) (steps : List Step) (p : Connection × World σ) :
    InForce p.1.config (history serve steps p) (after serve steps p).1.config := by
  induction steps generalizing p with
  | nil => exact inForce_nil _
  | cons step steps ih => exact (inForce_run serve p step).cons (ih _)

theorem topology_after (serve : Server σ) (steps : List Step) (p : Connection × World σ) :
    (after serve steps p).1.topology =
      latest Entry.found p.1.topology (history serve steps p) := by
  induction steps generalizing p with
  | nil => rfl
  | cons step steps ih =>
      have ht : (p.1.run serve step p.2).2.1.topology =
          (p.1.found? serve step p.2).getD p.1.topology :=
        (held_run serve p.1 step p.2).topology
      rw [after, ih, history, latest_cons, ht]
      rfl

end Connection

end SqlCluster
