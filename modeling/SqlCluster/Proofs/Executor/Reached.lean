import SqlCluster.Proofs.Executor.Tour
import SqlCluster.Proofs.Http.Sent
/-!
What reaches the cluster. Each call of a write comes to one request, unless its URL is none that the
client takes, and nothing else does: neither the diagnostics nor what is done between two calls.
-/
namespace SqlCluster

open Http

variable {σ : Type} {serve : Server σ} {w : World σ}

namespace World

def Quiet (w v : World σ) : Prop := v.server = w.server ∧ v.sent = w.sent

theorem Quiet.refl (w : World σ) : w.Quiet w := ⟨rfl, rfl⟩

theorem Quiet.trans {u v : World σ} (h : w.Quiet v) (k : v.Quiet u) : w.Quiet u :=
  ⟨k.1.trans h.1, k.2.trans h.2⟩

theorem quiet_note (w : World σ) (t : Tracer) (message : String) : w.Quiet (w.note t message) :=
  ⟨rfl, rfl⟩

theorem quiet_log (w : World σ) (severity : Severity) (channel : Channel) (message : String) :
    w.Quiet (w.log severity channel message) := ⟨rfl, rfl⟩

end World

/-- The request that a call comes to, if the client takes its URL. -/
def Call.request? (timeout : Value) (c : Call) : Option Request :=
  (Client.prepare c.method c.url c.body timeout).toOption

theorem Call.body_of_request {timeout : Value} {c : Call} {r : Request}
    (h : c.request? timeout = some r) : r.method = c.method ∧ r.body = c.body := by
  simp only [Call.request?, Client.prepare] at h
  cases ht : Client.invalidUrl (Client.target c.url) with
  | error e => simp [ht, bind, Except.bind, Except.toOption] at h
  | ok u =>
      simp only [ht, bind, Except.bind, Client.request] at h
      split at h
      · cases h
      · split at h
        · cases h
        · cases h
          exact ⟨rfl, rfl⟩

namespace Executor

variable {x : Executor} {operation : Operation} {peer : Peer} {body : List UInt8}

def callOf (x : Executor) (serve : Server σ) (operation : Operation) (body : List UInt8)
    (url : List Char) (w : World σ) : Call :=
  let sent := x.client.send serve (methodOf operation) url body x.config.timeout w
  ⟨methodOf operation, url, body, sent.1, sent.2.sent.length - w.sent.length⟩

theorem hops_calls (x : Executor) (serve : Server σ) (operation : Operation) (peer : Peer)
    (body : List UInt8) (fuel : Nat) (url : List Char) (w : World σ) :
    ∃ rest, (x.hops serve operation peer body (fuel + 1) url w).calls =
      x.callOf serve operation body url w :: rest := by
  simp only [hops]
  split
  · exact ⟨[], rfl⟩
  · exact ⟨_, rfl⟩

theorem called_hops (serve : Server σ) (fuel : Nat) (url : List Char) (w : World σ) :
    ∀ c ∈ (x.hops serve operation peer body fuel url w).calls,
      ∃ url v, c = x.callOf serve operation body url v := by
  induction fuel generalizing url w with
  | zero => simp [hops]
  | succ fuel ih =>
      simp only [hops]
      split
      · intro c hc
        exact ⟨url, w, List.mem_singleton.mp hc⟩
      · intro c hc
        rcases List.mem_cons.mp hc with hc | hc
        · exact ⟨url, w, hc⟩
        · exact ih _ _ c hc

theorem called_tryPeers (serve : Server σ) (queue : Bool) (peers : List Peer)
    (failures : List PeerFailure) (w : World σ) :
    ∀ c ∈ (x.tryPeers serve operation body queue peers failures w).calls,
      ∃ url v, c = x.callOf serve operation body url v := by
  induction peers generalizing failures w with
  | nil => simp [tryPeers]
  | cons peer peers ih =>
      have hslot (v : World σ) : ∀ c ∈ (x.attempt serve operation body queue peer v).calls,
          ∃ url v, c = x.callOf serve operation body url v := by
        simp only [attempt]
        split
        · simp
        · exact called_hops serve _ _ _
      simp only [tryPeers]
      split
      · exact hslot _
      · exact hslot _
      · intro c hc
        rcases List.mem_append.mp hc with hc | hc
        · exact hslot _ c hc
        · exact ih _ _ c hc

theorem called_walk (serve : Server σ) (queue : Bool) (w : World σ) :
    ∀ c ∈ (x.walk serve operation body queue w).calls,
      ∃ url v, c = x.callOf serve operation body url v := by
  simp only [walk]
  split
  · simp
  · exact called_tryPeers serve queue _ _ _

theorem requests_callOf (hd : operation.isData = true) (serve : Server σ) (url : List Char)
    (w : World σ) : (x.callOf serve operation body url w).requests =
      ((x.callOf serve operation body url w).request? x.config.timeout).toList.length := by
  have hm : methodOf operation = .post := by rw [methodOf, if_pos hd]
  simp only [callOf, Call.request?, hm, Client.sent_send, List.length_append,
    Nat.add_sub_cancel_left]

/-- The world that was left holds the requests of the calls behind those of before. -/
def Delivers {α : Type} (x : Executor) (w : World σ) (r : Run σ α) : Prop :=
  r.world.sent = w.sent ++ r.calls.filterMap (Call.request? x.config.timeout)

theorem quiet_noteRedirect (x : Executor) (url : List Char) (r : Redirect) (w : World σ) :
    w.Quiet (x.noteRedirect url r w) := by
  unfold noteRedirect
  cases r.passage <;> exact ⟨rfl, rfl⟩

theorem delivers_hops (serve : Server σ) (hd : operation.isData = true) (fuel : Nat)
    (url : List Char) (w : World σ) : x.Delivers w (x.hops serve operation peer body fuel url w) := by
  have hm : methodOf operation = .post := by rw [methodOf, if_pos hd]
  -- Induction on the hops that are left: each sends its request before the next ones send theirs.
  induction fuel generalizing url w with
  | zero => simp [Delivers, hops]
  | succ fuel ih =>
      have hs := x.client.sent_send serve url body x.config.timeout w
      rw [Delivers, hops, hm]
      generalize x.client.send serve .post url body x.config.timeout w = sent at hs ⊢
      cases x.next operation peer url sent.1 with
      | done a =>
          simp only [List.filterMap_cons, List.filterMap_nil, Call.request?, hs]
          cases (Client.prepare .post url body x.config.timeout).toOption <;> rfl
      | onward r =>
          have hw := (quiet_noteRedirect x url r sent.2).2
          have hrest := ih r.target (x.noteRedirect url r sent.2)
          simp only [Delivers, hw, hs] at hrest
          simp only [Run.after, List.singleton_append, List.filterMap_cons, Call.request?, hrest]
          cases (Client.prepare .post url body x.config.timeout).toOption <;> simp

theorem delivers_attempt (serve : Server σ) (hd : operation.isData = true) (queue : Bool)
    (w : World σ) : x.Delivers w (x.attempt serve operation body queue peer w) := by
  simp only [attempt]
  split
  · simp [Delivers]
  · exact delivers_hops serve hd _ _ { w with journal := _ }

theorem delivers_tryPeers (serve : Server σ) (hd : operation.isData = true) (queue : Bool)
    (peers : List Peer) (failures : List PeerFailure) (w : World σ) :
    x.Delivers w (x.tryPeers serve operation body queue peers failures w) := by
  induction peers generalizing failures w with
  | nil => simp [Delivers, tryPeers, World.log]
  | cons peer peers ih =>
      have hslot (message : String) :
          x.Delivers (w.note x.tracer message)
            (x.attempt serve operation body queue peer (w.note x.tracer message)) :=
        delivers_attempt serve hd queue _
      simp only [Delivers] at hslot
      rw [Delivers, tryPeers]
      dsimp only
      split
      · exact hslot _
      · exact hslot _
      · next f _ =>
          simp only [Run.after]
          rw [ih, List.filterMap_append, ← List.append_assoc]
          congr 1
          exact hslot _

theorem delivers_walk (serve : Server σ) (hd : operation.isData = true) (queue : Bool)
    (w : World σ) : x.Delivers w (x.walk serve operation body queue w) := by
  rw [walk.eq_def]
  split
  · simp [Delivers]
  · next peer peers _ =>
      exact delivers_tryPeers serve hd queue (peer :: peers) [] (w.note x.tracer _)

end Executor

end SqlCluster
