import SqlCluster.Proofs.Executor.Inline
/-!
What an executor tells. Whichever sink its lines go to, the requests and what comes of them are the
same.
-/
namespace SqlCluster

open Text Uri Http

variable {σ α β γ : Type}

/-- It tells a transcript, whatever comes of it. -/
def Told (id : List Char) (h : Prop) (f : Sink → Journal → α × World σ) : Prop :=
  Tells id (Tidy h) (fun _ => True) f

theorem Told.value (id : List Char) (h : Prop) (a : α) (server : σ) (sent : List Request) :
    Told id h fun _ j => (a, ⟨server, sent, j⟩) :=
  Tells.pure trivial server sent

theorem Told.elim {id : List Char} {h : Prop} {f : Sink → Journal → α × World σ}
    (hf : Told id h f) : ∃ a server sent es, (∀ e ∈ es, Tidy h e) ∧
      ∀ sink j, f sink j = (a, ⟨server, sent, j.replay ⟨sink, id⟩ es⟩) := by
  obtain ⟨a, server, sent, es, -, hes, hf⟩ := hf
  exact ⟨a, server, sent, es, hes, hf⟩

namespace Http.Client

theorem exchange_journal (serve : Server σ) (r : Request) (w : World σ) (j : Journal) :
    exchange serve r { w with journal := j } =
      ((exchange serve r w).1, { (exchange serve r w).2 with journal := j }) := by
  simp only [exchange, World.exchange]
  cases (serve w.server r).1 <;> rfl

theorem sendOnce_journal (serve : Server σ) (r : Request) (w : World σ) (j : Journal) :
    sendOnce serve r { w with journal := j } =
      ((sendOnce serve r w).1, { (sendOnce serve r w).2 with journal := j }) := by
  simp only [sendOnce, exchange_journal]
  generalize exchange serve r w = p
  rcases p with ⟨answer, v⟩
  cases answer with
  | error e => rfl
  | ok res =>
      simp only
      split <;> rfl

theorem follow_journal (serve : Server σ) (fuel : Nat) (r : Request) (w : World σ) (j : Journal) :
    follow serve fuel r { w with journal := j } =
      ((follow serve fuel r w).1, { (follow serve fuel r w).2 with journal := j }) := by
  induction fuel generalizing r w with
  | zero => rfl
  | succ fuel ih =>
      simp only [follow, exchange_journal]
      generalize exchange serve r w = p
      rcases p with ⟨answer, v⟩
      cases answer with
      | error e => rfl
      | ok res =>
          simp only
          split
          · rfl
          · rfl
          · exact ih _ v

theorem send_journal (client : Client) (serve : Server σ) (method : Method) (url : List Char)
    (body : List UInt8) (timeout : Value) (w : World σ) (j : Journal) :
    client.send serve method url body timeout { w with journal := j } =
      ((client.send serve method url body timeout w).1,
        { (client.send serve method url body timeout w).2 with journal := j }) := by
  simp only [send]
  cases prepare method url body timeout with
  | error e => rfl
  | ok r =>
      cases method with
      | get => exact follow_journal serve _ r w j
      | post => exact sendOnce_journal serve r w j

end Http.Client

def Run.result (r : Run σ α) : α × World σ := (r.outcome, r.world)

theorem Tells.elim_run {id : List Char} {fits : Event → Prop} {outcome : α → Prop}
    {g : Sink → Journal → Run σ α} (hg : Tells id fits outcome fun sink j => (g sink j).result) :
    ∃ a server sent es, outcome a ∧ (∀ e ∈ es, fits e) ∧ ∀ sink j, (g sink j).outcome = a ∧
      (g sink j).world = ⟨server, sent, j.replay ⟨sink, id⟩ es⟩ := by
  obtain ⟨a, server, sent, es, ha, hes, hg⟩ := hg
  refine ⟨a, server, sent, es, ha, hes, ?_⟩
  intro sink j
  exact Prod.mk.inj (hg sink j)

namespace Executor

def through (x : Executor) (sink : Sink) : Executor := { x with tracer := ⟨sink, x.tracer.id⟩ }

variable {x : Executor} {serve : Server σ} {operation : Operation} {peer : Peer}
  {body : List UInt8} {queue : Bool} {url : List Char} {h : Prop} {server : σ}
  {sent : List Request}

theorem tells_noteRedirect {give : Sink → α → World σ → β} {outcome : α → Prop}
    {g : Sink → World σ → β} {r : Redirect} (hu : h → Inline url) (hs : h → Inline r.spelled)
    (ht : h → Inline r.target)
    (hg : TellsAs give x.tracer.id (Tidy h) outcome fun sink j => g sink ⟨server, sent, j⟩) :
    TellsAs give x.tracer.id (Tidy h) outcome fun sink j =>
      g sink ((x.through sink).noteRedirect url r ⟨server, sent, j⟩) := by
  have hmoved : Tidy h (.notice (.redirected url r.target)) := by
    refine tidy_of_texts fun hh => List.forall_mem_cons.mpr ⟨inline_shownUrl (hu hh), ?_⟩
    exact List.forall_mem_singleton.mpr (inline_shownUrl (ht hh))
  have hline := hg.note hmoved
  cases hp : r.passage with
  | plain =>
      simp only [noteRedirect, hp]
      exact hline
  | admitted url =>
      simp only [noteRedirect, hp]
      exact hline
  | foreign host port =>
      have hwithheld : Tidy h (.notice (.withheld r.spelled)) :=
        tidy_of_texts fun hh => List.forall_mem_singleton.mpr (inline_shownUrl (hs hh))
      have hwarned (m : String) :=
        (hline.log (r := ⟨.warning, .executor, m⟩) trivial).note hwithheld
      simp only [noteRedirect, hp]
      exact hwarned _

/-- The URL that a failure shows has no line ends in it, under a condition. -/
def ShowsInline (h : Prop) (a : Attempt) : Prop :=
  ∀ f, a = .failed f → h → Inline f.url.toList

theorem tells_hops (x : Executor) (serve : Server σ) (operation : Operation) (peer : Peer)
    (body : List UInt8) (fuel : Nat) (hu : h → Inline url) (server : σ) (sent : List Request) :
    Tells x.tracer.id (Tidy h) (ShowsInline h) fun sink j =>
      ((x.through sink).hops serve operation peer body fuel url ⟨server, sent, j⟩).result := by
  induction fuel generalizing url server sent with
  | zero =>
      have ha : ShowsInline h (failure peer url .redirect
          ("more than " ++ toString x.maxRedirects ++ " redirects") none) := by
        intro f hf hh
        simp only [failure, Attempt.failed.injEq] at hf
        rw [← hf]
        exact inline_shownUrl (hu hh)
      exact Tells.pure ha server sent
  | succ fuel ih =>
      let s := x.client.send serve (methodOf operation) url body x.config.timeout
        ⟨server, sent, .empty⟩
      have hsend (sink : Sink) (j : Journal) : x.client.send serve (methodOf operation) url body
          (x.through sink).config.timeout ⟨server, sent, j⟩ = (s.1, { s.2 with journal := j }) :=
        x.client.send_journal serve (methodOf operation) url body x.config.timeout
          ⟨server, sent, .empty⟩ j
      have hclient (sink : Sink) : (x.through sink).client = x.client := rfl
      have hnext (sink : Sink) : (x.through sink).next operation peer url s.1 =
          x.next operation peer url s.1 := rfl
      cases hn : x.next operation peer url s.1 with
      | done a =>
          have ha : ShowsInline h a := by
            rintro f rfl hh
            rw [url_of_next hn]
            exact inline_shownUrl (hu hh)
          refine (Tells.pure ha s.2.server s.2.sent).congr ?_
          intro sink j
          simp only [hops, hclient, hsend, hnext, hn]
          rfl
      | onward r =>
          have hr (hh : h) := inline_onward (hu hh) hn
          have hrest := ih (fun hh => (hr hh).2) s.2.server s.2.sent
          have htold := tells_noteRedirect (g := fun sink w =>
            ((x.through sink).hops serve operation peer body fuel r.target w).result)
            hu (fun hh => (hr hh).1) (fun hh => (hr hh).2) hrest
          refine htold.congr ?_
          intro sink j
          simp only [hops, hclient, hsend, hnext, hn]
          rfl

theorem tells_attempt (hp : h → peer.IsInline) (server : σ) (sent : List Request) :
    Tells x.tracer.id (Tidy h) (ShowsInline h) fun sink j =>
      ((x.through sink).attempt serve operation body queue peer ⟨server, sent, j⟩).result := by
  have hconfig (sink : Sink) : (x.through sink).config = x.config := rfl
  cases hu : x.config.assembleUrl? operation peer queue with
  | none =>
      have ha : ShowsInline h (.escaped .unquotable) := by
        intro f hf
        cases hf
      refine (Tells.pure ha server sent).congr ?_
      intro sink j
      simp only [attempt, hconfig, hu]
      rfl
  | some url =>
      have hurl (hh : h) : Inline url := inline_assembleUrl (hp hh) hu
      have hassembled : Tidy h (.notice (.assembled operation url)) := by
        refine tidy_of_texts fun hh => List.forall_mem_cons.mpr ⟨inline_name operation, ?_⟩
        exact List.forall_mem_singleton.mpr (inline_shownUrl (hurl hh))
      have hhops := tells_hops x serve operation peer body (x.maxRedirects + 1).toNat hurl server
        sent
      refine (hhops.note hassembled).congr ?_
      intro sink j
      simp only [attempt, hconfig, hu]
      rfl

theorem tells_tryPeers (x : Executor) (serve : Server σ) (operation : Operation) (body : List UInt8)
    (queue : Bool) {peers : List Peer} (hp : h → ∀ p ∈ peers, p.IsInline)
    (failures : List PeerFailure) (server : σ) (sent : List Request) :
    Told x.tracer.id h fun sink j =>
      ((x.through sink).tryPeers serve operation body queue peers failures
        ⟨server, sent, j⟩).result := by
  induction peers generalizing failures server sent with
  | nil =>
      have hnone : Told x.tracer.id h fun _ j =>
          (Except.error (α := List UInt8) (Fault.allPeersFailed failures), ⟨server, sent, j⟩) :=
        .value _ h _ server sent
      exact hnone.log (r := ⟨.warning, .executor, _⟩) trivial
  | cons peer peers ih =>
      have hpeer (hh : h) : peer.IsInline := hp hh peer List.mem_cons_self
      have hpeers (hh : h) : ∀ p ∈ peers, p.IsInline :=
        fun p hm => hp hh p (List.mem_cons_of_mem peer hm)
      have htrying : Tidy h (.notice (.trying failures.length peer)) :=
        tidy_of_texts fun hh => List.forall_mem_singleton.mpr (hpeer hh).address
      have hattempt : Tells x.tracer.id (Tidy h) (ShowsInline h) fun sink j =>
          ((x.through sink).attempt serve operation body queue peer ⟨server, sent, j⟩).result :=
        tells_attempt hpeer server sent
      obtain ⟨a, served, asked, es, hshows, hes, ha⟩ := hattempt.elim_run
      cases a with
      | answered content =>
          have hanswered : Tidy h (.notice (.peerAnswered failures.length)) :=
            tidy_of_texts fun _ => List.forall_mem_nil _
          have hdone : Told x.tracer.id h fun _ j =>
              (Except.ok (ε := Fault) content, ⟨served, asked, j⟩) := .value _ h _ served asked
          have htold := ((hdone.note hanswered).after hes).note htrying
          refine htold.congr ?_
          intro sink j
          simp only [tryPeers, World.note, ha]
          rfl
      | escaped f =>
          have hdone : Told x.tracer.id h fun _ j =>
              (Except.error (α := List UInt8) f, ⟨served, asked, j⟩) := .value _ h _ served asked
          have htold := (hdone.after hes).note htrying
          refine htold.congr ?_
          intro sink j
          simp only [tryPeers, World.note, ha]
          rfl
      | failed f =>
          have hfailed : Tidy h (.notice (.peerFailed failures.length f)) :=
            tidy_peerFailed (hshows f rfl) failures.length
          have hrest := (ih hpeers (failures ++ [f]) served asked).log (r := ⟨.debug, .executor,
            "peer " ++ peer.address ++ " failed: " ++ f.text⟩) trivial
          have htold := ((hrest.note hfailed).after hes).note htrying
          refine htold.congr ?_
          intro sink j
          simp only [tryPeers, World.note, ha]
          rfl

theorem tells_execute (hp : h → ∀ p ∈ x.topology.orderedPeers x.favorSeed, p.IsInline)
    (server : σ) (sent : List Request) :
    Told x.tracer.id h fun sink j =>
      (x.through sink).execute serve operation body queue ⟨server, sent, j⟩ := by
  have hpeers (sink : Sink) : (x.through sink).topology.orderedPeers (x.through sink).favorSeed =
      x.topology.orderedPeers x.favorSeed := rfl
  cases ho : x.topology.orderedPeers x.favorSeed with
  | nil =>
      refine (Told.value _ h (Except.error Fault.noPeers) server sent).congr ?_
      intro sink j
      simp only [execute, walk, hpeers, ho]
  | cons peer peers =>
      rw [ho] at hp
      have hcount : Tidy h (.notice (.peersToTry operation (peers.length + 1))) :=
        tidy_of_texts fun _ => List.forall_mem_singleton.mpr (inline_name operation)
      have htried := tells_tryPeers x serve operation body queue hp [] server sent
      refine (htried.note hcount).congr ?_
      intro sink j
      simp only [execute, walk, hpeers, ho]
      rfl

end Executor

end SqlCluster
