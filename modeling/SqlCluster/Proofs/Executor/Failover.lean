import SqlCluster.Proofs.Executor.Tour
import SqlCluster.Http.Script
/-!
Failover: the peers are asked in their order, each in one block of requests, up to the first whose
block ends in a success.
-/
namespace SqlCluster.Executor

open Http

variable {σ : Type} {x : Executor} {operation : Operation} {queue : Bool} {peer : Peer}

def OpensAt (x : Executor) (operation : Operation) (queue : Bool) (peer : Peer)
    (block : List Call) : Prop :=
  ∃ c rest, block = c :: rest ∧ x.config.assembleUrl? operation peer queue = some c.url

def EndsIn (P : Call → Prop) (block : List Call) : Prop :=
  ∃ c, block.getLast? = some c ∧ P c

def PassedOver (x : Executor) (operation : Operation) (queue : Bool) (peer : Peer)
    (block : List Call) : Prop :=
  OpensAt x operation queue peer block ∧ ∀ content, ¬EndsIn (·.Succeeded content) block

/-- One block per peer of some first peers: the last block ends as given, those before it are
passed over. -/
def StopsWith (x : Executor) (operation : Operation) (queue : Bool) (P : Call → Prop)
    (calls : List Call) : Prop :=
  ∃ before peer after blocks block,
    x.topology.orderedPeers x.favorSeed = before ++ peer :: after ∧
      calls = blocks.flatten ++ block ∧
      List.Forall₂ (PassedOver x operation queue) before blocks ∧
      OpensAt x operation queue peer block ∧ EndsIn P block

/-- What an executor does with the peers in their order. -/
structure FailsOver (x : Executor) (serve : Server σ) (operation : Operation) (body : List UInt8)
    (queue : Bool) (w : World σ) : Prop where
  unpeopled : x.topology.orderedPeers x.favorSeed = [] →
    x.execute serve operation body queue w = (.error .noPeers, w) ∧
      (x.walk serve operation body queue w).calls = []
  answered : ∀ content, (x.execute serve operation body queue w).1 = .ok content →
    StopsWith x operation queue (·.Succeeded content) (x.walk serve operation body queue w).calls
  exhausted : ∀ failures,
    (x.execute serve operation body queue w).1 = .error (.allPeersFailed failures) →
      ∃ blocks, (x.walk serve operation body queue w).calls = blocks.flatten ∧
        List.Forall₂ (PassedOver x operation queue) (x.topology.orderedPeers x.favorSeed) blocks ∧
        failures.map (·.peer) = (x.topology.orderedPeers x.favorSeed).map Peer.address
  cancelled : (x.execute serve operation body queue w).1 = .error .cancelled →
    StopsWith x operation queue (·.answer = .error .cancelled)
      (x.walk serve operation body queue w).calls
  cancels : ∀ c ∈ (x.walk serve operation body queue w).calls, c.answer = .error .cancelled →
    (x.execute serve operation body queue w).1 = .error .cancelled

theorem Turn.opensAt {body : List UInt8} {calls : List Call} {a : Attempt}
    (h : Turn x operation body queue peer calls a) (hm : 0 ≤ x.maxRedirects) :
    OpensAt x operation queue peer calls := by
  obtain ⟨url, hu, hc⟩ := h
  have hf : (x.maxRedirects + 1).toNat = x.maxRedirects.toNat + 1 := by omega
  rw [hf] at hc
  obtain ⟨c, rest, hcalls, hurl⟩ := hc.head_url
  exact ⟨c, rest, hcalls, by rw [hurl, hu]⟩

theorem Turn.passedOver {body : List UInt8} {calls : List Call} {f : PeerFailure}
    (h : Turn x operation body queue peer calls (.failed f)) (hm : 0 ≤ x.maxRedirects) :
    PassedOver x operation queue peer calls := by
  refine ⟨h.opensAt hm, ?_⟩
  rintro content ⟨c, hlast, hs⟩
  obtain ⟨url, -, hc⟩ := h
  have ha := hc.answered_of_mem (List.mem_of_getLast? hlast) hs
  cases ha

theorem Tried.passedOver {body : List UInt8} {peers : List Peer}
    {slots : List (List Call × PeerFailure)} (h : Tried x operation body queue peers slots)
    (hm : 0 ≤ x.maxRedirects) :
    List.Forall₂ (PassedOver x operation queue) peers (slots.map (·.1)) := by
  induction h with
  | nil => exact .nil
  | cons ht _ ih => exact .cons (ht.passedOver hm) ih

theorem Tried.peers {body : List UInt8} {peers : List Peer}
    {slots : List (List Call × PeerFailure)} (h : Tried x operation body queue peers slots) :
    slots.map (·.2.peer) = peers.map Peer.address := by
  induction h with
  | nil => rfl
  | cons ht _ ih =>
      obtain ⟨url, -, hc⟩ := ht
      rw [List.map_cons, List.map_cons, ih, hc.peer_of_failed rfl]

theorem Tried.not_cancelled {body : List UInt8} {peers : List Peer}
    {slots : List (List Call × PeerFailure)} (h : Tried x operation body queue peers slots) {c : Call}
    (hc : c ∈ slots.flatMap (·.1)) : c.answer ≠ .error .cancelled := by
  induction h with
  | nil => simp at hc
  | @cons _ slot _ _ ht _ ih =>
      rw [List.flatMap_cons, List.mem_append] at hc
      rcases hc with hc | hc
      · intro hcancel
        obtain ⟨url, -, hchain⟩ := ht
        have ha := hchain.cancelled_of_mem hc hcancel
        cases ha
      · exact ih hc

theorem stopsWith_of_turn {body : List UInt8} {before after : List Peer} {calls : List Call}
    {slots : List (List Call × PeerFailure)} {a : Attempt} {P : Call → Prop}
    (hm : 0 ≤ x.maxRedirects)
    (hp : x.topology.orderedPeers x.favorSeed = before ++ peer :: after)
    (tried : Tried x operation body queue before slots)
    (ht : Turn x operation body queue peer calls a) (hlast : EndsIn P calls) :
    StopsWith x operation queue P (slots.flatMap (·.1) ++ calls) :=
  ⟨before, peer, after, slots.map (·.1), calls, hp, by rw [List.flatMap_def],
    tried.passedOver hm, ht.opensAt hm, hlast⟩

section Endings

variable {body : List UInt8} {calls : List Call} {outcome : Except Fault (List UInt8)}
  (h : Tour x operation body queue (x.topology.orderedPeers x.favorSeed) [] calls outcome)
include h

theorem Tour.stopsWith_success (hm : 0 ≤ x.maxRedirects) {content : List UInt8}
    (ho : outcome = .ok content) : StopsWith x operation queue (·.Succeeded content) calls := by
  cases h with
  | exhausted _ => cases ho
  | stopped hp tried stop =>
      cases stop with
      | answered ht =>
          cases ho
          obtain ⟨url, hu, hc⟩ := ht
          exact stopsWith_of_turn hm hp tried ⟨url, hu, hc⟩ hc.last_of_answered
      | escaped _ => cases ho
      | unquotable _ => cases ho

theorem Tour.stopsWith_cancelled (hm : 0 ≤ x.maxRedirects) (ho : outcome = .error .cancelled) :
    StopsWith x operation queue (·.answer = .error .cancelled) calls := by
  cases h with
  | exhausted _ => cases ho
  | stopped hp tried stop =>
      cases stop with
      | answered _ => cases ho
      | escaped ht =>
          cases ho
          obtain ⟨url, hu, hc⟩ := ht
          exact stopsWith_of_turn hm hp tried ⟨url, hu, hc⟩ hc.last_of_cancelled
      | unquotable _ => cases ho

theorem Tour.exhausts (hm : 0 ≤ x.maxRedirects) {failures : List PeerFailure}
    (ho : outcome = .error (.allPeersFailed failures)) :
    ∃ blocks, calls = blocks.flatten ∧
      List.Forall₂ (PassedOver x operation queue) (x.topology.orderedPeers x.favorSeed) blocks ∧
      failures.map (·.peer) = (x.topology.orderedPeers x.favorSeed).map Peer.address := by
  cases h with
  | @exhausted slots tried =>
      have hf : failures = slots.map (·.2) := by simpa using ho.symm
      refine ⟨slots.map (·.1), by rw [List.flatMap_def], tried.passedOver hm, ?_⟩
      rw [hf, List.map_map]
      exact tried.peers
  | stopped _ _ stop =>
      cases stop with
      | answered _ => cases ho
      | escaped ht =>
          cases ho
          obtain ⟨url, -, hc⟩ := ht
          exact absurd rfl (hc.ne_allPeersFailed failures)
      | unquotable _ => cases ho

theorem Tour.cancelled_of_mem {c : Call} (hc : c ∈ calls) (hs : c.answer = .error .cancelled) :
    outcome = .error .cancelled := by
  cases h with
  | exhausted tried => exact absurd hs (tried.not_cancelled hc)
  | stopped _ tried stop =>
      rcases List.mem_append.mp hc with hc | hc
      · exact absurd hs (tried.not_cancelled hc)
      · cases stop with
        | answered ht =>
            obtain ⟨url, -, hchain⟩ := ht
            cases hchain.cancelled_of_mem hc hs
        | escaped ht =>
            obtain ⟨url, -, hchain⟩ := ht
            rw [Attempt.escaped.inj (hchain.cancelled_of_mem hc hs)]
        | unquotable _ => cases hc

end Endings

/-- Failover walks the ordered peers once, each in a block of its own, and the first success
wins. -/
theorem failsOver_of_nonneg (x : Executor) (serve : Server σ) (operation : Operation)
    (body : List UInt8) (queue : Bool) (w : World σ) (hm : 0 ≤ x.maxRedirects) :
    FailsOver x serve operation body queue w := by
  by_cases hp : x.topology.orderedPeers x.favorSeed = []
  · have hw : x.walk serve operation body queue w = ⟨[], .error .noPeers, w⟩ := by
      simp only [walk, hp]
    have he : x.execute serve operation body queue w = (.error .noPeers, w) := by
      simp only [execute, hw]
    refine ⟨fun _ => ⟨he, by rw [hw]⟩, ?_, ?_, ?_, ?_⟩
    · intro content h
      rw [he] at h
      cases h
    · intro failures h
      rw [he] at h
      cases h
    · intro h
      rw [he] at h
      cases h
    · intro c hc
      rw [hw] at hc
      cases hc
  · have tour : Tour x operation body queue _ [] _ _ := tour_walk serve queue w hp
    exact ⟨fun h => absurd h hp, fun _ => tour.stopsWith_success hm,
      fun _ => tour.exhausts hm, tour.stopsWith_cancelled hm, fun _ => tour.cancelled_of_mem⟩

def firstPeerDown : List Route :=
  [⟨"a:4001".toList, "/db/execute".toList, [.response ⟨503, [], []⟩]⟩,
    ⟨"b:4001".toList, "/db/execute".toList, [.response ⟨200, [], [111, 107]⟩]⟩]

theorem twoPeers_failsOver :
    0 ≤ twoPeers.maxRedirects ∧
      (twoPeers.execute Script.serve .execute [] false ⟨firstPeerDown, [], .empty⟩).1 = .ok [111, 107] ∧
      FailsOver twoPeers Script.serve .execute [] false ⟨firstPeerDown, [], .empty⟩ :=
  ⟨by decide, rfl, failsOver_of_nonneg twoPeers Script.serve .execute [] false _ (by decide)⟩

end SqlCluster.Executor
