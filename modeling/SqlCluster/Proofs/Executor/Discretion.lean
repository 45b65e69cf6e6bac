import SqlCluster.Proofs.Executor.Failover
import SqlCluster.Proofs.Executor.TwinRun
import SqlCluster.Http.Script
/-!
Discretion. What a run comes to and what it leaves in the journal do not depend on the password.
-/
namespace SqlCluster

open Text Uri Http

theorem Http.Script.blind_serve : Blind Script.serve := by
  intro routes r q h
  have hu : r.url.withUser [] = q.url.withUser [] := congrArg Request.url h
  have hp : Script.peerOf r.url = Script.peerOf q.url :=
    calc Script.peerOf r.url = Script.peerOf (r.url.withUser []) := rfl
      _ = Script.peerOf (q.url.withUser []) := by rw [hu]
      _ = Script.peerOf q.url := rfl
  have hq : Script.pathOf r.url = Script.pathOf q.url :=
    calc Script.pathOf r.url = Script.pathOf (r.url.withUser []) := rfl
      _ = Script.pathOf (q.url.withUser []) := by rw [hu]
      _ = Script.pathOf q.url := rfl
  rw [Script.serve, Script.serve, hp, hq]

namespace World

variable {σ : Type} {named : Prop} {kind : Url → Prop}

theorem Alike.refl (w : World σ) : w.Alike named kind w :=
  ⟨rfl, List.forall₂_same.mpr fun r _ => .refl r, fun _ => rfl⟩

end World

namespace Executor

variable {σ : Type} {serve : Server σ}

/-- With two passwords of one name, and a server that shows them only where it quotes a URL, a run
comes to the same and leaves the same diagnostics, unless a URL that holds one is too long. -/
theorem execute_password (x : Executor) (a b : Account) (hab : a.username = b.username)
    (hd : Discreet serve) (operation : Operation) (body : List UInt8) (queue : Bool) (w : World σ)
    (hp : ∀ peer ∈ x.topology.orderedPeers x.favorSeed, peer.IsNamed)
    (hf : ((x.withAccount a).walk serve operation body queue w).Fits
      ((x.withAccount b).walk serve operation body queue w)) :
    ((x.withAccount a).execute serve operation body queue w).1 =
        ((x.withAccount b).execute serve operation body queue w).1 ∧
      ((x.withAccount a).execute serve operation body queue w).2.journal =
        ((x.withAccount b).execute serve operation body queue w).2.journal := by
  have cover : Covers x operation queue fun _ => True :=
    ⟨fun _ _ _ => trivial, fun _ _ _ _ _ _ => trivial, fun _ _ _ _ _ => trivial⟩
  have hname : a.login.Alike True b.login := fun _ => Account.sameName hab
  have hrun : Run.Alike True (fun _ => True) (fun _ => True) (OutcomeAlike True) _ _ :=
    walk_alike cover hname hd (fun _ _ _ _ => trivial) (.inr fun _ => trivial) hp
      (World.Alike.refl w) hf
  refine ⟨?_, hrun.world.journal trivial⟩
  have hout := hrun.outcome
  simp only [execute]
  generalize ((x.withAccount a).walk serve operation body queue w).outcome = o at hout ⊢
  generalize ((x.withAccount b).walk serve operation body queue w).outcome = p at hout ⊢
  cases hout with
  | refl o => rfl
  | exhausted h => rw [h trivial]

/-- A server that refuses every connection and quotes the URL. -/
def urlQuotingServer : Server Unit := fun s r =>
  (.failure ⟨.connect, String.ofList (joinWith r.url.text ["no way to ".toList, []])⟩, s)

theorem discreet_urlQuotingServer : Discreet urlQuotingServer := by
  intro s r q _
  exact ⟨rfl, .quoting .connect ["no way to ".toList, []]⟩

def shortPassword : Account := ⟨"u", "p", by decide, by decide⟩

def otherPassword : Account := ⟨"u", "secret", by decide, by decide⟩

theorem twoPeers_named :
    ∀ peer ∈ twoPeers.topology.orderedPeers twoPeers.favorSeed, peer.IsNamed := by
  intro peer hp
  have hmem : peer ∈ [(⟨"a", 4001⟩ : Peer), ⟨"b", 4001⟩] := hp
  rcases List.mem_cons.mp hmem with rfl | hmem
  · exact ⟨by decide, by decide, by decide⟩
  · rw [List.mem_singleton.mp hmem]
    exact ⟨by decide, by decide, by decide⟩

theorem shortPassword_otherPassword_alike :
    shortPassword.username = otherPassword.username ∧
      shortPassword.password ≠ otherPassword.password ∧ Discreet urlQuotingServer ∧
      (∀ peer ∈ twoPeers.topology.orderedPeers twoPeers.favorSeed, peer.IsNamed) ∧
      ((twoPeers.withAccount shortPassword).walk urlQuotingServer .execute [] false
          ⟨(), [], .empty⟩).Fits
        ((twoPeers.withAccount otherPassword).walk urlQuotingServer .execute [] false
          ⟨(), [], .empty⟩) ∧
      ((twoPeers.withAccount shortPassword).execute urlQuotingServer .execute [] false
            ⟨(), [], .empty⟩).1 =
          ((twoPeers.withAccount otherPassword).execute urlQuotingServer .execute [] false
            ⟨(), [], .empty⟩).1 ∧
        ((twoPeers.withAccount shortPassword).execute urlQuotingServer .execute [] false
            ⟨(), [], .empty⟩).2.journal =
          ((twoPeers.withAccount otherPassword).execute urlQuotingServer .execute [] false
            ⟨(), [], .empty⟩).2.journal :=
  ⟨rfl, by decide, discreet_urlQuotingServer, twoPeers_named, by decide +kernel,
    execute_password twoPeers shortPassword otherPassword rfl discreet_urlQuotingServer .execute []
      false ⟨(), [], .empty⟩ twoPeers_named (by decide +kernel)⟩

section TooLong

variable {x : Executor} {operation : Operation} {queue : Bool} {peer : Peer}

theorem send_of_tooLong (client : Client) (serve : Server σ) (method : Method) {url : List Char}
    (h : maxLength < url.length) (body : List UInt8) (timeout : Value) (w : World σ) :
    client.send serve method url body timeout w = (.error tooLong, w) := by
  have hc : checkText "" url = .error .tooLong := if_pos h
  have hp : Client.prepare method url body timeout = .error tooLong := by
    simp only [Client.prepare, Client.target, Url.parse, hc]
    rfl
  rw [Client.send, hp]

def Overlong (x : Executor) (operation : Operation) (queue : Bool) (peers : List Peer) : Prop :=
  ∀ peer ∈ peers, ∃ url, x.config.assembleUrl? operation peer queue = some url ∧
    maxLength < url.length

theorem attempt_of_tooLong (serve : Server σ) (body : List UInt8) (hm : 0 ≤ x.maxRedirects)
    {url : List Char}
    (hu : x.config.assembleUrl? operation peer queue = some url) (hl : maxLength < url.length)
    (w : World σ) :
    (∃ f, (x.attempt serve operation body queue peer w).outcome = .failed f) ∧
      (x.attempt serve operation body queue peer w).world.sent = w.sent := by
  have hfuel : (x.maxRedirects + 1).toNat = x.maxRedirects.toNat + 1 := Int.toNat_add hm (by decide)
  simp only [attempt, hu, hfuel, hops, send_of_tooLong x.client serve _ hl]
  exact ⟨⟨_, rfl⟩, rfl⟩

theorem tryPeers_of_overlong (serve : Server σ) (body : List UInt8) (hm : 0 ≤ x.maxRedirects)
    {peers : List Peer}
    (h : Overlong x operation queue peers) (fs : List PeerFailure) (w : World σ) :
    (∃ gs, (x.tryPeers serve operation body queue peers fs w).outcome =
        .error (.allPeersFailed gs)) ∧
      (x.tryPeers serve operation body queue peers fs w).world.sent = w.sent := by
  induction peers generalizing fs w with
  | nil => exact ⟨⟨fs, rfl⟩, rfl⟩
  | cons peer peers ih =>
      obtain ⟨⟨url, hu, hl⟩, hrest⟩ := List.forall_mem_cons.mp h
      simp only [tryPeers]
      generalize hv : w.note x.tracer _ = v
      have hsent : v.sent = w.sent := by rw [← hv]; rfl
      obtain ⟨⟨f, hf⟩, hw⟩ := attempt_of_tooLong serve body hm hu hl v
      simp only [hf]
      obtain ⟨hout, hworld⟩ := ih hrest (fs ++ [f]) _
      exact ⟨hout, hworld.trans (hw.trans hsent)⟩

theorem execute_of_overlong (serve : Server σ) (body : List UInt8) (hm : 0 ≤ x.maxRedirects)
    (hp : x.topology.orderedPeers x.favorSeed ≠ [])
    (h : Overlong x operation queue (x.topology.orderedPeers x.favorSeed)) (w : World σ) :
    (∃ fs, (x.execute serve operation body queue w).1 = .error (.allPeersFailed fs)) ∧
      (x.execute serve operation body queue w).2.sent = w.sent := by
  simp only [execute, walk]
  split
  · next he => exact absurd he hp
  · next peer peers hpeers =>
      rw [hpeers] at h
      exact tryPeers_of_overlong serve body hm h [] _

theorem overlong_withAccount {a : Account} (ha : maxLength ≤ a.password.toList.length)
    (hp : ∀ peer ∈ x.topology.orderedPeers x.favorSeed, peer.IsNamed) :
    Overlong (x.withAccount a) operation queue (x.topology.orderedPeers x.favorSeed) := by
  intro peer hpeer
  refine ⟨_, assembleUrl_withAccount x.config a operation queue (hp peer hpeer), ?_⟩
  have hsecret : a.login.secret = escape a.password.toList := rfl
  have hescape := length_le_escape a.password.toList
  have hlogin : a.login.text.length = a.login.name.length + (a.login.secret.length + 1) := by
    rw [Login.text, List.length_append, List.length_cons]
  have hdress := (x.config.place operation queue (hp peer hpeer)).length_lt_dress a.login
  rw [hsecret] at hlogin
  omega

end TooLong

def overlongPassword : Account :=
  ⟨"u", String.ofList (List.replicate maxLength 'p'), by decide, by
    rw [ne_eq, ← String.toList_inj, String.toList_ofList]
    exact List.cons_ne_nil _ _⟩

theorem shortPassword_overlongPassword_differ :
    shortPassword.username = overlongPassword.username ∧ Discreet Script.serve ∧
      (∀ peer ∈ twoPeers.topology.orderedPeers twoPeers.favorSeed, peer.IsNamed) ∧
      ((twoPeers.withAccount shortPassword).execute Script.serve .execute [] false
        ⟨firstPeerDown, [], .empty⟩).1 = .ok [111, 107] ∧
      ∃ fs, ((twoPeers.withAccount overlongPassword).execute Script.serve .execute [] false
        ⟨firstPeerDown, [], .empty⟩).1 = .error (.allPeersFailed fs) := by
  have hover : Overlong (twoPeers.withAccount overlongPassword) .execute false
      (twoPeers.topology.orderedPeers twoPeers.favorSeed) :=
    overlong_withAccount (by simp [overlongPassword]) twoPeers_named
  exact ⟨rfl, Script.blind_serve.discreet, twoPeers_named, rfl,
    (execute_of_overlong Script.serve [] (by decide) (by decide) hover _).1⟩

end Executor

end SqlCluster
