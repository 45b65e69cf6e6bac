import SqlCluster.Proofs.Executor.Twin
/-!
Two runs of an executor with two accounts, step by step: one answer, one peer, all peers.
-/
namespace SqlCluster.Executor

open Text Uri Http

variable {σ : Type} {x : Executor} {a b : Account} {operation : Operation} {queue : Bool}
  {body : List UInt8} {named : Prop} {place : Place → Prop} {kind : Url → Prop} {peer : Peer}
  {serve : Server σ}

inductive HopAlike (named : Prop) (place : Place → Prop) : Hop → Hop → Prop
  | done {s t : Attempt} (h : s.Alike named t) : HopAlike named place (.done s) (.done t)
  | onward {r s : Redirect} (h : RedirectAlike named place r s) :
      HopAlike named place (.onward r) (.onward s)

theorem failure_alike {cs ds : List Char} (h : Uri.Alike named place cs ds) (peer : Peer)
    (kind : FailureKind) {d e : String} (hd : named → d = e) (status : Option Int) :
    (failure peer cs kind d status).Alike named (failure peer ds kind e status) :=
  .failed fun hn => by rw [shownUrl_alike h hn, hd hn]

theorem unsent_alike {cs ds : List Char} (h : Uri.Alike named place cs ds) (peer : Peer)
    (e : SendError) : (unsent peer cs e).Alike named (unsent peer ds e) := by
  cases e with
  | failed f => exact failure_alike h peer (kindOf f.cause) (fun _ => rfl) none
  | invalid e => exact failure_alike h peer (kindOf .invalidUrl) (fun _ => rfl) none
  | _ => exact .refl _

theorem isRedirect_codes {r : Response} (h : isRedirect operation r = true) :
    methodOf operation = .post ∧ Client.redirectCodes.contains r.status = true := by
  rw [isRedirect, Bool.and_eq_true] at h
  have hall : ∀ n ∈ redirectCodes, Client.redirectCodes.contains n = true := by decide
  refine ⟨by rw [methodOf, if_pos h.1], hall r.status ?_⟩
  simpa using h.2

theorem next_alike (cover : Covers x operation queue place) (hab : a.login.Alike named b.login)
    (peer : Peer) {cs ds : List Char} (h : Uri.Alike named place cs ds)
    {s t : Except SendError Response} (hst : AnswerAlike named s t)
    (hl : ∀ r, s = .ok r → isRedirect operation r = true →
      Within IsPlain (r.location?.getD "").toList) :
    HopAlike named place ((x.withAccount a).next operation peer cs s)
      ((x.withAccount b).next operation peer ds t) := by
  cases hst with
  | failed cause hmn =>
      refine .done (failure_alike h peer (kindOf cause) (fun hn => ?_) none)
      rw [described, described, hmn hn]
  | refl s =>
      cases s with
      | error e => exact .done (unsent_alike h peer e)
      | ok r =>
          simp only [next]
          split
          · next hr =>
              split
              · exact .done (failure_alike h peer _ (fun _ => rfl) _)
              · rcases redirect_alike cover hab h (hl r rfl hr) with ⟨f, hf, hg⟩ | ⟨p, q, hp, hq, hpq⟩
                · rw [hf, hg]
                  exact .done (.refl _)
                · rw [hp, hq]
                  exact .onward hpq
          · split
            · exact .done (.refl _)
            · split
              · exact .done (.refl _)
              · exact .done (failure_alike h peer _ (fun _ => rfl) _)

theorem mem_zip_append {α β : Type} {as : List α} {bs : List β} {p : α × β} (h : p ∈ as.zip bs)
    (as' : List α) (bs' : List β) : p ∈ (as ++ as').zip (bs ++ bs') := by
  induction as generalizing bs with
  | nil => simp at h
  | cons a as ih =>
      cases bs with
      | nil => simp at h
      | cons b bs =>
          rw [List.zip_cons_cons, List.mem_cons] at h
          rw [List.cons_append, List.cons_append, List.zip_cons_cons, List.mem_cons]
          exact h.imp id ih

theorem fits_after {α : Type} {calls calls' : List Call} {r s : Run σ α}
    (h : (r.after calls).Fits (s.after calls')) (hlen : calls.length = calls'.length) : r.Fits s := by
  intro p hp
  refine h p ?_
  simp only [Run.after, List.zip_append hlen]
  exact List.mem_append_right _ hp

theorem alike_after {α : Type} {R : α → α → Prop} {calls calls' : List Call} {r s : Run σ α}
    (hc : List.Forall₂ (Call.Alike named place) calls calls')
    (h : r.Alike named place kind R s) :
    (r.after calls).Alike named place kind R (s.after calls') :=
  ⟨List.rel_append hc h.calls, h.outcome, h.world⟩

theorem fits_first {y z : Executor} {fuel : Nat} {cs ds : List Char} {w v : World σ}
    (h : (y.hops serve operation peer body (fuel + 1) cs w).Fits
      (z.hops serve operation peer body (fuel + 1) ds v)) (hne : cs ≠ ds) :
    (y.callOf serve operation body cs w).cutShort? =
      (z.callOf serve operation body ds v).cutShort? := by
  obtain ⟨rest, hy⟩ := y.hops_calls serve operation peer body fuel cs w
  obtain ⟨rest', hz⟩ := z.hops_calls serve operation peer body fuel ds v
  rw [Run.Fits, hy, hz, List.zip_cons_cons] at h
  exact h _ List.mem_cons_self hne

theorem reply_of_fits {n : Nat} {s t : Except SendError Response × World σ} {c d : Call}
    (h : ReplyAlike named kind s t) (hn : n ≤ s.2.sent.length ∧ n ≤ t.2.sent.length)
    (hc : c.answer = s.1 ∧ c.requests = s.2.sent.length - n)
    (hd : d.answer = t.1 ∧ d.requests = t.2.sent.length - n) (hcut : c.cutShort? = d.cutShort?) :
    AnswerAlike named s.1 t.1 ∧ s.2.Alike named kind t.2 := by
  simp only [Call.cutShort?, hc, hd] at hcut
  cases h with
  | both ha hworld => exact ⟨ha, hworld⟩
  | left hw hy =>
      rw [if_pos rfl] at hcut
      split at hcut
      · next ht =>
          have hlen := hw.sent.length_eq
          simp only [Option.some.injEq] at hcut hn
          rw [ht, hy.eq (by omega)]
          exact ⟨.refl _, hw⟩
      · cases hcut
  | right hw hx =>
      rw [if_pos rfl] at hcut
      split at hcut
      · next hs =>
          have hlen := hw.sent.length_eq
          simp only [Option.some.injEq] at hcut hn
          rw [hs, hx.eq (by omega)]
          exact ⟨.refl _, hw⟩
      · cases hcut

theorem reply_alike (hd : Discreet serve) (hk : ∀ p u, place p → Reads p u → kind u)
    (hm : methodOf operation = .post ∨ ∀ u, kind u) {cs ds : List Char}
    (h : Uri.Alike named place cs ds) {w v : World σ} (hw : w.Alike named kind v)
    (hcut : cs ≠ ds → (x.callOf serve operation body cs w).cutShort? =
      (x.callOf serve operation body ds v).cutShort?) :
    AnswerAlike named (x.client.send serve (methodOf operation) cs body x.config.timeout w).1
        (x.client.send serve (methodOf operation) ds body x.config.timeout v).1 ∧
      (x.client.send serve (methodOf operation) cs body x.config.timeout w).2.Alike named kind
        (x.client.send serve (methodOf operation) ds body x.config.timeout v).2 := by
  by_cases hcd : cs = ds
  · subst hcd
    obtain ⟨ha, hworld⟩ :=
      send_same x.client serve (methodOf operation) cs body x.config.timeout hw
    rw [ha]
    exact ⟨.refl _, hworld⟩
  · have hgoes (cs : List Char) (w : World σ) := (x.client.goesOn_send serve
      (methodOf operation) cs body x.config.timeout w).length_le
    have hlen := hw.sent.length_eq
    exact reply_of_fits (send_alike x.client hd hk hm body x.config.timeout h hw)
      ⟨hgoes cs w, hlen ▸ hgoes ds v⟩ ⟨rfl, rfl⟩ ⟨rfl, by rw [hlen]; rfl⟩ (hcut hcd)

theorem plain_location_of_isRedirect {client : Client} {cs : List Char} {timeout : Value}
    {w : World σ} {r : Response}
    (h : (client.send serve (methodOf operation) cs body timeout w).1 = .ok r)
    (hr : isRedirect operation r = true) : Within IsPlain (r.location?.getD "").toList := by
  obtain ⟨hpost, hcode⟩ := isRedirect_codes hr
  rw [hpost] at h
  cases hloc : r.location? with
  | none => exact within_nil
  | some location => exact plain_location_of_send h hcode hloc

theorem tryPeers_calls (y : Executor) (serve : Server σ) (operation : Operation) (body : List UInt8)
    (queue : Bool) (peer : Peer) (peers : List Peer) (fs : List PeerFailure) (w : World σ) :
    ∃ rest, (y.tryPeers serve operation body queue (peer :: peers) fs w).calls =
      (y.attempt serve operation body queue peer (w.note y.tracer
        ("trying peer #" ++ toString fs.length ++ ": " ++ peer.address))).calls ++ rest := by
  simp only [tryPeers]
  split
  · exact ⟨[], (List.append_nil _).symm⟩
  · exact ⟨[], (List.append_nil _).symm⟩
  · exact ⟨_, rfl⟩

theorem fits_attempt {y z : Executor} {peers : List Peer} {fs gs : List PeerFailure} {w v : World σ}
    (h : (y.tryPeers serve operation body queue (peer :: peers) fs w).Fits
      (z.tryPeers serve operation body queue (peer :: peers) gs v)) :
    (y.attempt serve operation body queue peer (w.note y.tracer
        ("trying peer #" ++ toString fs.length ++ ": " ++ peer.address))).Fits
      (z.attempt serve operation body queue peer (v.note z.tracer
        ("trying peer #" ++ toString gs.length ++ ": " ++ peer.address))) := by
  obtain ⟨rest, hy⟩ := y.tryPeers_calls serve operation body queue peer peers fs w
  obtain ⟨rest', hz⟩ := z.tryPeers_calls serve operation body queue peer peers gs v
  intro p hp
  refine h p ?_
  rw [hy, hz]
  exact mem_zip_append hp rest rest'

section Steps

variable (cover : Covers x operation queue place) (hab : a.login.Alike named b.login)
  (hd : Discreet serve) (hk : ∀ p u, place p → Reads p u → kind u)
  (hm : methodOf operation = .post ∨ ∀ u, kind u)

include cover hab hd hk hm

/-- The requests of one peer, by induction on how many may still be sent: the URLs differ in a
login, and the answer to one leads both runs on, or neither. -/
theorem hops_alike (peer : Peer) (fuel : Nat) {cs ds : List Char}
    (h : Uri.Alike named place cs ds) {w v : World σ} (hw : w.Alike named kind v)
    (hf : ((x.withAccount a).hops serve operation peer body fuel cs w).Fits
      ((x.withAccount b).hops serve operation peer body fuel ds v)) :
    ((x.withAccount a).hops serve operation peer body fuel cs w).Alike named place kind
      (Attempt.Alike named) ((x.withAccount b).hops serve operation peer body fuel ds v) := by
  induction fuel generalizing cs ds w v with
  | zero => exact ⟨.nil, failure_alike h peer _ (fun _ => rfl) _, hw⟩
  | succ fuel ih =>
      have hcut := fits_first hf
      obtain ⟨hst, hv⟩ := reply_alike (x := x) hd hk hm h hw hcut
      have hplain (r : Response)
          (hr : (x.client.send serve (methodOf operation) cs body x.config.timeout w).1 = .ok r) :=
        plain_location_of_isRedirect hr
      have ht (a : Account) : (x.withAccount a).config.timeout = x.config.timeout := rfl
      have hc (a : Account) : (x.withAccount a).client = x.client := rfl
      simp only [hops, ht, hc] at hf ⊢
      generalize x.client.send serve (methodOf operation) cs body x.config.timeout w = s at *
      generalize x.client.send serve (methodOf operation) ds body x.config.timeout v = t at *
      have hcount : s.2.sent.length - w.sent.length = t.2.sent.length - v.sent.length := by
        rw [hw.sent.length_eq, hv.sent.length_eq]
      have hcall : Call.Alike named place
          ⟨methodOf operation, cs, body, s.1, s.2.sent.length - w.sent.length⟩
          ⟨methodOf operation, ds, body, t.1, t.2.sent.length - v.sent.length⟩ :=
        ⟨rfl, h, rfl, hst, hcount⟩
      have hnext := next_alike cover hab peer h hst hplain
      generalize (x.withAccount a).next operation peer cs s.1 = p at *
      generalize (x.withAccount b).next operation peer ds t.1 = q at *
      cases hnext with
      | done ha => exact ⟨.cons hcall .nil, ha, hv⟩
      | onward hrs =>
          have hnote := noteRedirect_alike (a := a) (b := b) (x := x) hrs h hv
          exact alike_after (.cons hcall .nil) (ih hrs.target hnote (fits_after hf rfl))

theorem attempt_alike (hp : peer ∈ x.topology.orderedPeers x.favorSeed) (hn : peer.IsNamed)
    {w v : World σ} (hw : w.Alike named kind v)
    (hf : ((x.withAccount a).attempt serve operation body queue peer w).Fits
      ((x.withAccount b).attempt serve operation body queue peer v)) :
    ((x.withAccount a).attempt serve operation body queue peer w).Alike named place kind
      (Attempt.Alike named) ((x.withAccount b).attempt serve operation body queue peer v) := by
  have hu (a : Account) : (x.withAccount a).config.assembleUrl? operation peer queue =
      some ((x.config.place operation queue hn).dress a.login) :=
    assembleUrl_withAccount x.config a operation queue hn
  have hurl : Uri.Alike named place ((x.config.place operation queue hn).dress a.login)
      ((x.config.place operation queue hn).dress b.login) :=
    .dressed _ (cover.peer peer hp hn) _ _ hab
  simp only [attempt, hu] at hf ⊢
  refine hops_alike cover hab hd hk hm peer _ hurl ?_ hf
  exact hw.note x.tracer fun hn => by rw [shownUrl_alike hurl hn]

theorem tryPeers_alike {peers : List Peer}
    (hp : ∀ peer ∈ peers, peer ∈ x.topology.orderedPeers x.favorSeed ∧ peer.IsNamed)
    {fs gs : List PeerFailure} (hlen : fs.length = gs.length) (hfg : named → fs = gs)
    {w v : World σ} (hw : w.Alike named kind v)
    (hf : ((x.withAccount a).tryPeers serve operation body queue peers fs w).Fits
      ((x.withAccount b).tryPeers serve operation body queue peers gs v)) :
    ((x.withAccount a).tryPeers serve operation body queue peers fs w).Alike named place kind
      (OutcomeAlike named) ((x.withAccount b).tryPeers serve operation body queue peers gs v) := by
  induction peers generalizing fs gs w v with
  | nil =>
      refine ⟨.nil, .exhausted hfg, hw.log .warning .executor fun hn => ?_⟩
      rw [hfg hn]
  | cons peer peers ih =>
      obtain ⟨hpeer, hrest⟩ := List.forall_mem_cons.mp hp
      have hwn := hw.note x.tracer (m := "trying peer #" ++ toString fs.length ++ ": " ++ peer.address)
        (n := "trying peer #" ++ toString gs.length ++ ": " ++ peer.address) fun _ => by rw [hlen]
      have ht := attempt_alike cover hab hd hk hm hpeer.1 hpeer.2 hwn (fits_attempt hf)
      have hx (a : Account) : (x.withAccount a).tracer = x.tracer := rfl
      simp only [tryPeers, hx] at hf ⊢
      generalize (x.withAccount a).attempt serve operation body queue peer _ = r at *
      generalize (x.withAccount b).attempt serve operation body queue peer _ = s at *
      obtain ⟨hcalls, hout, hworld⟩ := ht
      rcases r with ⟨calls, p, w'⟩
      rcases s with ⟨calls', q, v'⟩
      simp only at hcalls hout hworld hf ⊢
      cases hout with
      | answered content =>
          refine ⟨hcalls, .refl _, hworld.note x.tracer fun _ => ?_⟩
          rw [hlen]
      | escaped f => exact ⟨hcalls, .refl _, hworld⟩
      | @failed f g hfail =>
          have hworld := hworld.note x.tracer
            (m := "peer #" ++ toString fs.length ++ " failed: " ++ f.text)
            (n := "peer #" ++ toString gs.length ++ " failed: " ++ g.text)
            fun hn => by rw [hlen, hfail hn]
          have hworld := hworld.log .debug .executor
            (m := "peer " ++ peer.address ++ " failed: " ++ f.text)
            (n := "peer " ++ peer.address ++ " failed: " ++ g.text) fun hn => by rw [hfail hn]
          have hlen : (fs ++ [f]).length = (gs ++ [g]).length := by simp [hlen]
          have hfg : named → fs ++ [f] = gs ++ [g] := fun hn => by rw [hfg hn, hfail hn]
          exact alike_after hcalls
            (ih hrest hlen hfg hworld (fits_after hf hcalls.length_eq))

theorem walk_alike (hp : ∀ peer ∈ x.topology.orderedPeers x.favorSeed, peer.IsNamed)
    {w v : World σ} (hw : w.Alike named kind v)
    (hf : ((x.withAccount a).walk serve operation body queue w).Fits
      ((x.withAccount b).walk serve operation body queue v)) :
    ((x.withAccount a).walk serve operation body queue w).Alike named place kind
      (OutcomeAlike named) ((x.withAccount b).walk serve operation body queue v) := by
  have ht (a : Account) : (x.withAccount a).topology.orderedPeers (x.withAccount a).favorSeed =
      x.topology.orderedPeers x.favorSeed := rfl
  simp only [walk, ht] at hf ⊢
  split
  · exact ⟨.nil, .refl _, hw⟩
  · next peer peers hpeers =>
      rw [hpeers] at hf
      exact tryPeers_alike cover hab hd hk hm (fun p h => ⟨hpeers ▸ h, hp p (hpeers ▸ h)⟩) rfl
        (fun _ => rfl) (hw.note x.tracer fun _ => rfl) hf

end Steps

end SqlCluster.Executor
