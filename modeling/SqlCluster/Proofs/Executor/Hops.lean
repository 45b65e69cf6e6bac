import SqlCluster.Proofs.Executor.Slots
import SqlCluster.Proofs.Uri.Together
/-!
Redirects followed by hand. An answer that redirects somewhere is followed as long as the limit
allows, to where it leads seen from the URL it answers, and always by the same request; whatever
happens on the way is counted against the peer that the first request was for.
-/
namespace SqlCluster

open Http

namespace Call

def Redirects (c : Call) : Prop :=
  ∃ r, c.answer = .ok r ∧ r.status ∈ Executor.redirectCodes ∧ r.location?.getD "" ≠ ""

/-- The answer is `r`, which redirects to nowhere. -/
def Strands (c : Call) (r : Response) : Prop :=
  c.answer = .ok r ∧ r.status ∈ Executor.redirectCodes ∧ r.location?.getD "" = ""

/-- The client itself was redirected too often. -/
def GivenUp (c : Call) : Prop :=
  ∃ message, c.answer = .error (.failed ⟨.tooManyRedirects, message⟩)

end Call

/-- The target itself, or the same with a user in front of its host. -/
inductive Leads (target : List Char) : List Char → Prop
  | plain : Leads target target
  | admitted {parts : Uri.Parts} {user : List Char} (h : Uri.split target = .ok parts)
      (read : parts.authority ≠ [] →
        Uri.split (parts.withUser user).text = .ok (parts.withUser user)) :
      Leads target (parts.withUser user).text

def Call.LeadsTo (c d : Call) : Prop :=
  ∃ r target, c.answer = .ok r ∧
    Uri.join c.url (r.location?.getD "").toList = .ok target ∧ Leads target d.url

namespace Executor

variable {σ : Type} {x : Executor} {operation : Operation} {peer : Peer} {body : List UInt8}

theorem isRedirect_iff (hd : operation.isData = true) {r : Response} :
    isRedirect operation r = true ↔ r.status ∈ redirectCodes := by
  rw [isRedirect, hd, Bool.true_and, List.contains_iff_mem]

theorem leads_of_passage {target : List Char} {p : Passage} (h : x.passage target = .ok p) :
    Leads target (Redirect.target ⟨target, p⟩) := by
  simp only [passage] at h
  split at h
  · cases h
  · next parts hs =>
      split at h
      · cases h
        exact .plain
      · split at h
        · cases h
          exact .plain
        · split at h
          · split at h
            · next user hu =>
                cases h
                have hchars := Config.loginChars_userinfo hu
                exact .admitted hs fun ha => Uri.split_withUser hs ha hchars
            · cases h
          · cases h
            exact .plain

theorem leads_of_redirect {url : List Char} {location : String} {r : Redirect}
    (h : x.redirect url location = .ok r) :
    ∃ target, Uri.join url location.toList = .ok target ∧ Leads target r.target := by
  rw [redirect] at h
  split at h
  · cases h
  · next target hj =>
      obtain ⟨p, hp, rfl⟩ := Outcome.map_eq_ok.mp h
      exact ⟨target, hj, leads_of_passage hp⟩

section Answer

variable {c : Call}

theorem leadsTo_of_next (hd : operation.isData = true) {r : Redirect}
    (h : x.next operation peer c.url c.answer = .onward r) :
    c.Redirects ∧ ∀ d : Call, d.url = r.target → c.LeadsTo d := by
  generalize ha : c.answer = answer at h
  cases verdict_of_next h with
  | redirected hr hl hj =>
      refine ⟨⟨_, ha, (isRedirect_iff hd).mp hr, hl⟩, ?_⟩
      intro d hu
      obtain ⟨target, ht, hleads⟩ := leads_of_redirect hj
      exact ⟨_, target, ha, ht, hu ▸ hleads⟩

theorem not_redirects_of_next (hd : operation.isData = true) {a : Attempt}
    (h : x.next operation peer c.url c.answer = .done a) (hne : ∀ f, a ≠ .escaped f) :
    ¬c.Redirects := by
  rintro ⟨r, ha, hr, hl⟩
  rw [ha] at h
  have hr := (isRedirect_iff hd).mpr hr
  cases verdict_of_next h with
  | stranded _ hn => exact hl hn
  | unresolved _ _ _ => exact hne _ rfl
  | success hn _ => simp [hr] at hn
  | unreadable hn _ _ => simp [hr] at hn
  | refused hn _ _ => simp [hr] at hn

theorem givenUp_of_next {f : PeerFailure}
    (h : x.next operation peer c.url c.answer = .done (.failed f)) :
    f.kind = .redirect ↔ c.GivenUp := by
  rw [Call.GivenUp]
  generalize c.answer = answer at h
  cases verdict_of_next h with
  | unanswered he =>
      rename_i e f
      rw [kindOf_eq_redirect_iff]
      cases e with
      | failed g =>
          cases he
          rcases f with ⟨cause, message⟩
          simp
      | invalid e =>
          cases he
          simp
      | _ => cases he
  | stranded _ _ => simp
  | refused _ _ _ => simp

variable (x peer) in
theorem next_of_strands (hd : operation.isData = true) {r : Response} (h : c.Strands r) :
    ∃ f, x.next operation peer c.url c.answer = .done (.failed f) ∧ f.kind = .status ∧
      f.statusCode = some r.status := by
  obtain ⟨ha, hr, hl⟩ := h
  have hr := (isRedirect_iff hd).mpr hr
  exact ⟨_, by simp only [ha, next, hr, hl, if_true]; rfl, rfl, rfl⟩

end Answer

namespace Chain

variable {fuel : Nat} {url : List Char} {calls : List Call} {a : Attempt}

theorem length_le (h : Chain x operation peer body fuel url calls a) : calls.length ≤ fuel := by
  induction h with
  | spent url => exact Nat.le_refl 0
  | done _ => exact Nat.le_add_left 1 _
  | onward _ _ ih => exact Nat.succ_le_succ ih

theorem length_pos (h : Chain x operation peer body fuel url calls a) (hf : 0 < fuel) :
    0 < calls.length := by
  cases h with
  | spent url => exact hf
  | done _ => exact Nat.one_pos
  | onward _ _ => exact Nat.succ_pos _

/-- An answer is followed exactly if it redirects and the limit is not reached. -/
theorem followed_iff (h : Chain x operation peer body fuel url calls a)
    (hd : operation.isData = true) (hn : ∀ f, a ≠ .escaped f) {i : Nat} {c : Call}
    (hc : calls[i]? = some c) : i + 1 < calls.length ↔ c.Redirects ∧ i + 1 < fuel := by
  induction h generalizing i with
  | spent url => simp at hc
  | done hnext =>
      obtain ⟨rfl, rfl⟩ : i = 0 ∧ _ = c := by simpa [List.getElem?_singleton] using hc
      exact iff_of_false (Nat.lt_irrefl 1) fun h => not_redirects_of_next hd hnext hn h.1
  | @onward fuel url answer n r calls a hnext rest ih =>
      cases i with
      | zero =>
          obtain rfl := Option.some.inj hc
          have hr := (leadsTo_of_next (c := ⟨methodOf operation, url, body, answer, n⟩) hd hnext).1
          have hlen := rest.length_le
          have hpos := rest.length_pos
          simp only [List.length_cons, hr, true_and]
          omega
      | succ i =>
          rw [List.getElem?_cons_succ] at hc
          rw [List.length_cons, Nat.succ_lt_succ_iff, ih hn hc, Nat.succ_lt_succ_iff]

theorem consecutive (h : Chain x operation peer body fuel url calls a) {i : Nat} {c d : Call}
    (hc : calls[i]? = some c) (hs : calls[i + 1]? = some d) :
    ∃ r, x.next operation peer c.url c.answer = .onward r ∧ d.url = r.target := by
  induction h generalizing i with
  | spent url => simp at hc
  | done _ => simp at hs
  | @onward fuel url answer n r calls a hnext rest ih =>
      rw [List.getElem?_cons_succ] at hs
      cases i with
      | zero =>
          obtain rfl := Option.some.inj hc
          refine ⟨r, hnext, ?_⟩
          cases fuel with
          | zero =>
              cases rest
              cases hs
          | succ fuel =>
              obtain ⟨e, tail, rfl, he⟩ := rest.head_url
              obtain rfl := Option.some.inj hs
              exact he
      | succ i => exact ih hc hs

theorem kind_redirect_iff (h : Chain x operation peer body fuel url calls a)
    (hd : operation.isData = true) {f : PeerFailure} (ha : a = .failed f) :
    f.kind = .redirect ↔
      calls.length = fuel ∧ (∀ c ∈ calls, c.Redirects) ∨ ∃ c ∈ calls, c.GivenUp := by
  induction h with
  | spent url =>
      simp only [failure, Attempt.failed.injEq] at ha
      exact iff_of_true (ha ▸ rfl) (.inl ⟨rfl, by simp⟩)
  | @done fuel url answer n a hnext =>
      subst ha
      have hr := not_redirects_of_next (c := ⟨methodOf operation, url, body, answer, n⟩) hd hnext
        (by simp)
      simpa [hr] using givenUp_of_next (c := ⟨methodOf operation, url, body, answer, n⟩) hnext
  | @onward fuel url answer n r calls a hnext rest ih =>
      have hr := (leadsTo_of_next (c := ⟨methodOf operation, url, body, answer, n⟩) hd hnext).1
      have hg : ¬Call.GivenUp ⟨methodOf operation, url, body, answer, n⟩ := by
        rintro ⟨message, hg⟩
        obtain ⟨r, ha, -⟩ := hr
        rw [hg] at ha
        cases ha
      simp [ih ha, hr, hg]

theorem stranded (h : Chain x operation peer body fuel url calls a) (hd : operation.isData = true)
    {c : Call} (hc : c ∈ calls) {r : Response} (hs : c.Strands r) :
    ∃ f, a = .failed f ∧ f.kind = .status ∧ f.statusCode = some r.status := by
  induction h with
  | spent url => cases hc
  | @done fuel url answer n a hnext =>
      obtain rfl := List.mem_singleton.mp hc
      obtain ⟨f, hf, hk⟩ := next_of_strands x peer hd hs
      rw [hnext] at hf
      exact ⟨f, Hop.done.inj hf, hk⟩
  | @onward fuel url answer n t calls a hnext _ ih =>
      rcases List.mem_cons.mp hc with rfl | hc
      · obtain ⟨f, hf, -⟩ := next_of_strands x peer hd hs
        rw [hnext] at hf
        cases hf
      · exact ih hc

end Chain

def AnsweredBy (client : Client) (serve : Server σ) (timeout : Value) (c : Call) : Prop :=
  ∃ w, c.answer = (client.send serve c.method c.url c.body timeout w).1

theorem answeredBy_walk (serve : Server σ) (queue : Bool) (w : World σ) :
    ∀ c ∈ (x.walk serve operation body queue w).calls,
      AnsweredBy x.client serve x.config.timeout c := by
  intro c hc
  obtain ⟨url, v, rfl⟩ := called_walk serve queue w c hc
  exact ⟨v, rfl⟩

/-- One peer's share of a walk. -/
structure Visit where
  peer : Peer
  calls : List Call
  attempt : Attempt

/-- The shares of a walk over the peers, and how they tell what comes of it. -/
structure Visits (x : Executor) (operation : Operation) (body : List UInt8) (queue : Bool)
    (peers : List Peer) (calls : List Call) (outcome : Except Fault (List UInt8))
    (vs : List Visit) : Prop where
  visited : vs.map (·.peer) <+: peers
  shares : calls = vs.flatMap (·.calls)
  turns : ∀ v ∈ vs, Turn x operation body queue v.peer v.calls v.attempt
  answered : ∀ content, outcome = .ok content →
    ∃ v, vs.getLast? = some v ∧ v.attempt = .answered content
  failed : ∀ fs, outcome = .error (.allPeersFailed fs) →
    vs.map (·.peer) = peers ∧ vs.map (·.attempt) = fs.map Attempt.failed

/-- A share in which redirects are followed as far as they go. -/
structure Visit.Relays (x : Executor) (body : List UInt8) (v : Visit) : Prop where
  posts : ∀ c ∈ v.calls, c.method = .post ∧ c.body = body
  bounds : 1 ≤ v.calls.length ∧ (v.calls.length : Int) ≤ x.maxRedirects + 1
  followed : ∀ i c, v.calls[i]? = some c →
    (i + 1 < v.calls.length ↔ c.Redirects ∧ (i + 1 : Int) < x.maxRedirects + 1)
  leads : ∀ i c d, v.calls[i]? = some c → v.calls[i + 1]? = some d → c.LeadsTo d
  kind : ∀ f, v.attempt = .failed f → (f.kind = .redirect ↔
    (v.calls.length : Int) = x.maxRedirects + 1 ∧ (∀ c ∈ v.calls, c.Redirects) ∨
      ∃ c ∈ v.calls, c.GivenUp)
  stranded : ∀ c ∈ v.calls, ∀ r, c.Strands r →
    ∃ f, v.attempt = .failed f ∧ f.kind = .status ∧ f.statusCode = some r.status
  blamed : ∀ f, v.attempt = .failed f → f.peer = v.peer.address

section Visits

variable {queue : Bool} {peers : List Peer} {calls : List Call}
  {outcome : Except Fault (List UInt8)}

theorem relays_of_turn (hd : operation.isData = true) (hm : 0 ≤ x.maxRedirects) {v : Visit}
    (h : Turn x operation body queue v.peer v.calls v.attempt)
    (hn : ∀ f, v.attempt ≠ .escaped f) : v.Relays x body := by
  obtain ⟨url, -, hc⟩ := h
  have hmethod : methodOf operation = .post := by rw [methodOf, if_pos hd]
  have hle := hc.length_le
  have hpos := hc.length_pos (by omega)
  refine ⟨?_, by omega, ?_, ?_, ?_, ?_, ?_⟩
  · intro c hmem
    have hr := hc.replays c hmem
    exact ⟨hr.1.trans hmethod, hr.2⟩
  · intro i c hi
    rw [hc.followed_iff hd hn hi]
    exact and_congr_right fun _ => by omega
  · intro i c d hi hs
    obtain ⟨r, hnext, hu⟩ := hc.consecutive hi hs
    exact (leadsTo_of_next hd hnext).2 d hu
  · intro f hf
    rw [hc.kind_redirect_iff hd hf]
    exact or_congr_left (and_congr_left fun _ => by omega)
  · intro c hmem r hs
    exact hc.stranded hd hmem hs
  · intro f hf
    exact hc.peer_of_failed hf

theorem Tried.visits {slots : List (List Call × PeerFailure)}
    (h : Tried x operation body queue peers slots) :
    ∃ vs : List Visit, vs.map (·.peer) = peers ∧ vs.flatMap (·.calls) = slots.flatMap (·.1) ∧
      vs.map (·.attempt) = (slots.map (·.2)).map Attempt.failed ∧
      ∀ v ∈ vs, Turn x operation body queue v.peer v.calls v.attempt := by
  induction h with
  | nil => exact ⟨[], rfl, rfl, rfl, by simp⟩
  | @cons peer slot peers slots ht _ ih =>
      obtain ⟨vs, hp, hc, ha, hturns⟩ := ih
      refine ⟨⟨peer, slot.1, .failed slot.2⟩ :: vs, by simp [hp], by simp [hc], by simp [ha], ?_⟩
      intro v hv
      rcases List.mem_cons.mp hv with rfl | hv
      · exact ht
      · exact hturns v hv

theorem Tour.visits (h : Tour x operation body queue peers [] calls outcome) :
    ∃ vs, Visits x operation body queue peers calls outcome vs := by
  cases h with
  | @exhausted slots tried =>
      obtain ⟨vs, hp, hc, ha, hturns⟩ := tried.visits
      refine ⟨vs, hp ▸ List.prefix_rfl, hc.symm, hturns, by simp, ?_⟩
      intro fs hfs
      obtain rfl : slots.map (·.2) = fs := by simpa using hfs
      exact ⟨hp, ha⟩
  | @stopped before after peer slots calls _ split tried stop =>
      obtain ⟨vs, hp, hc, -, hturns⟩ := tried.visits
      have stops {a : Attempt} (ht : Turn x operation body queue peer calls a)
          (hok : ∀ content, outcome = .ok content → a = .answered content)
          (hno : ∀ fs, outcome ≠ .error (.allPeersFailed fs)) :
          ∃ vs, Visits x operation body queue peers (slots.flatMap (·.1) ++ calls) outcome vs := by
        refine ⟨vs ++ [⟨peer, calls, a⟩], ⟨after, ?_⟩, by simp [hc], ?_, ?_, ?_⟩
        · rw [split, List.map_append, hp, List.append_assoc]
          rfl
        · intro v hv
          rcases List.mem_append.mp hv with hv | hv
          · exact hturns v hv
          · rw [List.mem_singleton.mp hv]
            exact ht
        · exact fun content ho => ⟨_, List.getLast?_concat, hok content ho⟩
        · exact fun fs ho => absurd ho (hno fs)
      cases stop with
      | answered ht => exact stops ht (fun _ ho => by rw [Except.ok.inj ho]) (by simp)
      | escaped ht =>
          refine stops ht (by simp) fun fs ho => ?_
          obtain ⟨url, -, hchain⟩ := ht
          exact hchain.ne_allPeersFailed fs (by rw [Except.error.inj ho])
      | unquotable _ =>
          refine ⟨vs, ⟨peer :: after, ?_⟩, by simp [hc], hturns, by simp, by simp⟩
          rw [split, hp]

theorem visits_walk (serve : Server σ) (queue : Bool) (w : World σ) :
    ∃ vs, Visits x operation body queue (x.topology.orderedPeers x.favorSeed)
      (x.walk serve operation body queue w).calls
      (x.execute serve operation body queue w).1 vs := by
  by_cases hp : x.topology.orderedPeers x.favorSeed = []
  · refine ⟨[], List.nil_prefix, ?_, by simp, ?_, ?_⟩
    all_goals simp [execute, walk, hp]
  · exact (tour_walk serve queue w hp).visits

end Visits

/-- Every share of a walk that ends in a success or in a failure on record follows redirects as far
as they go. -/
theorem relays_walk (serve : Server σ) (hd : operation.isData = true) (hm : 0 ≤ x.maxRedirects)
    (queue : Bool) (w : World σ) :
    x.Delivers w (x.walk serve operation body queue w) ∧
      (∀ c ∈ (x.walk serve operation body queue w).calls,
        AnsweredBy x.client serve x.config.timeout c) ∧
      ∃ vs, Visits x operation body queue (x.topology.orderedPeers x.favorSeed)
          (x.walk serve operation body queue w).calls
          (x.execute serve operation body queue w).1 vs ∧
        ∀ v ∈ vs, (∀ f, v.attempt ≠ .escaped f) → v.Relays x body := by
  obtain ⟨vs, hvs⟩ := visits_walk serve queue w
  exact ⟨delivers_walk serve hd queue w, answeredBy_walk serve queue w, vs, hvs,
    fun v hv hn => relays_of_turn hd hm (hvs.turns v hv) hn⟩

def movedRoutes : List Route :=
  [⟨"a:4001".toList, "/db/execute".toList,
      [.response ⟨307, [("Location", "//b:4001/db/execute")], []⟩]⟩,
    ⟨"b:4001".toList, "/db/execute".toList, [.response ⟨200, [], [111, 107]⟩]⟩]

theorem moved_relayed :
    Operation.execute.isData = true ∧ 0 ≤ twoPeers.maxRedirects ∧
      (twoPeers.walk Script.serve .execute [] false ⟨movedRoutes, [], .empty⟩).calls.length = 2 ∧
      twoPeers.Delivers ⟨movedRoutes, [], .empty⟩
        (twoPeers.walk Script.serve .execute [] false ⟨movedRoutes, [], .empty⟩) ∧
      (∀ c ∈ (twoPeers.walk Script.serve .execute [] false ⟨movedRoutes, [], .empty⟩).calls,
        AnsweredBy twoPeers.client Script.serve twoPeers.config.timeout c) ∧
      ∃ vs, Visits twoPeers .execute [] false (twoPeers.topology.orderedPeers twoPeers.favorSeed)
          (twoPeers.walk Script.serve .execute [] false ⟨movedRoutes, [], .empty⟩).calls
          (twoPeers.execute Script.serve .execute [] false ⟨movedRoutes, [], .empty⟩).1 vs ∧
        ∀ v ∈ vs, (∀ f, v.attempt ≠ .escaped f) → v.Relays twoPeers [] :=
  ⟨rfl, by decide, by decide +kernel, relays_walk Script.serve rfl (by decide) false _⟩

def undecodableRedirect : Response :=
  ⟨307, [("Location", "http://b:4001/db/execute"), ("Content-Encoding", "gzip")],
    [109, 111, 118, 101, 100]⟩

def undecodableRoutes : List Route :=
  [⟨"a:4001".toList, "/db/execute".toList, [.response undecodableRedirect]⟩,
    ⟨"b:4001".toList, "/db/execute".toList, [.response ⟨200, [], [111, 107]⟩]⟩]

def refusedAddressFirst : Executor :=
  { twoPeers with topology := .make (some ⟨"999.1.1.1", 4001⟩) [⟨"a", 4001⟩] none }

def blamed : Except Fault (List UInt8) → List (String × FailureKind)
  | .error (.allPeersFailed fs) => fs.map fun f => (f.peer, f.kind)
  | _ => []

/-- Only the second peer is sent a request, and its answer redirects, but not to another request. -/
theorem undecodableRedirect_not_followed :
    refusedAddressFirst.topology.orderedPeers refusedAddressFirst.favorSeed =
        [⟨"999.1.1.1", 4001⟩, ⟨"a", 4001⟩] ∧
      undecodableRedirect.status ∈ redirectCodes ∧ undecodableRedirect.location?.getD "" ≠ "" ∧
      1 < refusedAddressFirst.maxRedirects + 1 ∧
      (refusedAddressFirst.walk Script.serve .execute [] false
          ⟨undecodableRoutes, [], .empty⟩).world.sent.map
            (fun q => (Script.serve undecodableRoutes q).1) = [.response undecodableRedirect] ∧
      blamed (refusedAddressFirst.execute Script.serve .execute [] false
          ⟨undecodableRoutes, [], .empty⟩).1 =
        [("999.1.1.1:4001", .protocol), ("a:4001", .protocol)] := by
  refine ⟨by decide, by decide, by decide, by decide, ?_, ?_⟩
  · decide +kernel
  · decide +kernel

end Executor

end SqlCluster
