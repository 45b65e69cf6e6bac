import SqlCluster.Proofs.Executor.Discretion
import SqlCluster.Proofs.Executor.Hops
import SqlCluster.Proofs.Uri.Escape
/-!
The credentials of a redirect. A target at a known peer is gone to with the configured name and
password, unless a user's part already stands in front of its host, which stays behind the password,
or its host is not told in lower case.
-/
namespace SqlCluster

open Text Uri Http

/-- The name and the password are the account's, once their escapes are read. -/
def Account.Signs (a : Account) (p : Parts) : Prop :=
  p.username.map unescape = some a.username.toList ∧
    p.password.map unescape = some a.password.toList

namespace Uri.Parts

structure SamePlace (p q : Parts) : Prop where
  scheme : q.scheme = p.scheme
  host : q.hostname = p.hostname
  port : q.port? = p.port?
  path : q.path = p.path
  query : q.query = p.query

theorem samePlace_withUser (p : Parts) (l : Login) : p.SamePlace (p.withUser l.text) :=
  ⟨rfl, hostname_withUser p l, port_withUser p l, rfl, rfl⟩

end Uri.Parts

namespace Account

variable {a : Account} {p : Parts}

theorem password_withUser : ((p.withUser a.login.text).password).map unescape =
    some (a.password.toList ++ unescape (p.userinfo.elim [] ('@' :: ·))) := by
  rw [Uri.password_withUser, Option.map_some]
  exact congrArg some (unescape_escape_append _ _)

theorem signs_withUser : a.Signs (p.withUser a.login.text) ↔ p.userinfo = none := by
  have hname : (p.withUser a.login.text).username.map unescape = some a.username.toList := by
    rw [username_withUser, Option.map_some]
    exact congrArg some (unescape_escape _)
  rw [Signs, hname, password_withUser]
  cases p.userinfo with
  | none =>
      have hu : unescape [] = [] := rfl
      simp [hu]
  | some old => simp [unescape_cons (show '@' ≠ '%' by decide)]

theorem not_signs_of_anonymous (h : p.username.getD [] = []) : ¬a.Signs p := by
  rintro ⟨hs, -⟩
  obtain ⟨u, hu, he⟩ := Option.map_eq_some_iff.mp hs
  rw [hu] at h
  obtain rfl : u = [] := h
  exact toList_ne_nil a.username_ne he.symm

end Account

def Call.RedirectsTo (c : Call) (parts : Parts) : Prop :=
  ∃ r target, c.answer = .ok r ∧ r.status ∈ Executor.redirectCodes ∧ r.location?.getD "" ≠ "" ∧
    join c.url (r.location?.getD "").toList = .ok target ∧ split target = .ok parts

namespace Executor

variable {σ : Type} {x : Executor} {a : Account} {operation : Operation} {peer : Peer}
  {body : List UInt8} {parts : Parts} {port : Nat}

/-- The parts name no user, and a host and a port that are those of a known peer, whatever the case
of their letters. -/
structure KnownTarget (x : Executor) (parts : Parts) (port : Nat) : Prop where
  anonymous : parts.username.getD [] = []
  named : parts.hostAndPort.1 ≠ []
  effective : ∃ given, parts.port? = .ok given ∧ given.getD (impliedPort parts.scheme) = port
  known : ∃ p ∈ x.knownPeers, lower parts.hostAndPort.1 = lower p.host.toList ∧ p.port = port

/-- How the URL that follows a redirect to the parts is authenticated. -/
structure Authenticated (x : Executor) (a : Account) (parts : Parts) (port : Nat)
    (url : List Char) : Prop where
  place : ∃ q, split url = .ok q ∧ parts.SamePlace q
  signed_iff : (∃ q, split url = .ok q ∧ a.Signs q) ↔
    parts.userinfo = none ∧ (parts.hostname, port) ∈ x.trusted
  zoneless : '%' ∉ parts.hostAndPort.1 → (parts.hostname, port) ∈ x.trusted
  leftover : ∀ user, parts.userinfo = some user → (parts.hostname, port) ∈ x.trusted →
    ∃ q, split url = .ok q ∧
      q.password.map unescape = some (a.password.toList ++ '@' :: unescape user)

theorem KnownTarget.trusted_of_zoneless (h : x.KnownTarget parts port)
    (hz : '%' ∉ parts.hostAndPort.1) : (parts.hostname, port) ∈ x.trusted := by
  obtain ⟨p, hp, hl, rfl⟩ := h.known
  have hh : parts.hostname = lower p.host.toList := by
    rw [Parts.hostname, cutFirst?_eq_none hz, hl]
  rw [hh]
  exact List.mem_map.mpr ⟨p, hp, rfl⟩

theorem KnownTarget.authority_ne (h : x.KnownTarget parts port) : parts.authority ≠ [] := by
  intro ha
  exact h.named (by rw [Parts.hostAndPort, ha]; rfl)

theorem KnownTarget.passage_eq (h : x.KnownTarget parts port) {target : List Char}
    (hs : split target = .ok parts) : (x.withAccount a).passage target =
      .ok (if (parts.hostname, port) ∈ x.trusted then
        .admitted (parts.withUser a.login.text).text else .foreign parts.hostname port) := by
  obtain ⟨given, hg, hport⟩ := h.effective
  have hc : (x.withAccount a).config.hasCredentials = true :=
    x.config.hasCredentials_withAccount a
  have hu : (x.withAccount a).config.userinfo? = some a.login.text := rfl
  have ht : (x.withAccount a).trusted = x.trusted := rfl
  simp only [passage, hs, h.anonymous, hc, hg, hport, hu, ht, List.contains_iff_mem,
    List.isEmpty_nil, Bool.not_true, Bool.or_self, Bool.false_eq_true, if_false]
  by_cases hk : (parts.hostname, port) ∈ x.trusted
  · rw [if_pos hk, if_pos hk]
    rfl
  · rw [if_neg hk, if_neg hk]

theorem authenticated_of_target (h : x.KnownTarget parts port) {target : List Char}
    (hs : split target = .ok parts) {p : Passage} (hp : (x.withAccount a).passage target = .ok p) :
    x.Authenticated a parts port (Redirect.target ⟨target, p⟩) := by
  rw [h.passage_eq hs] at hp
  by_cases ht : (parts.hostname, port) ∈ x.trusted
  · rw [if_pos ht] at hp
    cases hp
    have hq : split (parts.withUser a.login.text).text = .ok (parts.withUser a.login.text) :=
      split_withUser hs h.authority_ne a.login.text_chars
    refine ⟨⟨_, hq, parts.samePlace_withUser a.login⟩, ?_, fun _ => ht, ?_⟩
    · simp only [Redirect.target, hq, Except.ok.injEq, exists_eq_left', Account.signs_withUser, ht,
        and_true]
    · intro user hu _
      refine ⟨_, hq, ?_⟩
      rw [Account.password_withUser, hu, Option.elim_some, unescape_cons (by decide)]
  · rw [if_neg ht] at hp
    cases hp
    refine ⟨⟨parts, hs, rfl, rfl, rfl, rfl, rfl⟩, ?_, h.trusted_of_zoneless,
      fun _ _ hn => absurd hn ht⟩
    refine iff_of_false ?_ fun hn => ht hn.2
    rintro ⟨q, hq, hsign⟩
    rw [Redirect.target, hs] at hq
    cases hq
    exact Account.not_signs_of_anonymous h.anonymous hsign

theorem authenticated_of_next {c : Call} {r : Redirect}
    (h : (x.withAccount a).next operation peer c.url c.answer = .onward r)
    (ht : c.RedirectsTo parts) (hp : x.KnownTarget parts port) :
    x.Authenticated a parts port r.target := by
  obtain ⟨res, target, ha, -, -, hj, hs⟩ := ht
  rw [ha] at h
  cases verdict_of_next h with
  | redirected _ _ hr =>
      simp only [redirect, hj] at hr
      obtain ⟨p, hpass, rfl⟩ := Outcome.map_eq_ok.mp hr
      exact authenticated_of_target hp hs hpass

/-- In every share of a walk, a redirect to a known peer is followed at the place that it leads to,
and with exactly the account's credentials if nothing stands in front of its host and the host is
recognised as it is read. -/
theorem authenticated_walk (serve : Server σ) (queue : Bool) (w : World σ) :
    ∃ vs, Visits (x.withAccount a) operation body queue (x.topology.orderedPeers x.favorSeed)
        ((x.withAccount a).walk serve operation body queue w).calls
        ((x.withAccount a).execute serve operation body queue w).1 vs ∧
      ∀ v ∈ vs, ∀ i c d, v.calls[i]? = some c → v.calls[i + 1]? = some d →
        ∀ parts port, c.RedirectsTo parts → x.KnownTarget parts port →
          x.Authenticated a parts port d.url := by
  obtain ⟨vs, hvs⟩ : ∃ vs, Visits (x.withAccount a) operation body queue
      (x.topology.orderedPeers x.favorSeed) _ _ vs := visits_walk serve queue w
  refine ⟨vs, hvs, ?_⟩
  intro v hv i c d hc hd parts port hto hpeer
  obtain ⟨url, -, hchain⟩ := hvs.turns v hv
  obtain ⟨r, hnext, hu⟩ := hchain.consecutive hc hd
  rw [hu]
  exact authenticated_of_next hnext hto hpeer

/-- The zone of an address keeps its case where a known peer's host does not. -/
example : (Parts.mk "http".toList "[fe80::1%Eth0]:4001".toList [] [] []).hostname ≠
    lower "fe80::1%Eth0".toList := by decide +kernel

/-- The first peer redirects to the second, with a password but no name in front of its host. -/
def namelessRoutes : List Route :=
  [⟨"a:4001".toList, "/db/execute".toList,
      [.response ⟨307, [("Location", "http://:x@b:4001/db/execute")], []⟩]⟩,
    ⟨"b:4001".toList, "/db/execute".toList, [.response ⟨200, [], [111, 107]⟩]⟩]

def namelessParts : Parts :=
  ⟨"http".toList, ":x@b:4001".toList, "/db/execute".toList, [], []⟩

theorem namelessParts_known : twoPeers.KnownTarget namelessParts 4001 where
  anonymous := rfl
  named := by decide
  effective := ⟨some 4001, by decide +kernel, rfl⟩
  known := ⟨⟨"b", 4001⟩, by decide, by decide +kernel, rfl⟩

theorem nameless_not_signed :
    ∃ c d, ((twoPeers.withAccount shortPassword).walk Script.serve .execute [] false
        ⟨namelessRoutes, [], .empty⟩).calls = [c, d] ∧
      c.RedirectsTo namelessParts ∧ twoPeers.KnownTarget namelessParts 4001 ∧
      d.url = "http://u:p@:x@b:4001/db/execute".toList ∧
      ¬∃ q, split d.url = .ok q ∧ shortPassword.Signs q := by
  refine ⟨_, _, rfl, ?_, namelessParts_known, rfl, ?_⟩
  · exact ⟨_, _, rfl, by decide, by decide, rfl, rfl⟩
  · rintro ⟨q, hq, -, hp⟩
    cases hq
    exact absurd hp (by decide +kernel)

end Executor

end SqlCluster
