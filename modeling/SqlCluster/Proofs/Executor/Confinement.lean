import SqlCluster.Proofs.Executor.Discretion
import SqlCluster.Proofs.Executor.Landing
/-!
Confinement. The account of an executor shows in a request only if the request goes to a peer that
the executor knows; all other requests are the same whatever the account is.
-/
namespace SqlCluster

open Text Uri Http

/-- The port of a URL. One that is left out is that of the scheme, or the one that is implied. -/
def Http.Url.Means (u : Url) (port : Nat) : Prop :=
  u.port = some (port : Int) ∨
    u.port = none ∧
      (defaultPort? u.scheme = some (port : Int) ∨ Executor.impliedPort u.scheme = port)

namespace Executor

/-- The URL's host and port are those of a known peer. -/
def Reaches (x : Executor) (u : Url) : Prop :=
  ∃ port, u.Means port ∧ (lower u.host, port) ∈ x.trusted

/-- The URL's host is that of a known peer behind a bracket, and reads as an address of a later
kind. -/
def Unclosed (x : Executor) (u : Url) : Prop :=
  ∃ port cs, u.Means port ∧ (lower cs, port) ∈ x.trusted ∧ isFutureAddress cs = true ∧
    u.host = "%5B".toList ++ lower cs

def LeadsToPeer (x : Executor) (url : List Char) : Prop :=
  ∃ parts given, Uri.split url = .ok parts ∧ parts.port? = .ok given ∧
    (parts.hostname, given.getD (impliedPort parts.scheme)) ∈ x.trusted

/-- What two runs hand to the client: the same, or two URLs of a known peer that differ in the
user's part. -/
structure ConfinedCall (x : Executor) (c d : Call) : Prop where
  method : c.method = d.method
  body : c.body = d.body
  url : c.url = d.url ∨
    (UrlParts.ofText c.url).withUser [] = (UrlParts.ofText d.url).withUser [] ∧
      x.LeadsToPeer c.url ∧ x.LeadsToPeer d.url

/-- Two requests that differ in the login at most, and that only at a known peer or behind a bracket
that is never closed. -/
structure ConfinedRequest (x : Executor) (r q : Request) : Prop where
  anonymous : r.anonymous = q.anonymous
  outside : ¬x.Reaches r.url → ¬x.Unclosed r.url → r = q

/-- The text is a URL that leaves a bracket open. -/
def SpellsOpen (url : List Char) : Prop :=
  ∃ parts, Uri.split url = .ok parts ∧ LeavesOpen parts.authority

def AtPeer (x : Executor) (p : Place) : Prop :=
  checkBrackets p.authority = .ok () ∧
    ∃ given, p.parts.port? = .ok given ∧
      (p.parts.hostname, given.getD (impliedPort p.scheme)) ∈ x.trusted

variable {σ : Type} {serve : Server σ} {x : Executor} {operation : Operation} {queue : Bool}

theorem orderedPeers_subset : x.topology.orderedPeers x.favorSeed ⊆ x.knownPeers := by
  intro p hp
  have hpeers : x.topology.peers ⊆ x.knownPeers := fun q hq =>
    List.mem_append_left _ (List.mem_append_left _ hq)
  rw [Topology.orderedPeers.eq_def] at hp
  split at hp
  · next s _ hs =>
      rcases List.mem_cons.mp (mem_distinct.mp hp) with rfl | hp
      · exact List.mem_append_right _ (by rw [hs]; exact List.mem_singleton.mpr rfl)
      · exact hpeers hp
  · exact hpeers hp

theorem covers_atPeer : Covers x operation queue x.AtPeer := by
  refine ⟨?_, ?_, ?_⟩
  · intro p hp h
    have ha : (x.config.place operation queue h).parts.authority = p.addressChars := rfl
    refine ⟨(h.read_address ha).1, some p.port, h.port_read ha, ?_⟩
    rw [h.hostname ha, Option.getD_some]
    exact List.mem_map.mpr ⟨p, orderedPeers_subset hp, rfl⟩
  · intro parts h given hb hg ht
    exact ⟨hb, given, hg, List.contains_iff_mem.mp ht⟩
  · rintro p q ⟨hb, given, hg, ht⟩ hs ha
    have hparts : q.parts.hostAndPort = p.parts.hostAndPort := by
      simp only [Parts.hostAndPort, Place.parts, ha]
    refine ⟨ha ▸ hb, given, ?_, ?_⟩
    · rw [Parts.port?, hparts]
      exact hg
    · rw [Parts.hostname, hparts, hs]
      exact ht

theorem named_of_trusted (hp : ∀ peer ∈ x.knownPeers, peer.IsNamed) {name : List Char} {port : Nat}
    (h : (name, port) ∈ x.trusted) :
    Within (isPeerChar · = true) name ∧ (':' ∈ name → name.head? ≠ some 'v') := by
  obtain ⟨peer, hm, he⟩ := List.mem_map.mp h
  cases he
  have hn := hp peer hm
  obtain ⟨hl, hw⟩ := hn.lower_host
  refine ⟨hw, fun hc hv => ?_⟩
  rw [hl] at hc hv
  have h6 := head_ne_of_isIpv6 (hn.address (mem_asciiLower_colon.mp hc))
  rw [asciiLower, List.head?_map] at hv
  obtain ⟨c, hcs, hcv⟩ := Option.map_eq_some_iff.mp hv
  have hvv : c = 'v' ∨ c = 'V' := by
    have hlt : c.toNat < 128 := by
      have hm := List.mem_of_head? hcs
      have hplain := (isPeerChar_spec (hn.host_chars c hm)).1.1.2
      omega
    exact of_ascii (P := fun c => asciiLowerChar c = 'v' → c = 'v' ∨ c = 'V') (by decide +kernel)
      hlt hcv
  rcases hvv with rfl | rfl
  · exact h6.1 hcs
  · exact h6.2 hcs

theorem means_of_agrees {u : Url} {given : Option Nat} (h : PortAgrees u.scheme given u.port) :
    u.Means (given.getD (impliedPort u.scheme)) := by
  cases given with
  | none => exact .inr ⟨h, .inr rfl⟩
  | some n => exact h.imp id fun ⟨hn, hd⟩ => ⟨hn, .inl hd⟩

theorem reaches_of_reads (hp : ∀ peer ∈ x.knownPeers, peer.IsNamed) {p : Place} {u : Url}
    (ha : x.AtPeer p) (hr : Reads p u) :
    ¬LeavesOpen p.authority ∧ x.Reaches u ∨ LeavesOpen p.authority ∧ x.Unclosed u := by
  obtain ⟨hb, given, hg, ht⟩ := ha
  obtain ⟨hn, hv⟩ := named_of_trusted hp ht
  obtain ⟨hl, hport⟩ := lands_of_reads hb hg hn hv hr
  rw [← hr.scheme] at hport ht
  have hmeans := means_of_agrees hport
  generalize hname : p.parts.hostname = name at hl ht
  generalize hhost : u.host = host at hl
  cases hl with
  | named hc h =>
      rw [← h, ← hhost] at ht
      exact .inl ⟨hc, _, hmeans, ht⟩
  | unclosed ho hf h =>
      rw [← h] at ht hhost
      exact .inr ⟨ho, _, _, hmeans, ht, hf, hhost⟩

theorem not_reaches_of_unclosed (hp : ∀ peer ∈ x.knownPeers, peer.IsNamed) {u : Url}
    (h : x.Unclosed u) : ¬x.Reaches u := by
  obtain ⟨_, name, -, hname, -, hhost⟩ := h
  rintro ⟨_, -, ht⟩
  have plain {cs : List Char} (h : Within (isPeerChar · = true) cs) : Within IsPlain cs :=
    h.mono fun _ hc => (isPeerChar_spec hc).1.1
  have hplain : Within IsPlain ("%5B".toList ++ lower name) :=
    within_append.mpr ⟨by decide, plain (named_of_trusted hp hname).1⟩
  have hpeer := (named_of_trusted hp ht).1
  rw [hhost, lower_of_plain hplain] at hpeer
  exact absurd (hpeer '%' (by simp [asciiLower, asciiLowerChar])) (by decide)

theorem leads_of_atPeer {p : Place} (ha : x.AtPeer p) (l : Login) : x.LeadsToPeer (p.dress l) := by
  obtain ⟨hb, given, hg, ht⟩ := ha
  refine ⟨p.parts.withUser l.text, given, ?_, ?_, ?_⟩
  · rw [p.split_dress, hb]
    rfl
  · rw [port_withUser, hg]
  · rw [hostname_withUser]
    exact ht

theorem confined_call {c d : Call} (h : c.Alike False x.AtPeer d) : x.ConfinedCall c d := by
  refine ⟨h.method, h.body, ?_⟩
  have hu := h.url
  generalize c.url = cs at *
  generalize d.url = ds at *
  cases hu with
  | fixed cs _ => exact .inl rfl
  | dressed p hp l m _ =>
      obtain ⟨tail, htail⟩ := ofText_dress p
      refine .inr ⟨?_, leads_of_atPeer hp l, leads_of_atPeer hp m⟩
      rw [htail l, htail m]
      rfl

theorem confined_request {r q : Request}
    (h : r.Alike False (fun u => x.Reaches u ∨ x.Unclosed u) q) : x.ConfinedRequest r q := by
  refine ⟨h.anonymous, fun hr hu => ?_⟩
  cases h with
  | refl r => rfl
  | credentials r hk c d => exact absurd hk (not_or.mpr ⟨hr, hu⟩)
  | login r hk _ _ l m _ c d => exact absurd hk (not_or.mpr ⟨hr, hu⟩)

theorem spellsOpen_dress {p : Place} (ha : x.AtPeer p) (l : Login) :
    SpellsOpen (p.dress l) ↔ LeavesOpen p.authority := by
  have hs : split (p.dress l) = .ok (p.parts.withUser l.text) := by
    rw [p.split_dress, ha.1]
    rfl
  have ho : LeavesOpen (p.parts.withUser l.text).authority ↔ LeavesOpen p.authority := by
    simp only [LeavesOpen, Parts.withUser, hostPart_withUser]
    rfl
  rw [SpellsOpen, hs]
  constructor
  · rintro ⟨parts, hparts, hopen⟩
    cases hparts
    exact ho.mp hopen
  · exact fun h => ⟨_, rfl, ho.mpr h⟩

theorem reads_of_prepare {p : Place} {l m : Login} {method : Method} {timeout : Value} {r q : Request}
    (hr : Client.prepare method (p.dress l) body timeout = .ok r)
    (hq : Client.prepare method (p.dress m) body timeout = .ok q) :
    r = q ∨ ∃ u user, Reads p u ∧ (r.url = u ∨ r.url = u.withUser user) := by
  have hdress : Uri.Alike False (p = ·) (p.dress l) (p.dress m) := .dressed p rfl l m False.elim
  have halike : Agree tooLong (Request.Alike False (Reads p)) _ _ :=
    prepare_alike (fun _ _ he h => he ▸ h) method body timeout hdress
  rw [hr, hq] at halike
  cases halike with
  | ok h =>
      cases h with
      | refl r => exact .inl rfl
      | credentials r hk _ _ => exact .inr ⟨r.url, [], hk, .inl rfl⟩
      | login r hk _ _ l _ _ _ _ => exact .inr ⟨r.url, l.text, hk, .inr rfl⟩

theorem lands_of_alike (hp : ∀ peer ∈ x.knownPeers, peer.IsNamed) {timeout : Value} {c d : Call}
    (h : c.Alike False x.AtPeer d) {r q : Request} (hr : c.request? timeout = some r)
    (hq : d.request? timeout = some q) (hne : r ≠ q) :
    ¬SpellsOpen c.url ∧ x.Reaches r.url ∨ SpellsOpen c.url ∧ x.Unclosed r.url := by
  have ok {ρ : Except SendError Request} {r : Request} (h : ρ.toOption = some r) : ρ = .ok r := by
    cases ρ <;> simp_all [Except.toOption]
  have hr := ok hr
  have hq := ok hq
  have hu := h.url
  rw [← h.method, ← h.body] at hq
  generalize c.url = cs at *
  generalize d.url = ds at *
  cases hu with
  | fixed cs _ => exact absurd (Except.ok.inj (hr.symm.trans hq)) hne
  | dressed p ha l m _ =>
      rw [spellsOpen_dress ha l]
      rcases reads_of_prepare hr hq with he | ⟨u, user, hread, hurl⟩
      · exact absurd he hne
      · have hlands := reaches_of_reads hp ha hread
        rcases hurl with hurl | hurl
        · rw [hurl]
          exact hlands
        · rw [hurl]
          exact hlands

theorem mem_zip_filterMap {α β γ : Type} {f : α → Option γ} {g : β → Option γ} {as : List α}
    {bs : List β} (h : List.Forall₂ (fun a b => (f a).isSome = (g b).isSome) as bs) {p : γ × γ} :
    p ∈ (as.filterMap f).zip (bs.filterMap g) ↔
      ∃ q ∈ as.zip bs, f q.1 = some p.1 ∧ g q.2 = some p.2 := by
  induction h with
  | nil => simp
  | @cons a b as bs hab _ ih =>
      simp only [List.zip_cons_cons, List.mem_cons, or_and_right, exists_or, exists_eq_left]
      cases hf : f a with
      | none =>
          have hg : g b = none := by simpa [hf] using hab.symm
          rw [List.filterMap_cons_none hf, List.filterMap_cons_none hg, ih]
          simp
      | some r =>
          obtain ⟨q, hg⟩ := Option.isSome_iff_exists.mp (by simpa [hf] using hab.symm)
          rw [List.filterMap_cons_some hf, List.filterMap_cons_some hg, List.zip_cons_cons,
            List.mem_cons, ih, hg, Option.some.injEq, Option.some.injEq, Prod.ext_iff,
            eq_comm (a := p.1), eq_comm (a := p.2)]

/-- The requests of two runs that are not at a known peer are the same, exactly if no text leaves a
bracket open where the account shows. -/
theorem confined_iff (hp : ∀ peer ∈ x.knownPeers, peer.IsNamed) {timeout : Value}
    {before : List Request} {calls calls' : List Call}
    (halike : List.Forall₂ (Call.Alike False x.AtPeer) calls calls')
    (hsome : List.Forall₂ (fun c d => (c.request? timeout).isSome = (d.request? timeout).isSome)
      calls calls') :
    (∀ p ∈ (before ++ calls.filterMap (Call.request? timeout)).zip
        (before ++ calls'.filterMap (Call.request? timeout)), ¬x.Reaches p.1.url → p.1 = p.2) ↔
      ∀ p ∈ calls.zip calls', p.1.request? timeout ≠ p.2.request? timeout →
        ¬SpellsOpen p.1.url := by
  have hpair {c d : Call} (h : (c, d) ∈ calls.zip calls') : c.Alike False x.AtPeer d :=
    (List.forall₂_iff_zip.mp halike).2 h
  rw [List.zip_append rfl]
  constructor
  · rintro h ⟨c, d⟩ hcd hne ho
    have hs : (c.request? timeout).isSome = (d.request? timeout).isSome :=
      (List.forall₂_iff_zip.mp hsome).2 hcd
    cases hr : c.request? timeout with
    | none =>
        have hq : d.request? timeout = none := by simpa [hr] using hs.symm
        exact hne (hr.trans hq.symm)
    | some r =>
        obtain ⟨q, hq⟩ := Option.isSome_iff_exists.mp (by simpa [hr] using hs.symm)
        have hrq : r ≠ q := fun he => hne (by rw [hr, hq, he])
        have hmem := (mem_zip_filterMap hsome (p := (r, q))).mpr ⟨(c, d), hcd, hr, hq⟩
        rcases lands_of_alike hp (hpair hcd) hr hq hrq with ⟨hc, -⟩ | ⟨-, hu⟩
        · exact hc ho
        · exact hrq (h _ (List.mem_append_right _ hmem) (not_reaches_of_unclosed hp hu))
  · rintro h ⟨r, q⟩ hm hn
    rcases List.mem_append.mp hm with hm | hm
    · exact (List.forall₂_iff_zip.mp (List.forall₂_same.mpr fun _ _ => rfl)).2 hm
    · obtain ⟨⟨c, d⟩, hcd, hr, hq⟩ := (mem_zip_filterMap hsome).mp hm
      by_contra hrq
      have hc := h (c, d) hcd (by simp only [hr, hq]; simpa using hrq)
      rcases lands_of_alike hp (hpair hcd) hr hq hrq with ⟨-, hreach⟩ | ⟨ho, -⟩
      · exact hn hreach
      · exact hc ho

theorem isSome_of_alike (hd : operation.isData = true) {y z : Executor} {timeout : Value}
    (hy : y.config.timeout = timeout) (hz : z.config.timeout = timeout) {calls calls' : List Call}
    (h : List.Forall₂ (Call.Alike False x.AtPeer) calls calls')
    (hc : ∀ c ∈ calls, ∃ url v, c = y.callOf serve operation body url v)
    (hc' : ∀ c ∈ calls', ∃ url v, c = z.callOf serve operation body url v) :
    List.Forall₂ (fun c d => (c.request? timeout).isSome = (d.request? timeout).isSome)
      calls calls' := by
  have counted {y : Executor} (hy : y.config.timeout = timeout) {c : Call}
      (h : ∃ url v, c = y.callOf serve operation body url v) :
      c.requests = (c.request? timeout).toList.length := by
    obtain ⟨url, v, rfl⟩ := h
    rw [← hy, requests_callOf hd]
  refine List.forall₂_iff_zip.mpr ⟨h.length_eq, fun {c d} hcd => ?_⟩
  obtain ⟨hm, hm'⟩ := List.of_mem_zip hcd
  have hreq := ((List.forall₂_iff_zip.mp h).2 hcd).requests
  rw [counted hy (hc c hm), counted hz (hc' d hm')] at hreq
  cases hr : c.request? timeout <;> cases hq : d.request? timeout <;> simp [hr, hq] at hreq ⊢

/-- Whatever the account is, an executor hands the same calls to the client and sends the same
requests, but for the user's part where they go to a known peer, unless a URL that holds an account
is too long. It keeps the account from all other hosts exactly if no URL with the account in it
leaves a bracket open. -/
theorem walk_confined (x : Executor) (a b : Account) (hd : Blind serve)
    (operation : Operation) (ho : operation.isData = true) (body : List UInt8) (queue : Bool)
    (w : World σ) (hp : ∀ peer ∈ x.knownPeers, peer.IsNamed)
    (hf : ((x.withAccount a).walk serve operation body queue w).Fits
      ((x.withAccount b).walk serve operation body queue w)) :
    let r := (x.withAccount a).walk serve operation body queue w
    let s := (x.withAccount b).walk serve operation body queue w
    List.Forall₂ x.ConfinedCall r.calls s.calls ∧
      List.Forall₂ x.ConfinedRequest r.world.sent s.world.sent ∧
      ((∀ p ∈ r.world.sent.zip s.world.sent, ¬x.Reaches p.1.url → p.1 = p.2) ↔
        ∀ p ∈ r.calls.zip s.calls,
          p.1.request? x.config.timeout ≠ p.2.request? x.config.timeout →
            ¬SpellsOpen p.1.url) := by
  intro r s
  have hpost : methodOf operation = .post := by rw [methodOf, if_pos ho]
  have hrun : Run.Alike False x.AtPeer (fun u => x.Reaches u ∨ x.Unclosed u) (OutcomeAlike False) r s :=
    walk_alike covers_atPeer False.elim hd.discreet
      (fun _ _ ha hr => (reaches_of_reads hp ha hr).imp And.right And.right) (.inl hpost)
      (fun peer h => hp peer (orderedPeers_subset h)) (World.Alike.refl w) hf
  refine ⟨hrun.calls.imp fun _ _ => confined_call, hrun.world.sent.imp fun _ _ => confined_request, ?_⟩
  have hsome := isSome_of_alike ho (y := x.withAccount a) (z := x.withAccount b) rfl rfl hrun.calls
    (called_walk serve queue w) (called_walk serve queue w)
  have hr : r.world.sent = w.sent ++ r.calls.filterMap (Call.request? x.config.timeout) :=
    delivers_walk serve ho queue w
  have hs : s.world.sent = w.sent ++ s.calls.filterMap (Call.request? x.config.timeout) :=
    delivers_walk serve ho queue w
  rw [hr, hs]
  exact confined_iff hp hrun.calls hsome

def outAndBack : List Route :=
  [⟨"a:4001".toList, "/db/execute".toList,
      [.response ⟨307, [("Location", "http://elsewhere/db/execute")], []⟩]⟩,
    ⟨"elsewhere:80".toList, "/db/execute".toList,
      [.response ⟨307, [("Location", "//b:4001/db/execute")], []⟩]⟩,
    ⟨"b:4001".toList, "/db/execute".toList, [.response ⟨200, [], [111, 107]⟩]⟩]

theorem twoPeers_known : ∀ peer ∈ twoPeers.knownPeers, peer.IsNamed := by
  intro peer hp
  have hmem : peer ∈ [(⟨"a", 4001⟩ : Peer), ⟨"b", 4001⟩, ⟨"localhost", 4001⟩] := hp
  simp only [List.mem_cons, List.not_mem_nil, or_false] at hmem
  rcases hmem with rfl | rfl | rfl
  all_goals exact ⟨by decide, by decide, by decide⟩

theorem outAndBack_confined :
    let r := (twoPeers.withAccount shortPassword).walk Script.serve .execute [] false
      ⟨outAndBack, [], .empty⟩
    let s := (twoPeers.withAccount otherPassword).walk Script.serve .execute [] false
      ⟨outAndBack, [], .empty⟩
    Blind Script.serve ∧ Operation.execute.isData = true ∧
      (∀ peer ∈ twoPeers.knownPeers, peer.IsNamed) ∧ r.Fits s ∧ r.world.sent.length = 3 ∧
      List.Forall₂ twoPeers.ConfinedCall r.calls s.calls ∧
      List.Forall₂ twoPeers.ConfinedRequest r.world.sent s.world.sent ∧
      ((∀ p ∈ r.world.sent.zip s.world.sent, ¬twoPeers.Reaches p.1.url → p.1 = p.2) ↔
        ∀ p ∈ r.calls.zip s.calls,
          p.1.request? twoPeers.config.timeout ≠ p.2.request? twoPeers.config.timeout →
            ¬SpellsOpen p.1.url) :=
  ⟨Script.blind_serve, rfl, twoPeers_known, by decide +kernel, by decide +kernel,
    walk_confined twoPeers shortPassword otherPassword Script.blind_serve .execute rfl [] false
      ⟨outAndBack, [], .empty⟩ twoPeers_known (by decide +kernel)⟩

def peerNamedLikeAddress : Executor :=
  { twoPeers with topology := .make (some ⟨"v1.example.com", 80⟩) [] none }

/-- The peer redirects to its own name behind a bracket. -/
def bracketedPeerRedirect : List Route :=
  [⟨"v1.example.com:80".toList, "/db/execute".toList,
      [.response ⟨307, [("Location", "http://:]@[v1.example.com/db/execute")], []⟩]⟩,
    ⟨"%5Bv1.example.com:80".toList, "/db/execute".toList, [.response ⟨200, [], [111, 107]⟩]⟩]

def bracketedPeerRequest (userinfo credentials : String) : Request where
  method := .post
  url := ⟨"http".toList, userinfo.toList, "%5Bv1.example.com".toList, none, "/db/execute".toList,
    none, none⟩
  body := []
  credentials := some credentials.toList
  timeout := Number.Double.ofNat 10

theorem peerNamedLikeAddress_known : ∀ peer ∈ peerNamedLikeAddress.knownPeers, peer.IsNamed := by
  intro peer hp
  have hmem : peer ∈ [(⟨"v1.example.com", 80⟩ : Peer), ⟨"localhost", 4001⟩] := hp
  simp only [List.mem_cons, List.not_mem_nil, or_false] at hmem
  rcases hmem with rfl | rfl
  all_goals exact ⟨by decide, by decide, by decide⟩

theorem bracketedPeerRequest_elsewhere (userinfo credentials : String) :
    ¬peerNamedLikeAddress.Reaches (bracketedPeerRequest userinfo credentials).url := by
  rintro ⟨port, -, hm⟩
  have hname : lower "%5Bv1.example.com".toList ∈ peerNamedLikeAddress.trusted.map Prod.fst :=
    List.mem_map.mpr ⟨_, hm, rfl⟩
  exact absurd hname (by decide +kernel)

/-- A host that is no peer's is sent the account, and a longer password leaves all requests out. -/
theorem bracketedPeerRedirect_not_confined :
    Blind Script.serve ∧ (∀ peer ∈ peerNamedLikeAddress.knownPeers, peer.IsNamed) ∧
      (∀ peer ∈ twoPeers.knownPeers, peer.IsNamed) ∧
      ((peerNamedLikeAddress.withAccount shortPassword).execute Script.serve .execute [] false
        ⟨bracketedPeerRedirect, [], .empty⟩).2.sent[1]? =
          some (bracketedPeerRequest "u:p%40:%5D" "u:p@:]") ∧
      ((peerNamedLikeAddress.withAccount otherPassword).execute Script.serve .execute [] false
        ⟨bracketedPeerRedirect, [], .empty⟩).2.sent[1]? =
          some (bracketedPeerRequest "u:secret%40:%5D" "u:secret@:]") ∧
      ¬peerNamedLikeAddress.Reaches (bracketedPeerRequest "u:p%40:%5D" "u:p@:]").url ∧
      ((twoPeers.withAccount shortPassword).execute Script.serve .execute [] false
        ⟨firstPeerDown, [], .empty⟩).2.sent.length = 2 ∧
      ((twoPeers.withAccount overlongPassword).execute Script.serve .execute [] false
        ⟨firstPeerDown, [], .empty⟩).2.sent = [] := by
  have hover : Overlong (twoPeers.withAccount overlongPassword) .execute false
      (twoPeers.topology.orderedPeers twoPeers.favorSeed) :=
    overlong_withAccount (by simp [overlongPassword]) twoPeers_named
  exact ⟨Script.blind_serve, peerNamedLikeAddress_known, twoPeers_known, by decide +kernel,
    by decide +kernel,
    bracketedPeerRequest_elsewhere _ _, by decide +kernel,
    (execute_of_overlong Script.serve [] (by decide) (by decide) hover _).2⟩

end Executor

end SqlCluster
