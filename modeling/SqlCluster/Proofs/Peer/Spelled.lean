import SqlCluster.Proofs.Cluster.Nodes
import SqlCluster.Proofs.Cluster.Refresh
import SqlCluster.Proofs.Config.Obtained
import SqlCluster.Proofs.Executor.Landing
import SqlCluster.Proofs.Uri.Inline
/-!
Hosts that can be spelled in a URL. Nothing in them ends the host or opens another part, so that the
URL for a peer is read as one for that peer. The host of every peer that was read from an address is
of this kind, and stands on one line. A discovery finds no other peers.
-/
namespace SqlCluster

open Text Uri

def endsHost (c : Char) : Bool := endsAuthority c || c == '@'

/-- Without colons a host stands in no brackets, and must not open one. -/
structure Peer.IsSpelled (p : Peer) : Prop where
  chars : Within (endsHost · = false) p.host.toList
  opening : ':' ∉ p.host.toList → p.host.toList.head? ≠ some '['

def isMark (c : Char) : Bool := endsHost c || c == '[' || c == ':'

theorem lt_of_isMark {c : Char} (h : isMark c = true) : c.toNat < 'a'.toNat := by
  simp only [isMark, endsHost, endsAuthority, Bool.or_eq_true, beq_iff_eq] at h
  rcases h with (((((rfl | rfl) | rfl) | rfl) | rfl) | rfl) <;> decide

theorem lowerShifts_images : ∀ r ∈ lowerShifts, 'a'.toNat ≤ r.image := by decide +kernel

/-- Tells characters apart with which lower case has nothing to do. -/
structure Unlettered (f : Char → Bool) : Prop where
  lt : ∀ c, f c = true → c.toNat < 'a'.toNat
  kept : ∀ c, c.toNat < 128 → (lowerChar c).filter f = [c].filter f
  null : f '\x00' = false

theorem unlettered_isMark : Unlettered isMark where
  lt _ := lt_of_isMark
  kept _ := of_ascii (P := fun c => (lowerChar c).filter isMark = [c].filter isMark)
    (by decide +kernel)
  null := rfl

theorem unlettered_char {d : Char} (hd : d.toNat < 'a'.toNat) (hl : isAsciiLetter d = false)
    (hn : d ≠ '\x00') : Unlettered (· == d) where
  lt c hc := by
    obtain rfl := beq_iff_eq.mp hc
    exact hd
  kept c hc := by
    have hlower : lowerChar c = [asciiLowerChar c] := if_pos hc
    have hiff : asciiLowerChar c = d ↔ c = d := asciiLowerChar_eq_iff hl
    rw [hlower]
    by_cases h : c = d
    · rw [hiff.mpr h, h]
    · simp [h, mt hiff.mp h]
  null := beq_false_of_ne hn.symm

namespace Unlettered

variable {f : Char → Bool} (h : Unlettered f)
include h

theorem eq_false {c : Char} (hc : 'a'.toNat ≤ c.toNat) : f c = false := by
  rw [Bool.eq_false_iff]
  intro hf
  exact absurd hc (Nat.not_le.mpr (h.lt c hf))

theorem eq_false_ofNat {n : Nat} (hn : 'a'.toNat ≤ n) : f (Char.ofNat n) = false := by
  by_cases hv : n.isValidChar
  · rw [Char.ofNat, dif_pos hv]
    exact h.eq_false hn
  · rw [Char.ofNat, dif_neg hv]
    exact h.null

theorem filter_lowerChar (c : Char) : (lowerChar c).filter f = [c].filter f := by
  by_cases hc : c.toNat < 128
  · exact h.kept c hc
  · -- Outside ASCII neither a letter nor what it becomes in lower case is told apart.
    have hf : f c = false := h.eq_false (Nat.le_trans (by decide) (Nat.not_lt.mp hc))
    rw [lowerChar, if_neg hc, List.filter_cons_of_neg (by simp [hf])]
    split
    · rw [List.filter_cons_of_neg (by simp [h.eq_false (c := 'i') (by decide)]),
        List.filter_cons_of_neg (by simp [h.eq_false (c := '\u0307') (by decide)])]
    · split
      · next r hr =>
          have himage := lowerShifts_images r (List.mem_of_find?_eq_some hr)
          have hn := h.eq_false_ofNat (Nat.le_add_right_of_le (k := c.toNat - r.first) himage)
          rw [List.filter_cons_of_neg (by simp [hn])]
      · rw [List.filter_cons_of_neg (by simp [hf])]

theorem filter_lower (cs : List Char) : (lower cs).filter f = cs.filter f := by
  have after (before : List Char) : (lowerAfter before cs).filter f = cs.filter f := by
    induction cs generalizing before with
    | nil => rfl
    | cons c cs ih =>
        have hsplit : (c :: cs).filter f = [c].filter f ++ cs.filter f := List.filter_append [c] cs
        rw [lowerAfter, List.filter_append, ih, hsplit]
        congr 1
        split
        · next hs =>
            have hsigma : f c = false := h.eq_false (by rw [hs]; decide)
            rw [List.filter_cons_of_neg (a := c) (by simp [hsigma])]
            split
            · rw [List.filter_cons_of_neg (by simp [h.eq_false (c := 'ς') (by decide)])]
            · rw [List.filter_cons_of_neg (by simp [h.eq_false (c := 'σ') (by decide)])]
        · exact h.filter_lowerChar c
  exact after []

end Unlettered

theorem mem_iff_of_filter {f : Char → Bool} {cs ds : List Char} (h : cs.filter f = ds.filter f)
    {c : Char} (hc : f c = true) : c ∈ cs ↔ c ∈ ds := by
  have hm : c ∈ cs.filter f ↔ c ∈ ds.filter f := by rw [h]
  simpa [List.mem_filter, hc] using hm

theorem within_of_filter {f g : Char → Bool} (hg : ∀ c, g c = true → f c = true)
    {cs ds : List Char} (h : cs.filter f = ds.filter f) (hd : Within (g · = false) ds) :
    Within (g · = false) cs := by
  intro c hc
  rw [Bool.eq_false_iff]
  intro he
  exact absurd (hd c ((mem_iff_of_filter h (hg c he)).mp hc)) (by simp [he])

theorem head_lower {cs : List Char} (h : cs.head? = some 'v') : (lower cs).head? = some 'v' := by
  obtain ⟨rest, rfl⟩ := List.head?_eq_some_iff.mp h
  rfl

namespace Uri

def loweredHost (cs : List Char) : List Char :=
  match cutFirst? '%' cs with
  | some (host, zone) => lower host ++ '%' :: zone
  | none => lower cs

theorem Parts.hostname_eq (p : Parts) : p.hostname = loweredHost p.hostAndPort.1 := rfl

theorem filter_loweredHost {f : Char → Bool} (hf : Unlettered f) (cs : List Char) :
    (loweredHost cs).filter f = cs.filter f := by
  rw [loweredHost]
  split
  · next host zone h =>
      rw [eq_of_cutFirst? h, List.filter_append, List.filter_append, hf.filter_lower]
  · exact hf.filter_lower cs

end Uri

namespace Uri.Parts

variable {p : Parts}

theorem filter_hostname {f : Char → Bool} (hf : Unlettered f) (p : Parts) :
    p.hostname.filter f = p.hostAndPort.1.filter f :=
  filter_loweredHost hf p.hostAndPort.1

theorem head_hostname (h : p.hostAndPort.1.head? = some 'v') : p.hostname.head? = some 'v' := by
  rw [hostname]
  split
  · next host zone hc =>
      rw [eq_of_cutFirst? hc] at h
      cases host with
      | nil => cases h
      | cons c cs =>
          have hl : (lower (c :: cs)).head? = some 'v' := head_lower h
          rw [List.head?_append, hl, Option.some_or]
  · exact head_lower h

theorem ends_hostPart {cs : List Char} (h : split cs = .ok p) :
    Within (endsHost · = false) (hostPart p.authority) := by
  have ha : Within (endsAuthority · = false) p.authority := by
    rw [← (split_eq_ok.mp h).1]
    exact (within_cutAuthority (P := fun _ => True) fun _ _ => trivial).1.mono fun _ hc => hc.2
  intro c hc
  have hat : '@' ∉ hostPart p.authority := by
    rw [hostPart]
    split
    · next hl => exact not_mem_of_cutLast? hl
    · next hl => exact not_mem_of_cutLast?_eq_none hl
  have hne : c ≠ '@' := by
    rintro rfl
    exact hat hc
  have hauth : endsAuthority c = false := Http.within_hostPart ha c hc
  simp [endsHost, hauth, hne]

theorem within_hostAndPort {P : Char → Prop} (h : Within P (hostPart p.authority)) :
    Within P p.hostAndPort.1 := by
  cases hc : cutFirst? '[' (hostPart p.authority) with
  | none =>
      rw [hostAndPort_of_none hc]
      exact (within_cutAt h ':').1
  | some cut =>
      rw [hostAndPort_of_some hc]
      exact (within_cutAt (h.of_cutFirst? hc).2 ']').1

theorem inline_hostname {cs : List Char} (h : split cs = .ok p) : Inline p.hostname := by
  have hauthority := (oneLine_of_split h).authority
  have hhost : Inline p.hostAndPort.1 :=
    within_hostAndPort (hauthority.of_subset (hostPart_subset _))
  rw [inline_iff] at hhost ⊢
  intro hn
  have hf := unlettered_char (d := '\n') (by decide) (by decide) (by decide)
  exact hhost ((mem_iff_of_filter (filter_hostname hf p) rfl).mp hn)

theorem spelled_host {cs : List Char} (h : split cs = .ok p) :
    Within (endsHost · = false) p.hostAndPort.1 ∧
      ('[' ∉ p.hostAndPort.1 ∨ p.hostAndPort.1.head? = some 'v' ∨ ':' ∈ p.hostAndPort.1) := by
  refine ⟨within_hostAndPort (ends_hostPart h), ?_⟩
  cases hc : cutFirst? '[' (hostPart p.authority) with
  | none =>
      have hopen : Within (· ≠ '[') (hostPart p.authority) := by
        rintro c hm rfl
        exact not_mem_of_cutFirst?_eq_none hc hm
      exact .inl ((within_hostAndPort hopen).not_mem (by simp))
  | some cut =>
      obtain ⟨before, rest⟩ := cut
      obtain ⟨-, -, ha⟩ := brackets_spec (checkBrackets_of_split h) hc
      rw [hostAndPort_of_some hc]
      exact .inr ((address_spec ha).imp And.left colon_of_isIpv6)

theorem ends_hostname {cs : List Char} (h : split cs = .ok p) :
    Within (endsHost · = false) p.hostname :=
  within_of_filter (fun c hc => by simp [isMark, hc]) (filter_hostname unlettered_isMark p)
    (spelled_host h).1

theorem spelled_hostname {cs : List Char} (h : split cs = .ok p) (port : Nat) :
    (Peer.mk (String.ofList p.hostname) port).IsSpelled := by
  have ho := (spelled_host h).2
  have hm := filter_hostname unlettered_isMark p
  refine ⟨?_, ?_⟩
  · rw [String.toList_ofList]
    exact ends_hostname h
  · rw [String.toList_ofList]
    intro hcolon hhead
    rcases ho with ho | ho | ho
    · exact ho ((mem_iff_of_filter hm (by decide)).mp (List.mem_of_mem_head? hhead))
    · rw [head_hostname ho] at hhead
      exact absurd hhead (by decide)
    · exact hcolon ((mem_iff_of_filter hm (by decide)).mpr ho)

end Uri.Parts

namespace Peer

variable {p : Peer}

theorem host_of_make {host : String} {port : Int} (h : make host port = .ok p) : p.host = host := by
  obtain ⟨-, -, rfl⟩ := make_eq_ok.mp h
  rfl

theorem make_of_ofValues {host : String} {port : Value}
    (h : ofValues (.text host) port = .ok p) : ∃ n, make host n = .ok p := by
  cases ht : (Value.text host).isTruthy with
  | false => simp [ofValues, ht, bind, Except.bind, throw, throwThe, MonadExceptOf.throw] at h
  | true =>
      simp only [ofValues, ht, Bool.not_true, Bool.false_eq_true, if_false] at h
      obtain ⟨n, -, hm⟩ := Outcome.bind_eq_ok.mp h
      exact ⟨n, hm⟩

theorem host_of_ofValues {host : String} {port : Value}
    (h : ofValues (.text host) port = .ok p) : p.host = host := by
  obtain ⟨n, hm⟩ := make_of_ofValues h
  exact host_of_make hm

/-- The host is one that a URL names, or stands for one that was left out. -/
def IsHosted (p : Peer) : Prop :=
  p.host = Config.defaultHost ∨
    ∃ cs parts, Uri.split cs = .ok parts ∧ p.host = String.ofList parts.hostname

theorem IsHosted.isSpelled (h : p.IsHosted) : p.IsSpelled := by
  rcases h with hh | ⟨cs, parts, hs, hh⟩
  · have hd : Within (endsHost · = false) Config.defaultHost.toList := by decide
    refine ⟨?_, ?_⟩
    · rw [hh]
      exact hd
    · rw [hh]
      decide
  · have hspelled := Uri.Parts.spelled_hostname hs p.port
    rw [← hh] at hspelled
    exact hspelled

theorem IsHosted.inline (h : p.IsHosted) : Inline p.host.toList := by
  rcases h with hh | ⟨cs, parts, hs, hh⟩
  · rw [hh]
    decide
  · rw [hh, String.toList_ofList]
    exact Uri.Parts.inline_hostname hs

def IsRead (p : Peer) : Prop := ∃ address port, parse address port = .ok p

theorem IsRead.isHosted (h : p.IsRead) : p.IsHosted := by
  obtain ⟨address, port, h⟩ := h
  simp only [parse, parseWith] at h
  split at h
  · cases h
  · next parts hs =>
      split at h
      · cases h
      · split at h
        · cases h
        · exact .inr ⟨_, parts, hs, host_of_ofValues h⟩

end Peer

namespace Config

theorem isHosted_of_furtherPeers {parts : List (List Char)} {ps : List Peer}
    (h : furtherPeers parts = .ok ps) : ∀ p ∈ ps, p.IsHosted := by
  induction parts generalizing ps with
  | nil =>
      cases h
      intro p hp
      cases hp
  | cons part parts ih =>
      rw [furtherPeers] at h
      split at h
      · exact ih h
      · obtain ⟨q, hq, h⟩ := Outcome.bind_eq_ok.mp h
        obtain ⟨qs, hqs, h⟩ := Outcome.bind_eq_ok.mp h
        cases h
        intro p hp
        rcases List.mem_cons.mp hp with rfl | hp
        · exact Peer.IsRead.isHosted ⟨_, _, hq⟩
        · exact ih hqs p hp

theorem isHosted_of_hostOrDefault {first : List Char} {r : Parts × Option Nat} {p : Peer}
    (hr : cutUrl first = .ok r) (hp : p.host = hostOrDefault r.1) : p.IsHosted := by
  unfold cutUrl at hr
  split at hr
  · cases hr
  · next parts hs =>
      split at hr
      · cases hr
      · cases hr
        by_cases hn : parts.hostname = []
        · rw [hostOrDefault, if_pos hn] at hp
          exact .inl hp
        · rw [hostOrDefault, if_neg hn] at hp
          exact .inr ⟨_, parts, hs, hp⟩

theorem isHosted_of_ofUrl {url : List Char} {c : Config} (h : ofUrl url = .ok c) :
    ∀ p ∈ c.seeds, p.IsHosted := by
  obtain ⟨first, rest, h⟩ := ofParts_of_ofUrl h
  obtain ⟨-, r, hr, primary, hp, others, ho, level, -, timeout, -, disable, -, hm⟩ :=
    ofParts_eq_ok.mp h
  obtain ⟨-, scheme, timeout, -, -, rfl⟩ := withOptions_eq_ok.mp hm
  intro p hmem
  have hmem : p ∈ primary :: others := mem_distinct.mp hmem
  rcases List.mem_cons.mp hmem with rfl | hmem
  · exact isHosted_of_hostOrDefault hr (Peer.host_of_make hp)
  · exact isHosted_of_furtherPeers ho p hmem

theorem isSpelled_of_ofUrl {url : List Char} {c : Config} (h : ofUrl url = .ok c) :
    ∀ p ∈ c.seeds, p.IsSpelled :=
  fun p hp => (isHosted_of_ofUrl h p hp).isSpelled

end Config

namespace Discovery

theorem isRead_of_peerOf {address : String} {p : Peer} (h : peerOf address = .ok p) :
    p.IsRead := by
  unfold peerOf at h
  split at h
  · next hp =>
      cases h
      exact ⟨_, _, hp⟩
  · cases h

theorem isRead_of_peersOf {addresses : List String} {ps : List Peer}
    (h : peersOf addresses = .ok ps) : ∀ p ∈ ps, p.IsRead := by
  induction addresses generalizing ps with
  | nil =>
      cases h
      intro p hp
      cases hp
  | cons a as ih =>
      obtain ⟨q, hq, h⟩ := Outcome.bind_eq_ok.mp h
      obtain ⟨qs, hqs, h⟩ := Outcome.bind_eq_ok.mp h
      cases h
      intro p hp
      rcases List.mem_cons.mp hp with rfl | hp
      · exact isRead_of_peerOf hq
      · exact ih hqs p hp

theorem isRead_of_electedOf {ns : List Node} {leader : Option Peer} {others : List Peer}
    {r : Option Peer × List Peer} (h : electedOf ns leader others = .ok r)
    (hl : ∀ p, leader = some p → p.IsRead) (ho : ∀ p ∈ others, p.IsRead) :
    (∀ p, r.1 = some p → p.IsRead) ∧ ∀ p ∈ r.2, p.IsRead := by
  induction ns generalizing leader others with
  | nil =>
      cases h
      exact ⟨hl, ho⟩
  | cons n ns ih =>
      rw [electedOf] at h
      split at h
      · obtain ⟨q, hq, h⟩ := Outcome.bind_eq_ok.mp h
        have hread : q.IsRead := isRead_of_peerOf hq
        split at h
        · refine ih h ?_ ho
          intro p hp
          cases hp
          exact hread
        · refine ih h hl ?_
          intro p hp
          rcases List.mem_append.mp hp with hp | hp
          · exact ho p hp
          · rw [List.mem_singleton.mp hp]
            exact hread
      · exact ih h hl ho

theorem isRead_make {leader : Option Peer} {others : List Peer} {seed : Option Peer}
    (hl : ∀ p, leader = some p → p.IsRead) (ho : ∀ p ∈ others, p.IsRead) :
    ∀ p ∈ (Topology.make leader others seed).peers, p.IsRead := by
  intro p hp
  rcases Topology.mem_peers_make.mp hp with h | h
  · exact hl p h
  · exact ho p h

theorem isRead_of_parseStatus {body : List UInt8} {t : Topology}
    (h : parseStatus body = .ok (some t)) : ∀ p ∈ t.peers, p.IsRead := by
  unfold parseStatus at h
  split at h
  · next s _ =>
      unfold Status.topology at h
      split at h
      · cases h
      · obtain ⟨leader, hl, h⟩ := Outcome.bind_eq_ok.mp h
        obtain ⟨others, ho, h⟩ := Outcome.bind_eq_ok.mp h
        cases h
        refine isRead_make ?_ (isRead_of_peersOf ho)
        intro p hp
        cases hp
        exact isRead_of_peerOf hl
  · cases h

theorem isRead_of_parseNodes {body : List UInt8} {t : Topology} (h : parseNodes body = .ok t) :
    ∀ p ∈ t.peers, p.IsRead := by
  unfold parseNodes at h
  split at h
  · next ns _ =>
      cases he : electedOf ns none [] with
      | error e =>
          rw [he] at h
          cases h
      | ok r =>
          rw [he] at h
          cases h
          obtain ⟨hl, ho⟩ := isRead_of_electedOf he (fun p hp => nomatch hp) (fun p hp => nomatch hp)
          exact isRead_make hl ho
  · cases h

variable {σ : Type} {fetch : Fetch σ} {current t : Topology} {tracer : Tracer} {w : World σ}

theorem isRead_of_install {found : Topology} (hf : ∀ p ∈ found.peers, p.IsRead)
    (h : (install current found tracer w).1 = .ok t) : ∀ p ∈ t.peers, p.IsRead := by
  unfold install at h
  split at h
  · cases h
  · cases h
    intro p hp
    exact hf p (Topology.mem_peers_withSeed.mp hp)

theorem isRead_of_viaNodes (h : (viaNodes fetch current tracer w).1 = .ok t) :
    ∀ p ∈ t.peers, p.IsRead := by
  unfold viaNodes at h
  split at h
  · split at h <;> cases h
  · split at h
    · cases h
    · next hp => exact isRead_of_install (isRead_of_parseNodes hp) h

theorem isRead_of_statusOutcome {r : Except Fault (List UInt8)} {found : Topology}
    (h : statusOutcome r = .ok (some found)) : ∀ p ∈ found.peers, p.IsRead := by
  unfold statusOutcome at h
  split at h
  · cases h
  · split at h
    · cases h
    · next hp =>
        cases h
        exact isRead_of_parseStatus hp

theorem isRead_of_refresh (h : (refresh fetch current tracer w).1 = .ok t) :
    ∀ p ∈ t.peers, p.IsRead := by
  unfold refresh at h
  dsimp only at h
  split at h
  · split at h
    · exact isRead_of_viaNodes h
    · cases h
  · exact isRead_of_viaNodes h
  · next hs => exact isRead_of_install (isRead_of_statusOutcome hs) h

end Discovery

end SqlCluster
