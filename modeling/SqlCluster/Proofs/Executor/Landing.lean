import SqlCluster.Proofs.Executor.Account
import SqlCluster.Proofs.Number.Row
import SqlCluster.Proofs.Uri.Address
/-!
Where a request lands. A URL is read twice, for its host and port to be looked up and for the
request to be sent, and the two readings are compared here.
-/
namespace SqlCluster

open Text Uri Http Number.Literal

theorem isPeerChar_lower {c : Char} (h : isPeerChar c = true) : isPeerChar (asciiLowerChar c) = true :=
  IsPlain.of_ascii (P := fun c => isPeerChar c = true → isPeerChar (asciiLowerChar c) = true)
    (by decide +kernel) (isPeerChar_spec h).1.1 h

theorem Peer.IsNamed.lower_host {p : Peer} (h : p.IsNamed) :
    lower p.host.toList = asciiLower p.host.toList ∧
      Within (isPeerChar · = true) (lower p.host.toList) := by
  have hl := lower_of_plain (h.host_chars.mono fun _ hc => (isPeerChar_spec hc).1.1)
  refine ⟨hl, ?_⟩
  rw [hl]
  exact within_asciiLower (fun _ hc => isPeerChar_lower hc) h.host_chars

theorem mem_asciiLower_colon {cs : List Char} : ':' ∈ asciiLower cs ↔ ':' ∈ cs :=
  mem_asciiLower (by decide)

/-- What the client makes of a port that was read from the text, or of none. -/
def PortAgrees (scheme : List Char) (given : Option Nat) (port : Option Int) : Prop :=
  match given with
  | none => port = none
  | some n => port = some (n : Int) ∨ port = none ∧ defaultPort? scheme = some (n : Int)

theorem row_of_port {parts : Parts} {given : Option Nat} (h : parts.port? = .ok given) :
    IsRow parts.hostAndPort.2 ∧ parts.hostAndPort.2.length ≤ maxIntDigits ∧
      given = if parts.hostAndPort.2 = [] then none else some (rowValue parts.hostAndPort.2) := by
  rw [Parts.port?] at h
  split at h
  · next he =>
      rw [he]
      exact ⟨within_nil, Nat.zero_le _, (Except.ok.inj h).symm⟩
  · next hne =>
      split at h
      · cases h
      · next hrow =>
          split at h
          · cases h
          · next hlen =>
              simp only at h
              split at h
              · simp only [Bool.not_eq_true, Bool.not_eq_false', List.all_eq_true] at hrow
                rw [if_neg hne]
                exact ⟨hrow, Nat.not_lt.mp hlen, (Except.ok.inj h).symm⟩
              · cases h

theorem port_agrees {parts : Parts} {given : Option Nat} {port : Option Int}
    (hg : parts.port? = .ok given) (hp : portOf parts.scheme parts.hostAndPort.2 = .ok port) :
    PortAgrees parts.scheme given port := by
  obtain ⟨hrow, hlen, rfl⟩ := row_of_port hg
  rw [portOf] at hp
  split at hp
  · next he =>
      rw [if_pos he]
      exact (Except.ok.inj hp).symm
  · next hne =>
      rw [settingInt_of_row hrow hne hlen] at hp
      rw [if_neg hne, PortAgrees, ← Except.ok.inj hp]
      split
      · next hd => exact .inr ⟨rfl, hd⟩
      · exact .inl rfl

theorem cutHost_of_unbracketed {cs : List Char} (h : cutBrackets? cs = none) :
    cutHost cs = cutAt ':' cs := by
  simp only [cutHost, h, Option.getD_none]
  cases hc : cutFirst? ':' cs with
  | none =>
      have ht := takeWhile_ne (not_mem_of_cutFirst?_eq_none hc) (.inl rfl)
      rw [List.append_nil] at ht
      rw [ht.1, ht.2, cutAt, hc]
      rfl
  | some p =>
      obtain ⟨a, b⟩ := p
      have ht := takeWhile_ne (not_mem_of_cutFirst? hc) (.inr ⟨b, rfl⟩)
      rw [cutAt, hc, eq_of_cutFirst? hc, ht.1, ht.2]
      rfl

/-- A bracket behind the user that is never closed. -/
def LeavesOpen (authority : List Char) : Prop :=
  '[' ∈ hostPart authority ∧ ']' ∉ hostPart authority

/-- How a name that is looked up shows in the host that a request is sent to: as that host, or, if a
bracket is left open and the name reads as an address of a later kind, behind that bracket. -/
inductive Lands (authority name : List Char) : List Char → Prop
  | named {host : List Char} (hc : ¬LeavesOpen authority) (h : lower host = name) :
      Lands authority name host
  | unclosed {cs : List Char} (ho : LeavesOpen authority) (h : isFutureAddress cs = true)
      (hl : lower cs = name) : Lands authority name ("%5B".toList ++ name)

theorem not_pointed_of_bracket {cs : List Char} : looksIpv4 ('[' :: cs) = false := by
  cases h : looksIpv4 ('[' :: cs) with
  | false => rfl
  | true =>
      simp only [looksIpv4, Bool.and_eq_true, List.all_eq_true] at h
      have hp : Within IsPointed ('[' :: cs) := pointed_of_rows fun s hs =>
        List.all_eq_true.mpr (h.2 s hs).2
      exact absurd (within_cons.mp hp).1 (by simp [IsPointed, isAsciiDigit])

theorem hostOf_brackets {cs host : List Char} (h : hostOf ('[' :: cs ++ [']']) = .ok host) :
    host = cs := by
  have hl : ('[' :: (cs ++ [']'])).getLast? = some ']' := by
    rw [← List.cons_append, List.getLast?_append]
    rfl
  simp only [hostOf, List.cons_append, not_pointed_of_bracket, Bool.false_eq_true, if_false,
    List.head?_cons, hl, and_self, if_true, List.drop_one, List.tail_cons, List.dropLast_concat] at h
  split at h
  · exact (Except.ok.inj h).symm
  · cases h

theorem escapeUnless_of_peerChars {keep : Char → Bool} {cs : List Char}
    (h : Within (isPeerChar · = true) cs) (hc : ':' ∉ cs) : escapeUnless keep cs = cs := by
  refine escapeUnless_of_within fun c hm => ?_
  have hu : c ≠ ':' → isUnreserved c = true :=
    IsPlain.of_ascii (P := fun c => isPeerChar c = true → c ≠ ':' → isUnreserved c = true)
      (by decide +kernel) (isPeerChar_spec (h c hm)).1.1 (h c hm)
  have hn : c ≠ ':' := by
    rintro rfl
    exact hc hm
  simp only [hu hn, Bool.true_or]

theorem hostOf_name {cs host : List Char} (hp : Within IsPlain cs)
    (hl : Within (isPeerChar · = true) (lower cs)) (hc : ':' ∉ cs) (hh : cs.head? ≠ some '[')
    (h : hostOf cs = .ok host) : lower host = lower cs := by
  have hlow := lower_of_plain hp
  rw [hlow] at hl
  have hcl : ':' ∉ asciiLower cs := fun hm => hc (mem_asciiLower_colon.mp hm)
  simp only [hostOf, hh, false_and, if_false, all_isAscii hp, if_true] at h
  split at h
  · split at h
    · cases h
      rfl
    · cases h
  · cases h
    have hplain : Within IsPlain (asciiLower cs) :=
      within_asciiLower (fun _ hc => isPlain_asciiLowerChar hc) hp
    rw [escapeUnless_of_peerChars hl hcl, hlow, lower_of_plain hplain, asciiLower_idem]

theorem hostOf_unclosed {cs host : List Char} (hp : Within IsPlain cs)
    (hl : Within (isPeerChar · = true) (lower cs)) (hc : ':' ∉ cs)
    (hb : cs.getLast? ≠ some ']') (hne : cs ≠ []) (h : hostOf ('[' :: cs) = .ok host) :
    host = "%5B".toList ++ lower cs := by
  have hlow := lower_of_plain hp
  rw [hlow] at hl ⊢
  have hcl : ':' ∉ asciiLower cs := fun hm => hc (mem_asciiLower_colon.mp hm)
  have hlast : ('[' :: cs).getLast? ≠ some ']' := by
    rw [List.getLast?_cons_of_ne_nil hne]
    exact hb
  have hall : ('[' :: cs).all isAscii = true := all_isAscii (within_cons.mpr ⟨by decide, hp⟩)
  have hopen : asciiLower ('[' :: cs) = ['['] ++ asciiLower cs := rfl
  simp only [hostOf, not_pointed_of_bracket, Bool.false_eq_true, if_false, hlast, and_false, hall,
    if_true, hopen, escapeUnless_append, escapeUnless_of_peerChars hl hcl] at h
  rw [← Except.ok.inj h]
  rfl

theorem brackets_spec {authority before rest : List Char} (h : checkBrackets authority = .ok ())
    (hc : cutFirst? '[' (hostPart authority) = some (before, rest)) :
    before = [] ∧ ((cutAt ']' rest).2 = [] ∨ ∃ port, (cutAt ']' rest).2 = ':' :: port) ∧
      checkAddress (cutAt ']' rest).1 = .ok () := by
  have hmem : '[' ∈ authority := by
    refine hostPart_subset authority ?_
    rw [eq_of_cutFirst? hc]
    exact List.mem_append_right _ List.mem_cons_self
  have hopen : authority.contains '[' = true := List.contains_iff_mem.mpr hmem
  rw [checkBrackets, hopen] at h
  cases hclose : authority.contains ']' with
  | false =>
      rw [hclose] at h
      cases h
  | true =>
      simp only [hclose, hc] at h
      split at h
      · cases h
      · next hbefore =>
          split at h
          · cases h
          · next hbehind =>
              refine ⟨by simpa using hbefore, ?_, h⟩
              cases hp : (cutAt ']' rest).2 with
              | nil => exact .inl rfl
              | cons c port =>
                  refine .inr ⟨port, ?_⟩
                  rw [hp] at hbehind
                  have hcolon : c = ':' := by simpa using hbehind
                  rw [hcolon]

theorem address_spec {cs : List Char} (h : checkAddress cs = .ok ()) :
    cs.head? = some 'v' ∧ isFutureAddress cs = true ∨ isIpv6 cs = true := by
  rw [checkAddress] at h
  split at h
  · next hv =>
      split at h
      · next hf => exact .inl ⟨hv, hf⟩
      · cases h
  · split at h
    · cases h
    · split at h
      · next h6 => exact .inr h6
      · cases h

theorem hostAndPort_of_none {parts : Parts}
    (h : cutFirst? '[' (hostPart parts.authority) = none) :
    parts.hostAndPort = cutAt ':' (hostPart parts.authority) := by
  simp only [Parts.hostAndPort, h]

theorem hostAndPort_of_some {parts : Parts} {before rest : List Char}
    (h : cutFirst? '[' (hostPart parts.authority) = some (before, rest)) :
    parts.hostAndPort = ((cutAt ']' rest).1, (cutAt ':' (cutAt ']' rest).2).2) := by
  simp only [Parts.hostAndPort, h]

/-- How the host is set off from the port: by the first colon, behind a bracket that is never
closed, or in brackets. -/
inductive HostShape (parts : Parts) : Prop
  | bare (hopen : '[' ∉ hostPart parts.authority)
      (hp : parts.hostAndPort = cutAt ':' (hostPart parts.authority)) : HostShape parts
  | unclosed {cs : List Char} (heq : hostPart parts.authority = '[' :: cs) (hclose : ']' ∉ cs)
      (ha : checkAddress cs = .ok ()) (hp : parts.hostAndPort = (cs, [])) : HostShape parts
  | closed {a b : List Char} (heq : hostPart parts.authority = '[' :: (a ++ ']' :: b))
      (hb : b = [] ∨ ∃ port, b = ':' :: port)
      (hp : parts.hostAndPort = (a, (cutAt ':' b).2)) : HostShape parts

theorem hostShape {parts : Parts} (h : checkBrackets parts.authority = .ok ()) :
    HostShape parts := by
  cases hcut : cutFirst? '[' (hostPart parts.authority) with
  | none => exact .bare (not_mem_of_cutFirst?_eq_none hcut) (hostAndPort_of_none hcut)
  | some cut =>
      obtain ⟨before, rest⟩ := cut
      obtain ⟨rfl, hbehind, ha⟩ := brackets_spec h hcut
      have heq : hostPart parts.authority = '[' :: rest := eq_of_cutFirst? hcut
      have hp := hostAndPort_of_some hcut
      cases hclose : cutFirst? ']' rest with
      | none =>
          have hat : cutAt ']' rest = (rest, []) := by rw [cutAt, hclose]; rfl
          rw [hat] at hp ha
          exact .unclosed heq (not_mem_of_cutFirst?_eq_none hclose) ha hp
      | some pair =>
          obtain ⟨a, b⟩ := pair
          have hat : cutAt ']' rest = (a, b) := by rw [cutAt, hclose]; rfl
          rw [hat] at hp hbehind
          rw [eq_of_cutFirst? hclose] at heq
          exact .closed heq hbehind hp

theorem lands_of_name {cs host : List Char} (hp : Within IsPlain cs) (hopen : '[' ∉ cs)
    (hn : Within (isPeerChar · = true) (lower (cutAt ':' cs).1))
    (h : hostOf (cutHost cs).1 = .ok host) :
    (cutHost cs).2 = (cutAt ':' cs).2 ∧ lower host = lower (cutAt ':' cs).1 := by
  have hnone : cutBrackets? cs = none := by
    unfold cutBrackets?
    split
    · exact absurd List.mem_cons_self hopen
    · rfl
  rw [cutHost_of_unbracketed hnone] at h ⊢
  have hhead : (cutAt ':' cs).1.head? ≠ some '[' := fun hh =>
    hopen (cutAt_subset ':' cs (List.mem_of_head? hh))
  exact ⟨rfl, hostOf_name (within_cutAt hp ':').1 hn (not_mem_cutAt ':' cs) hhead h⟩

theorem lands_of_address {a b host : List Char} (hb : b = [] ∨ ∃ port, b = ':' :: port)
    (hclose : ']' ∉ b) (h : hostOf (cutHost ('[' :: (a ++ ']' :: b))).1 = .ok host) :
    (cutHost ('[' :: (a ++ ']' :: b))).2 = (cutAt ':' b).2 ∧ host = a := by
  have hcut : cutBrackets? ('[' :: (a ++ ']' :: b)) = some ('[' :: a ++ [']'], b) := by
    rw [cutBrackets?, cutLast?_append hclose]
    rfl
  rw [cutHost, hcut, Option.getD_some] at h ⊢
  refine ⟨?_, hostOf_brackets h⟩
  rcases hb with rfl | ⟨port, rfl⟩
  · rfl
  · rfl

theorem lands_of_unclosed {scheme authority cs host : List Char} {port : Option Int}
    (heq : hostPart authority = '[' :: cs) (hp : Within IsPlain cs)
    (hn : Within (isPeerChar · = true) (lower cs)) (hclose : ']' ∉ cs)
    (hv : ':' ∈ cs → cs.head? ≠ some 'v') (ha : checkAddress cs = .ok ())
    (h : hostOf (cutHost ('[' :: cs)).1 = .ok host)
    (ht : portOf scheme (cutHost ('[' :: cs)).2 = .ok port) :
    (cutHost ('[' :: cs)).2 = [] ∧ Lands authority (lower cs) host := by
  have hnone : cutBrackets? ('[' :: cs) = none := by
    rw [cutBrackets?, cutLast?_eq_none hclose]
    rfl
  rw [cutHost_of_unbracketed hnone] at h ht ⊢
  rcases address_spec ha with ⟨hhead, hf⟩ | h6
  · have hcolon : ':' ∉ cs := fun hc => hv hc hhead
    have hcolon' : ':' ∉ '[' :: cs := by
      rw [List.mem_cons, not_or]
      exact ⟨by decide, hcolon⟩
    have hcut : cutAt ':' ('[' :: cs) = ('[' :: cs, []) := by
      rw [cutAt, cutFirst?_eq_none hcolon']
      rfl
    rw [hcut] at h ⊢
    have hne : cs ≠ [] := by
      rintro rfl
      cases hhead
    have hlast : cs.getLast? ≠ some ']' := fun he => hclose (List.mem_of_getLast? he)
    have hopen : LeavesOpen authority := by
      rw [LeavesOpen, heq, List.mem_cons, List.mem_cons, not_or]
      exact ⟨.inl rfl, by decide, hclose⟩
    rw [hostOf_unclosed hp hn hcolon hlast hne h]
    exact ⟨rfl, .unclosed hopen hf rfl⟩
  · obtain ⟨a, b, rfl, hfirst, hsecond⟩ := two_of_isIpv6 h6
    have hfirst' : ':' ∉ '[' :: a := by
      rw [List.mem_cons, not_or]
      exact ⟨by decide, hfirst⟩
    have hcut : cutAt ':' ('[' :: (a ++ ':' :: b)) = ('[' :: a, b) := by
      rw [cutAt, ← List.cons_append, cutFirst?_append hfirst']
      rfl
    have hne : b ≠ [] := List.ne_nil_of_mem hsecond
    have hplain : Within IsPlain b := (within_cons.mp (within_append.mp hp).2).2
    rw [hcut, portOf, if_neg hne] at ht
    cases hint : settingInt b with
    | error e =>
        rw [hint] at ht
        cases ht
    | ok n => exact absurd hsecond (not_mem_of_settingInt hplain hint)

theorem hostname_of_peerChars {parts : Parts}
    (hn : Within (isPeerChar · = true) parts.hostname) :
    parts.hostname = lower parts.hostAndPort.1 := by
  rw [Parts.hostname] at hn ⊢
  split
  · next host zone hz =>
      rw [hz] at hn
      have hm := (within_cons.mp (within_append.mp hn).2).1
      exact absurd hm (by decide)
  · rfl

theorem lands_of_reads {p : Place} {u : Url} {given : Option Nat}
    (hb : checkBrackets p.authority = .ok ()) (hg : p.parts.port? = .ok given)
    (hn : Within (isPeerChar · = true) p.parts.hostname)
    (hv : ':' ∈ p.parts.hostname → p.parts.hostname.head? ≠ some 'v') (hr : Reads p u) :
    Lands p.authority p.parts.hostname u.host ∧ PortAgrees p.scheme given u.port := by
  have hplain : Within IsPlain (hostPart p.authority) := within_hostPart p.authority_plain
  have agrees {text : List Char} (ht : text = p.parts.hostAndPort.2)
      (hport : portOf p.scheme text = .ok u.port) : PortAgrees p.scheme given u.port := by
    rw [ht] at hport
    exact port_agrees hg hport
  have hrow := (row_of_port hg).1
  have hhost := hr.host
  have hport := hr.port
  have hname := hostname_of_peerChars hn
  rw [hname] at hn hv ⊢
  have hshape : HostShape p.parts := hostShape hb
  have hauthority : p.parts.authority = p.authority := rfl
  cases hshape with
  | bare hopen hparts =>
      rw [hauthority] at hopen hparts
      rw [hparts] at hn agrees ⊢
      obtain ⟨ht, hl⟩ := lands_of_name hplain hopen hn hhost
      exact ⟨.named (fun h => hopen h.1) hl, agrees ht hport⟩
  | @unclosed cs heq hclose ha hparts =>
      rw [hauthority] at heq
      rw [hparts] at hn hv agrees ⊢
      rw [heq] at hhost hport hplain
      have hplain := (within_cons.mp hplain).2
      have hv : ':' ∈ cs → cs.head? ≠ some 'v' := by
        rw [lower_of_plain hplain] at hv
        intro hm hh
        refine hv (mem_asciiLower_colon.mpr hm) ?_
        rw [asciiLower, List.head?_map, hh]
        rfl
      obtain ⟨ht, hl⟩ := lands_of_unclosed heq hplain hn hclose hv ha hhost hport
      exact ⟨hl, agrees ht hport⟩
  | @closed a b heq hbehind hparts =>
      rw [hauthority] at heq
      rw [hparts] at hrow agrees ⊢
      rw [heq] at hhost hport
      have hclose : ']' ∉ b := by
        rcases hbehind with rfl | ⟨port, rfl⟩
        · exact List.not_mem_nil
        · rw [List.mem_cons, not_or]
          exact ⟨by decide, hrow.not_mem (by decide)⟩
      obtain ⟨ht, hl⟩ := lands_of_address hbehind hclose hhost
      have hmem : ']' ∈ hostPart p.authority := by
        rw [heq]
        simp
      rw [hl]
      exact ⟨.named (fun h => h.2 hmem) rfl, agrees ht hport⟩

theorem Peer.addressChars_of_colon {p : Peer} (hc : ':' ∈ p.host.toList) :
    p.addressChars = '[' :: (p.host.toList ++ ']' :: (':' :: decimal p.port)) := by
  simp only [addressChars, List.contains_iff_mem, hc, if_true]
  simp

theorem Peer.addressChars_of_not_mem {p : Peer} (hc : ':' ∉ p.host.toList) :
    p.addressChars = p.host.toList ++ ':' :: decimal p.port := by
  simp only [addressChars, List.contains_iff_mem, hc, if_false]

/-- The address shows where the host ends: in brackets, or at its only colon. -/
structure Peer.IsReadable (p : Peer) : Prop where
  user : '@' ∉ p.host.toList
  inside : ':' ∈ p.host.toList → ']' ∉ p.host.toList ∧ checkAddress p.host.toList = .ok ()
  outside : ':' ∉ p.host.toList → '[' ∉ p.host.toList ∧ ']' ∉ p.host.toList
  port : Peer.isValidPort p.port = true

namespace Peer.IsReadable

variable {p : Peer} (h : p.IsReadable)
include h

theorem at_not_mem : '@' ∉ p.addressChars := by
  have hr := isRow_decimal p.port
  by_cases hc : ':' ∈ p.host.toList
  · rw [addressChars_of_colon hc]
    simp [h.user, hr.not_mem (c := '@') (by decide)]
  · rw [addressChars_of_not_mem hc]
    simp [h.user, hr.not_mem (c := '@') (by decide)]

theorem hostPart : hostPart p.addressChars = p.addressChars := by
  rw [Uri.hostPart, cutLast?_eq_none h.at_not_mem]

theorem read_address {parts : Parts} (ha : parts.authority = p.addressChars) :
    checkBrackets parts.authority = .ok () ∧
      parts.hostAndPort = (p.host.toList, decimal p.port) := by
  have hpart := h.hostPart
  by_cases hc : ':' ∈ p.host.toList
  · obtain ⟨hend, haddress⟩ := h.inside hc
    have hopen : cutFirst? '[' (Uri.hostPart p.addressChars) =
        some ([], p.host.toList ++ ']' :: (':' :: decimal p.port)) := by
      rw [hpart, addressChars_of_colon hc]
      exact cutFirst?_append List.not_mem_nil
    have hclose : cutAt ']' (p.host.toList ++ ']' :: (':' :: decimal p.port)) =
        (p.host.toList, ':' :: decimal p.port) := by
      rw [cutAt, cutFirst?_append hend]
      rfl
    rw [← ha] at hopen
    refine ⟨?_, ?_⟩
    · have hmem : parts.authority.contains '[' = true ∧ parts.authority.contains ']' = true := by
        rw [ha, addressChars_of_colon hc]
        simp
      simp only [checkBrackets, hmem, hopen, hclose, haddress]
      simp
    · rw [hostAndPort_of_some hopen, hclose]
      rfl
  · obtain ⟨hopen, hclose⟩ := h.outside hc
    have hmem (c : Char) (hm : c ∉ p.host.toList) (hd : isAsciiDigit c = false) (hne : c ≠ ':') :
        c ∉ p.addressChars := by
      have hr := (isRow_decimal p.port).not_mem (c := c) (by simp [hd])
      rw [addressChars_of_not_mem hc]
      simp [hm, hr, hne]
    have hopen := hmem '[' hopen (by decide) (by decide)
    have hclose := hmem ']' hclose (by decide) (by decide)
    have hnone : cutFirst? '[' (Uri.hostPart parts.authority) = none := by
      rw [ha, hpart, cutFirst?_eq_none hopen]
    refine ⟨?_, ?_⟩
    · simp [checkBrackets, ha, hopen, hclose]
    · rw [hostAndPort_of_none hnone, ha, hpart, addressChars_of_not_mem hc, cutAt,
        cutFirst?_append hc]
      rfl

theorem port_read {parts : Parts} (ha : parts.authority = p.addressChars) :
    parts.port? = .ok (some p.port) := by
  have hp := (h.read_address ha).2
  have hr := isRow_decimal p.port
  have hv := rowValue_decimal p.port
  have hport := h.port
  simp only [Peer.isValidPort, Bool.and_eq_true, decide_eq_true_eq] at hport
  have hmax : p.port < 10 ^ 5 := by omega
  have hlen : (decimal p.port).length ≤ 5 :=
    (Nat.length_toDigits_le_iff (by decide) (by decide)).mpr hmax
  have hall : (decimal p.port).all isAsciiDigit = true := List.all_eq_true.mpr hr
  have hlong : ¬maxIntDigits < (decimal p.port).length := by
    have hm : maxIntDigits = 4300 := rfl
    omega
  have hne : decimal p.port ≠ [] := Nat.toDigits_ne_nil
  rw [rowValue] at hv
  rw [Parts.port?, hp]
  split
  · next he => exact absurd he hne
  · simp only [hall, hlong, hv, Bool.not_true, Bool.false_eq_true, if_false]
    rw [if_pos (by omega)]

end Peer.IsReadable

namespace Peer.IsNamed

variable {p : Peer} (h : p.IsNamed)
include h

theorem not_mem {c : Char} (hc : isPeerChar c = false) : c ∉ p.host.toList :=
  h.host_chars.not_mem (by simp [hc])

theorem isReadable : p.IsReadable where
  user := h.not_mem (by decide)
  inside hc := ⟨h.not_mem (by decide), checkAddress_of_isIpv6 (h.address hc)⟩
  outside _ := ⟨h.not_mem (by decide), h.not_mem (by decide)⟩
  port := h.port

theorem at_not_mem : '@' ∉ p.addressChars := h.isReadable.at_not_mem

theorem read_address {parts : Parts} (ha : parts.authority = p.addressChars) :
    checkBrackets parts.authority = .ok () ∧
      parts.hostAndPort = (p.host.toList, decimal p.port) :=
  h.isReadable.read_address ha

theorem port_read {parts : Parts} (ha : parts.authority = p.addressChars) :
    parts.port? = .ok (some p.port) :=
  h.isReadable.port_read ha

theorem hostname {parts : Parts} (ha : parts.authority = p.addressChars) :
    parts.hostname = lower p.host.toList := by
  have hp := (h.read_address ha).2
  rw [Parts.hostname, hp, cutFirst?_eq_none (h.not_mem (by decide))]

end Peer.IsNamed

end SqlCluster
