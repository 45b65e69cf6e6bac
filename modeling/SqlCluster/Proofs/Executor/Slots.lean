import SqlCluster.Proofs.Executor.Failover
import SqlCluster.Proofs.Executor.Reached
import SqlCluster.Proofs.Peer.Spelled
/-!
Slots. A walk gives one slot to each peer, in their order, and the first request of a slot is for
its peer: the client reads the scheme, the peer, the path and the flags of the operation in its URL.
-/
namespace SqlCluster

open Text Uri Http

namespace Executor

variable {σ : Type} {x : Executor} {operation : Operation} {body : List UInt8} {queue : Bool}
  {peers : List Peer}

def Replays (operation : Operation) (body : List UInt8) (c : Call) : Prop :=
  c.method = methodOf operation ∧ c.body = body

theorem Chain.replays {peer : Peer} {fuel : Nat} {url : List Char} {calls : List Call} {a : Attempt}
    (h : Chain x operation peer body fuel url calls a) : ∀ c ∈ calls, Replays operation body c := by
  intro c hc
  induction h with
  | spent url => cases hc
  | done _ =>
      rw [List.mem_singleton.mp hc]
      exact ⟨rfl, rfl⟩
  | onward _ _ ih =>
      rcases List.mem_cons.mp hc with rfl | hc
      · exact ⟨rfl, rfl⟩
      · exact ih hc

def Slot (x : Executor) (operation : Operation) (body : List UInt8) (queue : Bool) (peer : Peer)
    (block : List Call) : Prop :=
  OpensAt x operation queue peer block ∧ ∀ c ∈ block, Replays operation body c

/-- One slot for each of some first peers, of which there is none only for want of peers or of
credentials that can be spelled. -/
def Slotted (x : Executor) (operation : Operation) (body : List UInt8) (queue : Bool)
    (peers : List Peer) (calls : List Call) : Prop :=
  ∃ slots blocks, slots <+: peers ∧ calls = blocks.flatten ∧
    List.Forall₂ (Slot x operation body queue) slots blocks ∧
    (slots = [] → peers = [] ∨ x.config.userPart? = none)

theorem Turn.slot {peer : Peer} {calls : List Call} {a : Attempt} (hm : 0 ≤ x.maxRedirects)
    (h : Turn x operation body queue peer calls a) : Slot x operation body queue peer calls := by
  refine ⟨h.opensAt hm, ?_⟩
  obtain ⟨url, -, hc⟩ := h
  exact hc.replays

theorem Tried.slots {slots : List (List Call × PeerFailure)} (hm : 0 ≤ x.maxRedirects)
    (h : Tried x operation body queue peers slots) :
    List.Forall₂ (Slot x operation body queue) peers (slots.map (·.1)) := by
  induction h with
  | nil => exact .nil
  | cons ht _ ih => exact .cons (ht.slot hm) ih

theorem slotted_of_turn {before after : List Peer} {peer : Peer}
    {slots : List (List Call × PeerFailure)} {calls : List Call} {a : Attempt}
    (hm : 0 ≤ x.maxRedirects) (hp : peers = before ++ peer :: after)
    (tried : Tried x operation body queue before slots)
    (ht : Turn x operation body queue peer calls a) :
    Slotted x operation body queue peers (slots.flatMap (·.1) ++ calls) := by
  refine ⟨before ++ [peer], slots.map (·.1) ++ [calls], ⟨after, ?_⟩, ?_, ?_, ?_⟩
  · rw [hp, List.append_assoc, List.singleton_append]
  · rw [List.flatten_append, List.flatten_singleton, List.flatMap_def]
  · exact List.rel_append (tried.slots hm) (.cons (ht.slot hm) .nil)
  · intro hn
    exact absurd hn (by simp)

theorem Tour.slotted {failures : List PeerFailure} {calls : List Call}
    {outcome : Except Fault (List UInt8)} (hm : 0 ≤ x.maxRedirects)
    (h : Tour x operation body queue peers failures calls outcome) :
    Slotted x operation body queue peers calls := by
  cases h with
  | @exhausted slots tried =>
      exact ⟨peers, slots.map (·.1), List.prefix_rfl, by rw [List.flatMap_def], tried.slots hm, .inl⟩
  | @stopped before after peer slots calls _ hp tried stop =>
      cases stop with
      | answered ht => exact slotted_of_turn hm hp tried ht
      | escaped ht => exact slotted_of_turn hm hp tried ht
      | unquotable hu =>
          refine ⟨before, slots.map (·.1), ⟨peer :: after, hp.symm⟩, ?_, tried.slots hm, ?_⟩
          · rw [List.append_nil, List.flatMap_def]
          · intro _
            exact .inr (Option.map_eq_none_iff.mp hu)

theorem slotted_walk (hm : 0 ≤ x.maxRedirects) (serve : Server σ) (w : World σ) :
    Slotted x operation body queue (x.topology.orderedPeers x.favorSeed)
      (x.walk serve operation body queue w).calls := by
  by_cases hp : x.topology.orderedPeers x.favorSeed = []
  · have hw : (x.walk serve operation body queue w).calls = [] := by simp only [walk, hp]
    rw [hw, hp]
    exact ⟨[], [], List.prefix_rfl, rfl, .nil, fun _ => .inl rfl⟩
  · exact (tour_walk serve queue w hp).slotted hm

theorem Slotted.replays {calls : List Call} (h : Slotted x operation body queue peers calls) :
    ∀ c ∈ calls, Replays operation body c := by
  obtain ⟨slots, blocks, -, rfl, hslots, -⟩ := h
  intro c hc
  induction hslots with
  | nil => cases hc
  | cons hs _ ih =>
      rw [List.flatten_cons, List.mem_append] at hc
      rcases hc with hc | hc
      · exact hs.2 c hc
      · exact ih hc

end Executor

theorem Peer.addressChars_eq (p : Peer) :
    p.addressChars = Url.bracketed p.host.toList ++ ':' :: decimal p.port := rfl

theorem endsHost_of_digit {c : Char} (h : isAsciiDigit c = true) : endsHost c = false ∧ c ≠ ']' :=
  of_asciiDigit (P := fun c => endsHost c = false ∧ c ≠ ']') (by decide) h

namespace Peer.IsSpelled

variable {p : Peer} (h : p.IsSpelled)
include h

theorem address_chars : Within (endsHost · = false) p.addressChars := by
  have hd : Within (endsHost · = false) (decimal p.port) := fun c hc =>
    (endsHost_of_digit (isRow_decimal p.port c hc)).1
  rw [addressChars_eq, within_append, within_cons]
  refine ⟨?_, by decide, hd⟩
  rw [Url.bracketed]
  split
  · rw [List.cons_append, within_cons, within_append]
    exact ⟨by decide, h.chars, by decide⟩
  · exact h.chars

theorem cutHost_address :
    cutHost p.addressChars = (Url.bracketed p.host.toList, decimal p.port) := by
  by_cases hc : ':' ∈ p.host.toList
  · have hclose : ']' ∉ ':' :: decimal p.port := by
      rw [List.mem_cons, not_or]
      refine ⟨by decide, ?_⟩
      intro hm
      exact (endsHost_of_digit (isRow_decimal p.port _ hm)).2 rfl
    have hcut : cutBrackets? p.addressChars =
        some ('[' :: p.host.toList ++ [']'], ':' :: decimal p.port) := by
      rw [addressChars_of_colon hc, cutBrackets?, cutLast?_append hclose]
      rfl
    have hb : Url.bracketed p.host.toList = '[' :: p.host.toList ++ [']'] := by
      rw [Url.bracketed, if_pos (List.contains_iff_mem.mpr hc)]
    rw [cutHost, hcut, hb]
    rfl
  · have hb : Url.bracketed p.host.toList = p.host.toList := by
      rw [Url.bracketed, if_neg (by simpa using hc)]
    have hopen : cutBrackets? p.addressChars = none := by
      rw [addressChars_of_not_mem hc]
      unfold cutBrackets?
      split
      · next rest he =>
          cases hl : p.host.toList with
          | nil =>
              rw [hl] at he
              cases he
          | cons c cs =>
              rw [hl, List.cons_append, List.cons.injEq] at he
              exact absurd (by rw [hl, he.1]; rfl) (h.opening hc)
      · rfl
    rw [cutHost_of_unbracketed hopen, addressChars_of_not_mem hc, cutAt, cutFirst?_append hc, hb]
    rfl

end Peer.IsSpelled

namespace Config

inductive UserPart : List Char → List Char → Prop
  | absent : UserPart [] []
  | present {user : List Char} (h : Within (endsHost · = false) user) :
      UserPart user (user ++ ['@'])

theorem endsHost_of_isLoginChar {c : Char} (h : isLoginChar c = true) : endsHost c = false := by
  have hs := isLoginChar_spec h
  simp [endsHost, hs.2.1, hs.2.2.1]

theorem loginChars_escapeOctet (b : UInt8) : Within (isLoginChar · = true) (escapeOctet b) := by
  rw [escapeOctet]
  split
  · next hu =>
      have hl : isLoginChar (Char.ofNat b.toNat) = true := by rw [isLoginChar, hu, Bool.true_or]
      exact within_cons.mpr ⟨hl, within_nil⟩
  · exact within_escapeByte (by decide) (by decide) b

theorem loginChars_escapedSetting {v : Value} {cs : List Char} (h : escapedSetting? v = some cs) :
    Within (isLoginChar · = true) cs := by
  unfold escapedSetting? at h
  split at h
  · cases h
  · next data _ =>
      cases h
      intro c hc
      obtain ⟨b, -, hb⟩ := List.mem_flatMap.mp hc
      exact loginChars_escapeOctet b c hb
  · obtain ⟨s, -, rfl⟩ := Option.map_eq_some_iff.mp h
    exact (within_escape s.toList).mono fun _ hc => hc.1

theorem loginChars_userinfo {c : Config} {user : List Char} (h : c.userinfo? = some user) :
    Within (isLoginChar · = true) user := by
  obtain ⟨name, hn, h⟩ := Option.bind_eq_some_iff.mp h
  obtain ⟨secret, hs, h⟩ := Option.bind_eq_some_iff.mp h
  cases h
  rw [within_append, within_cons]
  exact ⟨loginChars_escapedSetting hn, by decide, loginChars_escapedSetting hs⟩

theorem userPart_spec {c : Config} {part : List Char} (h : c.userPart? = some part) :
    ∃ user, UserPart user part := by
  rw [userPart?] at h
  split at h
  · obtain ⟨user, hu, rfl⟩ := Option.map_eq_some_iff.mp h
    exact ⟨user, .present ((loginChars_userinfo hu).mono fun _ => endsHost_of_isLoginChar)⟩
  · cases h
    exact ⟨[], .absent⟩

end Config

section Reading

variable {p : Peer} {user part path query : List Char}

theorem cutUser_part (hu : Config.UserPart user part) (h : p.IsSpelled) :
    cutUser (part ++ p.addressChars) = (user, p.addressChars) := by
  have hat : '@' ∉ p.addressChars := h.address_chars.not_mem (by decide)
  cases hu with
  | absent => rw [List.nil_append, cutUser, cutLast?_eq_none hat]
  | present _ =>
      rw [List.append_assoc, List.singleton_append, cutUser, cutLast?_append hat]

theorem ends_authority (hu : Config.UserPart user part) (h : p.IsSpelled) :
    Within (endsAuthority · = false) (part ++ p.addressChars) := by
  have ends {cs : List Char} (hc : Within (endsHost · = false) cs) :
      Within (endsAuthority · = false) cs := by
    refine hc.mono fun c hc => ?_
    rw [endsHost, Bool.or_eq_false_iff] at hc
    exact hc.1
  rw [within_append]
  refine ⟨?_, ends h.address_chars⟩
  cases hu with
  | absent => exact within_nil
  | present hw => exact within_append.mpr ⟨ends hw, by decide⟩

theorem ofText_url (scheme : Scheme) (hu : Config.UserPart user part) (h : p.IsSpelled)
    (hpath : Within (fun c => c ≠ '?' ∧ c ≠ '#') path) (hroot : path.head? = some '/')
    (hquery : '#' ∉ query) :
    UrlParts.ofText (scheme.name.toList ++ "://".toList ++ part ++ p.addressChars ++ path ++
        '?' :: query) =
      ⟨scheme.name.toList, user, Url.bracketed p.host.toList, decimal p.port, path, some query,
        none⟩ := by
  obtain ⟨root, rfl⟩ := List.head?_eq_some_iff.mp hroot
  generalize ha : part ++ p.addressChars = authority
  have hauthority : Within (endsAuthority · = false) authority := ha ▸ ends_authority hu h
  have hscheme : Http.cutScheme (scheme.name.toList ++ "://".toList ++ part ++ p.addressChars ++
      '/' :: root ++ '?' :: query) = (scheme.name.toList, '/' :: '/' :: (authority ++ '/' :: root) ++
        '?' :: query) := by
    rw [← ha]
    simp only [List.append_assoc]
    cases scheme <;> simp only [List.cons_append, List.append_assoc] <;> rfl
  -- The fragment is cut off first, then the query, and the authority from what is left.
  have hbefore {c : Char} (hc : endsAuthority c = true) (hs : c ≠ '/') (hr : c ∉ '/' :: root) :
      c ∉ '/' :: '/' :: (authority ++ '/' :: root) := by
    have hm : c ∉ authority := hauthority.not_mem (by simp [hc])
    rw [List.mem_cons, List.mem_cons, List.mem_append, not_or, not_or, not_or]
    exact ⟨hs, hs, hm, hr⟩
  have hfragment : cutOptional '#' ('/' :: '/' :: (authority ++ '/' :: root) ++ '?' :: query) =
      ('/' :: '/' :: (authority ++ '/' :: root) ++ '?' :: query, none) := by
    have hm : '#' ∉ '?' :: query := by
      rw [List.mem_cons, not_or]
      exact ⟨by decide, hquery⟩
    rw [cutOptional_append (hbefore (by decide) (by decide) (hpath.not_mem (by simp))), cutOptional,
      cutFirst?_eq_none hm]
  have hquestion : cutOptional '?' ('/' :: '/' :: (authority ++ '/' :: root) ++ '?' :: query) =
      ('/' :: '/' :: (authority ++ '/' :: root), some query) := by
    rw [cutOptional, cutFirst?_append (hbefore (by decide) (by decide) (hpath.not_mem (by simp)))]
  have hcut : Http.cutAuthority ('/' :: '/' :: (authority ++ '/' :: root)) =
      (authority, '/' :: root) := by
    have hw : Within (fun c => decide (c ≠ '/') = true) authority := hauthority.mono fun c hc => by
      rw [decide_eq_true_eq]
      rintro rfl
      exact absurd hc (by decide)
    obtain ⟨htake, hdrop⟩ := takeWhile_append_opens hw (.inr ⟨'/', root, rfl, by decide⟩)
    rw [Http.cutAuthority, htake, hdrop]
  have huser : cutUser authority = (user, p.addressChars) := ha ▸ cutUser_part hu h
  simp only [UrlParts.ofText, hscheme, hfragment, hquestion, hcut, huser, h.cutHost_address]

end Reading

def dataQuery (level : Level) (transaction queued : Bool) : List Char :=
  "timings&level=".toList ++ level.name.toList ++
    (if transaction then "&transaction".toList else []) ++ (if queued then "&queue".toList else [])

theorem within_dataQuery (level : Level) (transaction queued : Bool) :
    Within (endsAuthority · = false) (dataQuery level transaction queued) := by
  cases level <;> cases transaction <;> cases queued <;> decide

theorem flags_of_isData {c : Config} {operation : Operation} (h : operation.isData = true)
    (queue : Bool) : c.flags operation queue = '?' :: dataQuery c.level c.transaction.isTruthy
      (decide (operation = .execute) && (queue || c.queuedWrites.isTruthy)) := by
  have hmark : "?timings&level=".toList = '?' :: "timings&level=".toList := rfl
  unfold Config.flags dataQuery
  rw [if_pos h, hmark]
  simp only [List.cons_append, Bool.and_eq_true, decide_eq_true_eq]

structure Call.Asks (c : Call) (config : Config) (peer : Peer) (path query : List Char) : Prop where
  method : c.method = .post
  url : ∃ part, config.userPart? = some part ∧
    c.url = config.scheme.name.toList ++ "://".toList ++ part ++ peer.addressChars ++ path ++
      '?' :: query
  read : peer.IsSpelled → ∃ user, UrlParts.ofText c.url = ⟨config.scheme.name.toList, user,
    Url.bracketed peer.host.toList, decimal peer.port, path, some query, none⟩

theorem Call.Asks.congr {c : Call} {a b : Config} {peer : Peer} {path query : List Char}
    (h : c.Asks a peer path query) (hs : b.scheme = a.scheme) (hu : b.userPart? = a.userPart?) :
    c.Asks b peer path query := by
  refine ⟨h.method, ?_, ?_⟩
  · rw [hs, hu]
    exact h.url
  · rw [hs]
    exact h.read

theorem asks_of_url {config : Config} {operation : Operation} (hd : operation.isData = true)
    {queue : Bool} {peer : Peer} {c : Call} (hm : c.method = .post)
    (hu : config.assembleUrl? operation peer queue = some c.url) :
    c.Asks config peer operation.path.toList (dataQuery config.level config.transaction.isTruthy
      (decide (operation = .execute) && (queue || config.queuedWrites.isTruthy))) := by
  obtain ⟨part, hpart, hurl⟩ := Option.map_eq_some_iff.mp hu
  rw [flags_of_isData hd] at hurl
  refine ⟨hm, ⟨part, hpart, hurl.symm⟩, ?_⟩
  intro hs
  obtain ⟨user, hu⟩ := Config.userPart_spec hpart
  refine ⟨user, hurl ▸ ofText_url config.scheme hu hs ?_ ?_ ?_⟩
  · cases operation <;> decide
  · cases operation <;> decide
  · exact within_dataQuery _ _ _ |>.not_mem (by decide)

end SqlCluster
