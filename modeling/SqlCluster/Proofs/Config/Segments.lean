import Mathlib.Data.List.Forall2
import SqlCluster.Proofs.Config.Refusal
/-!
The parts of a connection URL. The first decides every setting but the further peers; each of the
others names one peer, and nothing else in it counts.
-/
namespace SqlCluster

open Text Uri Outcome

namespace Peer

variable {p : Peer} {host : String} {port : Int}

theorem port_of_make (h : make host port = .ok p) : 1 ≤ p.port ∧ p.port ≤ 65535 := by
  obtain ⟨-, hport, rfl⟩ := make_eq_ok.mp h
  simp only [isValidPort, Bool.and_eq_true, decide_eq_true_eq] at hport
  constructor <;> simp only <;> omega

theorem port_of_parse {address : List Char} (h : parse address port = .ok p) :
    1 ≤ p.port ∧ p.port ≤ 65535 := by
  rcases Config.parse_cases address port with ⟨cs, e, hp⟩ | ⟨cs, hp⟩ | ⟨host, n, hp, -⟩
  · rw [hp] at h
    cases h
  · rw [hp] at h
    cases h
  · rw [hp] at h
    exact port_of_make h

theorem parse_trim (address : List Char) (port : Int) :
    parse (trim isBlank address) port = parse address port := by
  simp only [parse, parseWith, trim_trim]

end Peer

namespace Config

variable {first : List Char} {rest : List (List Char)} {c : Config}

abbrev Denote (parts : List (List Char)) (ps : List Peer) : Prop :=
  List.Forall₂ (fun part p => Peer.parse part Peer.defaultPort = .ok p) parts ps

theorem Denote.ports {parts : List (List Char)} {ps : List Peer} (h : Denote parts ps) :
    ∀ p ∈ ps, 1 ≤ p.port ∧ p.port ≤ 65535 := by
  induction h with
  | nil =>
      intro p hp
      cases hp
  | cons hp _ ih => exact List.forall_mem_cons.mpr ⟨Peer.port_of_parse hp, ih⟩

theorem furtherPeers_eq_ok {parts : List (List Char)} {ps : List Peer} :
    furtherPeers parts = .ok ps ↔ Denote (parts.filter (· ≠ [])) ps := by
  induction parts generalizing ps with
  | nil =>
      rw [furtherPeers, Except.ok.injEq, List.filter_nil, Denote, List.forall₂_nil_left_iff, eq_comm]
  | cons part parts ih =>
      rw [furtherPeers]
      by_cases h : part = []
      · rw [if_pos h, List.filter_cons_of_neg (by simp [h])]
        exact ih
      · rw [if_neg h, List.filter_cons_of_pos (by simp [h])]
        simp only [bind_eq_ok, ih, Denote, List.forall₂_cons_left_iff]
        constructor
        · rintro ⟨p, hp, qs, hqs, hps⟩
          cases hps
          exact ⟨p, qs, hp, hqs, rfl⟩
        · rintro ⟨p, qs, hp, hqs, rfl⟩
          exact ⟨p, hp, qs, hqs, rfl⟩

theorem furtherPeers_trimmed {ps : List Peer} : furtherPeers (rest.map (trim isBlank)) = .ok ps ↔
    Denote (rest.filter (trim isBlank · ≠ [])) ps := by
  rw [furtherPeers_eq_ok, List.filter_map, Denote, List.forall₂_map_left_iff]
  simp only [Peer.parse_trim]
  rfl

def NamesFirst (first : List Char) (p : Peer) : Prop :=
  ∃ parts port, split (trim isBlank first) = .ok parts ∧ parts.port? = .ok port ∧
    p = ⟨hostOrDefault parts, port.getD Peer.defaultPort⟩

theorem NamesFirst.unique {p q : Peer} (hp : NamesFirst first p) (hq : NamesFirst first q) :
    p = q := by
  obtain ⟨parts, port, hs, hport, rfl⟩ := hp
  obtain ⟨parts', port', hs', hport', rfl⟩ := hq
  rw [hs, Except.ok.injEq] at hs'
  subst hs'
  rw [hport, Except.ok.injEq] at hport'
  subst hport'
  rfl

theorem namesFirst_of_cutUrl {r : Parts × Option Nat} {p : Peer}
    (hr : cutUrl (trim isBlank first) = .ok r)
    (hp : Peer.make (hostOrDefault r.1) (r.2.getD Peer.defaultPort : Nat) = .ok p) :
    NamesFirst first p := by
  obtain ⟨-, -, rfl⟩ := Peer.make_eq_ok.mp hp
  rw [cutUrl] at hr
  split at hr
  · cases hr
  · next parts hs =>
      split at hr
      · cases hr
      · next port hport =>
          cases hr
          exact ⟨parts, port, hs, hport, rfl⟩

theorem make_urlOptions_eq_ok {parts : Parts} {p : Peer} {ps : List Peer} {level : Level}
    {timeout : Value} {disable : Bool} :
    make (urlOptions parts (p :: ps) level timeout disable) = .ok c ↔
      ∃ alone, make (urlOptions parts [p] level timeout disable) = .ok alone ∧
        c = { alone with seeds := distinct (p :: ps) } := by
  simp only [make, withOptions_eq_ok]
  constructor
  · rintro ⟨-, scheme, timeout, hs, ht, rfl⟩
    exact ⟨_, ⟨by simp [urlOptions, distinct], scheme, timeout, hs, ht, rfl⟩, rfl⟩
  · rintro ⟨_, ⟨-, scheme, timeout, hs, ht, rfl⟩, rfl⟩
    exact ⟨by simp [urlOptions, distinct], scheme, timeout, hs, ht, rfl⟩

theorem ofParts_eq_ok_alone {cs : List Char} : ofParts cs rest = .ok c ↔
    ∃ r primary others alone, cutUrl cs = .ok r ∧
      Peer.make (hostOrDefault r.1) (r.2.getD Peer.defaultPort : Nat) = .ok primary ∧
      furtherPeers rest = .ok others ∧ ofParts cs [] = .ok alone ∧
      c = { alone with seeds := distinct (primary :: others) } := by
  constructor
  · intro h
    obtain ⟨hs, r, hr, p, hp, others, ho, level, hl, timeout, ht, disable, hd, hm⟩ :=
      ofParts_eq_ok.mp h
    obtain ⟨alone, ha, rfl⟩ := make_urlOptions_eq_ok.mp hm
    have halone : ofParts cs [] = .ok alone := ofParts_eq_ok.mpr
      ⟨hs, r, hr, p, hp, [], rfl, level, hl, timeout, ht, disable, hd, ha⟩
    exact ⟨r, p, others, alone, hr, hp, ho, halone, rfl⟩
  · rintro ⟨r, p, others, alone, hr, hp, ho, halone, rfl⟩
    obtain ⟨hs, r', hr', p', hp', none, hn, level, hl, timeout, ht, disable, hd, hm⟩ :=
      ofParts_eq_ok.mp halone
    rw [hr, Except.ok.injEq] at hr'
    subst hr'
    rw [hp, Except.ok.injEq] at hp'
    subst hp'
    cases hn
    exact ofParts_eq_ok.mpr ⟨hs, r, hr, p, hp, others, ho, level, hl, timeout, ht, disable, hd,
      make_urlOptions_eq_ok.mpr ⟨alone, hm, rfl⟩⟩

theorem ofUrl_joinWith (hcomma : ∀ s ∈ first :: rest, ',' ∉ s) :
    ofUrl (joinWith [','] (first :: rest)) = .ok c ↔
      ofParts (trim isBlank first) (rest.map (trim isBlank)) = .ok c := by
  have hpieces : (splitAt ',' (trim isBlank (joinWith [','] (first :: rest)))).map (trim isBlank) =
      trim isBlank first :: rest.map (trim isBlank) := by
    rw [trim_splitAt_trim (by decide), splitAt_joinWith hcomma, List.map_cons]
  rw [ofUrl]
  split
  · next hblank =>
      -- A blank URL has one part, and a blank one is no URL either.
      rw [hblank] at hpieces
      have hfirst : trim isBlank first = [] := (List.cons.inj hpieces).1.symm
      rw [hfirst, ofParts_eq_ok]
      simp [startsHttp, after?]
  · rw [hpieces]

theorem ofUrl_alone (h : ',' ∉ first) :
    ofUrl first = .ok c ↔ ofParts (trim isBlank first) [] = .ok c := by
  have hcomma : ∀ s ∈ [first], ',' ∉ s := by simpa using h
  exact ofUrl_joinWith hcomma

theorem ofUrl_eq_ok (hcomma : ∀ s ∈ first :: rest, ',' ∉ s) :
    ofUrl (joinWith [','] (first :: rest)) = .ok c ↔
      ∃ alone primary others, ofUrl first = .ok alone ∧ NamesFirst first primary ∧
        Denote (rest.filter (trim isBlank · ≠ [])) others ∧
        c = { alone with seeds := distinct (primary :: others) } := by
  rw [ofUrl_joinWith hcomma, ofParts_eq_ok_alone]
  simp only [ofUrl_alone (hcomma first List.mem_cons_self), furtherPeers_trimmed]
  constructor
  · rintro ⟨r, primary, others, alone, hr, hp, ho, halone, rfl⟩
    exact ⟨alone, primary, others, halone, namesFirst_of_cutUrl hr hp, ho, rfl⟩
  · rintro ⟨alone, primary, others, halone, hp, ho, rfl⟩
    obtain ⟨r, p, _, _, hr, hmake, -⟩ := ofParts_eq_ok_alone.mp halone
    have heq : p = primary := (namesFirst_of_cutUrl hr hmake).unique hp
    exact ⟨r, primary, others, alone, hr, heq ▸ hmake, ho, halone, rfl⟩

theorem ports_of_ofUrl {url : List Char} (h : ofUrl url = .ok c) :
    ∀ p ∈ c.seeds, 1 ≤ p.port ∧ p.port ≤ 65535 := by
  obtain ⟨cs, rest, h⟩ := ofParts_of_ofUrl h
  obtain ⟨r, primary, others, alone, -, hp, ho, -, rfl⟩ := ofParts_eq_ok_alone.mp h
  have hnamed : ∀ p ∈ primary :: others, 1 ≤ p.port ∧ p.port ≤ 65535 :=
    List.forall_mem_cons.mpr ⟨Peer.port_of_make hp, (furtherPeers_eq_ok.mp ho).ports⟩
  exact fun p hmem => hnamed p (mem_distinct.mp hmem)

/-- A URL is refused as a setting or read. It is read where its first part is by itself and every
further part that is not blank names a peer, and it is then the first part's with those peers; so
URLs with one first part differ in nothing but the peers. -/
theorem further_parts_name_peers (first : List Char) (rest : List (List Char))
    (hcomma : ∀ s ∈ first :: rest, ',' ∉ s) :
    (∀ e, ofUrl (joinWith [','] (first :: rest)) = .error e →
      (Fault.config e).kind = .configuration) ∧
    (∀ c, ofUrl (joinWith [','] (first :: rest)) = .ok c ↔
      ∃ alone primary others, ofUrl first = .ok alone ∧ NamesFirst first primary ∧
        Denote (rest.filter (trim isBlank · ≠ [])) others ∧
        c = { alone with seeds := distinct (primary :: others) }) ∧
    (∀ c, ofUrl (joinWith [','] (first :: rest)) = .ok c →
      c.seeds ≠ [] ∧ c.seeds.Nodup ∧ ∀ p ∈ c.seeds, 1 ≤ p.port ∧ p.port ≤ 65535) ∧
    ∀ rest' c c', (∀ s ∈ rest', ',' ∉ s) → ofUrl (joinWith [','] (first :: rest)) = .ok c →
      ofUrl (joinWith [','] (first :: rest')) = .ok c' → c' = { c with seeds := c'.seeds } := by
  refine ⟨onlyRefuses_ofUrl _, fun c => ofUrl_eq_ok hcomma, fun c h => ?_,
    fun rest' c c' hcomma' h h' => ?_⟩
  · have hports := ports_of_ofUrl h
    obtain ⟨alone, primary, others, -, -, -, rfl⟩ := (ofUrl_eq_ok hcomma).mp h
    exact ⟨by simp [distinct], nodup_distinct _, hports⟩
  · have hfirst := hcomma first List.mem_cons_self
    obtain ⟨alone, -, -, halone, -, -, rfl⟩ := (ofUrl_eq_ok hcomma).mp h
    obtain ⟨alone', -, -, halone', -, -, rfl⟩ :=
      (ofUrl_eq_ok (List.forall_mem_cons.mpr ⟨hfirst, hcomma'⟩)).mp h'
    rw [halone, Except.ok.injEq] at halone'
    rw [halone']

theorem further_parts_name_peers_login :
    ∃ c c' : Config,
      ofUrl "http://u:p@a?level=strong, b:1,http://x:y@B:1?level=none".toList = .ok c ∧
      ofUrl "http://u:p@a?level=strong, ".toList = .ok c' ∧
      c.seeds = [⟨"a", 4001⟩, ⟨"b", 1⟩] ∧ c.seeds.Nodup ∧ c' = { c with seeds := c'.seeds } := by
  have further := further_parts_name_peers "http://u:p@a?level=strong".toList
    [" b:1".toList, "http://x:y@B:1?level=none".toList] (by decide)
  have hread : ofUrl "http://u:p@a?level=strong, b:1,http://x:y@B:1?level=none".toList =
      .ok ⟨[⟨"a", 4001⟩, ⟨"b", 1⟩], .http, .text "u", .text "p", .strong,
        .float (Number.Double.ofNat 10), .bool false, .bool true, .bool false⟩ := rfl
  have hblank : ofUrl "http://u:p@a?level=strong, ".toList =
      .ok ⟨[⟨"a", 4001⟩], .http, .text "u", .text "p", .strong,
        .float (Number.Double.ofNat 10), .bool false, .bool true, .bool false⟩ := rfl
  exact ⟨_, _, hread, hblank, rfl, (further.2.2.1 _ hread).2.1,
    further.2.2.2 [" ".toList] _ _ (by decide) hread hblank⟩

end Config

end SqlCluster
