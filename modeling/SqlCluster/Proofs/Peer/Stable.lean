import SqlCluster.Proofs.Config.Segments
import SqlCluster.Proofs.Uri.Lowered
/-!
Addresses read back. The address of a peer that was itself read from one is read as that peer again,
but for two kinds of hosts: those that open with a blank, and those with a bracket and no colon.
-/
namespace SqlCluster

open Text Uri

theorem Text.subset_of_containsText {part cs : List Char} (h : containsText part cs = true) :
    part ⊆ cs := by
  induction cs with
  | nil =>
      rw [containsText, List.isEmpty_iff] at h
      rw [h]
      exact List.nil_subset _
  | cons c cs ih =>
      rw [containsText, Bool.or_eq_true, Option.isSome_iff_exists] at h
      rcases h with ⟨rest, h⟩ | h
      · rw [eq_of_after h]
        exact List.subset_append_left part rest
      · exact List.subset_cons_of_subset c (ih h)

namespace Uri

def IsAuthorityChar (c : Char) : Prop :=
  endsAuthority c = false ∧ isLineBreak c = false ∧ disguised.contains c.toNat = false

instance (c : Char) : Decidable (IsAuthorityChar c) := inferInstanceAs (Decidable (_ ∧ _))

def Parts.ofAuthority (authority : List Char) : Parts := ⟨[], authority, [], [], []⟩

theorem cutParts_slashes {authority : List Char} (h : Within IsAuthorityChar authority) :
    cutParts ('/' :: '/' :: authority) = .ofAuthority authority := by
  have hkeep : authority.filter (fun c => !isLineBreak c) = authority :=
    List.filter_eq_self.mpr fun c hc => by rw [(h c hc).2.1]; rfl
  have hclean : cleaned ('/' :: '/' :: authority) = '/' :: '/' :: authority := by
    rw [cleaned, List.dropWhile_cons_of_neg (by decide), List.filter_cons_of_pos (by decide),
      List.filter_cons_of_pos (by decide), hkeep]
  have hcut := cutAuthority_append (h.mono fun _ hc => hc.1) (.inl rfl)
  rw [List.append_nil] at hcut
  simp only [cutParts, hclean, cutScheme_slash, hcut]
  rfl

theorem split_slashes {authority : List Char} (h : Within IsAuthorityChar authority)
    {parts : Parts} : split ('/' :: '/' :: authority) = .ok parts ↔
      checkBrackets authority = .ok () ∧ parts = .ofAuthority authority := by
  rw [split_eq_ok, cutParts_slashes h]
  constructor
  · rintro ⟨rfl, hb, -⟩
    exact ⟨hb, rfl⟩
  · rintro ⟨hb, rfl⟩
    exact ⟨rfl, hb, checkDisguised_eq_ok.mpr (h.mono fun _ hc => hc.2.2)⟩

theorem mem_iff_of_checkBrackets {authority : List Char} (h : checkBrackets authority = .ok ()) :
    '[' ∈ authority ↔ ']' ∈ authority := by
  rw [← List.contains_iff_mem, ← List.contains_iff_mem]
  rw [checkBrackets] at h
  cases ho : authority.contains '[' <;> cases hc : authority.contains ']' <;> simp_all

theorem unlettered_lineBreak : Unlettered isLineBreak where
  lt c hc := by
    simp only [isLineBreak, Bool.or_eq_true, beq_iff_eq] at hc
    rcases hc with (rfl | rfl) | rfl <;> decide
  kept _ := of_ascii (P := fun c => (lowerChar c).filter isLineBreak = [c].filter isLineBreak)
    (by decide +kernel)
  null := rfl

namespace Parts

variable {parts : Parts} {cs : List Char}

theorem authority_chars_of_split (h : split cs = .ok parts) :
    Within IsAuthorityChar parts.authority := by
  obtain ⟨rfl, -, hd⟩ := split_eq_ok.mp h
  have hclean : Within (isLineBreak · = false) (cleaned cs) := by
    intro c hc
    simpa using (List.mem_filter.mp hc).2
  have ha := (within_cutAuthority (within_cutScheme hclean)).1
  intro c hc
  exact ⟨(ha c hc).2, (ha c hc).1, checkDisguised_eq_ok.mp hd c hc⟩

theorem hostname_chars (h : split cs = .ok parts) : Within IsAuthorityChar parts.hostname := by
  have hauthority := authority_chars_of_split h
  have hhost : Within IsAuthorityChar parts.hostAndPort.1 :=
    within_hostAndPort (hauthority.of_subset (hostPart_subset _))
  have hline : Within (isLineBreak · = false) parts.hostname :=
    within_of_filter (fun _ hc => hc) (filter_hostname unlettered_lineBreak parts)
      (hhost.mono fun _ hc => hc.2.1)
  have hopen := open_loweredHost (hhost.mono fun _ hc => hc.2.2)
  intro c hc
  refine ⟨?_, hline c hc, hopen c hc⟩
  have he := ends_hostname h c hc
  simp only [endsHost, Bool.or_eq_false_iff] at he
  exact he.1

theorem hostname_brackets (h : split cs = .ok parts) :
    (':' ∈ parts.hostname → checkAddress parts.hostname = .ok ()) ∧
      (']' ∈ parts.hostname → ':' ∉ parts.hostname ∧ '[' ∉ parts.hostname) := by
  have hmark := filter_hostname unlettered_isMark parts
  have hcolon : ':' ∈ parts.hostname ↔ ':' ∈ parts.hostAndPort.1 :=
    mem_iff_of_filter hmark (by decide)
  have hopening : '[' ∈ parts.hostname ↔ '[' ∈ parts.hostAndPort.1 :=
    mem_iff_of_filter hmark (by decide)
  have hclose := unlettered_char (d := ']') (by decide) (by decide) (by decide)
  have hclosing : ']' ∈ parts.hostname ↔ ']' ∈ parts.hostAndPort.1 :=
    mem_iff_of_filter (filter_hostname hclose parts) rfl
  rw [hcolon, hopening, hclosing]
  cases hc : cutFirst? '[' (hostPart parts.authority) with
  | none =>
      have hn : ':' ∉ parts.hostAndPort.1 := by
        rw [hostAndPort_of_none hc]
        exact not_mem_cutAt ':' _
      have hopen : '[' ∉ parts.hostAndPort.1 := by
        rw [hostAndPort_of_none hc]
        exact fun hm => not_mem_of_cutFirst?_eq_none hc (cutAt_subset ':' _ hm)
      exact ⟨fun hm => absurd hm hn, fun _ => ⟨hn, hopen⟩⟩
  | some cut =>
      obtain ⟨-, -, ha⟩ := brackets_spec (checkBrackets_of_split h) hc
      rw [hostname_eq, hostAndPort_of_some hc]
      exact ⟨fun _ => checkAddress_loweredHost ha, fun hm => absurd hm (not_mem_cutAt ']' _)⟩

end Parts

end Uri

namespace Peer

variable {p q : Peer} {a : List Char} {given : Value}

theorem parseWith_eq_ok : parseWith a given = .ok p ↔ ∃ parts port,
    split (withSlashes (trim isBlank a)) = .ok parts ∧ parts.port? = .ok port ∧
      parts.hostname ≠ [] ∧ ofValues (.text (String.ofList parts.hostname))
        ((port.map fun n => .int (n : Int)).getD given) = .ok p := by
  simp only [parseWith]
  constructor
  · intro h
    split at h
    · cases h
    · next parts hs =>
        split at h
        · cases h
        · next port hp =>
            split at h
            · cases h
            · next hne => exact ⟨parts, port, hs, hp, hne, h⟩
  · rintro ⟨parts, port, hs, hp, hne, h⟩
    simp only [hs, hp, if_neg hne, h]

theorem withSlashes_of_not_mem {cs : List Char} (h : '/' ∉ cs) :
    withSlashes cs = '/' :: '/' :: cs := by
  have hn : ¬containsText "://".toList cs = true := fun hc =>
    h (subset_of_containsText hc (by decide))
  rw [withSlashes, if_neg hn]

/-- What the host and the port are like that are read from an address. -/
structure IsLegible (p : Peer) : Prop where
  chars : Within IsAuthorityChar p.host.toList
  user : '@' ∉ p.host.toList
  lowered : IsLowered p.host.toList
  address : ':' ∈ p.host.toList → checkAddress p.host.toList = .ok ()
  closing : ']' ∈ p.host.toList → ':' ∉ p.host.toList ∧ '[' ∉ p.host.toList
  port : isValidPort p.port = true

theorem isLegible_of_parseWith (h : parseWith a given = .ok p) : p.IsLegible := by
  obtain ⟨parts, port, hs, -, -, hv⟩ := parseWith_eq_ok.mp h
  obtain ⟨n, hm⟩ := make_of_ofValues hv
  obtain ⟨-, hport, rfl⟩ := make_eq_ok.mp hm
  have hbrackets := Parts.hostname_brackets hs
  refine ⟨?_, ?_, ?_, ?_, ?_, ?_⟩
  · rw [String.toList_ofList]
    exact Parts.hostname_chars hs
  · rw [String.toList_ofList]
    exact (Parts.ends_hostname hs).not_mem (by decide)
  · rw [String.toList_ofList]
    exact isLowered_loweredHost _
  · rw [String.toList_ofList]
    exact hbrackets.1
  · rw [String.toList_ofList]
    exact hbrackets.2
  · simp only [isValidPort, Bool.and_eq_true, decide_eq_true_eq] at hport ⊢
    omega

theorem trim_before_port (cs : List Char) (n : Nat) :
    trim isBlank (cs ++ ':' :: decimal n) = cs.dropWhile isBlank ++ ':' :: decimal n := by
  have hport : Within (isBlank · = false) (decimal n) := (isRow_decimal n).mono fun _ hd =>
    of_asciiDigit (P := fun c => isBlank c = false) (by decide) hd
  have hdrop : (cs ++ ':' :: decimal n).dropWhile isBlank =
      cs.dropWhile isBlank ++ ':' :: decimal n := by
    rw [List.dropWhile_append]
    split
    · next hnil =>
        rw [List.isEmpty_iff] at hnil
        rw [hnil, List.nil_append, List.dropWhile_cons_of_neg (by decide)]
    · rfl
  rw [trim, hdrop, trimEnd_append_cons (by decide), hport.trimEnd_eq]

theorem trim_inside (hc : ':' ∈ p.host.toList) :
    trim isBlank p.addressChars = p.addressChars := by
  have heq : p.addressChars = ('[' :: (p.host.toList ++ [']'])) ++ ':' :: decimal p.port := by
    rw [addressChars_of_colon hc]
    simp
  rw [heq, trim_before_port, List.dropWhile_cons_of_neg (by decide)]

def trimmed (p : Peer) : Peer := ⟨String.ofList (p.host.toList.dropWhile isBlank), p.port⟩

theorem host_trimmed : p.trimmed.host.toList = p.host.toList.dropWhile isBlank :=
  String.toList_ofList

theorem mem_trimmed {c : Char} (hb : isBlank c = false) :
    c ∈ p.trimmed.host.toList ↔ c ∈ p.host.toList := by
  rw [host_trimmed]
  exact mem_dropWhile hb

theorem addressChars_trimmed (hc : ':' ∉ p.host.toList) :
    p.trimmed.addressChars = p.trimmed.host.toList ++ ':' :: decimal p.port :=
  addressChars_of_not_mem fun hm => hc ((mem_trimmed (by decide)).mp hm)

theorem trim_outside (hc : ':' ∉ p.host.toList) :
    trim isBlank p.addressChars = p.trimmed.addressChars := by
  rw [addressChars_of_not_mem hc, trim_before_port, addressChars_trimmed hc, host_trimmed]

theorem mem_address_trimmed (hc : ':' ∉ p.host.toList) {c : Char} (hd : isAsciiDigit c = false)
    (hne : c ≠ ':') (hb : isBlank c = false) :
    c ∈ p.trimmed.addressChars ↔ c ∈ p.host.toList := by
  have hr : c ∉ decimal p.port := (isRow_decimal p.port).not_mem (by simp [hd])
  rw [addressChars_trimmed hc, List.mem_append, List.mem_cons, mem_trimmed hb]
  simp [hne, hr]

namespace IsLegible

theorem address_chars (h : p.IsLegible) : Within IsAuthorityChar p.addressChars := by
  have hport : Within IsAuthorityChar (decimal p.port) := (isRow_decimal p.port).mono fun _ hd =>
    of_asciiDigit (P := IsAuthorityChar) (by decide) hd
  by_cases hc : ':' ∈ p.host.toList
  · rw [addressChars_of_colon hc]
    simp only [within_cons, within_append]
    exact ⟨by decide, h.chars, by decide, by decide, hport⟩
  · rw [addressChars_of_not_mem hc]
    simp only [within_cons, within_append]
    exact ⟨h.chars, by decide, hport⟩

theorem parseWith_eq_ok (h : p.IsLegible) (ht : trim isBlank a = p.addressChars) :
    parseWith a given = .ok q ↔ checkBrackets p.addressChars = .ok () ∧
      ∃ port, (Parts.ofAuthority p.addressChars).port? = .ok port ∧
        (Parts.ofAuthority p.addressChars).hostname ≠ [] ∧
        ofValues (.text (String.ofList (Parts.ofAuthority p.addressChars).hostname))
          ((port.map fun n => .int (n : Int)).getD given) = .ok q := by
  have hslash : '/' ∉ p.addressChars := h.address_chars.not_mem (by decide)
  rw [Peer.parseWith_eq_ok, ht, withSlashes_of_not_mem hslash]
  simp only [split_slashes h.address_chars]
  constructor
  · rintro ⟨_, port, ⟨hb, rfl⟩, hp, hne, hv⟩
    exact ⟨hb, port, hp, hne, hv⟩
  · rintro ⟨hb, port, hp, hne, hv⟩
    exact ⟨_, port, ⟨hb, rfl⟩, hp, hne, hv⟩

theorem isReadable (h : p.IsLegible)
    (ho : ':' ∉ p.host.toList → '[' ∉ p.host.toList ∧ ']' ∉ p.host.toList) : p.IsReadable where
  user := h.user
  inside hc := ⟨fun hm => (h.closing hm).1 hc, h.address hc⟩
  outside := ho
  port := h.port

theorem hostname_eq (h : p.IsLegible) (hr : p.IsReadable) :
    (Parts.ofAuthority p.addressChars).hostname = p.host.toList := by
  rw [Parts.hostname_eq, (hr.read_address rfl).2]
  exact h.lowered.loweredHost_eq

theorem parseWith_of_trim (h : p.IsLegible) (hr : p.IsReadable) (hne : p.host.toList ≠ [])
    (ht : trim isBlank p.addressChars = p.addressChars) :
    parseWith p.addressChars given = .ok p := by
  have ha : (Parts.ofAuthority p.addressChars).authority = p.addressChars := rfl
  refine (h.parseWith_eq_ok ht).mpr
    ⟨(hr.read_address ha).1, some p.port, hr.port_read ha, ?_, ?_⟩
  · rw [h.hostname_eq hr]
    exact hne
  · rw [h.hostname_eq hr, String.ofList_toList]
    have hempty : p.host.isEmpty = false := by
      rw [Bool.eq_false_iff, ne_eq, String.isEmpty_iff]
      rintro he
      exact hne (by rw [he]; rfl)
    exact (Config.ofValues_text p.host p.port).trans
      (make_eq_ok.mpr ⟨hempty, h.port, rfl⟩)

theorem trimmed (h : p.IsLegible) (hc : ':' ∉ p.host.toList) : p.trimmed.IsLegible := by
  have hsub : p.host.toList.dropWhile isBlank ⊆ p.host.toList :=
    (List.dropWhile_sublist isBlank).subset
  refine ⟨?_, ?_, ?_, ?_, ?_, h.port⟩
  all_goals rw [host_trimmed]
  · exact h.chars.dropWhile _
  · exact fun hm => h.user (hsub hm)
  · exact h.lowered.dropWhile (by decide)
  · exact fun hm => absurd (hsub hm) hc
  · exact fun hm => ⟨fun hm => hc (hsub hm), fun ho => (h.closing (hsub hm)).2 (hsub ho)⟩

theorem read_outside (h : p.IsLegible) (hc : ':' ∉ p.host.toList)
    (hp : parseWith p.addressChars given = .ok p) :
    (∀ c ∈ p.host.toList.head?, isBlank c = false) ∧
      '[' ∉ p.host.toList ∧ ']' ∉ p.host.toList := by
  have hlegible := h.trimmed hc
  obtain ⟨hb, port, -, -, hv⟩ := (hlegible.parseWith_eq_ok (trim_outside hc)).mp hp
  -- Of the two brackets the host can only have one, and the check wants both or none.
  have hpair : '[' ∈ p.host.toList ↔ ']' ∈ p.host.toList := by
    have hpair := mem_iff_of_checkBrackets hb
    rwa [mem_address_trimmed hc (by decide) (by decide) (by decide),
      mem_address_trimmed hc (by decide) (by decide) (by decide)] at hpair
  have hclose : ']' ∉ p.host.toList := fun hm => (h.closing hm).2 (hpair.mpr hm)
  have hopen : '[' ∉ p.host.toList := fun hm => hclose (hpair.mp hm)
  have hreadable : p.trimmed.IsReadable := hlegible.isReadable fun _ =>
    ⟨fun hm => hopen ((mem_trimmed (by decide)).mp hm),
      fun hm => hclose ((mem_trimmed (by decide)).mp hm)⟩
  have hsame : p.host.toList = p.host.toList.dropWhile isBlank := by
    rw [← host_trimmed, host_of_ofValues hv, String.toList_ofList]
    exact hlegible.hostname_eq hreadable
  refine ⟨fun c hhead => ?_, hopen, hclose⟩
  have hnot := List.head?_dropWhile_not isBlank p.host.toList
  rw [← hsame, Option.mem_def.mp hhead] at hnot
  exact hnot

theorem parseWith_address_iff (h : p.IsLegible) (hne : p.host.toList ≠ []) :
    parseWith p.addressChars given = .ok p ↔
      ':' ∈ p.host.toList ∨ (∀ c ∈ p.host.toList.head?, isBlank c = false) ∧
        '[' ∉ p.host.toList ∧ ']' ∉ p.host.toList := by
  by_cases hc : ':' ∈ p.host.toList
  · exact iff_of_true (h.parseWith_of_trim (h.isReadable fun hn => absurd hc hn) hne
      (trim_inside hc)) (.inl hc)
  rw [or_iff_right hc]
  refine ⟨h.read_outside hc, fun ⟨hhead, ho⟩ => ?_⟩
  refine h.parseWith_of_trim (h.isReadable fun _ => ho) hne ?_
  rw [addressChars_of_not_mem hc, trim_before_port, dropWhile_of_head hhead]

end IsLegible

theorem host_ne_nil_of_parseWith (h : parseWith a given = .ok p) : p.host.toList ≠ [] := by
  obtain ⟨parts, port, -, -, hne, hv⟩ := parseWith_eq_ok.mp h
  rw [host_of_ofValues hv, String.toList_ofList]
  exact hne

/-- The address of a peer that was read from a text is read as that peer again, whatever the default
port, if its host has a colon, or else opens with no blank and holds no bracket; and only then. -/
theorem parse_address_iff (h : parseWith a given = .ok p) (other : Value) :
    parseWith p.address.toList other = .ok p ↔
      ':' ∈ p.host.toList ∨ (∀ c ∈ p.host.toList.head?, isBlank c = false) ∧
        '[' ∉ p.host.toList ∧ ']' ∉ p.host.toList := by
  rw [address, String.toList_ofList]
  exact (isLegible_of_parseWith h).parseWith_address_iff (host_ne_nil_of_parseWith h)

theorem zoned_address_read_back :
    parse " http://u:p@[FE80::1%Eth0]/db ".toList 4002 = .ok ⟨"fe80::1%Eth0", 4002⟩ ∧
      parse "[fe80::1%Eth0]:4002".toList defaultPort = .ok ⟨"fe80::1%Eth0", 4002⟩ := by
  have hread : parseWith " http://u:p@[FE80::1%Eth0]/db ".toList (.int 4002) =
      .ok ⟨"fe80::1%Eth0", 4002⟩ := rfl
  exact ⟨hread, (parse_address_iff hread (.int defaultPort)).mpr (.inl (by decide))⟩

/-- Blanks behind the slashes belong to the host, and brackets come only with colons. -/
theorem addresses_not_read_back : ∃ blank bracket : Peer,
    parse "http:// a:4001".toList defaultPort = .ok blank ∧
    parse blank.address.toList defaultPort ≠ .ok blank ∧
    parse "[v1.a[b]:4001".toList defaultPort = .ok bracket ∧
    parse bracket.address.toList defaultPort ≠ .ok bracket := by
  refine ⟨⟨" a", 4001⟩, ⟨"v1.a[b", 4001⟩, rfl, ?_, rfl, ?_⟩
  · have hread : parse (Peer.mk " a" 4001).address.toList defaultPort = .ok ⟨"a", 4001⟩ := rfl
    rw [hread, ne_eq, Except.ok.injEq]
    decide
  · have hread : parse (Peer.mk "v1.a[b" 4001).address.toList defaultPort =
        .error (.badAddress "//v1.a[b:4001".toList .brackets) := rfl
    rw [hread]
    exact nofun

end Peer

end SqlCluster
