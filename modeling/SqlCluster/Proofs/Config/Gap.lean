import SqlCluster.Config.Url
import SqlCluster.Proofs.Text.Filled
import SqlCluster.Proofs.Text.Pieces
import SqlCluster.Proofs.Uri.Escape
import SqlCluster.Proofs.Uri.Place
/-!
Addresses with a user, in which the user's password is a gap. Whether such an address can be taken
apart, and into what, does not depend on the word that fills the gap; an error may quote it.
-/
namespace SqlCluster

open Text Uri

/-- The errors that quote an address, or the part of it that holds the user. -/
def ConfigError.quotesAddress : ConfigError → Bool
  | .badAddress _ _ => true
  | .noHost _ => true
  | .malformedUrl (.compatibility _) => true
  | _ => false

namespace Config

section Answers

variable {α β : Type}

def Steady (answer : Word → α) : Prop := ∃ a, ∀ w, answer w = a

/-- An error of each word, which quotes an address and gives the word away. -/
def Exposing (error : Word → ConfigError) : Prop :=
  (∀ w, (error w).quotesAddress = true) ∧ ∃ n, Filled (n + 1) fun w => (error w).message.toList

def Exposes (answer : Word → Except ConfigError α) : Prop :=
  ∃ error, Exposing error ∧ ∀ w, answer w = .error (error w)

theorem Exposing.inj {error : Word → ConfigError} (h : Exposing error) {v w : Word}
    (he : (error v).message = (error w).message) : v = w := by
  obtain ⟨-, n, hn⟩ := h
  exact hn.inj (congrArg String.toList he)

def SteadyOrExposes (answer : Word → Except ConfigError α) : Prop :=
  Steady answer ∨ Exposes answer

theorem SteadyOrExposes.bind {answer : Word → Except ConfigError α} (h : SteadyOrExposes answer)
    (next : α → Except ConfigError β) : SteadyOrExposes fun w => (answer w).bind next := by
  rcases h with ⟨a, ha⟩ | ⟨error, he, ha⟩
  · refine .inl ⟨a.bind next, ?_⟩
    intro w
    simp only [ha]
  · refine .inr ⟨error, he, ?_⟩
    intro w
    simp only [ha, Except.bind]

end Answers

/-- An address with a user, whose password is left out. -/
structure Gap where
  scheme : Scheme
  user : List Char
  rest : List Char
  user_chars : Within (fun c => endsAuthority c = false ∧ c ≠ ':') user
  host_chars : '@' ∉ rest.takeWhile fun c => !endsAuthority c

namespace Gap

def fill (g : Gap) (w : List Char) : List Char :=
  g.scheme.name.toList ++ ':' :: '/' :: '/' :: (g.user ++ ':' :: (w ++ '@' :: g.rest))

def host (g : Gap) : List Char := g.rest.takeWhile fun c => !endsAuthority c

def tail (g : Gap) : List Char := g.rest.dropWhile fun c => !endsAuthority c

def authority (g : Gap) (w : List Char) : List Char := (g.user ++ ':' :: w) ++ '@' :: g.host

def parts (g : Gap) (w : List Char) : Parts where
  scheme := g.scheme.name.toList
  authority := g.authority w
  path := (cutAt '?' (cutAt '#' g.tail).1).1
  query := (cutAt '?' (cutAt '#' g.tail).1).2
  fragment := (cutAt '#' g.tail).2

theorem not_mem_takeWhile_filter {keep before : Char → Bool} {c : Char} {cs : List Char}
    (h : ∀ d, keep d = false → before d = true) (hc : c ∉ cs.takeWhile before) :
    c ∉ (cs.filter keep).takeWhile before := by
  induction cs with
  | nil => exact hc
  | cons d ds ih =>
      cases hb : before d with
      | false =>
          have hk : keep d = true := by
            cases hk : keep d with
            | true => rfl
            | false => exact absurd (h d hk) (by simp [hb])
          simp [hk, hb]
      | true =>
          rw [List.takeWhile_cons_of_pos hb, List.mem_cons, not_or] at hc
          cases hk : keep d with
          | false => simpa [hk] using ih hc.2
          | true =>
              rw [List.filter_cons_of_pos hk, List.takeWhile_cons_of_pos hb, List.mem_cons, not_or]
              exact ⟨hc.1, ih hc.2⟩

theorem not_mem_takeWhile_of_prefix {before : Char → Bool} {c : Char} {cs ds : List Char}
    (h : cs <+: ds) (hc : c ∉ ds.takeWhile before) : c ∉ cs.takeWhile before := by
  obtain ⟨es, rfl⟩ := h
  intro hm
  rw [List.takeWhile_append] at hc
  split at hc
  · exact hc (List.mem_append_left _ ((List.takeWhile_prefix before).subset hm))
  · exact hc hm

def tidy (g : Gap) : Gap where
  scheme := g.scheme
  user := g.user.filter fun c => !isLineBreak c
  rest := g.rest.filter fun c => !isLineBreak c
  user_chars := g.user_chars.filter _
  host_chars := by
    refine not_mem_takeWhile_filter ?_ g.host_chars
    intro c hc
    simp only [isLineBreak, Bool.not_eq_false', Bool.or_eq_true, beq_iff_eq] at hc
    rcases hc with (rfl | rfl) | rfl <;> decide

def trimmed (g : Gap) : Gap where
  scheme := g.scheme
  user := g.user
  rest := trimEnd isBlank g.rest
  user_chars := g.user_chars
  host_chars := by
    refine not_mem_takeWhile_of_prefix ?_ g.host_chars
    have h := List.dropWhile_suffix (l := g.rest.reverse) isBlank
    rw [← List.reverse_prefix, List.reverse_reverse] at h
    exact h

theorem trimEnd_fill (g : Gap) (w : List Char) :
    trimEnd isBlank (g.fill w) = g.trimmed.fill w := by
  have hat : isBlank '@' = false := by decide
  have h := trimEnd_append_cons hat
    (g.scheme.name.toList ++ ':' :: '/' :: '/' :: (g.user ++ ':' :: w)) g.rest
  simpa only [fill, trimmed, List.append_assoc, List.cons_append] using h

theorem fill_eq_cons (g : Gap) (w : List Char) : ∃ cs, g.fill w = 'h' :: cs := by
  rw [fill]
  cases g.scheme with
  | http => exact ⟨_, rfl⟩
  | https => exact ⟨_, rfl⟩

theorem trim_fill (g : Gap) {blank : List Char} (hb : Within (isBlank · = true) blank)
    (w : List Char) : trim isBlank (blank ++ g.fill w) = g.trimmed.fill w := by
  rw [← trimEnd_fill]
  obtain ⟨cs, h⟩ := g.fill_eq_cons w
  rw [h]
  exact trim_append_cons (by decide) hb cs

variable (g : Gap) {w : List Char}

theorem isLineBreak_of_isWordChar {c : Char} (h : isWordChar c = true) :
    isLineBreak c = false :=
  IsPlain.of_ascii (P := fun c => isLineBreak c = false) (by decide +kernel) (isWordChar_spec h).1

theorem cleaned_fill (hw : Within (isWordChar · = true) w) :
    cleaned (g.fill w) = g.tidy.fill w := by
  have hd : (g.fill w).dropWhile isControlOrSpace = g.fill w := by
    obtain ⟨cs, h⟩ := g.fill_eq_cons w
    rw [h, List.dropWhile_cons_of_neg]
    decide
  have hkeep : w.filter (fun c => !isLineBreak c) = w := by
    rw [List.filter_eq_self]
    intro c hc
    rw [isLineBreak_of_isWordChar (hw c hc)]
    rfl
  have hs : g.scheme.name.toList.filter (fun c => !isLineBreak c) = g.scheme.name.toList := by
    cases g.scheme <;> decide
  have hone : ∀ c ds, isLineBreak c = false → (c :: ds).filter (fun c => !isLineBreak c) =
      c :: ds.filter fun c => !isLineBreak c := by
    intro c ds hc
    rw [List.filter_cons_of_pos]
    simp [hc]
  rw [cleaned, hd, fill, List.filter_append, hs, hone _ _ (by decide), hone _ _ (by decide),
    hone _ _ (by decide), List.filter_append, hone _ _ (by decide), List.filter_append, hkeep,
    hone _ _ (by decide)]
  rfl

theorem isScheme_name (s : Scheme) : IsScheme s.name.toList := by
  cases s with
  | http => exact .inr ⟨'h', "ttp".toList, rfl, by decide, by decide, by decide⟩
  | https => exact .inr ⟨'h', "ttps".toList, rfl, by decide, by decide, by decide⟩

theorem opens_dropWhile (cs : List Char) : Opens (cs.dropWhile fun c => !endsAuthority c) := by
  induction cs with
  | nil => exact .inl rfl
  | cons c cs ih =>
      cases hc : endsAuthority c with
      | false => simpa [hc] using ih
      | true => exact .inr ⟨c, cs, by simp [hc], hc⟩

theorem endsAuthority_of_isWordChar {c : Char} (h : isWordChar c = true) :
    endsAuthority c = false ∧ c ≠ '[' ∧ c ≠ ']' ∧ disguised.contains c.toNat = false ∧
      isUnreserved c = true := by
  refine ⟨?_, ?_, ?_, ?_, ?_⟩
  rotate_right
  · rw [isWordChar] at h
    simp only [isUnreserved, h, Bool.true_or]
  · exact IsPlain.of_ascii (P := fun c => isWordChar c = true → endsAuthority c = false)
      (by decide +kernel) (isWordChar_spec h).1 h
  · rintro rfl
    exact absurd h (by decide)
  · rintro rfl
    exact absurd h (by decide)
  · exact IsPlain.of_ascii (P := fun c => disguised.contains c.toNat = false) (by decide +kernel)
      (isWordChar_spec h).1

theorem cutAuthority_fill (hw : Within (isWordChar · = true) w) :
    cutAuthority ('/' :: '/' :: (g.user ++ ':' :: (w ++ '@' :: g.rest))) =
      (g.authority w, g.tail) := by
  have hrest : g.host ++ g.tail = g.rest := List.takeWhile_append_dropWhile
  have htext : g.user ++ ':' :: (w ++ '@' :: g.rest) = g.authority w ++ g.tail := by
    rw [authority, ← hrest]
    simp only [List.append_assoc, List.cons_append]
  have hhost : Within (endsAuthority · = false) g.host := by
    intro c hc
    simpa using List.mem_takeWhile_imp hc
  rw [htext]
  refine cutAuthority_append ?_ (opens_dropWhile g.rest)
  rw [authority, within_append, within_append, within_cons, within_cons]
  exact ⟨⟨g.user_chars.mono fun _ h => h.1, by decide,
    hw.mono fun _ h => (endsAuthority_of_isWordChar h).1⟩, by decide, hhost⟩

theorem at_not_mem_host : '@' ∉ g.host := g.host_chars

theorem hostPart_authority : hostPart (g.authority w) = g.host := by
  rw [authority, hostPart_withUser, hostPart, cutLast?_eq_none g.at_not_mem_host]

theorem contains_authority {c : Char} (hw : c ∉ w) :
    (g.authority w).contains c = (g.authority []).contains c := by
  rw [Bool.eq_iff_iff, List.contains_iff_mem, List.contains_iff_mem]
  simp [authority, hw]

theorem checkBrackets_authority (hw : Within (isWordChar · = true) w) :
    checkBrackets (g.authority w) = checkBrackets (g.authority []) := by
  rw [checkBrackets, checkBrackets, hostPart_authority, hostPart_authority,
    contains_authority g (hw.not_mem (by decide)), contains_authority g (hw.not_mem (by decide))]

def isDisguised : Bool := (g.authority []).any fun c => disguised.contains c.toNat

theorem checkDisguised_authority (hw : Within (isWordChar · = true) w) :
    checkDisguised (g.authority w) =
      if g.isDisguised then .error (.compatibility (g.authority w)) else .ok () := by
  have hword : w.any (fun c => disguised.contains c.toNat) = false := by
    rw [List.any_eq_false]
    intro c hc
    rw [(endsAuthority_of_isWordChar (hw c hc)).2.2.2.1]
    exact Bool.false_ne_true
  rw [checkDisguised, isDisguised]
  simp only [authority, List.any_append, List.any_cons, hword, List.any_nil]

theorem split_fill (hw : Within (isWordChar · = true) w) :
    split (g.fill w) = (checkBrackets (g.tidy.authority [])).bind fun _ =>
      if g.tidy.isDisguised then .error (.compatibility (g.tidy.authority w))
      else .ok (g.tidy.parts w) := by
  have hcut : cutScheme (g.tidy.fill w) = (g.scheme.name.toList,
      '/' :: '/' :: (g.tidy.user ++ ':' :: (w ++ '@' :: g.tidy.rest))) :=
    cutScheme_append (isScheme_name g.scheme) (by cases g.scheme <;> decide) _
  simp only [split, cleaned_fill g hw, hcut, cutAuthority_fill g.tidy hw,
    checkBrackets_authority g.tidy hw, checkDisguised_authority g.tidy hw]
  cases checkBrackets (g.tidy.authority []) with
  | error e => rfl
  | ok _ => cases g.tidy.isDisguised <;> rfl

theorem hostAndPort_parts : (g.parts w).hostAndPort = (g.parts []).hostAndPort := by
  simp only [Parts.hostAndPort, parts, hostPart_authority]

theorem hostname_parts : (g.parts w).hostname = (g.parts []).hostname := by
  rw [Parts.hostname, Parts.hostname, hostAndPort_parts]

theorem port_parts : (g.parts w).port? = (g.parts []).port? := by
  rw [Parts.port?, Parts.port?, hostAndPort_parts]

theorem userinfo_parts : (g.parts w).userinfo = some (g.user ++ ':' :: w) := by
  rw [Parts.userinfo]
  simp only [parts, authority, cutLast?_append g.at_not_mem_host, Option.map_some]

theorem cutFirst_userinfo : cutFirst? ':' (g.user ++ ':' :: w) = some (g.user, w) :=
  cutFirst?_append (g.user_chars.not_mem fun h => h.2 rfl)

theorem username_parts : (g.parts w).username = some g.user := by
  rw [Parts.username, userinfo_parts, Option.map_some, cutAt, cutFirst_userinfo]
  rfl

theorem password_parts : (g.parts w).password = some w := by
  rw [Parts.password, userinfo_parts, Option.bind_some, cutFirst_userinfo]
  rfl

theorem userText_word (hw : Within (isWordChar · = true) w) :
    userText (some w) = String.ofList w := by
  have he : escape w = w := by
    rw [escape_eq_escapeUnless]
    refine escapeUnless_of_within (hw.mono ?_)
    intro c hc
    rw [(endsAuthority_of_isWordChar hc).2.2.2.2, Bool.true_or]
  have hu := unescape_escape w
  rw [he] at hu
  rw [userText, Option.getD_some, hu]

theorem filled_fill : Filled 1 fun w => g.fill w.chars := by
  have h := Filled.gap.between
    (g.scheme.name.toList ++ ':' :: '/' :: '/' :: (g.user ++ [':'])) ('@' :: g.rest)
  simpa only [fill, List.append_assoc, List.cons_append, List.nil_append] using h

theorem filled_authority : Filled 1 fun w => g.authority w.chars := by
  have h := Filled.gap.between (g.user ++ [':']) ('@' :: g.host)
  simpa only [authority, List.append_assoc, List.cons_append, List.nil_append] using h

theorem filled_compatibility :
    Filled 1 fun w => (SplitError.compatibility (g.authority w.chars)).message.toList := by
  have hm : ∀ cs, (SplitError.compatibility cs).message = "netloc '" ++ String.ofList cs ++
      "' contains invalid characters under NFKC normalization" := fun _ => rfl
  simp only [hm, String.toList_append, String.toList_ofList]
  exact g.filled_authority.between _ _

theorem exposing_badAddress {n : Nat} {error : Word → SplitError}
    (he : Filled n fun w => (error w).message.toList) :
    Exposing fun w => .badAddress (g.fill w.chars) (error w) := by
  have hm : ∀ cs e, (ConfigError.badAddress cs e).message = "invalid peer address " ++
      String.ofList (Quoted.quoteChars cs) ++ ": " ++ e.message := fun _ _ => rfl
  refine ⟨fun _ => rfl, n, ?_⟩
  simp only [hm, String.toList_append, String.toList_ofList]
  have h := (g.filled_fill.quoted.between "invalid peer address ".toList ": ".toList).append he
  rwa [Nat.add_comm] at h

theorem exposing_noHost : Exposing fun w => .noHost (g.fill w.chars) := by
  have hm : ∀ cs, (ConfigError.noHost cs).message = "invalid peer address " ++
      String.ofList (Quoted.quoteChars cs) ++ ": no host" := fun _ => rfl
  refine ⟨fun _ => rfl, 0, ?_⟩
  simp only [hm, String.toList_append, String.toList_ofList]
  exact g.filled_fill.quoted.between _ _

theorem exposing_malformedUrl :
    Exposing fun w => .malformedUrl (.compatibility (g.authority w.chars)) := by
  have hm : ∀ e, (ConfigError.malformedUrl e).message = "malformed connection URL: " ++ e.message :=
    fun _ => rfl
  refine ⟨fun _ => rfl, 0, ?_⟩
  simp only [hm, String.toList_append]
  have h := (Filled.const "malformed connection URL: ".toList).append g.filled_compatibility
  rwa [Nat.zero_add] at h

theorem withSlashes_fill : Peer.withSlashes (g.fill w) = g.fill w := by
  have h : containsText "://".toList (g.fill w) = true := by
    rw [fill]
    cases g.scheme <;> rfl
  rw [Peer.withSlashes, if_pos h]

theorem parse_fill : SteadyOrExposes fun w => Peer.parse (g.fill w.chars) Peer.defaultPort := by
  have htrim : ∀ w, Peer.withSlashes (trim isBlank (g.fill w)) = g.trimmed.fill w := by
    intro w
    have h : trim isBlank ([] ++ g.fill w) = g.trimmed.fill w := g.trim_fill within_nil w
    rw [List.nil_append] at h
    rw [h, withSlashes_fill]
  have hsplit := fun w : Word => g.trimmed.split_fill w.isWord
  generalize g.trimmed = t at htrim hsplit
  cases hb : checkBrackets (t.tidy.authority []) with
  | error e =>
      refine .inr ⟨_, t.exposing_badAddress (Filled.const e.message.toList), ?_⟩
      intro w
      simp only [Peer.parse, Peer.parseWith, htrim, hsplit, hb, Except.bind]
  | ok _ =>
      cases hd : t.tidy.isDisguised with
      | true =>
          refine .inr ⟨_, t.exposing_badAddress t.tidy.filled_compatibility, ?_⟩
          intro w
          simp only [Peer.parse, Peer.parseWith, htrim, hsplit, hb, hd, Except.bind, if_true]
      | false =>
          cases hp : (t.tidy.parts []).port? with
          | error e =>
              refine .inr ⟨_, t.exposing_badAddress (Filled.const e.message.toList), ?_⟩
              intro w
              simp only [Peer.parse, Peer.parseWith, htrim, hsplit, hb, hd, Except.bind, port_parts,
                hp, Bool.false_eq_true, if_false]
          | ok port =>
              by_cases hh : (t.tidy.parts []).hostname = []
              · refine .inr ⟨_, t.exposing_noHost, ?_⟩
                intro w
                simp only [Peer.parse, Peer.parseWith, htrim, hsplit, hb, hd, Except.bind,
                  port_parts, hp, hostname_parts, hh, Bool.false_eq_true, if_false, if_true]
              · refine .inl ⟨Peer.ofValues (.text (String.ofList (t.tidy.parts []).hostname))
                  ((port.map fun n => .int (n : Int)).getD (.int Peer.defaultPort)), ?_⟩
                intro w
                simp only [Peer.parse, Peer.parseWith, htrim, hsplit, hb, hd, Except.bind,
                  port_parts, hp, hostname_parts, hh, Bool.false_eq_true, if_false]

theorem cutUrl_fill : (∃ e, ∀ w : Word, cutUrl (g.fill w.chars) = .error e) ∨
    Exposes (fun w : Word => cutUrl (g.fill w.chars)) ∨
    ∃ port, ∀ w : Word, cutUrl (g.fill w.chars) = .ok (g.tidy.parts w.chars, port) := by
  have hsplit := fun w : Word => g.split_fill w.isWord
  cases hb : checkBrackets (g.tidy.authority []) with
  | error e =>
      refine .inl ⟨.malformedUrl e, ?_⟩
      intro w
      simp only [cutUrl, hsplit, hb, Except.bind]
  | ok _ =>
      cases hd : g.tidy.isDisguised with
      | true =>
          refine .inr (.inl ⟨_, g.tidy.exposing_malformedUrl, ?_⟩)
          intro w
          simp only [cutUrl, hsplit, hb, hd, Except.bind, if_true]
      | false =>
          cases hp : (g.tidy.parts []).port? with
          | error e =>
              refine .inl ⟨.malformedUrl e, ?_⟩
              intro w
              simp only [cutUrl, hsplit, hb, hd, Except.bind, port_parts, hp, Bool.false_eq_true,
                if_false]
          | ok port =>
              refine .inr (.inr ⟨port, ?_⟩)
              intro w
              simp only [cutUrl, hsplit, hb, hd, Except.bind, port_parts, hp, Bool.false_eq_true,
                if_false]

end Gap

end Config

end SqlCluster
