import SqlCluster.Proofs.Uri.Place
/-!
A URL with a login read by the client. What it makes of the scheme, the host and all that follows is
the same whatever the login is, unless the URL becomes too long for it.
-/
namespace SqlCluster.Http

open Text Uri

namespace Url

def withUser (u : Url) (user : List Char) : Url := { u with userinfo := user }

/-- What the text of a URL with a host is made of. -/
structure Sound (u : Url) : Prop where
  isScheme : IsScheme u.scheme
  host : Within IsHostChar u.host
  path : Within IsPlain u.path
  rooted : u.path = [] ∨ u.path.head? = some '/'
  query : ∀ q, u.query = some q → Within IsPlain q
  fragment : ∀ f, u.fragment = some f → Within IsPlain f

end Url

theorem isHostChar_of_digit {c : Char} (h : c.isDigit = true) : IsHostChar c := by
  have hc : c.toNat < 128 := by
    simp only [Char.isDigit, Bool.and_eq_true, decide_eq_true_eq] at h
    exact Nat.lt_of_le_of_lt (UInt32.le_iff_toNat_le.mp h.2) (by decide)
  exact of_ascii (P := fun c => c.isDigit = true → IsPlain c ∧ endsAuthority c = false)
    (by decide +kernel) hc h

theorem within_decimalInt (n : Int) : Within IsHostChar (decimalInt n) := by
  have hd (n : Nat) : Within IsHostChar (decimal n) := fun c hc =>
    isHostChar_of_digit (Nat.isDigit_of_mem_toDigits (by decide) (by decide) hc)
  cases n with
  | ofNat n => exact hd n
  | negSucc n =>
      rw [decimalInt, within_cons]
      exact ⟨by decide, hd (n + 1)⟩

theorem within_bracketed {cs : List Char} (h : Within IsHostChar cs) :
    Within IsHostChar (Url.bracketed cs) := by
  rw [Url.bracketed]
  split
  · rw [within_append, within_cons, within_cons]
    exact ⟨⟨by decide, h⟩, by decide, within_nil⟩
  · exact h

namespace Url

def hostPort (u : Url) : List Char := bracketed u.host ++ Url.marked ':' (u.port.map decimalInt)

def tail (u : Url) : List Char := u.path ++ Url.marked '?' u.query ++ Url.marked '#' u.fragment

theorem within_marked {P : Char → Prop} {mark : Char} (hm : P mark) {part : Option (List Char)}
    (h : ∀ cs, part = some cs → Within P cs) : Within P (Url.marked mark part) := by
  cases part with
  | none => exact within_nil
  | some cs => exact within_cons.mpr ⟨hm, h cs rfl⟩

theorem Sound.hostPort {u : Url} (h : u.Sound) : Within IsHostChar u.hostPort := by
  rw [Url.hostPort, within_append]
  refine ⟨within_bracketed h.host, within_marked (by decide) fun part hp => ?_⟩
  obtain ⟨n, -, rfl⟩ := Option.map_eq_some_iff.mp hp
  exact within_decimalInt n

theorem Sound.tail {u : Url} (h : u.Sound) : Within IsPlain u.tail := by
  rw [Url.tail, within_append, within_append]
  exact ⟨⟨h.path, within_marked (by decide) h.query⟩, within_marked (by decide) h.fragment⟩

theorem Sound.opens {u : Url} (h : u.Sound) : Opens u.tail := by
  rw [Url.tail, List.append_assoc]
  rcases h.rooted with hp | hp
  · rw [hp, List.nil_append]
    cases u.query with
    | some q => exact .inr ⟨'?', _, rfl, by decide⟩
    | none =>
        cases u.fragment with
        | some f => exact .inr ⟨'#', _, rfl, by decide⟩
        | none => exact .inl rfl
  · obtain ⟨cs, hc⟩ := List.head?_eq_some_iff.mp hp
    exact .inr ⟨'/', _, by rw [hc, List.cons_append], by decide⟩

def place (u : Url) (h : u.Sound) : Place :=
  ⟨u.scheme, u.hostPort, u.tail, h.isScheme, h.hostPort, h.tail, h.opens⟩

theorem text_withUser {u : Url} (h : u.Sound) (l : Login) :
    (u.withUser l.text).text = (u.place h).dress l := by
  have hne := l.text_ne_nil
  have ha : (u.withUser l.text).authority = l.text ++ '@' :: u.hostPort := by
    simp only [authority, withUser, hne, if_false, hostPort, List.append_assoc, List.cons_append,
      List.nil_append]
  have hane : (u.withUser l.text).authority ≠ [] := by simp [ha]
  rw [text, if_neg hane, ha]
  simp only [Place.dress, Place.body, place, tail, withUser]
  by_cases hs : u.scheme = []
  · simp only [hs, if_true, List.nil_append, List.cons_append, List.append_assoc]
  · simp only [hs, if_false, List.nil_append, List.cons_append, List.append_assoc]

end Url

theorem within_escapeUnless_admits (refused : String) (cs : List Char) :
    Within IsPlain (escapeUnless (admits refused) cs) := by
  refine within_escapeUnless (by decide) (by decide) ?_ cs
  intro c hc
  rw [Bool.or_eq_true] at hc
  rcases hc with hc | hc
  · exact of_ascii (P := fun c => isUnreserved c = true → IsPlain c) (by decide +kernel)
      (lt_of_isUnreserved hc) hc
  · simp only [admits, Bool.and_eq_true, decide_eq_true_eq] at hc
    exact hc.1

theorem all_isAscii {cs : List Char} (h : Within IsPlain cs) : cs.all isAscii = true :=
  List.all_eq_true.mpr fun c hc => by
    have hp := (h c hc).2
    simp only [isAscii, decide_eq_true_eq]
    omega

theorem within_hostOf {P : Char → Prop} (hp : ∀ c, P c → IsPlain c)
    (hk : ∀ n < 128, isUnreserved (Char.ofNat n) = true → P (Char.ofNat n))
    (ha : Within P ('%' :: (upperDigits ++ hostAdmitted.toList))) {cs host : List Char}
    (h : Within P cs) (hh : hostOf cs = .ok host) : Within P host := by
  simp only [hostOf, all_isAscii (h.mono hp), if_true] at hh
  split at hh
  · split at hh
    · cases hh
      exact h
    · cases hh
  · split at hh
    · split at hh
      · cases hh
        exact (h.drop 1).dropLast
      · cases hh
    · cases hh
      refine within_escapeUnless (ha '%' List.mem_cons_self) ?_ ?_ _
      · exact fun c hc => ha c (List.mem_cons_of_mem _ (List.mem_append_left _ hc))
      · intro c hc
        rw [Bool.or_eq_true] at hc
        rcases hc with hc | hc
        · exact of_ascii (P := fun c => isUnreserved c = true → P c) hk (lt_of_isUnreserved hc) hc
        · have hm : c ∈ hostAdmitted.toList := by simpa using hc
          exact ha c (List.mem_cons_of_mem _ (List.mem_append_right _ hm))

theorem dropDots_root {done : List (List Char)} (h : done.getLast? = some []) (segment : List Char) :
    (dropDots done segment).getLast? = some [] := by
  rw [dropDots]
  split
  · exact h
  · split
    · split
      · exact h
      · next hne =>
          cases done with
          | nil => cases h
          | cons d ds =>
              cases ds with
              | nil =>
                  have hd : d = [] := by simpa using h
                  exact absurd (by rw [hd]) hne
              | cons e es => simpa using h
    · cases done with
      | nil => cases h
      | cons d ds => simpa using h

theorem dropDots_foldl_root {segments done : List (List Char)} (h : done.getLast? = some []) :
    (segments.foldl dropDots done).getLast? = some [] := by
  induction segments generalizing done with
  | nil => exact h
  | cons segment segments ih => exact ih (dropDots_root h segment)

theorem normalPath_rooted {path : List Char} (h : path = [] ∨ path.head? = some '/') :
    normalPath path = [] ∨ (normalPath path).head? = some '/' := by
  simp only [normalPath]
  split
  swap
  · exact h
  rcases h with rfl | h
  · exact .inl rfl
  · obtain ⟨cs, rfl⟩ := List.head?_eq_some_iff.mp h
    have hr : ((splitAt '/' ('/' :: cs)).foldl dropDots []).getLast? = some [] := by
      have hs : splitAt '/' ('/' :: cs) = [] :: splitAt '/' cs := by simp [splitAt]
      rw [hs, List.foldl_cons]
      exact dropDots_foldl_root rfl
    generalize (splitAt '/' ('/' :: cs)).foldl dropDots [] = done at hr ⊢
    have hh : done.reverse.head? = some [] := by rw [List.head?_reverse, hr]
    obtain ⟨rest, hd⟩ := List.head?_eq_some_iff.mp hh
    rw [hd]
    cases rest with
    | nil => exact .inl rfl
    | cons r rs => exact .inr rfl

theorem escapeUnless_rooted {keep : Char → Bool} (hk : keep '/' = true) {path : List Char}
    (h : path = [] ∨ path.head? = some '/') :
    escapeUnless keep path = [] ∨ (escapeUnless keep path).head? = some '/' := by
  rcases h with rfl | h
  · exact .inl rfl
  · obtain ⟨cs, rfl⟩ := List.head?_eq_some_iff.mp h
    refine .inr ?_
    rw [escapeUnless, List.flatMap_cons, hk, Bool.or_true, if_pos rfl]
    rfl

def UrlParts.withUser (p : UrlParts) (user : List Char) : UrlParts := { p with userinfo := user }

def UrlParts.read (p : UrlParts) : Except UrlError Url := do
  let host ← hostOf p.host
  let port ← portOf p.scheme p.port
  checkPath (!p.scheme.isEmpty) true p.path
  return {
    scheme := asciiLower p.scheme
    userinfo := []
    host := host
    port := port
    path := escapeUnless (admits pathRefused) (normalPath p.path)
    query := p.query.map (escapeUnless (admits queryRefused))
    fragment := p.fragment.map (escapeUnless (admits fragmentRefused)) }

theorem make_withUser (p : UrlParts) {user : List Char}
    (h : escapeUnless (admits userRefused) user ≠ []) :
    Url.make (p.withUser user) =
      p.read.map (·.withUser (escapeUnless (admits userRefused) user)) := by
  simp only [Url.make, UrlParts.read, UrlParts.withUser]
  cases hostOf p.host with
  | error e => rfl
  | ok host =>
      cases portOf p.scheme p.port with
      | error e => rfl
      | ok port =>
          have he : (escapeUnless (admits userRefused) user).isEmpty = false := by simpa using h
          simp only [bind, Except.bind, he, Bool.not_false, Bool.true_or, Bool.or_true, if_true]
          cases checkPath (!p.scheme.isEmpty) true p.path with
          | error e => rfl
          | ok _ => rfl

theorem rooted_of_checkPath {hasScheme : Bool} {path : List Char}
    (h : checkPath hasScheme true path = .ok ()) : path = [] ∨ path.head? = some '/' := by
  simp only [checkPath, if_true] at h
  split at h
  · next hp => exact hp
  · cases h

theorem read_spec {p : UrlParts} {u : Url} (h : p.read = .ok u) :
    hostOf p.host = .ok u.host ∧ portOf p.scheme p.port = .ok u.port ∧
      u.scheme = asciiLower p.scheme ∧
      (IsScheme p.scheme → Within IsHostChar p.host → u.scheme = p.scheme ∧ u.Sound) := by
  simp only [UrlParts.read, bind, Except.bind, pure, Except.pure] at h
  cases hh : hostOf p.host with
  | error e => simp [hh] at h
  | ok host =>
      cases hp : portOf p.scheme p.port with
      | error e => simp [hh, hp] at h
      | ok port =>
          cases hc : checkPath (!p.scheme.isEmpty) true p.path with
          | error e => simp [hh, hp, hc] at h
          | ok _ =>
              simp only [hh, hp, hc, Except.ok.injEq] at h
              subst h
              refine ⟨rfl, rfl, rfl, fun hs hw => ?_⟩
              have hl : asciiLower p.scheme = p.scheme := by
                rcases hs with he | ⟨c, ds, -, -, -, hl⟩
                · rw [he]
                  rfl
                · exact hl
              have hhost : Within IsHostChar host :=
                within_hostOf (fun _ hc => hc.1) (by decide +kernel) (by decide +kernel) hw hh
              refine ⟨hl, ?_, hhost, within_escapeUnless_admits _ _,
                escapeUnless_rooted (by decide) (normalPath_rooted (rooted_of_checkPath hc)), ?_, ?_⟩
              · simp only [hl]
                exact hs
              · rintro q hq
                obtain ⟨q, -, rfl⟩ := Option.map_eq_some_iff.mp hq
                exact within_escapeUnless_admits _ _
              · rintro f hf
                obtain ⟨f, -, rfl⟩ := Option.map_eq_some_iff.mp hf
                exact within_escapeUnless_admits _ _

theorem within_login_escape (tail : List Char) :
    Within (isLoginChar · = true) (escapeUnless (admits userRefused) tail) := by
  refine within_escapeUnless (by decide) (by decide) ?_ tail
  intro c hc
  rw [Bool.or_eq_true] at hc
  rcases hc with hc | hc
  · simp [isLoginChar, hc]
  · exact isLoginChar_of_admits hc

def readLogin (l : Login) (tail : List Char) : Login :=
  l.extend (escapeUnless (admits userRefused) tail) (within_login_escape tail)

theorem escape_login (l : Login) (tail : List Char) :
    escapeUnless (admits userRefused) (l.text ++ tail) = (readLogin l tail).text := by
  have hl : escapeUnless (admits userRefused) l.text = l.text :=
    escapeUnless_of_within (l.text_chars.mono fun c hc => by
      rw [(isLoginChar_spec hc).2.2.2.2.2.2.2, Bool.or_true])
  rw [escapeUnless_append, hl, readLogin, Login.text_extend]

theorem make_login (p : UrlParts) (l : Login) (tail : List Char) :
    Url.make (p.withUser (l.text ++ tail)) =
      p.read.map (·.withUser (readLogin l tail).text) := by
  have hne : escapeUnless (admits userRefused) (l.text ++ tail) ≠ [] := by
    rw [escape_login]
    exact Login.text_ne_nil _
  rw [make_withUser p hne, escape_login]

theorem cutOptional_append {c : Char} {cs : List Char} (h : c ∉ cs) (ds : List Char) :
    cutOptional c (cs ++ ds) = (cs ++ (cutOptional c ds).1, (cutOptional c ds).2) := by
  rw [cutOptional, cutOptional, cutFirst?_append_of_not_mem h]
  cases cutFirst? c ds <;> rfl

theorem cutScheme_dress (p : Place) (l : Login) :
    cutScheme (p.dress l) = (p.scheme, p.body l) := by
  rw [Place.dress]
  rcases p.isScheme with hs | ⟨c, ds, hs, hc, hall, -⟩
  · rw [hs, if_pos rfl, Place.body]
    have hl : isAsciiLetter '/' = false := by decide
    simp only [cutScheme, cutFirst?, if_neg (show '/' ≠ ':' by decide)]
    cases cutFirst? ':' ((l.text ++ '@' :: p.authority) ++ p.rest) with
    | none => rfl
    | some q => simp [hl]
  · rw [hs] at hall
    have hm : ':' ∉ c :: ds := fun hm => (isSchemeChar_spec (List.all_eq_true.mp hall _ hm)).2.1 rfl
    have hds : (ds.all fun d => isAsciiLetter d || isAsciiDigit d || d == '+' || d == '-' ||
        d == '.') = true := by
      rw [List.all_cons, Bool.and_eq_true] at hall
      exact hall.2
    have hne : p.scheme ≠ [] := by simp [hs]
    rw [if_neg hne, hs, cutScheme, cutFirst?_append hm]
    simp only [hc, hds, Bool.and_self, if_true]

theorem opens_cutOptional {c : Char} {rest : List Char} (h : Opens rest) :
    Opens (cutOptional c rest).1 := by
  rw [cutOptional]
  split
  · next before after hc =>
      have he := eq_of_cutFirst? hc
      cases before with
      | nil => exact .inl rfl
      | cons b bs =>
          rcases h with h | ⟨d, ds, h, hd⟩
          · rw [h] at he
            cases he
          · rw [h, List.cons_append, List.cons.injEq] at he
            exact .inr ⟨b, bs, rfl, by rw [← he.1]; exact hd⟩
  · exact h

theorem not_mem_cutOptional (c : Char) (cs : List Char) : c ∉ (cutOptional c cs).1 := by
  rw [cutOptional]
  split
  · next h => exact not_mem_of_cutFirst? h
  · next h => exact not_mem_of_cutFirst?_eq_none h

theorem cutOptional_subset (c : Char) (cs : List Char) : (cutOptional c cs).1 ⊆ cs := by
  rw [cutOptional]
  split
  · next h =>
      rw [eq_of_cutFirst? h]
      exact List.subset_append_left _ _
  · exact List.Subset.refl cs

def pathOf (p : Place) : List Char := (cutOptional '?' (cutOptional '#' p.rest).1).1

theorem pathOf_spec (p : Place) : pathOf p = [] ∨ ∃ cs, pathOf p = '/' :: cs := by
  have ho := opens_cutOptional (c := '?') (opens_cutOptional (c := '#') p.opens)
  rcases ho with h | ⟨c, cs, h, hc⟩
  · exact .inl h
  · have hmem : c ∈ (cutOptional '?' (cutOptional '#' p.rest).1).1 := by simp [h]
    have hq : c ≠ '?' := by
      rintro rfl
      exact not_mem_cutOptional '?' _ hmem
    have hf : c ≠ '#' := by
      rintro rfl
      exact not_mem_cutOptional '#' p.rest (cutOptional_subset '?' _ hmem)
    have hslash : c = '/' := by simpa [endsAuthority, hq, hf] using hc
    exact .inr ⟨cs, by rw [pathOf, h, hslash]⟩

def partsOf (p : Place) : UrlParts :=
  let host := cutHost (hostPart p.authority)
  ⟨p.scheme, [], host.1, host.2, pathOf p, (cutOptional '?' (cutOptional '#' p.rest).1).2,
    (cutOptional '#' p.rest).2⟩

theorem cutUser_login (authority : List Char) :
    ∃ tail, ∀ l : Login,
      cutUser (l.text ++ '@' :: authority) = (l.text ++ tail, hostPart authority) := by
  cases h : cutLast? '@' authority with
  | none => exact ⟨[], fun l => by simp [cutUser, cutLast?_append_cons, hostPart, h]⟩
  | some p => exact ⟨'@' :: p.1, fun l => by simp [cutUser, cutLast?_append_cons, hostPart, h]⟩

theorem ofText_dress (p : Place) :
    ∃ tail, ∀ l, UrlParts.ofText (p.dress l) = (partsOf p).withUser (l.text ++ tail) := by
  obtain ⟨tail, htail⟩ := cutUser_login p.authority
  refine ⟨tail, fun l => ?_⟩
  have hu := p.user_chars l
  have hmem (c : Char) (hc : ¬IsHostChar c) (hs : c ≠ '/') :
      c ∉ '/' :: '/' :: (l.text ++ '@' :: p.authority) := by
    rw [List.mem_cons, List.mem_cons, not_or, not_or]
    exact ⟨hs, hs, hu.not_mem hc⟩
  have hf : cutOptional '#' (p.body l) = ('/' :: '/' :: ((l.text ++ '@' :: p.authority) ++
      (cutOptional '#' p.rest).1), (cutOptional '#' p.rest).2) :=
    cutOptional_append (hmem '#' (by decide) (by decide)) p.rest
  have hq : cutOptional '?' ('/' :: '/' :: ((l.text ++ '@' :: p.authority) ++
      (cutOptional '#' p.rest).1)) = ('/' :: '/' :: ((l.text ++ '@' :: p.authority) ++ pathOf p),
        (cutOptional '?' (cutOptional '#' p.rest).1).2) :=
    cutOptional_append (hmem '?' (by decide) (by decide)) (cutOptional '#' p.rest).1
  have hw : Within (fun c => decide (c ≠ '/') = true) (l.text ++ '@' :: p.authority) := by
    refine hu.mono fun c hc => ?_
    rw [decide_eq_true_eq]
    rintro rfl
    exact absurd hc (by decide)
  have hw := takeWhile_append_opens hw
    ((pathOf_spec p).imp id fun ⟨cs, h⟩ => ⟨'/', cs, h, by decide⟩)
  have ha : cutAuthority ('/' :: '/' :: ((l.text ++ '@' :: p.authority) ++ pathOf p)) =
      (l.text ++ '@' :: p.authority, pathOf p) := by
    rw [cutAuthority, hw.1, hw.2]
  simp only [UrlParts.ofText, cutScheme_dress, hf, hq, ha, htail]
  rfl

theorem within_hostPart {P : Char → Prop} {authority : List Char} (h : Within P authority) :
    Within P (hostPart authority) :=
  h.of_subset (hostPart_subset authority)

theorem within_cutBrackets {P : Char → Prop} (ho : P '[') (hc : P ']') {cs : List Char}
    (h : Within P cs) {cut : List Char × List Char} (hb : cutBrackets? cs = some cut) :
    Within P cut.1 := by
  unfold cutBrackets? at hb
  split at hb
  · next rest =>
      obtain ⟨p, hp, rfl⟩ := Option.map_eq_some_iff.mp hb
      have hr := ((within_cons.mp h).2.of_cutLast? hp).1
      rw [within_append, within_cons]
      exact ⟨⟨ho, hr⟩, within_cons.mpr ⟨hc, within_nil⟩⟩
  · cases hb

theorem within_cutHost {P : Char → Prop} (ho : P '[') (hc : P ']') {cs : List Char}
    (h : Within P cs) : Within P (cutHost cs).1 := by
  simp only [cutHost]
  cases hb : cutBrackets? cs with
  | none => exact h.takeWhile _
  | some cut =>
      have hw := within_cutBrackets ho hc h hb
      exact hw

/-- How the client reads a place: the same scheme, and the host and the port behind the user. -/
structure Reads (p : Place) (u : Url) : Prop where
  sound : u.Sound
  scheme : u.scheme = p.scheme
  host : hostOf (cutHost (hostPart p.authority)).1 = .ok u.host
  port : portOf p.scheme (cutHost (hostPart p.authority)).2 = .ok u.port

theorem checkText_of_plain {cs : List Char} (h : Within IsPlain cs) (component : String) :
    checkText component cs = if maxLength < cs.length then .error .tooLong else .ok () := by
  have hu (n : Nat) : unprintable? n cs = none := by
    induction cs generalizing n with
    | nil => rfl
    | cons c cs ih =>
        rw [within_cons] at h
        have hc : ¬(c.toNat < 0x20 ∨ c.toNat = 0x7F) := by
          have hp := h.1
          rw [IsPlain] at hp
          omega
        rw [unprintable?, if_neg hc]
        exact ih h.2 (n + 1)
  rw [checkText, hu]

/-- What the client makes of a URL does not depend on its login, as long as it is short enough. -/
theorem parse_dress (p : Place) :
    ∃ (tail : List Char) (r : Except UrlError Url), (∀ u, r = .ok u → Reads p u) ∧
      ∀ l, Url.parse (p.dress l) =
        if maxLength < (p.dress l).length then .error .tooLong
        else r.map (·.withUser (readLogin l tail).text) := by
  obtain ⟨tail, htail⟩ := ofText_dress p
  refine ⟨tail, (partsOf p).read, fun u hu => ?_, fun l => ?_⟩
  · obtain ⟨hh, hp, -, hs⟩ := read_spec hu
    have hw : Within IsHostChar (partsOf p).host :=
      within_cutHost (by decide) (by decide) (within_hostPart p.authority_chars)
    obtain ⟨hscheme, hsound⟩ := hs p.isScheme hw
    exact ⟨hsound, hscheme, hh, hp⟩
  · rw [Url.parse, checkText_of_plain (p.dress_plain l), htail, make_login]
    split <;> rfl

end SqlCluster.Http
