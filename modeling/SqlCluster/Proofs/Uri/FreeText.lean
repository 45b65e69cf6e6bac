import SqlCluster.Proofs.Uri.Mask
import SqlCluster.Proofs.Uri.Together
/-!
URLs with a user in free text. A text can be masked piece by piece, cut in front of each opening of
a URL. Of a password all up to its first at-sign is masked, wherever the URL stands, and the rest is
shown, although the URL by itself is taken apart, and masked, at its last at-sign.
-/
namespace SqlCluster.Uri

open Text

theorem after?_append_cons {opening : List Char} {d : Char} (h : d ∉ opening) (cs ds : List Char) :
    after? opening (cs ++ d :: ds) = (after? opening cs).map (· ++ d :: ds) := by
  induction opening generalizing cs with
  | nil => cases cs <;> rfl
  | cons o opening ih =>
      rw [List.mem_cons, not_or] at h
      cases cs with
      | nil => exact if_neg fun ho => h.1 ho.symm
      | cons c cs =>
          rw [List.cons_append, after?, after?, ih h.2]
          split <;> rfl

/-- The name in the login that the text opens with, and what stands behind the login. -/
def login? (cs : List Char) : Option (List Char × List Char) :=
  (after? "://".toList cs).bind secretAfterSlashes?

theorem login?_eq_some {cs name more : List Char} :
    login? cs = some (name, more) ↔ ∃ secret, Within (isNameChar · = true) name ∧
      Within (isSecretChar · = true) secret ∧
        cs = "://".toList ++ (name ++ ':' :: (secret ++ '@' :: more)) := by
  rw [login?, Option.bind_eq_some_iff]
  constructor
  · rintro ⟨rest, ha, hs⟩
    obtain ⟨secret, hn, hc, rfl⟩ := secretAfterSlashes?_eq_some.mp hs
    exact ⟨secret, hn, hc, eq_of_after ha⟩
  · rintro ⟨secret, hn, hc, rfl⟩
    exact ⟨_, after?_append _ _, secretAfterSlashes?_eq_some.mpr ⟨secret, hn, hc, rfl⟩⟩

theorem login?_cons (c : Char) (cs : List Char) :
    login? (c :: cs) =
      if ':' = c then (after? ['/', '/'] cs).bind secretAfterSlashes? else none := by
  have ha : after? "://".toList (c :: cs) = if ':' = c then after? ['/', '/'] cs else none := rfl
  rw [login?, ha]
  split <;> rfl

theorem login?_of_head {c : Char} {cs : List Char} (h : cs.head? ≠ some '/') :
    login? (c :: cs) = none := by
  have ha : after? ['/', '/'] cs = none := by
    cases cs with
    | nil => rfl
    | cons d ds => exact if_neg fun he => h (by rw [← he, List.head?_cons])
  rw [login?_cons, ha]
  exact ite_self none

theorem exists_of_append_eq {cs ds more zs : List Char} (hs : '/' ∉ ds)
    (h : cs ++ ':' :: '/' :: zs = ds ++ '@' :: more) : ∃ bs, cs = ds ++ '@' :: bs := by
  rcases List.append_eq_append_iff.mp h with ⟨as, rfl, ha⟩ | ⟨bs, rfl, hb⟩
  · rcases List.cons_eq_append_iff.mp ha with ⟨-, hne⟩ | ⟨as, rfl, hslash⟩
    · simp at hne
    · rcases List.cons_eq_append_iff.mp hslash with ⟨-, hne⟩ | ⟨as, rfl, -⟩
      · simp at hne
      · exact absurd (by simp) hs
  · rcases List.cons_eq_append_iff.mp hb with ⟨-, hne⟩ | ⟨bs, rfl, -⟩
    · simp at hne
    · exact ⟨bs, rfl⟩

theorem secretAfterSlashes?_append (cs zs : List Char) :
    secretAfterSlashes? (cs ++ ':' :: '/' :: zs) =
      (secretAfterSlashes? cs).map fun p => (p.1, p.2 ++ ':' :: '/' :: zs) := by
  cases h : secretAfterSlashes? cs with
  | some p =>
      obtain ⟨secret, hn, hs, rfl⟩ := secretAfterSlashes?_eq_some.mp h
      exact secretAfterSlashes?_eq_some.mpr ⟨secret, hn, hs, by simp⟩
  | none =>
      rw [Option.map_none, Option.eq_none_iff_forall_ne_some]
      rintro ⟨name, more⟩ hm
      obtain ⟨secret, hn, hs, he⟩ := secretAfterSlashes?_eq_some.mp hm
      have hslash : '/' ∉ name ++ ':' :: secret := by
        rw [List.mem_append, List.mem_cons, not_or, not_or]
        exact ⟨hn.not_mem (by decide), by decide, hs.not_mem (by decide)⟩
      have hat : cs ++ ':' :: '/' :: zs = (name ++ ':' :: secret) ++ '@' :: more := by
        rw [he, List.append_assoc, List.cons_append]
      obtain ⟨bs, hcs⟩ := exists_of_append_eq hslash hat
      rw [List.append_assoc, List.cons_append] at hcs
      have hsome := secretAfterSlashes?_eq_some.mpr ⟨secret, hn, hs, hcs⟩
      rw [h] at hsome
      cases hsome

theorem login?_append (c : Char) (cs zs : List Char) :
    login? (c :: cs ++ ':' :: '/' :: zs) =
      (login? (c :: cs)).map fun p => (p.1, p.2 ++ ':' :: '/' :: zs) := by
  rw [List.cons_append, login?_cons, login?_cons, after?_append_cons (by decide)]
  split
  · cases after? ['/', '/'] cs with
    | none => rfl
    | some rest => exact secretAfterSlashes?_append rest zs
  · rfl

theorem redactFrom_eq_redactText {n : Nat} {cs : List Char} (h : cs.length ≤ n) :
    redactFrom n cs = redactText cs :=
  redactFrom_masked h (Nat.le_refl _) (.refl cs)

theorem redactText_of_none {c : Char} {cs : List Char} (h : login? (c :: cs) = none) :
    redactText (c :: cs) = c :: redactText cs := by
  rw [redactText, List.length_cons, redactFrom]
  cases ha : after? "://".toList (c :: cs) with
  | none => rfl
  | some rest =>
      rw [login?, ha, Option.bind_some] at h
      simp only [h]
      rfl

theorem redactText_of_some {cs name more : List Char} (h : login? cs = some (name, more)) :
    redactText cs = "://".toList ++ (name ++ ':' :: (mask ++ '@' :: redactText more)) := by
  obtain ⟨rest, ha, hs⟩ := Option.bind_eq_some_iff.mp h
  have hrest := eq_of_after ha
  have hlen := length_of_secretAfterSlashes hs
  subst hrest
  have hmore : redactFrom ('/' :: '/' :: rest).length more = redactText more :=
    redactFrom_eq_redactText (by simp only [List.length_cons]; omega)
  have hcons : "://".toList ++ rest = ':' :: '/' :: '/' :: rest := rfl
  rw [hcons] at ha ⊢
  rw [redactText, List.length_cons, redactFrom, ha]
  simp only [hs, hmore, List.append_assoc, List.cons_append]

/-- What opens a URL closes all that stands in front of it. -/
theorem redactText_append (xs ys : List Char) :
    redactText (xs ++ ':' :: '/' :: '/' :: ys) =
      redactText xs ++ redactText (':' :: '/' :: '/' :: ys) := by
  induction hn : xs.length using Nat.strong_induction_on generalizing xs with
  | _ n ih =>
      subst hn
      cases xs with
      | nil => rfl
      | cons c cs =>
          have hlogin := login?_append c cs ('/' :: ys)
          cases h : login? (c :: cs) with
          | none =>
              rw [h, Option.map_none] at hlogin
              have hrest := ih cs.length (by simp) cs rfl
              rw [List.cons_append] at hlogin
              rw [redactText_of_none h, List.cons_append, redactText_of_none hlogin, hrest,
                List.cons_append]
          | some p =>
              rw [h, Option.map_some] at hlogin
              obtain ⟨secret, -, -, hp⟩ := login?_eq_some.mp h
              have hlt : p.2.length < (c :: cs).length := by
                rw [hp]
                simp only [List.length_append, List.length_cons]
                omega
              have hrest := ih p.2.length hlt p.2 rfl
              rw [redactText_of_some h, redactText_of_some hlogin, hrest]
              simp only [List.append_assoc, List.cons_append]

theorem redactText_append_atSign {xs : List Char} (h : '/' ∉ xs) (ys : List Char) :
    redactText (xs ++ '@' :: ys) = xs ++ '@' :: redactText ys := by
  induction xs with
  | nil => exact redactText_of_none (by simp [login?, after?])
  | cons x xs ih =>
      rw [List.mem_cons, not_or] at h
      have hhead : (xs ++ '@' :: ys).head? ≠ some '/' := by
        cases xs with
        | nil => simp
        | cons d ds => simpa using fun he => h.2 (by simp [he])
      rw [List.cons_append, redactText_of_none (login?_of_head hhead), ih h.2, List.cons_append]

theorem redactText_of_not_mem {xs : List Char} (h : '/' ∉ xs) : redactText xs = xs := by
  induction xs with
  | nil => rfl
  | cons x xs ih =>
      rw [List.mem_cons, not_or] at h
      have hhead : xs.head? ≠ some '/' := fun he => h.2 (List.mem_of_mem_head? he)
      rw [redactText_of_none (login?_of_head hhead), ih h.2]

/-- A password as it may stand in a URL, with colons and at-signs that are not escaped. -/
structure Password where
  chars : List Char
  ne : chars ≠ []
  within : Within (fun c => isBlank c = false ∧ endsAuthority c = false) chars

namespace Password

/-- What free text shows of a password: all behind its first at-sign, with the at-sign that closes
it. -/
def shown (v : Password) : List Char := (cutFirst? '@' v.chars).elim [] fun p => p.2 ++ ['@']

variable (v : Password)

theorem shown_eq_nil : v.shown = [] ↔ '@' ∉ v.chars := by
  rw [shown]
  cases h : cutFirst? '@' v.chars with
  | none => exact iff_of_true rfl (not_mem_of_cutFirst?_eq_none h)
  | some p =>
      refine iff_of_false (by simp) ?_
      rw [eq_of_cutFirst? h]
      simp

theorem slash_not_mem : '/' ∉ v.chars := v.within.not_mem (by decide)

theorem isSecretChar_of_mem {c : Char} (hc : c ∈ v.chars) (hat : c ≠ '@') :
    isSecretChar c = true := by
  have hslash : c ≠ '/' := by
    rintro rfl
    exact v.slash_not_mem hc
  simp [isSecretChar, hat, hslash, (v.within c hc).1]

theorem redactText_login {name : List Char} (hn : Within (isNameChar · = true) name)
    (rest : List Char) :
    redactText ("://".toList ++ (name ++ ':' :: (v.chars ++ '@' :: rest))) =
      "://".toList ++ (name ++ ':' :: (mask ++ '@' :: (v.shown ++ redactText rest))) := by
  cases h : cutFirst? '@' v.chars with
  | none =>
      have hat := not_mem_of_cutFirst?_eq_none h
      have hs : Within (isSecretChar · = true) v.chars := fun c hc =>
        v.isSecretChar_of_mem hc fun he => hat (he ▸ hc)
      rw [redactText_of_some (login?_eq_some.mpr ⟨v.chars, hn, hs, rfl⟩), v.shown_eq_nil.mpr hat,
        List.nil_append]
  | some p =>
      obtain ⟨before, behind⟩ := p
      have hv := eq_of_cutFirst? h
      have hat := not_mem_of_cutFirst? h
      have hs : Within (isSecretChar · = true) before := fun c hc =>
        v.isSecretChar_of_mem (by simp [hv, hc]) fun he => hat (he ▸ hc)
      have hslash : '/' ∉ behind := fun hm => v.slash_not_mem (by simp [hv, hm])
      have hlogin : login? ("://".toList ++ (name ++ ':' :: (v.chars ++ '@' :: rest))) =
          some (name, behind ++ '@' :: rest) :=
        login?_eq_some.mpr ⟨before, hn, hs, by simp [hv]⟩
      rw [redactText_of_some hlogin, redactText_append_atSign hslash, shown, h]
      simp

end Password

/-- A URL with a user's name at a host, to which a port may belong. The password is left out. -/
structure UserUrl where
  scheme : List Char
  name : List Char
  host : List Char
  isScheme : IsScheme scheme
  scheme_ne : scheme ≠ []
  name_chars : Within (isNameChar · = true) name
  host_chars : Within (fun c => isSecretChar c = true ∧ endsAuthority c = false) host

namespace UserUrl

variable (u : UserUrl) (v : Password)

def authority (secret : List Char) : List Char := (u.name ++ ':' :: secret) ++ '@' :: u.host

def withPassword (secret : List Char) : List Char :=
  u.scheme ++ ':' :: '/' :: '/' :: u.authority secret

/-- A text with the URL in it, masked, in which `rest` is shown of the password. -/
def maskedIn (before behind rest : List Char) : List Char :=
  redactText (before ++ u.scheme) ++
    "://".toList ++ (u.name ++ ':' :: (mask ++ '@' :: (rest ++ redactText (u.host ++ behind))))

variable {u} in
theorem maskedIn_inj {before behind rest other : List Char} :
    u.maskedIn before behind rest = u.maskedIn before behind other ↔ rest = other := by
  simp [maskedIn]

theorem redactText_withPassword (before behind : List Char) :
    redactText (before ++ u.withPassword v.chars ++ behind) = u.maskedIn before behind v.shown := by
  have hurl : before ++ u.withPassword v.chars ++ behind = (before ++ u.scheme) ++
      ':' :: '/' :: '/' :: (u.name ++ ':' :: (v.chars ++ '@' :: (u.host ++ behind))) := by
    simp [withPassword, authority]
  have hlogin := v.redactText_login u.name_chars (u.host ++ behind)
  rw [hurl, redactText_append, maskedIn, List.append_assoc]
  exact congrArg _ hlogin

/-- Wherever a URL with a user stands in a text, its password is masked up to the first at-sign in
it and shown from there on. Two passwords come out the same just if the same is shown of both, and a
password is masked as a whole just if it holds no at-sign. -/
theorem shown_in_text (before behind : List Char) :
    redactText (before ++ u.withPassword v.chars ++ behind) = u.maskedIn before behind v.shown ∧
      (∀ w : Password, redactText (before ++ u.withPassword v.chars ++ behind) =
        redactText (before ++ u.withPassword w.chars ++ behind) ↔ v.shown = w.shown) ∧
      (redactText (before ++ u.withPassword v.chars ++ behind) = u.maskedIn before behind [] ↔
        '@' ∉ v.chars) := by
  refine ⟨u.redactText_withPassword v before behind, fun w => ?_, ?_⟩
  · rw [redactText_withPassword, redactText_withPassword, maskedIn_inj]
  · rw [redactText_withPassword, maskedIn_inj, v.shown_eq_nil]

/-- `http://u:…@h` -/
def minimalUserUrl : UserUrl where
  scheme := "http".toList
  name := "u".toList
  host := "h".toList
  isScheme := .inr ⟨'h', "ttp".toList, rfl, by decide, by decide, by decide⟩
  scheme_ne := by decide
  name_chars := by decide
  host_chars := by decide

theorem minimalUserUrl_not_masked : ¬∀ v w : Password,
    redactText (minimalUserUrl.withPassword v.chars) =
      redactText (minimalUserUrl.withPassword w.chars) := by
  intro h
  have hsame := h ⟨"p@ss".toList, by decide, by decide⟩ ⟨"secret".toList, by decide, by decide⟩
  exact absurd hsame (by decide)

def parts (secret : List Char) : Parts := ⟨u.scheme, u.authority secret, [], [], []⟩

theorem authority_ne (secret : List Char) : (u.parts secret).authority ≠ [] := by
  simp [parts, authority]

theorem text_parts (secret : List Char) : (u.parts secret).text = u.withPassword secret := by
  rw [Parts.text_of_authority (u.authority_ne secret)]
  simp [parts, u.scheme_ne, withPassword, Parts.rest, Parts.rooted, marked]

theorem split_withPassword {secret : List Char} (hs : (u.parts secret).Sound) :
    split (u.withPassword secret) = .ok (u.parts secret) := by
  rw [← text_parts]
  exact hs.split_text (u.authority_ne secret)

theorem cutLast_authority (secret : List Char) :
    cutLast? '@' (u.authority secret) = some (u.name ++ ':' :: secret, u.host) :=
  cutLast?_append (u.host_chars.not_mem (by decide))

theorem userinfo_parts (secret : List Char) :
    (u.parts secret).userinfo = some (u.name ++ ':' :: secret) := by
  rw [Parts.userinfo, parts, cutLast_authority, Option.map_some]

theorem cutFirst_userinfo (secret : List Char) :
    cutFirst? ':' (u.name ++ ':' :: secret) = some (u.name, secret) :=
  cutFirst?_append (u.name_chars.not_mem (by decide))

theorem password_parts (secret : List Char) : (u.parts secret).password = some secret := by
  rw [Parts.password, userinfo_parts, Option.bind_some, cutFirst_userinfo, Option.map_some]

theorem username_parts (secret : List Char) : (u.parts secret).username = some u.name := by
  rw [Parts.username, userinfo_parts, Option.map_some, cutAt, cutFirst_userinfo, Option.getD_some]

theorem redact_withPassword {secret : List Char} (hs : (u.parts secret).Sound) :
    redact (u.withPassword secret) = u.withPassword mask := by
  have hne : ¬((u.parts secret).scheme = [] ∨ (u.parts secret).authority = []) :=
    not_or.mpr ⟨u.scheme_ne, u.authority_ne secret⟩
  have hhost : hostPart (u.parts secret).authority = u.host := by
    rw [hostPart, parts, cutLast_authority]
  rw [redact, u.split_withPassword hs]
  simp only [if_neg hne, password_parts, username_parts, hhost, Option.getD_some]
  exact u.text_parts mask

/-- A URL that can be taken apart is read with its whole password, and masked as a URL it shows
nothing of it. As free text it comes out the same just if the password holds no at-sign. -/
theorem redactText_eq_redact_iff (hs : (u.parts v.chars).Sound) :
    (split (u.withPassword v.chars)).map Parts.password = .ok (some v.chars) ∧
      redact (u.withPassword v.chars) = u.withPassword mask ∧
      (redactText (u.withPassword v.chars) = redact (u.withPassword v.chars) ↔ '@' ∉ v.chars) := by
  have hscheme : '/' ∉ u.scheme := u.isScheme.chars.not_mem (by decide)
  have hhost : '/' ∉ u.host := u.host_chars.not_mem (by decide)
  have hmasked : u.withPassword mask = u.maskedIn [] [] [] := by
    simp [maskedIn, withPassword, authority, redactText_of_not_mem hscheme,
      redactText_of_not_mem hhost]
  have htext := u.redactText_withPassword v [] []
  rw [List.nil_append, List.append_nil] at htext
  refine ⟨?_, u.redact_withPassword hs, ?_⟩
  · rw [u.split_withPassword hs, Except.map, password_parts]
  · rw [htext, u.redact_withPassword hs, hmasked, maskedIn_inj, v.shown_eq_nil]

example : redact "http://u:p@ss@h".toList = "http://u:xxxxx@h".toList ∧
    redactText "http://u:p@ss@h".toList = "http://u:xxxxx@ss@h".toList := by decide

end UserUrl

end SqlCluster.Uri
