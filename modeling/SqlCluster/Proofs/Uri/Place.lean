import SqlCluster.Proofs.Uri.Login
import SqlCluster.Uri.Join
/-!
URLs with a login left open. Taking such a URL apart and putting it together come out the same
whatever the login is.
-/
namespace SqlCluster.Uri

open Text

def IsScheme (cs : List Char) : Prop :=
  cs = [] ∨ ∃ c ds, cs = c :: ds ∧ isAsciiLetter c = true ∧ cs.all isSchemeChar = true ∧
    asciiLower cs = cs

def IsHostChar (c : Char) : Prop := IsPlain c ∧ endsAuthority c = false

instance (c : Char) : Decidable (IsHostChar c) := inferInstanceAs (Decidable (_ ∧ _))

def Opens (rest : List Char) : Prop := rest = [] ∨ ∃ c ds, rest = c :: ds ∧ endsAuthority c = true

/-- A URL with a host, from which its login is left out. -/
structure Place where
  scheme : List Char
  authority : List Char
  rest : List Char
  isScheme : IsScheme scheme
  authority_chars : Within IsHostChar authority
  rest_chars : Within IsPlain rest
  opens : Opens rest

namespace Place

def body (p : Place) (l : Login) : List Char :=
  '/' :: '/' :: ((l.text ++ '@' :: p.authority) ++ p.rest)

def dress (p : Place) (l : Login) : List Char :=
  if p.scheme = [] then p.body l else p.scheme ++ ':' :: p.body l

def query (p : Place) : List Char × List Char := cutAt '?' (cutAt '#' p.rest).1

def parts (p : Place) : Parts :=
  ⟨p.scheme, p.authority, p.query.1, p.query.2, (cutAt '#' p.rest).2⟩

end Place

def Parts.withUser (p : Parts) (user : List Char) : Parts :=
  { p with authority := user ++ '@' :: p.authority }

theorem isSchemeChar_spec {c : Char} (h : isSchemeChar c = true) :
    IsPlain c ∧ c ≠ ':' ∧ isSchemeChar (asciiLowerChar c) = true := by
  have hc : c.toNat < 128 := by
    simp only [isSchemeChar, Bool.or_eq_true, beq_iff_eq] at h
    rcases h with (((h | h) | rfl) | rfl) | rfl
    · exact lt_of_isAsciiLetter h
    · exact lt_of_isAsciiDigit h
    all_goals decide
  exact of_ascii (P := fun c => isSchemeChar c = true →
    IsPlain c ∧ c ≠ ':' ∧ isSchemeChar (asciiLowerChar c) = true) (by decide +kernel) hc h

theorem isAsciiLetter_asciiLowerChar {c : Char} (h : isAsciiLetter c = true) :
    isAsciiLetter (asciiLowerChar c) = true :=
  of_ascii (P := fun c => isAsciiLetter c = true → isAsciiLetter (asciiLowerChar c) = true)
    (by decide +kernel) (lt_of_isAsciiLetter h) h

theorem IsScheme.chars {cs : List Char} (h : IsScheme cs) : Within (isSchemeChar · = true) cs := by
  rcases h with rfl | ⟨c, ds, rfl, -, h, -⟩
  · exact within_nil
  · intro d hd
    exact List.all_eq_true.mp h d hd

theorem IsScheme.plain {cs : List Char} (h : IsScheme cs) : Within IsPlain cs :=
  h.chars.mono fun _ hc => (isSchemeChar_spec hc).1

theorem isScheme_asciiLower {c : Char} {ds : List Char} (hc : isAsciiLetter c = true)
    (hs : (c :: ds).all isSchemeChar = true) : IsScheme (asciiLower (c :: ds)) := by
  refine .inr ⟨asciiLowerChar c, asciiLower ds, rfl, isAsciiLetter_asciiLowerChar hc, ?_,
    asciiLower_idem _⟩
  rw [List.all_eq_true] at hs ⊢
  intro d hd
  obtain ⟨e, he, rfl⟩ := List.mem_map.mp hd
  exact (isSchemeChar_spec (hs e he)).2.2

theorem cutScheme_slash (cs : List Char) : cutScheme ('/' :: cs) = ([], '/' :: cs) := by
  have hl : isAsciiLetter '/' = false := by decide
  simp only [cutScheme, cutFirst?, if_neg (show '/' ≠ ':' by decide)]
  cases cutFirst? ':' cs with
  | none => rfl
  | some p => simp [hl]

theorem cutScheme_append {scheme : List Char} (h : IsScheme scheme) (hne : scheme ≠ [])
    (rest : List Char) : cutScheme (scheme ++ ':' :: rest) = (scheme, rest) := by
  rcases h with rfl | ⟨c, ds, rfl, hc, hs, hl⟩
  · exact absurd rfl hne
  · have hm : ':' ∉ c :: ds := fun hm => (isSchemeChar_spec (List.all_eq_true.mp hs _ hm)).2.1 rfl
    rw [cutScheme, cutFirst?_append hm]
    simp only [hc, hs, Bool.and_self, if_true, hl]

theorem isScheme_cutScheme (cs : List Char) : IsScheme (cutScheme cs).1 := by
  simp only [cutScheme]
  split
  · next c before rest h =>
      split
      · next hb =>
          rw [Bool.and_eq_true] at hb
          exact isScheme_asciiLower hb.1 hb.2
      · exact .inl rfl
  · exact .inl rfl

theorem not_mem_cutAt (c : Char) (cs : List Char) : c ∉ (cutAt c cs).1 := by
  rw [cutAt]
  cases h : cutFirst? c cs with
  | none => exact not_mem_of_cutFirst?_eq_none h
  | some p => exact not_mem_of_cutFirst? h

theorem cutAuthority_append {authority rest : List Char}
    (ha : Within (endsAuthority · = false) authority) (hr : Opens rest) :
    cutAuthority ('/' :: '/' :: (authority ++ rest)) = (authority, rest) := by
  have h := takeWhile_append_opens (f := fun c => !endsAuthority c)
    (ha.mono fun c hc => by simp [hc]) (hr.imp id fun ⟨c, ds, hd, hc⟩ => ⟨c, ds, hd, by simp [hc]⟩)
  rw [cutAuthority, h.1, h.2]

theorem cleaned_of_plain {cs : List Char} (h : Within IsPlain cs) (hs : cs.head? ≠ some ' ') :
    cleaned cs = cs := by
  have hd : cs.dropWhile isControlOrSpace = cs := by
    cases cs with
    | nil => rfl
    | cons c cs =>
        rw [within_cons] at h
        have hc : isControlOrSpace c = false := by
          refine IsPlain.of_ascii (P := fun c => c ≠ ' ' → isControlOrSpace c = false)
            (by decide +kernel) h.1 ?_
          rintro rfl
          exact hs rfl
        simp [hc]
  rw [cleaned, hd, List.filter_eq_self]
  intro c hc
  exact IsPlain.of_ascii (P := fun c => (!isLineBreak c) = true) (by decide +kernel) (h c hc)

theorem hostPart_withUser (user authority : List Char) :
    hostPart (user ++ '@' :: authority) = hostPart authority := by
  cases h : cutLast? '@' authority <;> simp [hostPart, cutLast?_append_cons, h]

theorem hostPart_subset (authority : List Char) : hostPart authority ⊆ authority := by
  have h : Within (· ∈ authority) authority := fun _ hc => hc
  rw [hostPart]
  split
  · next hc => exact (h.of_cutLast? hc).2
  · exact h

theorem checkBrackets_behind {user : List Char} (hu : Within (isLoginChar · = true) user)
    (authority : List Char) :
    checkBrackets (user ++ '@' :: authority) = checkBrackets authority := by
  have hc (c : Char) (hl : isLoginChar c = false) (ha : c ≠ '@') :
      (user ++ '@' :: authority).contains c = authority.contains c := by
    have hm : c ∉ user := hu.not_mem (by simp [hl])
    rw [Bool.eq_iff_iff, List.contains_iff_mem, List.contains_iff_mem, List.mem_append,
      List.mem_cons]
    exact ⟨fun h => h.elim (absurd · hm) fun h => h.elim (absurd · ha) id, fun h => .inr (.inr h)⟩
  rw [checkBrackets, checkBrackets, hc '[' (by decide) (by decide),
    hc ']' (by decide) (by decide), hostPart_withUser]

theorem checkBrackets_withUser (l : Login) (authority : List Char) :
    checkBrackets (l.text ++ '@' :: authority) = checkBrackets authority :=
  checkBrackets_behind l.text_chars authority

theorem checkDisguised_eq_ok {authority : List Char} : checkDisguised authority = .ok () ↔
    Within (fun c => disguised.contains c.toNat = false) authority := by
  rw [checkDisguised]
  split
  · next h =>
      obtain ⟨c, hc, hd⟩ := List.any_eq_true.mp h
      refine iff_of_false (fun he => by cases he) fun hw => ?_
      rw [hw c hc] at hd
      cases hd
  · next h =>
      refine iff_of_true rfl fun c hc => ?_
      rw [List.any_eq_true, not_exists] at h
      simpa [hc] using h c

theorem checkDisguised_of_plain {authority : List Char} (h : Within IsPlain authority) :
    checkDisguised authority = .ok () :=
  checkDisguised_eq_ok.mpr <| h.mono fun _ hc =>
    IsPlain.of_ascii (P := fun c => disguised.contains c.toNat = false) (by decide +kernel) hc

def cutParts (cs : List Char) : Parts :=
  let s := cutScheme (cleaned cs)
  let a := cutAuthority s.2
  let f := cutAt '#' a.2
  let q := cutAt '?' f.1
  ⟨s.1, a.1, q.1, q.2, f.2⟩

theorem split_eq_ok {cs : List Char} {p : Parts} : split cs = .ok p ↔
    cutParts cs = p ∧ checkBrackets p.authority = .ok () ∧ checkDisguised p.authority = .ok () := by
  constructor
  · intro h
    simp only [split, bind, Except.bind] at h
    split at h
    · cases h
    · next hb =>
        split at h
        · cases h
        · next hd =>
            cases h
            exact ⟨rfl, hb, hd⟩
  · rintro ⟨rfl, hb, hd⟩
    simp only [cutParts] at hb hd
    simp only [split, hb, hd, bind, Except.bind, pure, Except.pure, cutParts]

namespace Place

theorem authority_plain (p : Place) : Within IsPlain p.authority :=
  p.authority_chars.mono fun _ h => h.1

theorem user_chars (p : Place) (l : Login) :
    Within IsHostChar (l.text ++ '@' :: p.authority) := by
  rw [within_append, within_cons]
  exact ⟨l.text_chars.mono fun _ h => ⟨(isLoginChar_spec h).1, (isLoginChar_spec h).2.1⟩,
    by decide, p.authority_chars⟩

theorem body_plain (p : Place) (l : Login) : Within IsPlain (p.body l) := by
  rw [body, within_cons, within_cons, within_append]
  exact ⟨by decide, by decide, (p.user_chars l).mono fun _ h => h.1, p.rest_chars⟩

theorem dress_plain (p : Place) (l : Login) : Within IsPlain (p.dress l) := by
  rw [dress]
  split
  · exact p.body_plain l
  · rw [within_append, within_cons]
    exact ⟨p.isScheme.plain, by decide, p.body_plain l⟩

theorem length_lt_dress (p : Place) (l : Login) : l.text.length < (p.dress l).length := by
  rw [dress]
  split <;> simp [body] <;> omega

theorem dress_ne_nil (p : Place) (l : Login) : p.dress l ≠ [] := by
  rw [dress]
  split <;> simp [body]

theorem cleaned_dress (p : Place) (l : Login) : cleaned (p.dress l) = p.dress l := by
  refine cleaned_of_plain (p.dress_plain l) ?_
  rw [dress]
  split
  · simp [body]
  · next hs =>
      rcases p.isScheme with h | ⟨c, ds, h, hc, -, -⟩
      · exact absurd h hs
      · rw [h, List.cons_append, List.head?_cons]
        rintro h
        rw [Option.some.inj h] at hc
        exact absurd hc (by decide)

theorem cutScheme_dress (p : Place) (l : Login) : cutScheme (p.dress l) = (p.scheme, p.body l) := by
  rw [dress]
  split
  · next h => rw [h, body, cutScheme_slash]
  · next h => exact cutScheme_append p.isScheme h _

/-- Whether the URL can be taken apart, and into what, does not depend on the login. -/
theorem split_dress (p : Place) (l : Login) :
    split (p.dress l) = (checkBrackets p.authority).map fun _ => p.parts.withUser l.text := by
  have ha : cutAuthority (p.body l) = (l.text ++ '@' :: p.authority, p.rest) :=
    cutAuthority_append ((p.user_chars l).mono fun _ h => h.2) p.opens
  have hd := checkDisguised_of_plain ((p.user_chars l).mono fun _ h => h.1)
  simp only [split, cleaned_dress, cutScheme_dress, ha, hd, checkBrackets_withUser]
  cases checkBrackets p.authority <;> rfl

end Place

structure Parts.IsPlain (p : Parts) : Prop where
  isScheme : IsScheme p.scheme
  authority : Within IsHostChar p.authority
  path : Within Text.IsPlain p.path
  query : Within Text.IsPlain p.query
  fragment : Within Text.IsPlain p.fragment

theorem within_cutAt {P : Char → Prop} {cs : List Char} (h : Within P cs) (c : Char) :
    Within P (cutAt c cs).1 ∧ Within P (cutAt c cs).2 := by
  rw [cutAt]
  cases hc : cutFirst? c cs with
  | none => exact ⟨h, within_nil⟩
  | some p => exact h.of_cutFirst? hc

theorem cutAt_subset (c : Char) (cs : List Char) : (cutAt c cs).1 ⊆ cs :=
  fun _ hd => (within_cutAt (P := (· ∈ cs)) (fun _ hc => hc) c).1 _ hd

theorem within_marked {P : Char → Prop} {cs : List Char} {mark : Char} (hm : P mark)
    (h : Within P cs) : Within P (marked mark cs) := by
  cases cs with
  | nil => exact within_nil
  | cons c cs => exact within_cons.mpr ⟨hm, h⟩

theorem Place.parts_plain (p : Place) : p.parts.IsPlain :=
  have hf := within_cutAt p.rest_chars '#'
  have hq := within_cutAt hf.1 '?'
  ⟨p.isScheme, p.authority_chars, hq.1, hq.2, hf.2⟩

theorem within_cutScheme {P : Char → Prop} {cs : List Char} (h : Within P cs) :
    Within P (cutScheme cs).2 := by
  simp only [cutScheme]
  split
  · next c before rest hc =>
      split
      · exact (h.of_cutFirst? hc).2
      · exact h
  · exact h

theorem within_cutAuthority {P : Char → Prop} {cs : List Char} (h : Within P cs) :
    Within (fun c => P c ∧ endsAuthority c = false) (cutAuthority cs).1 ∧
      Within P (cutAuthority cs).2 := by
  unfold cutAuthority
  split
  · next rest =>
      have hr := (within_cons.mp (within_cons.mp h).2).2
      refine ⟨fun c hc => ⟨hr.takeWhile _ c hc, ?_⟩, hr.dropWhile _⟩
      have hw := List.mem_takeWhile_imp hc
      simpa using hw
  · exact ⟨within_nil, h⟩

theorem plain_of_split {cs : List Char} {p : Parts} (h : split cs = .ok p)
    (hc : Within Text.IsPlain cs) : p.IsPlain := by
  obtain ⟨rfl, -, -⟩ := split_eq_ok.mp h
  have hs := within_cutScheme ((hc.dropWhile isControlOrSpace).filter fun c => !isLineBreak c)
  have ha := within_cutAuthority hs
  have hf := within_cutAt ha.2 '#'
  have hq := within_cutAt hf.1 '?'
  exact ⟨isScheme_cutScheme _, ha.1, hq.1, hq.2, hf.2⟩

theorem checkBrackets_of_split {cs : List Char} {p : Parts} (h : split cs = .ok p) :
    checkBrackets p.authority = .ok () := (split_eq_ok.mp h).2.1

namespace Parts

def rest (p : Parts) : List Char :=
  rooted p.path ++ marked '?' p.query ++ marked '#' p.fragment

theorem opens_marked {mark : Char} (hm : endsAuthority mark = true) {rest : List Char}
    (h : Opens rest) (part : List Char) : Opens (marked mark part ++ rest) := by
  cases part with
  | nil => exact h
  | cons c cs => exact .inr ⟨mark, c :: cs ++ rest, rfl, hm⟩

theorem opens_rest (p : Parts) : Opens p.rest := by
  have hf : Opens (marked '#' p.fragment) := by
    have h := opens_marked (show endsAuthority '#' = true by decide) (.inl rfl) p.fragment
    rwa [List.append_nil] at h
  have hq := opens_marked (show endsAuthority '?' = true by decide) hf p.query
  rw [rest, List.append_assoc]
  unfold rooted
  split
  · exact hq
  · exact .inr ⟨'/', _, rfl, by decide⟩
  · exact .inr ⟨'/', _, rfl, by decide⟩

theorem within_rooted {P : Char → Prop} (hs : P '/') {path : List Char} (h : Within P path) :
    Within P (rooted path) := by
  unfold rooted
  split
  · exact h
  · exact h
  · exact within_cons.mpr ⟨hs, h⟩

theorem IsPlain.rest {p : Parts} (h : p.IsPlain) : Within Text.IsPlain p.rest := by
  rw [Parts.rest, within_append, within_append]
  exact ⟨⟨within_rooted (by decide) h.path, within_marked (by decide) h.query⟩,
    within_marked (by decide) h.fragment⟩

def place (p : Parts) (h : p.IsPlain) : Place :=
  ⟨p.scheme, p.authority, p.rest, h.isScheme, h.authority, h.rest, p.opens_rest⟩

theorem text_withUser {p : Parts} (h : p.IsPlain) (l : Login) :
    (p.withUser l.text).text = (p.place h).dress l := by
  have hu : (p.withUser l.text).authority ≠ [] := by simp [withUser]
  have hauth : (p.withUser l.text).hasAuthority = true := by simp [hasAuthority, hu]
  simp only [text, hauth, if_true]
  simp only [Place.dress, Place.body, place, rest, withUser]
  by_cases hs : p.scheme = []
  · simp only [hs, if_true, List.append_assoc, List.cons_append]
  · simp only [hs, if_false, List.append_assoc, List.cons_append]

theorem IsPlain.text {p : Parts} (h : p.IsPlain) : Within Text.IsPlain p.text := by
  have hb : Within Text.IsPlain
      (if p.hasAuthority then '/' :: '/' :: p.authority ++ rooted p.path else p.path) := by
    split
    · rw [within_append, within_cons, within_cons]
      exact ⟨⟨by decide, by decide, h.authority.mono fun _ h => h.1⟩,
        within_rooted (by decide) h.path⟩
    · exact h.path
  simp only [Parts.text, within_append]
  refine ⟨⟨?_, within_marked (by decide) h.query⟩, within_marked (by decide) h.fragment⟩
  split
  · exact hb
  · exact within_append.mpr ⟨h.isScheme.plain, within_cons.mpr ⟨by decide, hb⟩⟩

end Parts

section WithUser

variable (p : Parts) (l : Login)

theorem userinfo_withUser :
    (p.withUser l.text).userinfo = some (l.text ++ p.userinfo.elim [] ('@' :: ·)) := by
  cases h : cutLast? '@' p.authority <;>
    simp [Parts.userinfo, Parts.withUser, cutLast?_append_cons, h]

theorem username_withUser : (p.withUser l.text).username = some l.name := by
  rw [Parts.username, userinfo_withUser, Option.map_some, cutAt, l.cutFirst_text]
  rfl

theorem password_withUser :
    (p.withUser l.text).password = some (l.secret ++ p.userinfo.elim [] ('@' :: ·)) := by
  rw [Parts.password, userinfo_withUser, Option.bind_some, l.cutFirst_text]
  rfl

theorem hostAndPort_withUser : (p.withUser l.text).hostAndPort = p.hostAndPort := by
  simp only [Parts.hostAndPort, Parts.withUser, hostPart_withUser]

theorem hostname_withUser : (p.withUser l.text).hostname = p.hostname := by
  rw [Parts.hostname, Parts.hostname, hostAndPort_withUser]

theorem port_withUser : (p.withUser l.text).port? = p.port? := by
  rw [Parts.port?, Parts.port?, hostAndPort_withUser]

end WithUser

end SqlCluster.Uri
