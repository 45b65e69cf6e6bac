import SqlCluster.Proofs.Http.Alike
/-!
Where a location leads to. Seen from two URLs that differ in a login it leads to one URL, or to two
that differ in the login.
-/
namespace SqlCluster.Http

open Text Uri

variable {σ : Type} {named : Prop} {kind : Url → Prop}

structure Url.Plain (u : Url) : Prop where
  scheme : Within IsPlain u.scheme
  userinfo : Within IsPlain u.userinfo
  host : Within IsPlain u.host
  path : Within IsPlain u.path
  query : ∀ q, u.query = some q → Within IsPlain q
  fragment : ∀ f, u.fragment = some f → Within IsPlain f

theorem plain_bracketed {cs : List Char} (h : Within IsPlain cs) :
    Within IsPlain (Url.bracketed cs) := by
  rw [Url.bracketed]
  split
  · rw [within_append, within_cons, within_cons]
    exact ⟨⟨by decide, h⟩, by decide, within_nil⟩
  · exact h

theorem Url.Plain.text {u : Url} (h : u.Plain) : Within IsPlain u.text := by
  have hauth : Within IsPlain u.authority := by
    rw [Url.authority, within_append, within_append]
    refine ⟨⟨?_, plain_bracketed h.host⟩, ?_⟩
    · split
      · exact within_nil
      · exact within_append.mpr ⟨h.userinfo, by decide⟩
    · refine Url.within_marked (by decide) fun part hp => ?_
      obtain ⟨n, -, rfl⟩ := Option.map_eq_some_iff.mp hp
      exact (within_decimalInt n).mono fun _ h => h.1
  simp only [Url.text, within_append]
  refine ⟨⟨⟨⟨?_, ?_⟩, h.path⟩, Url.within_marked (by decide) h.query⟩,
    Url.within_marked (by decide) h.fragment⟩
  · split
    · exact within_nil
    · exact within_append.mpr ⟨h.scheme, by decide⟩
  · split
    · exact within_nil
    · exact within_cons.mpr ⟨by decide, within_cons.mpr ⟨by decide, hauth⟩⟩

theorem plain_of_make {p : UrlParts} {u : Url} (hs : Within IsPlain p.scheme)
    (hh : Within IsPlain p.host) (h : Url.make p = .ok u) : u.Plain := by
  simp only [Url.make, bind, Except.bind, pure, Except.pure] at h
  cases hho : hostOf p.host with
  | error e => simp [hho] at h
  | ok host =>
      cases hpo : portOf p.scheme p.port with
      | error e => simp [hho, hpo] at h
      | ok port =>
          simp only [hho, hpo] at h
          split at h
          · cases h
          · cases h
            refine ⟨within_asciiLower (fun _ => isPlain_asciiLowerChar) hs,
              within_escapeUnless_admits _ _, ?_, within_escapeUnless_admits _ _, ?_, ?_⟩
            · exact within_hostOf (fun _ hc => hc) (by decide +kernel) (by decide +kernel) hh hho
            · rintro q hq
              obtain ⟨q, -, rfl⟩ := Option.map_eq_some_iff.mp hq
              exact within_escapeUnless_admits _ _
            · rintro f hf
              obtain ⟨f, -, rfl⟩ := Option.map_eq_some_iff.mp hf
              exact within_escapeUnless_admits _ _

theorem within_cutOptional {P : Char → Prop} {cs : List Char} (h : Within P cs) (c : Char) :
    Within P (cutOptional c cs).1 := h.of_subset (cutOptional_subset c cs)

theorem plain_cutScheme {cs : List Char} (h : Within IsPlain cs) :
    Within IsPlain (cutScheme cs).1 ∧ Within IsPlain (cutScheme cs).2 := by
  simp only [cutScheme]
  split
  · next rest hc => exact ⟨within_nil, (h.of_cutFirst? hc).2⟩
  · next c before rest hc =>
      split
      · exact h.of_cutFirst? hc
      · exact ⟨within_nil, h⟩
  · exact ⟨within_nil, h⟩

theorem plain_authority {cs : List Char} (h : Within IsPlain cs) :
    Within IsPlain (cutAuthority cs).1 := by
  unfold cutAuthority
  split
  · exact (within_cons.mp (within_cons.mp h).2).2.takeWhile _
  · exact within_nil

theorem plain_cutUser {cs : List Char} (h : Within IsPlain cs) : Within IsPlain (cutUser cs).2 := by
  rw [cutUser]
  split
  · next p hp => exact (h.of_cutLast? hp).2
  · exact h

theorem plain_ofText {cs : List Char} (h : Within IsPlain cs) :
    Within IsPlain (UrlParts.ofText cs).scheme ∧ Within IsPlain (UrlParts.ofText cs).host := by
  obtain ⟨hs, hrest⟩ := plain_cutScheme h
  have ha := plain_authority (within_cutOptional (within_cutOptional hrest '#') '?')
  exact ⟨hs, within_cutHost (by decide) (by decide) (plain_cutUser ha)⟩

theorem plain_of_parse {cs : List Char} {u : Url} (h : Within IsPlain cs)
    (hu : Url.parse cs = .ok u) : u.Plain := by
  rw [Url.parse] at hu
  cases hc : checkText "" cs with
  | error e => simp [hc, bind, Except.bind] at hu
  | ok _ =>
      have hm : Url.make (UrlParts.ofText cs) = .ok u := by simpa [hc, bind, Except.bind] using hu
      exact plain_of_make (plain_ofText h).1 (plain_ofText h).2 hm

theorem plain_of_unprintable {cs : List Char} {n : Nat} (ha : Within (isAscii · = true) cs)
    (h : unprintable? n cs = none) : Within IsPlain cs := by
  induction cs generalizing n with
  | nil => exact within_nil
  | cons c cs ih =>
      rw [within_cons] at ha ⊢
      rw [unprintable?] at h
      split at h
      · cases h
      · next hc =>
          have hlt : c.toNat < 0x80 := by simpa [isAscii] using ha.1
          refine ⟨?_, ih ha.2 h⟩
          rw [IsPlain]
          omega

theorem plain_of_spelled_ok {location : String} {u : Url}
    (ha : Within (isAscii · = true) location.toList) (h : Client.spelled location = .ok u) :
    Within IsPlain location.toList := by
  have hp : ∃ v, Url.parse location.toList = .ok v := by
    rw [Client.spelled] at h
    split at h
    · cases h
    · next v hv => exact ⟨v, hv⟩
  obtain ⟨v, hv⟩ := hp
  rw [Url.parse] at hv
  cases hc : checkText "" location.toList with
  | error e => simp [hc, bind, Except.bind] at hv
  | ok _ =>
      rw [checkText] at hc
      split at hc
      · cases hc
      · split at hc
        · cases hc
        · next hn => exact plain_of_unprintable ha hn

theorem plain_withHost {t u : Url} {host : List Char} (ht : t.Plain) (hh : Within IsPlain host)
    (h : t.withHost host = .ok u) : u.Plain :=
  plain_of_make ht.scheme (plain_bracketed hh) h

theorem parse_alike {p : Place} (hs : p.scheme ≠ []) {l m : Login} (h : l.Alike named m) :
    Agree tooLong (Url.Alike named) (Client.invalidUrl (Url.parse (p.dress l)))
      (Client.invalidUrl (Url.parse (p.dress m))) := by
  obtain ⟨tail, r, hr, hp⟩ := parse_dress p
  rw [hp, hp]
  by_cases hl : maxLength < (p.dress l).length
  · rw [if_pos hl]
    exact .left _
  by_cases hm : maxLength < (p.dress m).length
  · rw [if_pos hm]
    exact .right _
  rw [if_neg hl, if_neg hm]
  cases r with
  | error e => exact .error _
  | ok u =>
      have hread := hr u rfl
      have hscheme : u.scheme ≠ [] := by
        rw [hread.scheme]
        exact hs
      exact .ok (.login u hread.sound hscheme (readLogin l tail) (readLogin m tail) h)

theorem plain_of_spelled {location : String} {t : Url} (hl : Within IsPlain location.toList)
    (h : Client.spelled location = .ok t) : t.Plain := by
  simp only [Client.spelled] at h
  cases hp : Url.parse location.toList with
  | error e => simp [hp] at h
  | ok u =>
      have hu := plain_of_parse hl hp
      simp only [hp] at h
      split at h
      · cases h
        exact hu
      · cases hc : Client.checkHost u with
        | error e => simp [hc, Except.map] at h
        | ok _ =>
            simp only [hc, Except.map, Except.ok.injEq] at h
            rw [← h]
            exact hu

theorem plain_of_hosted {u t v : Url} (hu : u.Sound) (ht : t.Plain)
    (h : Client.hosted u t = .ok v) : v.Plain := by
  rw [Client.hosted] at h
  split at h
  · cases hw : t.withHost u.host with
    | error e => simp [hw, Client.invalidUrl] at h
    | ok w =>
        simp only [hw, Client.invalidUrl, Except.ok.injEq] at h
        rw [← h]
        exact plain_withHost ht (hu.host.mono fun _ hc => hc.1) hw
  · cases h
    exact ht

section Steps

variable {u : Url} (sound : u.Sound) (hs : u.scheme ≠ []) {l m : Login} (h : l.Alike named m)
include sound hs h

theorem resolved_alike {t : Url} (ht : t.Plain) :
    Agree tooLong (Url.Alike named) (Client.resolved (u.withUser l.text) t)
      (Client.resolved (u.withUser m.text) t) := by
  rw [Client.resolved, Client.resolved]
  split
  · exact .refl .refl _
  · obtain ⟨r, hr, hq⟩ := join_dress (u.place sound) ht.text
    rw [Url.text_withUser sound, Url.text_withUser sound, hr, hr]
    cases r with
    | error e => exact .error _
    | ok spot =>
        cases spot with
        | fixed cs _ => exact .refl .refl _
        | dressed q =>
            have hscheme : q.scheme ≠ [] := by
              rw [(hq q rfl).1]
              exact hs
            exact parse_alike hscheme h

theorem withFragment_alike (fragment : List Char) :
    Agree tooLong (Url.Alike named)
      (Client.invalidUrl ((u.withUser l.text).withFragment fragment))
      (Client.invalidUrl ((u.withUser m.text).withFragment fragment)) := by
  have hm (l : Login) : (u.withUser l.text).withFragment fragment =
      checkText " fragment component" fragment >>= fun _ =>
        UrlParts.read { u.parts with fragment := some fragment } |>.map
          (·.withUser (readLogin l []).text) := by
    have hp := make_login { u.parts with fragment := some fragment } l []
    rw [List.append_nil] at hp
    rw [← hp]
    rfl
  rw [hm, hm]
  cases checkText " fragment component" fragment with
  | error e => exact .error _
  | ok _ =>
      cases hr : UrlParts.read { u.parts with fragment := some fragment } with
      | error e =>
          simp only [bind, Except.bind, Except.map]
          exact .error _
      | ok v =>
          obtain ⟨-, -, -, hv⟩ := read_spec hr
          obtain ⟨hscheme, hsound⟩ := hv sound.isScheme (within_bracketed sound.host)
          have hne : v.scheme ≠ [] := by
            rw [hscheme]
            exact hs
          exact .ok (.login v hsound hne (readLogin l []) (readLogin m []) h)

end Steps

theorem fragmented_alike (u : Url) (l m : Login) {s t : Url} (ht : Url.Alike named s t) :
    Agree tooLong (Url.Alike named) (Client.fragmented (u.withUser l.text) s)
      (Client.fragmented (u.withUser m.text) t) := by
  cases ht with
  | refl t => exact .refl .refl _
  | login t tsound ths a b hab =>
      have hf (l a : Login) : Client.fragmented (u.withUser l.text) (t.withUser a.text) =
          if (!(unescape (u.fragment.getD [])).isEmpty &&
              (unescape (t.fragment.getD [])).isEmpty) = true then
            Client.invalidUrl ((t.withUser a.text).withFragment (unescape (u.fragment.getD [])))
          else .ok (t.withUser a.text) := rfl
      rw [hf, hf]
      by_cases hc : (!(unescape (u.fragment.getD [])).isEmpty &&
          (unescape (t.fragment.getD [])).isEmpty) = true
      · rw [if_pos hc, if_pos hc]
        exact withFragment_alike tsound ths hab _
      · rw [if_neg hc, if_neg hc]
        exact .ok (.login t tsound ths a b hab)

theorem locate_alike {u : Url} (sound : u.Sound) (hs : u.scheme ≠ []) {l m : Login}
    (h : l.Alike named m) {location : String} (hl : Within (isAscii · = true) location.toList) :
    Agree tooLong (Url.Alike named) (Client.locate (u.withUser l.text) location)
      (Client.locate (u.withUser m.text) location) := by
  simp only [Client.locate]
  cases hsp : Client.spelled location with
  | error e => exact .error e
  | ok t =>
      have hho : Client.hosted (u.withUser l.text) t = Client.hosted u t := rfl
      have hhm : Client.hosted (u.withUser m.text) t = Client.hosted u t := rfl
      simp only [bind, Except.bind, hho, hhm]
      cases hh : Client.hosted u t with
      | error e => exact .error e
      | ok v =>
          have ht := plain_of_spelled (plain_of_spelled_ok hl hsp) hsp
          have hv := plain_of_hosted sound ht hh
          have hr := resolved_alike sound hs h hv
          refine hr.bind fun a b hab => ?_
          refine (fragmented_alike u l m hab).bind fun a b hab => ?_
          cases hab with
          | refl a => exact .refl .refl _
          | login t tsound ths l m h =>
              have hc (l : Login) : Client.checkHost (t.withUser l.text) = Client.checkHost t := rfl
              rw [hc, hc]
              cases Client.checkHost t with
              | error e => exact .error e
              | ok _ => exact .ok (.login t tsound ths l m h)

end SqlCluster.Http
