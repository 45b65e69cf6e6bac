import SqlCluster.Proofs.Uri.Resolve
/-!
References on one line. Taking a reference apart drops all line ends, so that what is put together
from parts has none; and what is passed on as it is has none of its own.
-/
namespace SqlCluster.Uri

open Text

def Inline (cs : List Char) : Prop := Within (· ≠ '\n') cs

instance (cs : List Char) : Decidable (Inline cs) := inferInstanceAs (Decidable (Within _ cs))

theorem inline_iff {cs : List Char} : Inline cs ↔ '\n' ∉ cs := by
  constructor
  · intro h hc
    exact h '\n' hc rfl
  · rintro h c hc rfl
    exact h hc

theorem inline_nil : Inline [] := within_nil

theorem inline_append {cs ds : List Char} : Inline (cs ++ ds) ↔ Inline cs ∧ Inline ds :=
  within_append

theorem inline_cons {c : Char} {cs : List Char} (hc : c ≠ '\n') (h : Inline cs) :
    Inline (c :: cs) :=
  within_cons.mpr ⟨hc, h⟩

theorem inline_of_plain {cs : List Char} (h : Within IsPlain cs) : Inline cs :=
  h.mono fun _ hc => IsPlain.of_ascii (P := fun c => c ≠ '\n') (by decide +kernel) hc

structure Parts.OneLine (p : Parts) : Prop where
  scheme : Inline p.scheme
  authority : Inline p.authority
  path : Inline p.path
  query : Inline p.query
  fragment : Inline p.fragment

theorem inline_cleaned (cs : List Char) : Inline (cleaned cs) := by
  rintro c hc rfl
  obtain ⟨-, h⟩ := List.mem_filter.mp hc
  exact absurd h (by decide)

theorem oneLine_of_split {cs : List Char} {p : Parts} (h : split cs = .ok p) : p.OneLine := by
  obtain ⟨rfl, -, -⟩ := split_eq_ok.mp h
  have hc := inline_cleaned cs
  have ha := within_cutAuthority (within_cutScheme hc)
  have hf := within_cutAt ha.2 '#'
  have hq := within_cutAt hf.1 '?'
  have hs : Inline (cutScheme (cleaned cs)).1 := inline_of_plain (isScheme_cutScheme _).plain
  exact ⟨hs, ha.1.mono fun _ h => h.1, hq.1, hq.2, hf.2⟩

theorem Parts.OneLine.text {p : Parts} (h : p.OneLine) : Inline p.text := by
  have hb : Inline
      (if p.hasAuthority then '/' :: '/' :: p.authority ++ rooted p.path else p.path) := by
    split
    · have hslashes : Inline ('/' :: '/' :: p.authority) :=
        inline_cons (by decide) (inline_cons (by decide) h.authority)
      exact inline_append.mpr ⟨hslashes, within_rooted (by decide) h.path⟩
    · exact h.path
  simp only [Parts.text, inline_append]
  refine ⟨⟨?_, within_marked (by decide) h.query⟩, within_marked (by decide) h.fragment⟩
  split
  · exact hb
  · exact inline_append.mpr ⟨h.scheme, inline_cons (by decide) hb⟩

theorem Parts.OneLine.withAuthority {p : Parts} (h : p.OneLine) {user host : List Char}
    (hu : Inline user) (hh : Inline host) :
    Parts.OneLine { p with authority := user ++ '@' :: host } :=
  { h with authority := inline_append.mpr ⟨hu, inline_cons (by decide) hh⟩ }

theorem Parts.OneLine.username {p : Parts} (h : p.OneLine) : Inline (p.username.getD []) := by
  rw [Parts.username, Parts.userinfo]
  cases hc : cutLast? '@' p.authority with
  | none => exact inline_nil
  | some r => exact (within_cutAt (h.authority.of_cutLast? hc).1 ':').1

theorem oneLine_resolve {b t p : Parts} (hb : b.OneLine) (ht : t.OneLine)
    (h : b.resolve? t = some p) : p.OneLine := by
  have htp := within_cutParameters (by decide) b.scheme ht.path
  have hbp := within_cutParameters (by decide) b.scheme hb.path
  by_cases hr : b.Relative t
  swap
  · rw [resolve_of_not_relative hr] at h
    cases h
  by_cases ho : b.HasOwn t
  · rw [resolve_of_own hr ho] at h
    cases h
    exact ⟨hb.scheme, ht.authority, within_withParameters (by decide) htp.1 htp.2, ht.query,
      ht.fragment⟩
  · have ha : Inline
        (if authoritySchemes.contains b.scheme then b.authority else t.authority) := by
      split
      · exact hb.authority
      · exact ht.authority
    rw [resolve_of_not_own hr ho] at h
    cases h
    simp only [Parts.merged]
    split
    · refine ⟨hb.scheme, ha, within_withParameters (by decide) hbp.1 hbp.2, ?_, ht.fragment⟩
      simp only
      split
      · exact hb.query
      · exact ht.query
    · exact ⟨hb.scheme, ha,
        within_withParameters (by decide) (within_mergePath (by decide) hbp.1 htp.1) htp.2,
        ht.query, ht.fragment⟩

theorem inline_join {base target cs : List Char} (hb : Inline base) (ht : Inline target)
    (h : join base target = .ok cs) : Inline cs := by
  rw [join] at h
  split at h
  · cases h
    exact ht
  · split at h
    · cases h
      exact hb
    · cases hsb : split base with
      | error e => simp [hsb, bind, Except.bind] at h
      | ok b =>
          cases hst : split target with
          | error e => simp [hsb, hst, bind, Except.bind] at h
          | ok t =>
              simp only [hsb, hst, bind, Except.bind, pure, Except.pure, Except.ok.injEq] at h
              subst h
              split
              · next p hp =>
                  have hp := oneLine_resolve (oneLine_of_split hsb) (oneLine_of_split hst) hp
                  exact hp.text
              · exact ht

theorem inline_redact {cs : List Char} (h : Inline cs) : Inline (redact cs) := by
  rw [redact]
  split
  · exact inline_nil
  · next p hs =>
      split
      · exact inline_nil
      · split
        · exact h
        · have hp := oneLine_of_split hs
          have hhost : Inline (hostPart p.authority) :=
            hp.authority.of_subset (hostPart_subset _)
          have hmask : Inline (':' :: mask) := inline_cons (by decide) (by decide)
          exact (hp.withAuthority (inline_append.mpr ⟨hp.username, hmask⟩) hhost).text

end SqlCluster.Uri
