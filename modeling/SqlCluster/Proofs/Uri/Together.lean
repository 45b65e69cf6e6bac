import SqlCluster.Proofs.Uri.Inline
/-!
Parts put together and taken apart again. With an authority, parts that came from a reference come
back as they were, and so they do with a user in front of their host.
-/
namespace SqlCluster.Uri

open Text

structure Parts.Sound (p : Parts) : Prop where
  isScheme : IsScheme p.scheme
  authority : Within (fun c => isLineBreak c = false ∧ endsAuthority c = false) p.authority
  path : Within (fun c => isLineBreak c = false ∧ c ≠ '?' ∧ c ≠ '#') p.path
  rooted : p.authority ≠ [] → rooted p.path = p.path
  query : Within (fun c => isLineBreak c = false ∧ c ≠ '#') p.query
  fragment : Within (isLineBreak · = false) p.fragment
  brackets : checkBrackets p.authority = .ok ()
  disguised : checkDisguised p.authority = .ok ()

theorem within_cleaned (cs : List Char) : Within (isLineBreak · = false) (cleaned cs) := by
  intro c hc
  simpa using (List.mem_filter.mp hc).2

theorem within_cutAt_fst {P : Char → Prop} {cs : List Char} (h : Within P cs) (c : Char) :
    Within (fun d => P d ∧ d ≠ c) (cutAt c cs).1 := by
  intro d hd
  refine ⟨(within_cutAt h c).1 d hd, ?_⟩
  rintro rfl
  exact not_mem_cutAt d cs hd

theorem cutAt_append {c : Char} {cs : List Char} (h : c ∉ cs) (part : List Char) :
    cutAt c (cs ++ marked c part) = (cs, part) := by
  cases part with
  | nil => rw [marked, List.append_nil, cutAt, cutFirst?_eq_none h, Option.getD_none]
  | cons d ds =>
      have hm : marked c (d :: ds) = c :: d :: ds := rfl
      rw [hm, cutAt, cutFirst?_append h, Option.getD_some]

theorem opens_of_initial {cs ds : List Char} (h : Opens ds) (hp : cs <+: ds) : Opens cs := by
  cases cs with
  | nil => exact .inl rfl
  | cons c cs =>
      rcases h with rfl | ⟨d, ds, rfl, hd⟩
      · exact absurd (List.prefix_nil.mp hp) (List.cons_ne_nil c cs)
      · exact .inr ⟨c, cs, rfl, (List.cons_prefix_cons.mp hp).1 ▸ hd⟩

theorem cutAt_initial (c : Char) (cs : List Char) : (cutAt c cs).1 <+: cs := by
  rw [cutAt]
  cases h : cutFirst? c cs with
  | none => exact List.prefix_rfl
  | some p => exact ⟨c :: p.2, (eq_of_cutFirst? h).symm⟩

theorem opens_cutAuthority {cs : List Char} (h : (cutAuthority cs).1 ≠ []) :
    Opens (cutAuthority cs).2 := by
  unfold cutAuthority at h ⊢
  split at h
  · next rest =>
      cases hd : rest.dropWhile fun c => !endsAuthority c with
      | nil => exact .inl rfl
      | cons c ds =>
          have hc := List.head?_dropWhile_not (fun c => !endsAuthority c) rest
          rw [hd] at hc
          exact .inr ⟨c, ds, rfl, by simpa using hc⟩
  · exact absurd rfl h

theorem rooted_of_opens {path : List Char} (h : Opens path) (hq : '?' ∉ path) (hf : '#' ∉ path) :
    Parts.rooted path = path := by
  rcases h with rfl | ⟨c, ds, rfl, hc⟩
  · rfl
  · simp only [endsAuthority, Bool.or_eq_true, beq_iff_eq] at hc
    rcases hc with (rfl | rfl) | rfl
    · rfl
    · exact absurd List.mem_cons_self hq
    · exact absurd List.mem_cons_self hf

theorem sound_of_split {cs : List Char} {p : Parts} (h : split cs = .ok p) : p.Sound := by
  obtain ⟨rfl, hb, hd⟩ := split_eq_ok.mp h
  have ha := within_cutAuthority (within_cutScheme (within_cleaned cs))
  have hf := within_cutAt_fst ha.2 '#'
  have hq := within_cutAt hf '?'
  have hp := within_cutAt_fst hf '?'
  refine ⟨isScheme_cutScheme _, ha.1, ?_, ?_, hq.2, (within_cutAt ha.2 '#').2, hb, hd⟩
  · exact hp.mono fun c hc => ⟨hc.1.1, hc.2, hc.1.2⟩
  · intro hne
    -- The path is an initial piece of what stands behind the authority.
    have ho := opens_of_initial (opens_cutAuthority hne) (cutAt_initial '#' _)
    refine rooted_of_opens (opens_of_initial ho (cutAt_initial '?' _)) ?_ ?_
    · exact hp.not_mem (by simp)
    · exact hp.not_mem (by simp)

namespace Parts

variable {p : Parts}

theorem text_of_authority (ha : p.authority ≠ []) :
    p.text = (if p.scheme = [] then [] else p.scheme ++ [':']) ++
      '/' :: '/' :: (p.authority ++ p.rest) := by
  have hauth : p.hasAuthority = true := by simp [hasAuthority, ha]
  simp only [text, hauth, if_true, rest]
  split <;> simp only [List.append_assoc, List.cons_append, List.nil_append]

theorem Sound.rest (h : p.Sound) : Within (isLineBreak · = false) p.rest := by
  rw [Parts.rest, within_append, within_append]
  exact ⟨⟨within_rooted (by decide) (h.path.mono fun _ hc => hc.1),
    within_marked (by decide) (h.query.mono fun _ hc => hc.1)⟩,
    within_marked (by decide) h.fragment⟩

theorem Sound.cleaned_text (h : p.Sound) (ha : p.authority ≠ []) : cleaned p.text = p.text := by
  have hbody : Within (isLineBreak · = false) ('/' :: '/' :: (p.authority ++ p.rest)) := by
    rw [within_cons, within_cons, within_append]
    exact ⟨by decide, by decide, h.authority.mono fun _ hc => hc.1, h.rest⟩
  have hscheme : Within (isLineBreak · = false) p.scheme := h.isScheme.plain.mono fun _ hc =>
    IsPlain.of_ascii (P := fun c => isLineBreak c = false) (by decide +kernel) hc
  have hkeep : Within (isLineBreak · = false) p.text := by
    rw [text_of_authority ha, within_append]
    refine ⟨?_, hbody⟩
    split
    · exact within_nil
    · exact within_append.mpr ⟨hscheme, by decide⟩
  have hdrop : p.text.dropWhile isControlOrSpace = p.text := by
    rw [text_of_authority ha]
    rcases h.isScheme with hs | ⟨c, ds, hs, hl, -, -⟩
    · rw [if_pos hs, List.nil_append]
      exact List.dropWhile_cons_of_neg (by decide)
    · have hc : isControlOrSpace c = false :=
        of_ascii (P := fun c => isAsciiLetter c = true → isControlOrSpace c = false)
          (by decide +kernel) (lt_of_isAsciiLetter hl) hl
      rw [hs, if_neg (List.cons_ne_nil c ds)]
      exact List.dropWhile_cons_of_neg (by simp [hc])
  rw [cleaned, hdrop, List.filter_eq_self]
  intro c hc
  simp [hkeep c hc]

theorem Sound.cutScheme_text (h : p.Sound) (ha : p.authority ≠ []) :
    cutScheme p.text = (p.scheme, '/' :: '/' :: (p.authority ++ p.rest)) := by
  rw [text_of_authority ha]
  split
  · next hs => rw [hs, List.nil_append, cutScheme_slash]
  · next hs =>
      rw [List.append_assoc, List.singleton_append]
      exact cutScheme_append h.isScheme hs _

theorem Sound.split_text (h : p.Sound) (ha : p.authority ≠ []) : split p.text = .ok p := by
  have hauth : cutAuthority ('/' :: '/' :: (p.authority ++ p.rest)) = (p.authority, p.rest) :=
    cutAuthority_append (h.authority.mono fun _ hc => hc.2) p.opens_rest
  have hfragment : cutAt '#' p.rest = (p.path ++ marked '?' p.query, p.fragment) := by
    rw [Parts.rest, h.rooted ha]
    refine cutAt_append ?_ p.fragment
    have hq : Within (· ≠ '#') (marked '?' p.query) :=
      within_marked (by decide) (h.query.mono fun _ hc => hc.2)
    rw [List.mem_append, not_or]
    exact ⟨h.path.not_mem (by simp), hq.not_mem (by simp)⟩
  have hquery : cutAt '?' (p.path ++ marked '?' p.query) = (p.path, p.query) :=
    cutAt_append (h.path.not_mem (c := '?') (by simp)) p.query
  refine split_eq_ok.mpr ⟨?_, h.brackets, h.disguised⟩
  simp only [cutParts, h.cleaned_text ha, h.cutScheme_text ha, hauth, hfragment, hquery]

theorem Sound.withUser (h : p.Sound) (ha : p.authority ≠ []) {user : List Char}
    (hu : Within (isLoginChar · = true) user) : (p.withUser user).Sound := by
  have hchars : Within (fun c => isLineBreak c = false ∧ endsAuthority c = false) user :=
    hu.mono fun _ hc => ⟨IsPlain.of_ascii (P := fun c => isLineBreak c = false) (by decide +kernel)
      (isLoginChar_spec hc).1, (isLoginChar_spec hc).2.1⟩
  refine { h with authority := ?_, rooted := fun _ => h.rooted ha, brackets := ?_, disguised := ?_ }
  · exact within_append.mpr ⟨hchars, within_cons.mpr ⟨by decide, h.authority⟩⟩
  · exact (checkBrackets_behind hu p.authority).trans h.brackets
  · have hplain := checkDisguised_of_plain (hu.mono fun _ hc => (isLoginChar_spec hc).1)
    have hat : Within (fun c => Uri.disguised.contains c.toNat = false) ['@'] := by decide
    refine checkDisguised_eq_ok.mpr (within_append.mpr ⟨checkDisguised_eq_ok.mp hplain, ?_⟩)
    exact within_append.mpr ⟨hat, checkDisguised_eq_ok.mp h.disguised⟩

end Parts

/-- A reference with a user put in front of its host is taken apart into the same parts, with that
user in front. -/
theorem split_withUser {cs : List Char} {p : Parts} (h : split cs = .ok p) (ha : p.authority ≠ [])
    {user : List Char} (hu : Within (isLoginChar · = true) user) :
    split (p.withUser user).text = .ok (p.withUser user) :=
  ((sound_of_split h).withUser ha hu).split_text (by simp [Parts.withUser])

end SqlCluster.Uri
