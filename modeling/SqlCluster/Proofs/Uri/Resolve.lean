import SqlCluster.Proofs.Uri.Place
/-!
Joining. A location seen from a URL with a login leads to a fixed URL or to one with the same login
at the same host, whatever the login is.
-/
namespace SqlCluster.Uri

open Text

theorem within_withParameters {P : Char → Prop} (hs : P ';') {path parameters : List Char}
    (hp : Within P path) (hq : Within P parameters) : Within P (withParameters path parameters) :=
  within_append.mpr ⟨hp, within_marked hs hq⟩

theorem within_cutParameters {P : Char → Prop} (hs : P '/') (scheme : List Char) {path : List Char}
    (h : Within P path) :
    Within P (Parts.cutParameters scheme path).1 ∧ Within P (Parts.cutParameters scheme path).2 := by
  simp only [Parts.cutParameters]
  split
  · split
    · next before last hl =>
        have hb := h.of_cutLast? hl
        split
        · next segment parameters hf =>
            have hm := hb.2.of_cutFirst? hf
            exact ⟨within_append.mpr ⟨hb.1, within_cons.mpr ⟨hs, hm.1⟩⟩, hm.2⟩
        · exact ⟨h, within_nil⟩
    · exact within_cutAt h ';'
  · exact ⟨h, within_nil⟩

theorem mem_takeSegment {segments done : List (List Char)} {s : List Char}
    (h : s ∈ segments.foldl takeSegment done) : s ∈ done ∨ s ∈ segments := by
  induction segments generalizing done with
  | nil => exact .inl h
  | cons segment segments ih =>
      rcases ih h with hd | hs
      · have ht : s ∈ done ∨ s = segment := by
          rw [takeSegment] at hd
          split at hd
          · exact .inl (List.mem_of_mem_drop hd)
          · split at hd
            · exact .inl hd
            · rcases List.mem_cons.mp hd with hd | hd
              · exact .inr hd
              · exact .inl hd
        rcases ht with ht | rfl
        · exact .inl ht
        · exact .inr List.mem_cons_self
      · exact .inr (List.mem_cons_of_mem _ hs)

theorem mem_resolveDots {segments : List (List Char)} {s : List Char}
    (h : s ∈ resolveDots segments) : s = [] ∨ s ∈ segments := by
  have hf : ∀ s ∈ (segments.foldl takeSegment []).reverse, s ∈ segments := by
    intro s hs
    rcases mem_takeSegment (List.mem_reverse.mp hs) with hs | hs
    · cases hs
    · exact hs
  simp only [resolveDots] at h
  split at h
  · split at h
    · rcases List.mem_append.mp h with h | h
      · exact .inr (hf s h)
      · exact .inl (List.mem_singleton.mp h)
    · exact .inr (hf s h)
  · exact .inr (hf s h)

theorem mem_dropEmptyMiddle {segments : List (List Char)} {s : List Char}
    (h : s ∈ dropEmptyMiddle segments) : s ∈ segments := by
  cases segments with
  | nil => exact h
  | cons first rest =>
      simp only [dropEmptyMiddle, List.cons_append, List.mem_cons, List.mem_append,
        List.mem_filter] at h
      rcases h with rfl | ⟨h, -⟩ | h
      · exact List.mem_cons_self
      · exact List.mem_cons_of_mem _ (List.mem_of_mem_dropLast h)
      · exact List.mem_cons_of_mem _ (List.mem_of_getLast? (Option.mem_toList.mp h))

theorem within_mergePath {P : Char → Prop} (hs : P '/') {base path : List Char} (hb : Within P base)
    (hp : Within P path) : Within P (mergePath base path) := by
  have hm : ∀ s ∈ mergeSegments base path, Within P s := by
    intro s h
    have hown := hp.splitAt '/' s
    simp only [mergeSegments] at h
    split at h
    · exact hown h
    · rcases List.mem_append.mp (mem_dropEmptyMiddle h) with h | h
      · refine hb.splitAt '/' s ?_
        split at h
        · exact h
        · exact List.mem_of_mem_dropLast h
      · exact hown h
  have hj : Within P (joinWith ['/'] (resolveDots (mergeSegments base path))) := by
    refine within_joinWith (within_cons.mpr ⟨hs, within_nil⟩) ?_
    intro s h
    rcases mem_resolveDots h with rfl | h
    · exact within_nil
    · exact hm s h
  rw [mergePath]
  split
  · exact within_cons.mpr ⟨hs, within_nil⟩
  · exact hj

section Resolve

variable {b t : Parts}

def Parts.Relative (b t : Parts) : Prop :=
  (if t.scheme = [] then b.scheme else t.scheme) = b.scheme ∧
    relativeSchemes.contains b.scheme = true

def Parts.HasOwn (b t : Parts) : Prop :=
  (authoritySchemes.contains b.scheme && !t.authority.isEmpty) = true

/-- The path, the query and the fragment that a target without an authority comes to. -/
def Parts.merged (b t : Parts) (authority : List Char) : Parts :=
  let tp := Parts.cutParameters b.scheme t.path
  let bp := Parts.cutParameters b.scheme b.path
  if tp.1 = [] ∧ tp.2 = [] then
    ⟨b.scheme, authority, withParameters bp.1 bp.2, if t.query = [] then b.query else t.query,
      t.fragment⟩
  else ⟨b.scheme, authority, withParameters (mergePath bp.1 tp.1) tp.2, t.query, t.fragment⟩

theorem resolve_of_not_relative (h : ¬b.Relative t) : b.resolve? t = none := by
  rw [Parts.resolve?, if_pos]
  rw [Parts.Relative, not_and_or, Bool.not_eq_true] at h
  rcases h with h | h
  · exact .inl h
  · by_cases hs : (if t.scheme = [] then b.scheme else t.scheme) = b.scheme
    · rw [hs, h]
      exact .inr rfl
    · exact .inl hs

theorem resolve_of_own (h : b.Relative t) (ho : b.HasOwn t) :
    b.resolve? t = some ⟨b.scheme, t.authority,
      withParameters (Parts.cutParameters b.scheme t.path).1 (Parts.cutParameters b.scheme t.path).2,
      t.query, t.fragment⟩ := by
  have hn : ¬(b.scheme ≠ b.scheme ∨ (!relativeSchemes.contains b.scheme) = true) := by
    simp only [ne_eq, not_true_eq_false, false_or, h.2, Bool.not_true, Bool.false_eq_true,
      not_false_eq_true]
  simp only [Parts.resolve?, h.1]
  rw [if_neg hn]
  exact if_pos ho

theorem resolve_of_not_own (h : b.Relative t) (ho : ¬b.HasOwn t) :
    b.resolve? t = some (b.merged t
      (if authoritySchemes.contains b.scheme then b.authority else t.authority)) := by
  have hn : ¬(b.scheme ≠ b.scheme ∨ (!relativeSchemes.contains b.scheme) = true) := by
    simp only [ne_eq, not_true_eq_false, false_or, h.2, Bool.not_true, Bool.false_eq_true,
      not_false_eq_true]
  simp only [Parts.resolve?, h.1]
  rw [if_neg hn]
  refine (if_neg ho).trans ?_
  simp only [Parts.merged]
  split <;> rfl

theorem isPlain_merged (hb : b.IsPlain) (ht : t.IsPlain) {authority : List Char}
    (ha : Within IsHostChar authority) :
    (b.merged t authority).IsPlain := by
  have htp := within_cutParameters (by decide) b.scheme ht.path
  have hbp := within_cutParameters (by decide) b.scheme hb.path
  simp only [Parts.merged]
  split
  · refine ⟨hb.isScheme, ha, within_withParameters (by decide) hbp.1 hbp.2, ?_, ht.fragment⟩
    simp only
    split
    · exact hb.query
    · exact ht.query
  · exact ⟨hb.isScheme, ha,
      within_withParameters (by decide) (within_mergePath (by decide) hbp.1 htp.1) htp.2, ht.query,
      ht.fragment⟩

theorem isPlain_own (hb : b.IsPlain) (ht : t.IsPlain) :
    Parts.IsPlain ⟨b.scheme, t.authority,
      withParameters (Parts.cutParameters b.scheme t.path).1 (Parts.cutParameters b.scheme t.path).2,
      t.query, t.fragment⟩ := by
  have htp := within_cutParameters (by decide) b.scheme ht.path
  exact ⟨hb.isScheme, ht.authority, within_withParameters (by decide) htp.1 htp.2, ht.query,
    ht.fragment⟩

theorem merged_withUser (b t : Parts) (user authority : List Char) :
    (b.withUser user).merged t (user ++ '@' :: authority) =
      (b.merged t authority).withUser user := by
  by_cases h : (Parts.cutParameters b.scheme t.path).1 = [] ∧
      (Parts.cutParameters b.scheme t.path).2 = []
  · have hw : (b.withUser user).merged t (user ++ '@' :: authority) = _ := if_pos h
    have hm : b.merged t authority = _ := if_pos h
    rw [hw, hm]
    rfl
  · have hw : (b.withUser user).merged t (user ++ '@' :: authority) = _ := if_neg h
    have hm : b.merged t authority = _ := if_neg h
    rw [hw, hm]
    rfl

theorem merged_authority (b t : Parts) (authority : List Char) :
    (b.merged t authority).scheme = b.scheme ∧ (b.merged t authority).authority = authority := by
  simp only [Parts.merged]
  split <;> exact ⟨rfl, rfl⟩

/-- A target stands for itself, has its own authority, or takes that of the base; the base's
authority matters for nothing else. -/
theorem resolve_cases (hb : b.IsPlain) (ht : t.IsPlain) :
    (∀ user, (b.withUser user).resolve? t = none) ∨
      (∃ p : Parts, p.IsPlain ∧ ∀ user, (b.withUser user).resolve? t = some p) ∨
      ∃ p : Parts, p.IsPlain ∧ p.scheme = b.scheme ∧ p.authority = b.authority ∧
        ∀ user, (b.withUser user).resolve? t = some (p.withUser user) := by
  by_cases hr : b.Relative t
  swap
  · exact .inl fun user => resolve_of_not_relative (b := b.withUser user) hr
  by_cases ho : b.HasOwn t
  · exact .inr (.inl ⟨_, isPlain_own hb ht, fun user =>
      resolve_of_own (b := b.withUser user) hr ho⟩)
  by_cases ha : authoritySchemes.contains b.scheme = true
  · refine .inr (.inr ⟨b.merged t b.authority, isPlain_merged hb ht hb.authority,
      (merged_authority b t _).1, (merged_authority b t _).2, fun user => ?_⟩)
    have h := resolve_of_not_own (b := b.withUser user) hr ho
    rw [h, ← merged_withUser]
    simp only [Parts.withUser, ha, if_true]
  · refine .inr (.inl ⟨b.merged t t.authority, isPlain_merged hb ht ht.authority, fun user => ?_⟩)
    have h := resolve_of_not_own (b := b.withUser user) hr ho
    rw [h]
    simp only [Parts.withUser, ha, Parts.merged]
    rfl

theorem isPlain_resolve {p : Parts} (hb : b.IsPlain) (ht : t.IsPlain)
    (h : b.resolve? t = some p) : p.IsPlain := by
  by_cases hr : b.Relative t
  swap
  · rw [resolve_of_not_relative hr] at h
    cases h
  by_cases ho : b.HasOwn t
  · rw [resolve_of_own hr ho] at h
    cases h
    exact isPlain_own hb ht
  · rw [resolve_of_not_own hr ho] at h
    cases h
    refine isPlain_merged hb ht ?_
    split
    · exact hb.authority
    · exact ht.authority

end Resolve

theorem plain_join {base target cs : List Char} (hb : Within Text.IsPlain base)
    (ht : Within Text.IsPlain target) (h : join base target = .ok cs) :
    Within Text.IsPlain cs := by
  rw [join] at h
  split at h
  · cases h
    exact ht
  · split at h
    · cases h
      exact hb
    · cases hsb : split base with
      | error e => simp [hsb, bind, Except.bind] at h
      | ok b =>
          cases hst : split target with
          | error e => simp [hsb, hst, bind, Except.bind] at h
          | ok t =>
              simp only [hsb, hst, bind, Except.bind, pure, Except.pure, Except.ok.injEq] at h
              subst h
              split
              · next p hp =>
                  exact (isPlain_resolve (plain_of_split hsb hb) (plain_of_split hst ht) hp).text
              · exact ht

/-- A URL that is fixed, or one that is left open for a login. -/
inductive Spot where
  | fixed (cs : List Char) (plain : Within Text.IsPlain cs)
  | dressed (p : Place)

def Spot.text : Spot → Login → List Char
  | .fixed cs _, _ => cs
  | .dressed p, l => p.dress l

theorem join_dress (p : Place) {location : List Char} (hl : Within Text.IsPlain location) :
    ∃ r : Except SplitError Spot,
      (∀ l, join (p.dress l) location = r.map (·.text l)) ∧
        ∀ q, r = .ok (.dressed q) → q.scheme = p.scheme ∧ q.authority = p.authority := by
  by_cases hne : location = []
  · refine ⟨.ok (.dressed p), fun l => ?_, ?_⟩
    · rw [join, if_neg (p.dress_ne_nil l), if_pos hne]
      rfl
    · rintro q hq
      cases hq
      exact ⟨rfl, rfl⟩
  cases hb : checkBrackets p.authority with
  | error e =>
      refine ⟨.error e, fun l => ?_, by simp⟩
      rw [join, if_neg (p.dress_ne_nil l), if_neg hne, p.split_dress l, hb]
      rfl
  | ok _ =>
      cases ht : split location with
      | error e =>
          refine ⟨.error e, fun l => ?_, by simp⟩
          rw [join, if_neg (p.dress_ne_nil l), if_neg hne, p.split_dress l, hb, ht]
          rfl
      | ok t =>
          have hj (l : Login) : join (p.dress l) location =
              .ok (((p.parts.withUser l.text).resolve? t).elim location Parts.text) := by
            rw [join, if_neg (p.dress_ne_nil l), if_neg hne, p.split_dress l, hb, ht]
            cases hq : (p.parts.withUser l.text).resolve? t with
            | none => simp [Except.map, bind, Except.bind, pure, Except.pure, hq]
            | some q => simp [Except.map, bind, Except.bind, pure, Except.pure, hq]
          rcases resolve_cases p.parts_plain (plain_of_split ht hl) with h | ⟨q, hq, h⟩ |
            ⟨q, hq, hs, ha, h⟩
          · refine ⟨.ok (.fixed location hl), fun l => ?_, by simp⟩
            rw [hj, h]
            rfl
          · refine ⟨.ok (.fixed q.text hq.text), fun l => ?_, by simp⟩
            rw [hj, h]
            rfl
          · refine ⟨.ok (.dressed (q.place hq)), fun l => ?_, ?_⟩
            · rw [hj, h]
              exact congrArg Except.ok (Parts.text_withUser hq l)
            · rintro r hr
              cases hr
              exact ⟨hs, ha⟩

end SqlCluster.Uri
