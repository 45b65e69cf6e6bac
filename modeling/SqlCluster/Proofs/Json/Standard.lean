import SqlCluster.Proofs.Json.Nested
/-!
The texts of JSON by the standard's grammar alone, whatever tree they stand for: a numbered escape
may be any unit, half of a surrogate pair among them. Every text of a tree is one of them.
-/
namespace SqlCluster.Json

open Number Text

inductive Glyph : List Char → Prop
  | bare {c : Char} (h : 0x20 ≤ c.toNat) (hq : c ≠ '"') (hb : c ≠ '\\') : Glyph [c]
  | short {e c : Char} (h : shortEscape? e = some c) : Glyph ['\\', e]
  | unit {n : Nat} {us : List Char} (h : UnitText n us) : Glyph us

inductive Quoted : List Char → Prop
  | mk {glyphs : List (List Char)} (h : ∀ g ∈ glyphs, Glyph g) :
      Quoted ('"' :: (glyphs.flatten ++ ['"']))

inductive Numeral : List Char → Prop
  | mk {negative : Bool} {ws ds fs es : List Char} {e : Int} (h : IsWhole ws)
      (hf : FractionText ds fs) (he : ExponentText e es) :
      Numeral (minus negative ++ (ws ++ (fs ++ es)))

mutual

inductive Legal : List Char → Prop
  | null : Legal "null".toList
  | bool {b : Bool} : Legal (wordOf b)
  | number {cs : List Char} (h : Numeral cs) : Legal cs
  | quoted {cs : List Char} (h : Quoted cs) : Legal cs
  | empty {b : List Char} (hb : Blanks b) : Legal ('[' :: (b ++ [']']))
  | list {texts : List (List Char)} (hne : texts ≠ []) (h : ∀ t ∈ texts, LegalItem t) :
      Legal ('[' :: (joinWith [','] texts ++ [']']))
  | emptyMap {b : List Char} (hb : Blanks b) : Legal ('\x7b' :: (b ++ ['\x7d']))
  | map {texts : List (List Char)} (hne : texts ≠ []) (h : ∀ t ∈ texts, LegalMember t) :
      Legal ('\x7b' :: (joinWith [','] texts ++ ['\x7d']))

inductive LegalItem : List Char → Prop
  | mk {b cs a : List Char} (hb : Blanks b) (h : Legal cs) (ha : Blanks a) :
      LegalItem (b ++ (cs ++ a))

inductive LegalMember : List Char → Prop
  | mk {b ks c d cs a : List Char} (hb : Blanks b) (hk : Quoted ks) (hc : Blanks c)
      (hd : Blanks d) (h : Legal cs) (ha : Blanks a) :
      LegalMember (b ++ ((ks ++ (c ++ ':' :: (d ++ cs))) ++ a))

end

theorem CharForm.glyphs {c : Char} {cs : List Char} (h : CharForm c cs) :
    ∃ glyphs : List (List Char), cs = glyphs.flatten ∧ ∀ g ∈ glyphs, Glyph g := by
  have one {us : List Char} (hg : Glyph us) :
      ∃ glyphs : List (List Char), us = glyphs.flatten ∧ ∀ g ∈ glyphs, Glyph g :=
    ⟨[us], by simp, by simpa using hg⟩
  cases h with
  | bare h hq hb => exact one (.bare h hq hb)
  | short h => exact one (.short h)
  | unit h => exact one (.unit h)
  | @pair us vs _ hu hv =>
      refine ⟨[us, vs], by simp, ?_⟩
      intro g hg
      rcases List.mem_pair.mp hg with rfl | rfl
      · exact .unit hu
      · exact .unit hv

theorem glyphs_of_forms {cs : List Char} {forms : List (List Char)}
    (h : List.Forall₂ CharForm cs forms) :
    ∃ glyphs : List (List Char), forms.flatten = glyphs.flatten ∧ ∀ g ∈ glyphs, Glyph g := by
  induction h with
  | nil => exact ⟨[], rfl, by simp⟩
  | cons hc _ ih =>
      obtain ⟨gs, rfl, hg⟩ := hc.glyphs
      obtain ⟨hs, he, hh⟩ := ih
      refine ⟨gs ++ hs, by simp [he], ?_⟩
      intro g hm
      exact (List.mem_append.mp hm).elim (hg g) (hh g)

theorem QuotedText.quoted {s : String} {cs : List Char} (h : QuotedText s cs) : Quoted cs := by
  obtain ⟨h⟩ := h
  obtain ⟨glyphs, he, hg⟩ := glyphs_of_forms h
  exact he ▸ .mk hg

variable {rules : Rules}

theorem NumberText.numeral {negative : Bool} {j : Json} {cs : List Char}
    (h : NumberText rules negative j cs) : Numeral (minus negative ++ cs) := by
  cases h with
  | int h _ =>
      have hn : Numeral (minus negative ++ (cs ++ ([] ++ []))) := .mk h .absent .absent
      rwa [List.append_nil, List.append_nil] at hn
  | float h _ hf he _ => exact .mk h hf he

mutual

theorem TextOf.legal : ∀ {j : Json} {cs : List Char}, TextOf rules j cs → Legal cs
  | _, _, .null => .null
  | _, _, .bool => .bool
  | _, _, .number h => .number h.numeral
  | _, _, .text h => .quoted h.quoted
  | _, _, .empty hb => .empty hb
  | _, _, .list h => .list (by cases h; exact List.cons_ne_nil _ _) h.legal
  | _, _, .emptyMap hb => .emptyMap hb
  | _, _, .map h => .map (by cases h; exact List.cons_ne_nil _ _) h.legal

theorem ItemTexts.legal : ∀ {xs : List Json} {texts : List (List Char)},
    ItemTexts rules xs texts → ∀ t ∈ texts, LegalItem t
  | _, _, .nil => fun _ ht => nomatch ht
  | _, _, .cons hb h ha hs => List.forall_mem_cons.mpr ⟨.mk hb h.legal ha, hs.legal⟩

theorem MemberTexts.legal : ∀ {ms : List (String × Json)} {texts : List (List Char)},
    MemberTexts rules ms texts → ∀ t ∈ texts, LegalMember t
  | _, _, .nil => fun _ ht => nomatch ht
  | _, _, .cons hb hk hc hd h ha hs =>
      List.forall_mem_cons.mpr ⟨.mk hb hk.quoted hc hd h.legal ha, hs.legal⟩

end

inductive Spaced (p : List Char → Prop) : List Char → Prop
  | mk {b cs a : List Char} (hb : Blanks b) (h : p cs) (ha : Blanks a) : Spaced p (b ++ (cs ++ a))

inductive ArrayText (p : List Char → Prop) : List Char → Prop
  | empty {b : List Char} (hb : Blanks b) : ArrayText p ('[' :: (b ++ [']']))
  | items {texts : List (List Char)} (hne : texts ≠ []) (h : ∀ t ∈ texts, Spaced p t) :
      ArrayText p ('[' :: (joinWith [','] texts ++ [']']))

theorem Spaced.legal {p : List Char → Prop} (hp : ∀ cs, p cs → Legal cs) {t : List Char}
    (h : Spaced p t) : LegalItem t := by
  obtain ⟨hb, h, ha⟩ := h
  exact .mk hb (hp _ h) ha

theorem ArrayText.legal {p : List Char → Prop} (hp : ∀ cs, p cs → Legal cs) {cs : List Char}
    (h : ArrayText p cs) : Legal cs := by
  cases h with
  | empty hb => exact .empty hb
  | items hne h => exact .list hne fun t ht => (h t ht).legal hp

theorem blanks_space : Blanks [' '] := within_cons.mpr ⟨rfl, within_nil⟩

theorem Spaced.of_text {p : List Char → Prop} {cs : List Char} (h : p cs) :
    Spaced p cs ∧ Spaced p (' ' :: cs) := by
  have hbare := Spaced.mk within_nil h within_nil
  have hblank := Spaced.mk blanks_space h within_nil
  rw [List.append_nil] at hbare hblank
  exact ⟨hbare, hblank⟩

theorem LegalMember.of_texts {ks cs : List Char} (hk : Quoted ks) (h : Legal cs) :
    LegalMember (ks ++ ':' :: ' ' :: cs) ∧ LegalMember (' ' :: (ks ++ ':' :: ' ' :: cs)) := by
  have hbare := LegalMember.mk within_nil hk within_nil blanks_space h within_nil
  have hblank := LegalMember.mk blanks_space hk within_nil blanks_space h within_nil
  rw [List.append_nil] at hbare hblank
  exact ⟨hbare, hblank⟩

theorem forall_mem_spaced {q : List Char → Prop} {t : List Char} {ts : List (List Char)}
    (h : ∀ u ∈ t :: ts, q u ∧ q (' ' :: u)) : ∀ u ∈ t :: ts.map (' ' :: ·), q u := by
  rw [List.forall_mem_cons] at h
  exact List.forall_mem_cons.mpr ⟨h.1.1, List.forall_mem_map.mpr fun u hu => (h.2 u hu).2⟩

theorem arrayText_comma {p : List Char → Prop} {texts : List (List Char)} (h : ∀ t ∈ texts, p t) :
    ArrayText p ('[' :: joinWith comma texts ++ [']']) := by
  cases texts with
  | nil => exact .empty within_nil
  | cons t ts =>
      rw [joinWith_comma]
      exact .items (List.cons_ne_nil _ _) (forall_mem_spaced fun u hu => Spaced.of_text (h u hu))

theorem legal_members_comma {texts : List (List Char)}
    (h : ∀ t ∈ texts, ∃ ks cs, Quoted ks ∧ Legal cs ∧ t = ks ++ ':' :: ' ' :: cs) :
    Legal ('\x7b' :: joinWith comma texts ++ ['\x7d']) := by
  cases texts with
  | nil => exact .emptyMap within_nil
  | cons t ts =>
      rw [joinWith_comma]
      refine .map (List.cons_ne_nil _ _) (forall_mem_spaced fun u hu => ?_)
      obtain ⟨ks, cs, hk, hc, rfl⟩ := h u hu
      exact LegalMember.of_texts hk hc

end SqlCluster.Json
