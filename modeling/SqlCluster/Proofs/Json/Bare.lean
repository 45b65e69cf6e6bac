import SqlCluster.Proofs.Json.Layout
import SqlCluster.Proofs.Json.Standard
/-!
What stands outside the quoted texts of a JSON text, as a scan from the left tells it. No text of
the standard has a capital `N` or `I` there, and every spelling of a number that is none has one.
-/
namespace SqlCluster.Json

open Text Number

/-- Where a scan stands: outside the quoted texts, inside one, or behind a backslash in one. -/
inductive Place where
  | outside
  | inside
  | escaped
  deriving DecidableEq

def Place.next : Place → Char → Place
  | .outside, c => if c = '"' then .inside else .outside
  | .inside, c => if c = '"' then .outside else if c = '\\' then .escaped else .inside
  | .escaped, _ => .inside

def placeAfter (p : Place) (cs : List Char) : Place := cs.foldl Place.next p

def bareFrom : Place → List Char → List Char
  | _, [] => []
  | p, c :: cs => if p = .outside then c :: bareFrom (p.next c) cs else bareFrom (p.next c) cs

def bare (cs : List Char) : List Char := bareFrom .outside cs

/-- A scan that begins outside is outside again at the end. -/
def Balanced (cs : List Char) : Prop := placeAfter .outside cs = .outside

theorem placeAfter_append (p : Place) (cs ds : List Char) :
    placeAfter p (cs ++ ds) = placeAfter (placeAfter p cs) ds := List.foldl_append

theorem bareFrom_append (p : Place) (cs ds : List Char) :
    bareFrom p (cs ++ ds) = bareFrom p cs ++ bareFrom (placeAfter p cs) ds := by
  induction cs generalizing p with
  | nil => rfl
  | cons c cs ih =>
      rw [List.cons_append, bareFrom, bareFrom, ih]
      split <;> rfl

theorem balanced_of_unquoted {cs : List Char} (h : Within (· ≠ '"') cs) :
    Balanced cs ∧ bare cs = cs := by
  induction cs with
  | nil => exact ⟨rfl, rfl⟩
  | cons c cs ih =>
      rw [within_cons] at h
      have hnext : Place.next .outside c = .outside := if_neg h.1
      obtain ⟨hb, he⟩ := ih h.2
      refine ⟨?_, ?_⟩
      · rwa [Balanced, placeAfter, List.foldl_cons, hnext]
      · rw [bare, bareFrom, if_pos rfl, hnext]
        exact congrArg (c :: ·) he

namespace Balanced

variable {cs ds : List Char}

theorem bare_append (h : Balanced cs) : bare (cs ++ ds) = bare cs ++ bare ds := by
  rw [bare, bareFrom_append, h]
  rfl

theorem append (h : Balanced cs) (hd : Balanced ds) : Balanced (cs ++ ds) := by
  rw [Balanced, placeAfter_append, h]
  exact hd

theorem joinWith {sep : List Char} (hs : Balanced sep) {texts : List (List Char)}
    (h : ∀ t ∈ texts, Balanced t) : Balanced (joinWith sep texts) :=
  joinWith_closed (P := Balanced) rfl append hs h

theorem enclosed (h : Balanced cs) {o c : Char} (ho : o ≠ '"') (hc : c ≠ '"') :
    Balanced (o :: (cs ++ [c])) ∧ bare cs ⊆ bare (o :: (cs ++ [c])) := by
  obtain ⟨hopen, heo⟩ := balanced_of_unquoted (within_cons.mpr ⟨ho, within_nil⟩)
  obtain ⟨hclose, -⟩ := balanced_of_unquoted (within_cons.mpr ⟨hc, within_nil⟩)
  refine ⟨hopen.append (h.append hclose), ?_⟩
  have hbare : bare (o :: (cs ++ [c])) = [o] ++ (bare cs ++ bare [c]) :=
    calc bare ([o] ++ (cs ++ [c]))
        = bare [o] ++ bare (cs ++ [c]) := hopen.bare_append
      _ = [o] ++ (bare cs ++ bare [c]) := by rw [heo, h.bare_append]
  rw [hbare]
  exact List.Subset.trans (List.subset_append_left _ _) (List.subset_append_right _ _)

theorem bare_subset_joinWith {sep : List Char} (hs : Balanced sep) {texts : List (List Char)}
    (h : ∀ t ∈ texts, Balanced t) {t : List Char} (ht : t ∈ texts) :
    bare t ⊆ bare (Text.joinWith sep texts) := by
  induction texts with
  | nil => cases ht
  | cons u us ih =>
      rw [List.forall_mem_cons] at h
      cases us with
      | nil =>
          rw [List.mem_singleton.mp ht]
          exact List.Subset.refl _
      | cons v vs =>
          rw [Text.joinWith, (h.1.append hs).bare_append, h.1.bare_append]
          rcases List.mem_cons.mp ht with rfl | ht
          · exact List.Subset.trans (List.subset_append_left _ _) (List.subset_append_left _ _)
          · exact List.Subset.trans (ih h.2 ht) (List.subset_append_right _ _)

end Balanced

/-- No character that the spellings of numbers that are none have, and the standard's words have
not. -/
def Sober (c : Char) : Prop := c ≠ 'N' ∧ c ≠ 'I'

instance (c : Char) : Decidable (Sober c) := inferInstanceAs (Decidable (_ ∧ _))

/-- A part after which a scan is outside again, and which has only sober characters bare. -/
structure Regular (cs : List Char) : Prop where
  balanced : Balanced cs
  sober : Within Sober (bare cs)

namespace Regular

theorem append {cs ds : List Char} (h : Regular cs) (hd : Regular ds) : Regular (cs ++ ds) where
  balanced := h.balanced.append hd.balanced
  sober := by
    rw [h.balanced.bare_append, within_append]
    exact ⟨h.sober, hd.sober⟩

theorem joinWith {sep : List Char} (hs : Regular sep) {texts : List (List Char)}
    (h : ∀ t ∈ texts, Regular t) : Regular (joinWith sep texts) :=
  joinWith_closed ⟨rfl, within_nil⟩ append hs h

end Regular

theorem regular_of_plain {cs : List Char} (h : Within (fun c => c ≠ '"' ∧ Sober c) cs) :
    Regular cs := by
  obtain ⟨hb, he⟩ := balanced_of_unquoted (h.mono fun _ hc => hc.1)
  refine ⟨hb, ?_⟩
  rw [he]
  exact h.mono fun _ hc => hc.2

theorem Regular.enclosed {cs : List Char} (h : Regular cs) {o c : Char} (ho : o ≠ '"' ∧ Sober o)
    (hc : c ≠ '"' ∧ Sober c) : Regular (o :: (cs ++ [c])) := by
  have hopen : Regular [o] := regular_of_plain (within_cons.mpr ⟨ho, within_nil⟩)
  have hclose : Regular [c] := regular_of_plain (within_cons.mpr ⟨hc, within_nil⟩)
  exact hopen.append (h.append hclose)

theorem regular_blanks {b : List Char} (h : Blanks b) : Regular b := by
  refine regular_of_plain (h.mono fun c hc => ?_)
  simp only [isSpace, Bool.or_eq_true, beq_iff_eq] at hc
  rcases hc with ((rfl | rfl) | rfl) | rfl <;> decide

def StaysInside (cs : List Char) : Prop :=
  placeAfter .inside cs = .inside ∧ bareFrom .inside cs = []

theorem not_special_of_hexValue? {c : Char} {n : Nat} (h : hexValue? c = some n) :
    c ≠ '"' ∧ c ≠ '\\' := by
  have hquote : hexValue? '"' = none := rfl
  have hslash : hexValue? '\\' = none := rfl
  constructor
  · rintro rfl
    rw [hquote] at h
    cases h
  · rintro rfl
    rw [hslash] at h
    cases h

theorem Glyph.staysInside {g : List Char} (h : Glyph g) : StaysInside g := by
  have one {c : Char} (hc : c ≠ '"' ∧ c ≠ '\\') : Place.next .inside c = .inside := by
    rw [Place.next, if_neg hc.1, if_neg hc.2]
  cases h with
  | bare h hq hb =>
      have hnext := one ⟨hq, hb⟩
      exact ⟨hnext, by simp [bareFrom]⟩
  | short h => exact ⟨rfl, rfl⟩
  | unit h =>
      obtain ⟨h⟩ := h
      simp only [unit?, Option.bind_eq_bind, Option.bind_eq_some_iff] at h
      obtain ⟨w, hw, x, hx, y, hy, z, hz, -⟩ := h
      have ha := one (not_special_of_hexValue? hw)
      have hb := one (not_special_of_hexValue? hx)
      have hc := one (not_special_of_hexValue? hy)
      have hd := one (not_special_of_hexValue? hz)
      have hslash : Place.next .inside '\\' = .escaped := rfl
      have hu : Place.next .escaped 'u' = .inside := rfl
      constructor
      · simp only [placeAfter, List.foldl_cons, List.foldl_nil, hslash, hu, ha, hb, hc, hd]
      · simp [bareFrom, hslash, hu, ha, hb, hc]

theorem staysInside_flatten {glyphs : List (List Char)} (h : ∀ g ∈ glyphs, Glyph g) :
    StaysInside glyphs.flatten := by
  induction glyphs with
  | nil => exact ⟨rfl, rfl⟩
  | cons g gs ih =>
      rw [List.forall_mem_cons] at h
      obtain ⟨hp, hb⟩ := h.1.staysInside
      obtain ⟨hps, hbs⟩ := ih h.2
      rw [StaysInside, List.flatten_cons, placeAfter_append, bareFrom_append, hp, hb, hbs]
      exact ⟨hps, rfl⟩

theorem Quoted.regular {cs : List Char} (h : Quoted cs) : Regular cs := by
  obtain ⟨h⟩ := h
  rename_i glyphs
  obtain ⟨hp, hb⟩ := staysInside_flatten h
  have hopen : Place.next .outside '"' = .inside := rfl
  constructor
  · rw [Balanced, placeAfter, List.foldl_cons, hopen, ← placeAfter, placeAfter_append, hp]
    rfl
  · rw [bare, bareFrom, if_pos rfl, hopen, bareFrom_append, hb, hp]
    decide

theorem Numeral.regular {cs : List Char} (h : Numeral cs) : Regular cs := by
  have hrow {ds : List Char} (hd : IsRow ds) : Within (fun c => c ≠ '"' ∧ Sober c) ds :=
    hd.mono fun c hc => of_asciiDigit (P := fun c => c ≠ '"' ∧ Sober c) (by decide) hc
  obtain ⟨hw, hf, he⟩ := h
  refine regular_of_plain (within_append.mpr ⟨?_, within_append.mpr ⟨hrow hw.row, ?_⟩⟩)
  · rename_i negative _ _ _ _ _
    cases negative <;> decide
  · refine within_append.mpr ⟨?_, ?_⟩
    · cases hf with
      | absent => exact within_nil
      | present h _ => exact within_cons.mpr ⟨by decide, hrow h⟩
    · cases he with
      | absent => exact within_nil
      | present he hs h _ =>
          refine within_cons.mpr ⟨by rcases he with rfl | rfl <;> decide, ?_⟩
          refine within_append.mpr ⟨by cases hs <;> decide, hrow h⟩

mutual

theorem Legal.regular : ∀ {cs : List Char}, Legal cs → Regular cs
  | _, .null => regular_of_plain (by decide)
  | _, .bool (b := b) => regular_of_plain (by cases b <;> decide)
  | _, .number h => h.regular
  | _, .quoted h => h.regular
  | _, .empty hb => (regular_blanks hb).enclosed (by decide) (by decide)
  | _, .list _ h =>
      (Regular.joinWith (regular_of_plain (by decide)) fun t ht => (h t ht).regular).enclosed
        (by decide) (by decide)
  | _, .emptyMap hb => (regular_blanks hb).enclosed (by decide) (by decide)
  | _, .map _ h =>
      (Regular.joinWith (regular_of_plain (by decide)) fun t ht => (h t ht).regular).enclosed
        (by decide) (by decide)

theorem LegalItem.regular : ∀ {cs : List Char}, LegalItem cs → Regular cs
  | _, .mk hb h ha => (regular_blanks hb).append (h.regular.append (regular_blanks ha))

theorem LegalMember.regular : ∀ {cs : List Char}, LegalMember cs → Regular cs
  | _, .mk hb hk hc hd h ha =>
      have hcolon : Regular [':'] := regular_of_plain (by decide)
      have hvalue := hcolon.append ((regular_blanks hd).append h.regular)
      have hmember := hk.regular.append ((regular_blanks hc).append hvalue)
      (regular_blanks hb).append (hmember.append (regular_blanks ha))

end

theorem renderItems_eq (js : List Json) : renderItems js = js.map render := by
  induction js with
  | nil => rfl
  | cons j js ih => rw [renderItems, ih, List.map_cons]

theorem renderMembers_eq (ms : List (String × Json)) :
    renderMembers ms = ms.map fun m => textChars m.1 ++ ':' :: ' ' :: render m.2 := by
  induction ms with
  | nil => rfl
  | cons m ms ih => rw [renderMembers, ih, List.map_cons]

theorem legal_render_list {js : List Json} (h : ∀ j ∈ js, Legal (render j)) :
    Legal (render (.list js)) := by
  rw [render, renderItems_eq]
  exact (arrayText_comma (List.forall_mem_map.mpr h)).legal fun _ hcs => hcs

theorem legal_render_map {ms : List (String × Json)} (h : ∀ m ∈ ms, Legal (render m.2)) :
    Legal (render (.map ms)) := by
  rw [render, renderMembers_eq]
  exact legal_members_comma (List.forall_mem_map.mpr fun m hm =>
    ⟨_, _, (quotedText_textChars m.1).quoted, h m hm, rfl⟩)

theorem not_sober_float {d : Double} (h : d.isFinite = false) :
    ¬Within Sober (bare (render (.float d))) := by
  cases d with
  | nan => decide
  | infinite s => cases s <;> decide
  | finite s m e => cases h

theorem balanced_comma : Balanced comma := rfl

mutual

theorem balanced_render : ∀ j : Json, Balanced (render j)
  | .null => rfl
  | .bool true => rfl
  | .bool false => rfl
  | .int n => (textOf_decimalInt n).legal.regular.balanced
  | .float .nan => rfl
  | .float (.infinite true) => rfl
  | .float (.infinite false) => rfl
  | .float (.finite s m e) => by
      obtain ⟨j, hj⟩ := textOf_chars .script (d := .finite s m e) rfl
      exact hj.legal.regular.balanced
  | .text s => (quotedText_textChars s).quoted.regular.balanced
  | .list js =>
      ((balanced_comma.joinWith (balanced_renderItems js)).enclosed (by decide) (by decide)).1
  | .map ms =>
      ((balanced_comma.joinWith (balanced_renderMembers ms)).enclosed (by decide) (by decide)).1

theorem balanced_renderItems : ∀ js : List Json, ∀ t ∈ renderItems js, Balanced t
  | [] => fun _ ht => nomatch ht
  | j :: js => List.forall_mem_cons.mpr ⟨balanced_render j, balanced_renderItems js⟩

theorem balanced_renderMembers : ∀ ms : List (String × Json), ∀ t ∈ renderMembers ms, Balanced t
  | [] => fun _ ht => nomatch ht
  | (k, j) :: ms => by
      have hcolon : Balanced [':', ' '] := rfl
      have hmember := (quotedText_textChars k).quoted.regular.balanced.append
        (hcolon.append (balanced_render j))
      exact List.forall_mem_cons.mpr ⟨hmember, balanced_renderMembers ms⟩

end

/-- What is bare in an item is so in the list, and what is in a member's value in the object. -/
theorem bare_subset_list {js : List Json} {j : Json} (hj : j ∈ js) :
    bare (render j) ⊆ bare (render (.list js)) := by
  have hparts := balanced_renderItems js
  have hmem : render j ∈ renderItems js := by
    rw [renderItems_eq]
    exact List.mem_map_of_mem hj
  have hin := (balanced_comma.joinWith hparts).enclosed (o := '[') (c := ']') (by decide) (by decide)
  rw [render]
  exact List.Subset.trans (balanced_comma.bare_subset_joinWith hparts hmem) hin.2

theorem bare_subset_map {ms : List (String × Json)} {m : String × Json} (hm : m ∈ ms) :
    bare (render m.2) ⊆ bare (render (.map ms)) := by
  have hparts := balanced_renderMembers ms
  have hmem : textChars m.1 ++ ':' :: ' ' :: render m.2 ∈ renderMembers ms := by
    rw [renderMembers_eq]
    exact List.mem_map.mpr ⟨m, hm, rfl⟩
  have hcolon : Balanced [':', ' '] := rfl
  have hkey := (quotedText_textChars m.1).quoted.regular.balanced
  have hvalue : bare (render m.2) ⊆ bare (textChars m.1 ++ ':' :: ' ' :: render m.2) := by
    have hsplit : bare (textChars m.1 ++ ([':', ' '] ++ render m.2)) = _ := hkey.bare_append
    rw [hcolon.bare_append] at hsplit
    show bare (render m.2) ⊆ bare (textChars m.1 ++ ([':', ' '] ++ render m.2))
    rw [hsplit]
    exact List.Subset.trans (List.subset_append_right _ _) (List.subset_append_right _ _)
  have hin := (balanced_comma.joinWith hparts).enclosed (o := '\x7b') (c := '\x7d') (by decide)
    (by decide)
  rw [render]
  exact List.Subset.trans
    (List.Subset.trans hvalue (balanced_comma.bare_subset_joinWith hparts hmem)) hin.2

end SqlCluster.Json
