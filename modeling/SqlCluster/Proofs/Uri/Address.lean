import SqlCluster.Proofs.Text.Within
import SqlCluster.Uri.Parts
/-!
What addresses are made of: an address with points of digits and points alone, and one with colons
opens with a colon or with a hexadecimal digit.
-/
namespace SqlCluster.Uri

open Text

theorem joinWith_splitAt (c : Char) (cs : List Char) : joinWith [c] (splitAt c cs) = cs := by
  induction cs with
  | nil => rfl
  | cons x xs ih =>
      rw [splitAt]
      split
      · next hx =>
          obtain ⟨p, ps, hp⟩ := List.exists_cons_of_ne_nil (splitAt_ne_nil c xs)
          rw [hp] at ih ⊢
          rw [joinWith, ih, hx]
          rfl
      · split
        · next hs => exact absurd hs (splitAt_ne_nil c xs)
        · next p ps hs =>
            rw [hs] at ih
            cases ps with
            | nil =>
                rw [joinWith] at ih ⊢
                rw [ih]
            | cons q qs =>
                rw [joinWith] at ih ⊢
                rw [List.cons_append, List.cons_append, ih]

theorem within_of_splitAt {p : Char → Prop} {c : Char} {cs : List Char} (hc : p c)
    (h : ∀ s ∈ splitAt c cs, Within p s) : Within p cs := by
  rw [← joinWith_splitAt c cs]
  exact within_joinWith (within_cons.mpr ⟨hc, within_nil⟩) h

def IsPointed (c : Char) : Prop := isAsciiDigit c = true ∨ c = '.'

theorem pointed_of_rows {cs : List Char}
    (h : ∀ s ∈ splitAt '.' cs, s.all isAsciiDigit = true) : Within IsPointed cs :=
  within_of_splitAt (.inr rfl) fun s hs c hc => .inl (List.all_eq_true.mp (h s hs) c hc)

theorem pointed_of_isIpv4 {cs : List Char} (h : isIpv4 cs = true) : Within IsPointed cs := by
  simp only [isIpv4, Bool.and_eq_true, List.all_eq_true] at h
  refine pointed_of_rows fun s hs => ?_
  have ho := h.2 s hs
  simp only [isOctet, Bool.and_eq_true] at ho
  exact ho.1.1.2

theorem widened_head {parts qs : List (List Char)} (h : widened parts = some qs)
    (hl : 2 ≤ parts.length) : qs.head? = parts.head? := by
  rw [widened] at h
  split at h
  · next last before hr =>
      have hp : parts = before.reverse ++ [last] := by
        rw [← List.reverse_reverse parts, hr, List.reverse_cons]
      have hb : before.reverse ≠ [] := by
        rintro hb
        rw [hp, hb] at hl
        exact absurd hl (by simp)
      split at h
      · split at h
        · cases h
          rw [List.reverse_cons, List.reverse_cons, hp, List.append_assoc,
            List.head?_append_of_ne_nil _ hb, List.head?_append_of_ne_nil _ hb]
        · cases h
      · cases h
        rfl
  · cases h
    rfl

theorem gap_head {parts left right : List (List Char)} (h : gap? parts = some (left, right)) :
    left.head? = parts.head? := by
  cases parts with
  | nil => cases h
  | cons p ps =>
      cases ps with
      | nil => cases h
      | cons q rest =>
          rw [gap?] at h
          split at h
          · cases h
            rfl
          · obtain ⟨g, -, he⟩ := Option.map_eq_some_iff.mp h
            cases he
            rfl

theorem group_of_isShortened {left right : List (List Char)} {p : List Char}
    (h : isShortened left right = true) (hp : left.head? = some p) (hne : p ≠ []) :
    isGroup p = true := by
  have hn : left.head? ≠ some [] := by
    rw [hp]
    exact fun he => hne (Option.some.inj he)
  simp only [isShortened, if_neg hn, Bool.and_eq_true, List.all_eq_true] at h
  exact h.1.2 p (List.mem_of_head? hp)

theorem group_of_isGroups {p : List Char} {ps : List (List Char)}
    (h : isGroups (p :: ps) = true) (hne : p ≠ []) : isGroup p = true := by
  simp only [isGroups, Bool.and_eq_true, decide_eq_true_eq] at h
  obtain ⟨hl, h⟩ := h
  split at h
  · cases h
  · next qs hq =>
      have hhead : qs.head? = some p := widened_head hq (by omega)
      rw [Bool.and_eq_true] at h
      have h := h.2
      split at h
      · next left right hg =>
          rw [Bool.and_eq_true] at h
          exact group_of_isShortened h.2 ((gap_head hg).trans hhead) hne
      · rw [Bool.and_eq_true] at h
        exact List.all_eq_true.mp h.2 p (List.mem_of_head? hhead)

theorem hex_of_isGroups {c : Char} {cs : List Char} (hc : c ≠ ':')
    (h : isGroups (splitAt ':' (c :: cs)) = true) : (hexValue? c).isSome = true := by
  have hs : ∃ p ps, splitAt ':' (c :: cs) = (c :: p) :: ps := by
    rw [splitAt, if_neg hc]
    split
    · exact ⟨[], [], rfl⟩
    · exact ⟨_, _, rfl⟩
  obtain ⟨p, ps, hs⟩ := hs
  rw [hs] at h
  have hg := group_of_isGroups h (List.cons_ne_nil c p)
  simp only [isGroup, Bool.and_eq_true, List.all_cons] at hg
  exact hg.2.1

theorem head_of_isIpv6 {c : Char} {cs : List Char} (h : isIpv6 (c :: cs) = true) :
    c = ':' ∨ (hexValue? c).isSome = true := by
  by_cases hc : c = ':'
  · exact .inl hc
  refine .inr ?_
  rw [isIpv6] at h
  split at h
  · next address zone hz =>
      rw [Bool.and_eq_true] at h
      cases address with
      | nil => exact absurd h.2 (by decide)
      | cons d ds =>
          have he := (List.cons.inj (eq_of_cutFirst? hz)).1
          rw [he]
          exact hex_of_isGroups (he ▸ hc) h.2
  · exact hex_of_isGroups hc h

theorem head_ne_of_isIpv6 {cs : List Char} (h : isIpv6 cs = true) :
    cs.head? ≠ some 'v' ∧ cs.head? ≠ some 'V' := by
  cases cs with
  | nil => exact ⟨by simp, by simp⟩
  | cons c cs =>
      have hc := head_of_isIpv6 h
      constructor
      · rintro he
        cases he
        exact absurd hc (by decide)
      · rintro he
        cases he
        exact absurd hc (by decide)

theorem two_of_splitAt {c : Char} {cs : List Char} (h : 3 ≤ (splitAt c cs).length) :
    ∃ a b, cs = a ++ c :: b ∧ c ∉ a ∧ c ∈ b := by
  cases hc : cutFirst? c cs with
  | none =>
      rw [splitAt_of_not_mem (not_mem_of_cutFirst?_eq_none hc)] at h
      exact absurd h (by simp)
  | some p =>
      obtain ⟨a, b⟩ := p
      have ha := not_mem_of_cutFirst? hc
      have he := eq_of_cutFirst? hc
      refine ⟨a, b, he, ha, ?_⟩
      by_contra hb
      rw [he, splitAt_append b ha, splitAt_of_not_mem hb] at h
      exact absurd h (by simp)

theorem two_of_isIpv6 {cs : List Char} (h : isIpv6 cs = true) :
    ∃ a b, cs = a ++ ':' :: b ∧ ':' ∉ a ∧ ':' ∈ b := by
  have hg {cs : List Char} (h : isGroups (splitAt ':' cs) = true) :
      ∃ a b, cs = a ++ ':' :: b ∧ ':' ∉ a ∧ ':' ∈ b := by
    rw [isGroups, Bool.and_eq_true, decide_eq_true_eq] at h
    exact two_of_splitAt h.1
  rw [isIpv6] at h
  split at h
  · next address zone hz =>
      rw [Bool.and_eq_true] at h
      obtain ⟨a, b, he, ha, hb⟩ := hg h.2
      refine ⟨a, b ++ '%' :: zone, ?_, ha, List.mem_append_left _ hb⟩
      rw [eq_of_cutFirst? hz, he, List.append_assoc, List.cons_append]
  · exact hg h

theorem colon_of_isIpv6 {cs : List Char} (h : isIpv6 cs = true) : ':' ∈ cs := by
  obtain ⟨a, b, rfl, -, -⟩ := two_of_isIpv6 h
  exact List.mem_append_right a List.mem_cons_self

theorem checkAddress_of_isIpv6 {cs : List Char} (h : isIpv6 cs = true) :
    checkAddress cs = .ok () := by
  have h4 : isIpv4 cs = false := by
    rw [Bool.eq_false_iff]
    intro h4
    exact absurd (pointed_of_isIpv4 h4 ':' (colon_of_isIpv6 h)) (by simp [IsPointed, isAsciiDigit])
  rw [checkAddress, if_neg (head_ne_of_isIpv6 h).1, h4, h]
  rfl

end SqlCluster.Uri
