import SqlCluster.Proofs.Uri.Address
/-!
The groups of an address. They are of hexadecimal digits, but for an address with points in the last
place, so that their letters are those of ASCII; and they stay groups in lower case.
-/
namespace SqlCluster.Uri

open Text

theorem isEmpty_asciiLower (cs : List Char) : (asciiLower cs).isEmpty = cs.isEmpty :=
  List.isEmpty_map

theorem isGroup_asciiLower (cs : List Char) : isGroup (asciiLower cs) = isGroup cs := by
  have hall : (asciiLower cs).all (fun c => (hexValue? c).isSome) =
      cs.all fun c => (hexValue? c).isSome := by
    simp only [asciiLower, List.all_map, Function.comp_def, isSome_hexValue_asciiLowerChar]
  have hlen : (asciiLower cs).length = cs.length := List.length_map _
  simp only [isGroup, hall, hlen, isEmpty_asciiLower]

theorem all_isGroup_asciiLower (parts : List (List Char)) :
    (parts.map asciiLower).all isGroup = parts.all isGroup := by
  simp only [List.all_map, Function.comp_def, isGroup_asciiLower]

theorem asciiLower_of_pointed {cs : List Char} (h : Within IsPointed cs) : asciiLower cs = cs := by
  refine (List.map_congr_left fun c hc => ?_).trans (List.map_id cs)
  rcases h c hc with hd | rfl
  · exact of_asciiDigit (P := fun c => asciiLowerChar c = c) (by decide) hd
  · rfl

theorem widened_asciiLower {parts groups : List (List Char)} (h : widened parts = some groups) :
    widened (parts.map asciiLower) = some (groups.map asciiLower) := by
  rw [widened] at h
  rw [widened, ← List.map_reverse]
  cases hr : parts.reverse with
  | nil =>
      rw [hr] at h
      cases h
      rfl
  | cons last before =>
      rw [hr] at h
      have hdot : (asciiLower last).contains '.' = last.contains '.' := by
        rw [Bool.eq_iff_iff, List.contains_iff_mem, List.contains_iff_mem]
        exact mem_asciiLower (by decide)
      simp only [List.map_cons, hdot] at h ⊢
      split at h
      · next hpoint =>
          split at h
          · next h4 =>
              cases h
              rw [if_pos hpoint, asciiLower_of_pointed (pointed_of_isIpv4 h4), if_pos h4,
                List.map_reverse]
              rfl
          · cases h
      · next hpoint =>
          cases h
          rw [if_neg hpoint]

theorem gap_asciiLower (parts : List (List Char)) : gap? (parts.map asciiLower) =
    (gap? parts).map fun g => (g.1.map asciiLower, g.2.map asciiLower) := by
  induction parts with
  | nil => rfl
  | cons p ps ih =>
      cases ps with
      | nil => rfl
      | cons q rest =>
          rw [List.map_cons] at ih
          simp only [List.map_cons, gap?, ih, isEmpty_asciiLower, List.isEmpty_map]
          split
          · rfl
          · cases gap? (q :: rest) <;> rfl

theorem isShortened_asciiLower (left right : List (List Char)) :
    isShortened (left.map asciiLower) (right.map asciiLower) = isShortened left right := by
  have hnil (o : Option (List Char)) : o.map asciiLower = some [] ↔ o = some [] := by
    cases o <;> simp [asciiLower]
  have hbne (o : Option (List Char)) : (o.map asciiLower != some []) = (o != some []) := by
    rw [Bool.eq_iff_iff, bne_iff_ne, bne_iff_ne, ne_eq, ne_eq, hnil]
  have hleft : (if left.head? = some [] then (left.map asciiLower).drop 1 else left.map asciiLower) =
      (if left.head? = some [] then left.drop 1 else left).map asciiLower := by
    split
    · exact List.map_drop.symm
    · rfl
  have hright : (if right.getLast? = some [] then (right.map asciiLower).dropLast
        else right.map asciiLower) =
      (if right.getLast? = some [] then right.dropLast else right).map asciiLower := by
    split
    · exact List.map_dropLast.symm
    · rfl
  simp only [isShortened, List.head?_map, List.getLast?_map, hnil, hbne, hleft, hright,
    all_isGroup_asciiLower, List.isEmpty_map, List.length_map]

theorem isGroups_asciiLower {parts : List (List Char)} (h : isGroups parts = true) :
    isGroups (parts.map asciiLower) = true := by
  simp only [isGroups, Bool.and_eq_true, List.length_map] at h ⊢
  refine ⟨h.1, ?_⟩
  have h := h.2
  split at h
  · cases h
  · next groups hw =>
      have hany (parts : List (List Char)) :
          (parts.map asciiLower).any List.isEmpty = parts.any List.isEmpty := by
        simp only [List.any_map, Function.comp_def, isEmpty_asciiLower]
      rw [widened_asciiLower hw]
      simp only [List.length_map, gap_asciiLower]
      cases hg : gap? groups with
      | none =>
          rw [hg] at h
          simpa only [Option.map_none, all_isGroup_asciiLower] using h
      | some g =>
          rw [hg] at h
          simpa only [Option.map_some, ← List.map_dropLast, hany, isShortened_asciiLower] using h

theorem eq_of_gap {parts left right : List (List Char)} (h : gap? parts = some (left, right)) :
    parts = left ++ [] :: right := by
  induction parts generalizing left with
  | nil => cases h
  | cons p ps ih =>
      cases ps with
      | nil => cases h
      | cons q rest =>
          rw [gap?] at h
          split at h
          · next hq =>
              rw [Bool.and_eq_true, List.isEmpty_iff] at hq
              cases h
              rw [hq.1]
              rfl
          · obtain ⟨g, hg, he⟩ := Option.map_eq_some_iff.mp h
            cases he
            rw [ih hg]
            rfl

theorem piece_of_isShortened {left right : List (List Char)} (h : isShortened left right = true) :
    ∀ s ∈ left ++ right, s = [] ∨ isGroup s = true := by
  simp only [isShortened, Bool.and_eq_true, List.all_eq_true] at h
  intro s hs
  rcases List.mem_append.mp hs with hs | hs
  · split at h
    · next he =>
        obtain ⟨rest, rfl⟩ := List.head?_eq_some_iff.mp he
        exact (List.mem_cons.mp hs).imp_right (h.1.2 s)
    · exact .inr (h.1.2 s hs)
  · have hlow := h.2
    split at hlow
    · next he =>
        obtain ⟨front, rfl⟩ := List.getLast?_eq_some_iff.mp he
        rw [List.dropLast_concat] at hlow
        rw [List.mem_append, List.mem_singleton] at hs
        exact hs.symm.imp_right (hlow s)
    · exact .inr (hlow s hs)

theorem mem_of_widened {parts groups : List (List Char)} (h : widened parts = some groups) :
    ∀ s ∈ parts, s ∈ groups ∨ isIpv4 s = true := by
  rw [widened] at h
  intro s hs
  split at h
  · next last before hr =>
      have hs' : s ∈ last :: before := hr ▸ List.mem_reverse.mpr hs
      split at h
      · split at h
        · next h4 =>
            cases h
            rcases List.mem_cons.mp hs' with rfl | hb
            · exact .inr h4
            · exact .inl (by simp [hb])
        · cases h
      · cases h
        exact .inl hs
  · cases h
    exact .inl hs

theorem piece_of_isGroups {parts : List (List Char)} (h : isGroups parts = true) :
    ∀ s ∈ parts, s = [] ∨ isGroup s = true ∨ isIpv4 s = true := by
  simp only [isGroups, Bool.and_eq_true] at h
  have h := h.2
  split at h
  · cases h
  · next groups hw =>
      rw [Bool.and_eq_true] at h
      have hgroups : ∀ s ∈ groups, s = [] ∨ isGroup s = true := by
        have h := h.2
        split at h
        · next left right hg =>
            rw [Bool.and_eq_true] at h
            have hpieces := piece_of_isShortened h.2
            intro s hs
            rw [eq_of_gap hg, List.mem_append, List.mem_cons] at hs
            rcases hs with hs | hs | hs
            · exact hpieces s (List.mem_append_left _ hs)
            · exact .inl hs
            · exact hpieces s (List.mem_append_right _ hs)
        · rw [Bool.and_eq_true, List.all_eq_true] at h
          exact fun s hs => .inr (h.2 s hs)
      intro s hs
      rcases mem_of_widened hw s hs with hs | h4
      · exact (hgroups s hs).imp_right .inl
      · exact .inr (.inr h4)

theorem plain_of_hex {c : Char} (h : (hexValue? c).isSome = true) : IsPlain c := by
  by_cases hc : c.toNat < 128
  · exact of_ascii (P := fun c => (hexValue? c).isSome = true → IsPlain c) (by decide +kernel) hc h
  · rw [hexValue?, if_neg, if_neg, if_neg] at h
    · cases h
    all_goals
      rintro ⟨-, hle⟩
      have hle := Char.le_def.mp hle
      exact hc (Nat.lt_of_le_of_lt hle (by decide))

theorem plain_of_isGroups {cs : List Char} (h : isGroups (splitAt ':' cs) = true) :
    Within IsPlain cs := by
  refine within_of_splitAt (c := ':') (by decide) fun s hs => ?_
  rcases piece_of_isGroups h s hs with rfl | hgroup | h4
  · exact within_nil
  · simp only [isGroup, Bool.and_eq_true, List.all_eq_true] at hgroup
    exact fun c hc => plain_of_hex (hgroup.2 c hc)
  · refine (pointed_of_isIpv4 h4).mono fun c hc => ?_
    rcases hc with hd | rfl
    · exact of_asciiDigit (P := IsPlain) (by decide) hd
    · decide

end SqlCluster.Uri
