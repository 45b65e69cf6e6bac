import Mathlib.Data.List.Infix
import Mathlib.Data.List.TakeWhile
import SqlCluster.Text.Split
import SqlCluster.Text.Hex
import SqlCluster.Text.Digit
import SqlCluster.Text.Case
/-!
Texts all of whose characters are of one kind. Cutting, splitting and joining bring in no others.
-/
namespace SqlCluster.Text

def Within (p : Char → Prop) (cs : List Char) : Prop := ∀ c ∈ cs, p c

def IsPlain (c : Char) : Prop := 0x20 ≤ c.toNat ∧ c.toNat < 0x7F

instance (c : Char) : Decidable (IsPlain c) := inferInstanceAs (Decidable (_ ∧ _))

instance (p : Char → Prop) [DecidablePred p] (cs : List Char) : Decidable (Within p cs) :=
  List.decidableBAll p cs

theorem joinWith_closed {P : List Char → Prop} (hnil : P [])
    (happend : ∀ {cs ds : List Char}, P cs → P ds → P (cs ++ ds)) {sep : List Char} (hs : P sep)
    {pieces : List (List Char)} (h : ∀ piece ∈ pieces, P piece) : P (joinWith sep pieces) := by
  induction pieces with
  | nil => exact hnil
  | cons piece pieces ih =>
      rw [List.forall_mem_cons] at h
      cases pieces with
      | nil => exact h.1
      | cons next pieces => exact happend (happend h.1 hs) (ih h.2)

section Within

variable {p q : Char → Prop} {cs ds : List Char} {c : Char}

@[simp] theorem within_nil : Within p [] := by simp [Within]

@[simp] theorem within_cons : Within p (c :: cs) ↔ p c ∧ Within p cs := by simp [Within]

@[simp] theorem within_append : Within p (cs ++ ds) ↔ Within p cs ∧ Within p ds := by
  simp only [Within, List.mem_append]
  exact ⟨fun h => ⟨fun c hc => h c (.inl hc), fun c hc => h c (.inr hc)⟩,
    fun h c hc => hc.elim (h.1 c) (h.2 c)⟩

theorem Within.mono (h : Within p cs) (hpq : ∀ c, p c → q c) : Within q cs :=
  fun c hc => hpq c (h c hc)

theorem Within.of_subset (h : Within p cs) (hs : ds ⊆ cs) : Within p ds := fun c hc => h c (hs hc)

theorem Within.not_mem (h : Within p cs) (hc : ¬p c) : c ∉ cs := fun hm => hc (h c hm)

theorem Within.takeWhile (h : Within p cs) (f : Char → Bool) : Within p (cs.takeWhile f) :=
  h.of_subset (List.takeWhile_sublist f).subset

theorem Within.dropWhile (h : Within p cs) (f : Char → Bool) : Within p (cs.dropWhile f) :=
  h.of_subset (List.dropWhile_sublist f).subset

theorem Within.filter (h : Within p cs) (f : Char → Bool) : Within p (cs.filter f) :=
  h.of_subset (List.filter_subset_self cs)

theorem Within.drop (h : Within p cs) (n : Nat) : Within p (cs.drop n) :=
  h.of_subset (List.drop_subset n cs)

theorem Within.dropLast (h : Within p cs) : Within p cs.dropLast :=
  h.of_subset (List.dropLast_subset cs)

theorem Within.of_cutFirst? (h : Within p cs) {a b : List Char} (hc : cutFirst? c cs = some (a, b)) :
    Within p a ∧ Within p b := by
  rw [eq_of_cutFirst? hc] at h
  simp only [within_append, within_cons] at h
  exact ⟨h.1, h.2.2⟩

theorem Within.of_cutLast? (h : Within p cs) {a b : List Char} (hc : cutLast? c cs = some (a, b)) :
    Within p a ∧ Within p b := by
  rw [eq_of_cutLast? hc] at h
  simp only [within_append, within_cons] at h
  exact ⟨h.1, h.2.2⟩

theorem Within.splitAt (h : Within p cs) (c : Char) : ∀ s ∈ splitAt c cs, Within p s := by
  induction cs with
  | nil => simp [Text.splitAt]
  | cons x xs ih =>
      rw [within_cons] at h
      have ih := ih h.2
      simp only [Text.splitAt]
      split
      · intro s hs
        rcases List.mem_cons.mp hs with rfl | hs
        · exact within_nil
        · exact ih s hs
      · split
        · simpa using h.1
        · next piece pieces hp =>
            rw [hp] at ih
            intro s hs
            rcases List.mem_cons.mp hs with rfl | hs
            · exact within_cons.mpr ⟨h.1, ih piece List.mem_cons_self⟩
            · exact ih s (List.mem_cons_of_mem _ hs)

theorem within_joinWith {sep : List Char} {pieces : List (List Char)} (hs : Within p sep)
    (h : ∀ s ∈ pieces, Within p s) : Within p (joinWith sep pieces) :=
  joinWith_closed within_nil (fun hc hd => within_append.mpr ⟨hc, hd⟩) hs h

theorem within_asciiLower (hl : ∀ c, p c → p (asciiLowerChar c)) (h : Within p cs) :
    Within p (asciiLower cs) := by
  intro c hc
  obtain ⟨d, hd, rfl⟩ := List.mem_map.mp hc
  exact hl d (h d hd)

end Within

theorem of_ascii {P : Char → Prop} (h : ∀ n < 128, P (Char.ofNat n)) {c : Char}
    (hc : c.toNat < 128) : P c := by
  have hn := h c.toNat hc
  rwa [Char.ofNat_toNat] at hn

theorem IsPlain.of_ascii {P : Char → Prop} (h : ∀ n < 128, IsPlain (Char.ofNat n) → P (Char.ofNat n))
    {c : Char} (hc : IsPlain c) : P c :=
  Text.of_ascii (P := fun c => IsPlain c → P c) h (Nat.lt_trans hc.2 (by decide)) hc

theorem lt_of_isAsciiLetter {c : Char} (h : isAsciiLetter c = true) : c.toNat < 128 := by
  simp only [isAsciiLetter, Bool.or_eq_true, Bool.and_eq_true, decide_eq_true_eq] at h
  rcases h with h | h
  · exact Nat.lt_of_le_of_lt (Char.le_def.mp h.2) (by decide)
  · exact Nat.lt_of_le_of_lt (Char.le_def.mp h.2) (by decide)

theorem lt_of_isAsciiDigit {c : Char} (h : isAsciiDigit c = true) : c.toNat < 128 := by
  simp only [isAsciiDigit, Bool.and_eq_true, decide_eq_true_eq] at h
  exact Nat.lt_of_le_of_lt (Char.le_def.mp h.2) (by decide)

theorem lt_of_contains {marks : List Char} (hm : Within (fun c => c.toNat < 128) marks) {c : Char}
    (h : marks.contains c = true) : c.toNat < 128 :=
  hm c (List.contains_iff_mem.mp h)

theorem of_asciiDigit {P : Char → Prop} (h : ∀ n < 10, P (Char.ofNat (48 + n))) {c : Char}
    (hc : isAsciiDigit c = true) : P c := by
  simp only [isAsciiDigit, Bool.and_eq_true, decide_eq_true_eq] at hc
  have hlow : 48 ≤ c.toNat := Char.le_def.mp hc.1
  have hhigh : c.toNat ≤ 57 := Char.le_def.mp hc.2
  have hn := h (c.toNat - 48) (by omega)
  rwa [Nat.add_sub_cancel' hlow, Char.ofNat_toNat] at hn

theorem isPlain_asciiLowerChar {c : Char} (h : IsPlain c) : IsPlain (asciiLowerChar c) :=
  IsPlain.of_ascii (P := fun c => IsPlain (asciiLowerChar c)) (by decide +kernel) h

theorem asciiLowerChar_idem (c : Char) : asciiLowerChar (asciiLowerChar c) = asciiLowerChar c := by
  by_cases h : 'A' ≤ c ∧ c ≤ 'Z'
  · have hc : c.toNat < 128 := Nat.lt_of_le_of_lt (Char.le_def.mp h.2) (by decide)
    exact of_ascii (P := fun c => asciiLowerChar (asciiLowerChar c) = asciiLowerChar c)
      (by decide +kernel) hc
  · simp [asciiLowerChar, h]

theorem asciiLower_idem (cs : List Char) : asciiLower (asciiLower cs) = asciiLower cs := by
  simp [asciiLower, asciiLowerChar_idem]

theorem asciiLowerChar_of_le {c : Char} (h : 128 ≤ c.toNat) : asciiLowerChar c = c := by
  refine if_neg fun hc => ?_
  have hz : c.toNat ≤ 90 := Char.le_def.mp hc.2
  omega

theorem isSome_hexValue_asciiLowerChar (c : Char) :
    (hexValue? (asciiLowerChar c)).isSome = (hexValue? c).isSome := by
  by_cases hc : c.toNat < 128
  · exact of_ascii (P := fun c => (hexValue? (asciiLowerChar c)).isSome = (hexValue? c).isSome)
      (by decide +kernel) hc
  · rw [asciiLowerChar_of_le (Nat.not_lt.mp hc)]

theorem asciiLowerChar_eq_iff {c d : Char} (hd : isAsciiLetter d = false) :
    asciiLowerChar c = d ↔ c = d := by
  by_cases hc : 'A' ≤ c ∧ c ≤ 'Z'
  · have hlt : c.toNat < 128 := Nat.lt_of_le_of_lt (Char.le_def.mp hc.2) (by decide)
    have hl : isAsciiLetter c = true ∧ isAsciiLetter (asciiLowerChar c) = true :=
      of_ascii (P := fun c => 'A' ≤ c ∧ c ≤ 'Z' →
        isAsciiLetter c = true ∧ isAsciiLetter (asciiLowerChar c) = true) (by decide +kernel) hlt hc
    refine iff_of_false ?_ ?_
    · rintro rfl
      rw [hl.2] at hd
      cases hd
    · rintro rfl
      rw [hl.1] at hd
      cases hd
  · rw [asciiLowerChar, if_neg hc]

theorem mem_asciiLower {d : Char} (hd : isAsciiLetter d = false) {cs : List Char} :
    d ∈ asciiLower cs ↔ d ∈ cs := by
  simp only [asciiLower, List.mem_map, asciiLowerChar_eq_iff hd, exists_eq_right]

theorem splitAt_asciiLower {d : Char} (hd : isAsciiLetter d = false) (cs : List Char) :
    splitAt d (asciiLower cs) = (splitAt d cs).map asciiLower := by
  induction cs with
  | nil => rfl
  | cons x xs ih =>
      have hcons : asciiLower (x :: xs) = asciiLowerChar x :: asciiLower xs := rfl
      rw [hcons, splitAt, splitAt, ih]
      by_cases hx : x = d
      · rw [if_pos ((asciiLowerChar_eq_iff hd).mpr hx), if_pos hx]
        rfl
      · rw [if_neg fun h => hx ((asciiLowerChar_eq_iff hd).mp h), if_neg hx]
        cases splitAt d xs <;> rfl

theorem lower_of_plain {cs : List Char} (h : Within IsPlain cs) : lower cs = asciiLower cs := by
  have hl (before : List Char) : lowerAfter before cs = asciiLower cs := by
    induction cs generalizing before with
    | nil => rfl
    | cons c cs ih =>
        have h := within_cons.mp h
        have hp := h.1.2
        have hs : c.toNat ≠ 0x3A3 := by omega
        have ha : c.toNat < 0x80 := by omega
        rw [lowerAfter, if_neg hs, lowerChar, if_pos ha, ih h.2]
        rfl
  exact hl []

theorem isPlain_of_asciiLowerChar {c : Char} (h : IsPlain (asciiLowerChar c)) : IsPlain c := by
  by_cases hc : 'A' ≤ c ∧ c ≤ 'Z'
  · have hlow : 65 ≤ c.toNat := Char.le_def.mp hc.1
    have hhigh : c.toNat ≤ 90 := Char.le_def.mp hc.2
    exact ⟨by omega, by omega⟩
  · rwa [asciiLowerChar, if_neg hc] at h

theorem lower_of_plain_asciiLower {cs : List Char} (h : Within IsPlain (asciiLower cs)) :
    lower cs = asciiLower cs :=
  lower_of_plain fun _ hc => isPlain_of_asciiLowerChar (h _ (List.mem_map_of_mem hc))

theorem takeWhile_append_opens {f : Char → Bool} {cs rest : List Char}
    (h : Within (f · = true) cs) (hr : rest = [] ∨ ∃ c ds, rest = c :: ds ∧ f c = false) :
    (cs ++ rest).takeWhile f = cs ∧ (cs ++ rest).dropWhile f = rest := by
  induction cs with
  | nil =>
      rcases hr with rfl | ⟨c, ds, rfl, hc⟩
      · simp
      · simp [hc]
  | cons x xs ih =>
      rw [within_cons] at h
      simp [h.1, ih h.2]

theorem takeWhile_ne {c : Char} {cs rest : List Char} (h : c ∉ cs)
    (hr : rest = [] ∨ ∃ ds, rest = c :: ds) :
    (cs ++ rest).takeWhile (· ≠ c) = cs ∧ (cs ++ rest).dropWhile (· ≠ c) = rest := by
  refine takeWhile_append_opens (fun d hd => ?_) ?_
  · simp only [decide_eq_true_eq]
    rintro rfl
    exact h hd
  · exact hr.imp_right fun ⟨ds, hds⟩ => ⟨c, ds, hds, by simp⟩

theorem not_mem_of_cutFirst? {c : Char} {cs a b : List Char} (h : cutFirst? c cs = some (a, b)) :
    c ∉ a := by
  induction cs generalizing a with
  | nil => cases h
  | cons x xs ih =>
      simp only [cutFirst?] at h
      split at h
      · cases h
        exact List.not_mem_nil
      · next hx =>
          obtain ⟨p, hp, he⟩ := Option.map_eq_some_iff.mp h
          cases he
          rw [List.mem_cons, not_or]
          exact ⟨fun h => hx h.symm, ih hp⟩

theorem not_mem_of_cutFirst?_eq_none {c : Char} {cs : List Char} (h : cutFirst? c cs = none) :
    c ∉ cs := by
  induction cs with
  | nil => exact List.not_mem_nil
  | cons x xs ih =>
      simp only [cutFirst?] at h
      split at h
      · cases h
      · next hx =>
          rw [List.mem_cons, not_or]
          exact ⟨fun h => hx h.symm, ih (Option.map_eq_none_iff.mp h)⟩

theorem cutFirst?_append_of_not_mem {c : Char} {cs : List Char} (h : c ∉ cs) (ds : List Char) :
    cutFirst? c (cs ++ ds) = (cutFirst? c ds).map fun p => (cs ++ p.1, p.2) := by
  induction cs with
  | nil => cases hd : cutFirst? c ds <;> simp [hd]
  | cons x xs ih =>
      rw [List.mem_cons, not_or] at h
      have hx : ¬x = c := fun he => h.1 he.symm
      cases hd : cutFirst? c ds <;> simp [cutFirst?, hx, ih h.2, hd]

theorem drop_length_takeWhile (f : Char → Bool) (cs : List Char) :
    cs.drop (cs.takeWhile f).length = cs.dropWhile f := by
  have h : cs.takeWhile f ++ cs.dropWhile f = cs := List.takeWhile_append_dropWhile
  calc cs.drop (cs.takeWhile f).length
      = (cs.takeWhile f ++ cs.dropWhile f).drop (cs.takeWhile f).length := by rw [h]
    _ = cs.dropWhile f := List.drop_left

theorem eq_of_after {opening cs rest : List Char} (h : after? opening cs = some rest) :
    cs = opening ++ rest := by
  induction opening generalizing cs with
  | nil =>
      rw [after?] at h
      exact Option.some.inj h
  | cons o opening ih =>
      cases cs with
      | nil => cases h
      | cons c cs =>
          rw [after?] at h
          split at h
          · next ho => rw [ho, ih h, List.cons_append]
          · cases h

theorem cutLast?_append_cons (c : Char) (cs ds : List Char) :
    cutLast? c (cs ++ c :: ds) =
      some ((cutLast? c ds).elim (cs, ds) fun p => (cs ++ c :: p.1, p.2)) := by
  induction cs with
  | nil => cases h : cutLast? c ds <;> simp [cutLast?, h]
  | cons x xs ih => cases h : cutLast? c ds <;> simp [cutLast?, ih, h]

theorem not_mem_of_cutLast?_eq_none {c : Char} {cs : List Char} (h : cutLast? c cs = none) :
    c ∉ cs := by
  intro hm
  obtain ⟨a, b, rfl⟩ := List.append_of_mem hm
  rw [cutLast?_append_cons] at h
  cases h

theorem not_mem_of_cutLast? {c : Char} {cs a b : List Char} (h : cutLast? c cs = some (a, b)) :
    c ∉ b := by
  have hc := cutLast?_append_cons c a b
  rw [← eq_of_cutLast? h, h] at hc
  cases hb : cutLast? c b with
  | none => exact not_mem_of_cutLast?_eq_none hb
  | some p =>
      have hlen : b.length = p.2.length := by
        simp only [hb, Option.elim_some, Option.some.injEq, Prod.mk.injEq] at hc
        rw [hc.2]
      rw [eq_of_cutLast? hb] at hlen
      simp at hlen
      omega

theorem upperDigits_unreserved : ∀ n, n < 16 → hexDigit upperDigits n ∈ upperDigits := by decide

theorem mem_hexFixed {width n : Nat} {c : Char} (h : c ∈ hexFixed upperDigits width n) :
    c ∈ upperDigits := by
  induction width generalizing n with
  | zero => simp [hexFixed] at h
  | succ width ih =>
      simp only [hexFixed, List.mem_append, List.mem_singleton] at h
      rcases h with h | rfl
      · exact ih h
      · have hn : n % 16 < 16 := Nat.mod_lt n (by decide)
        have hm := upperDigits_unreserved (n % 16) hn
        rwa [hexDigit, Nat.mod_mod] at hm

end SqlCluster.Text
