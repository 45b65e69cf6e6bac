import SqlCluster.Proofs.Text.Within
/-!
Lower case once more: a text in lower case stays as it is, since no run of the table leads into
another one. And what a text opens with, as far as it is ASCII, becomes what it would by itself.
-/
namespace SqlCluster.Text

def IsLower (c : Char) : Prop := c.toNat ≠ 0x3A3 ∧ lowerChar c = [c]

instance (c : Char) : Decidable (IsLower c) := inferInstanceAs (Decidable (_ ∧ _))

def Shift.misses (low high : Nat) (stepped : Bool) (r : Shift) : Bool :=
  Nat.blt high r.first || Nat.blt r.last low || (stepped && r.step == 2 && low % 2 != r.first % 2)

def capitals : List Shift := ⟨0x130, 0x130, 1, 0⟩ :: lowerShifts

def Shift.settles (r : Shift) : Bool :=
  let high := r.image + (r.last - r.first)
  let stepped := r.step == 2 || r.first == r.last
  capitals.all (Shift.misses r.image high stepped)

theorem lowerShifts_settle : ∀ r ∈ lowerShifts, r.settles = true := by decide +kernel

theorem Shift.not_covers_of_misses {low high n : Nat} {stepped : Bool} {r : Shift}
    (h : r.misses low high stepped = true) (hl : low ≤ n) (hh : n ≤ high)
    (hs : stepped = true → n % 2 = low % 2) : r.covers n = false := by
  rw [Bool.eq_false_iff, ne_eq, covers]
  intro hc
  simp only [Bool.and_eq_true, decide_eq_true_eq, beq_iff_eq] at hc
  obtain ⟨⟨hfirst, hlast⟩, hstep⟩ := hc
  simp only [misses, Bool.or_eq_true, Bool.and_eq_true, Nat.blt_eq, beq_iff_eq, bne_iff_ne] at h
  rcases h with (h | h) | ⟨⟨hst, htwo⟩, hparity⟩
  · omega
  · omega
  · rw [htwo] at hstep
    have heven := hs hst
    omega

theorem image_not_covered {r s : Shift} (hr : r ∈ lowerShifts) (hs : s ∈ capitals) {n : Nat}
    (hn : r.covers n = true) : s.covers (r.image + (n - r.first)) = false := by
  have hmiss : s.misses r.image (r.image + (r.last - r.first)) (r.step == 2 || r.first == r.last) =
      true := List.all_eq_true.mp (lowerShifts_settle r hr) s hs
  simp only [Shift.covers, Bool.and_eq_true, decide_eq_true_eq, beq_iff_eq] at hn
  obtain ⟨⟨hfirst, hlast⟩, hstep⟩ := hn
  refine Shift.not_covers_of_misses hmiss (Nat.le_add_right _ _) (by omega) ?_
  rw [Bool.or_eq_true, beq_iff_eq, beq_iff_eq]
  rintro (htwo | hone)
  · rw [htwo] at hstep
    omega
  · omega

theorem isLower_of_not_covered {c : Char} (h : ∀ s ∈ capitals, s.covers c.toNat = false) :
    IsLower c := by
  have hsigma : c.toNat ≠ 0x3A3 := by
    intro he
    have hs := h ⟨0x3A3, 0x3AB, 1, 0x3C3⟩ (by decide +kernel)
    rw [he] at hs
    exact absurd hs (by decide)
  have hdotted : c.toNat ≠ 0x130 := by
    intro he
    have hs := h ⟨0x130, 0x130, 1, 0⟩ List.mem_cons_self
    rw [he] at hs
    exact absurd hs (by decide)
  have hnone : lowerShifts.find? (·.covers c.toNat) = none := by
    rw [List.find?_eq_none]
    intro s hs
    rw [h s (List.mem_cons_of_mem _ hs)]
    exact Bool.false_ne_true
  refine ⟨hsigma, ?_⟩
  by_cases hc : c.toNat < 0x80
  · have hletter := h ⟨65, 90, 1, 97⟩ (by decide)
    refine of_ascii (P := fun c => Shift.covers ⟨65, 90, 1, 97⟩ c.toNat = false → lowerChar c = [c])
      (by decide +kernel) hc hletter
  · rw [lowerChar, if_neg hc, if_neg hdotted, hnone]

/-- What holds of the lower case of a character is looked at in ASCII, at the dotted capital I, and
in the runs. -/
theorem within_lowerChar {P : Char → Prop} {c : Char}
    (hascii : c.toNat < 0x80 → Within P (lowerChar c))
    (hdotted : Within P ['i', Char.ofNat 0x307]) (hnull : P '\x00')
    (hrun : ∀ r ∈ lowerShifts, r.covers c.toNat = true →
      ∀ d : Char, d.toNat = r.image + (c.toNat - r.first) → P d)
    (hself : lowerChar c = [c] → P c) : Within P (lowerChar c) := by
  by_cases hc : c.toNat < 0x80
  · exact hascii hc
  by_cases hd : c.toNat = 0x130
  · rw [lowerChar, if_neg hc, if_pos hd]
    exact hdotted
  cases hfind : lowerShifts.find? (·.covers c.toNat) with
  | none =>
      have hl : lowerChar c = [c] := by rw [lowerChar, if_neg hc, if_neg hd, hfind]
      rw [hl]
      exact within_cons.mpr ⟨hself hl, within_nil⟩
  | some r =>
      rw [lowerChar, if_neg hc, if_neg hd, hfind]
      refine within_cons.mpr ⟨?_, within_nil⟩
      by_cases hv : (r.image + (c.toNat - r.first)).isValidChar
      · refine hrun r (List.mem_of_find?_eq_some hfind) ?_ _ ?_
        · exact List.find?_some (p := fun s : Shift => s.covers c.toNat) hfind
        · rw [Char.ofNat, dif_pos hv]
          rfl
      · rw [Char.ofNat, dif_neg hv]
        exact hnull

theorem isLower_lowerChar {c : Char} (hc : c.toNat ≠ 0x3A3) : Within IsLower (lowerChar c) := by
  refine within_lowerChar ?_ (by decide +kernel) (by decide +kernel) ?_ fun hl => ⟨hc, hl⟩
  · exact of_ascii (P := fun c => Within IsLower (lowerChar c)) (by decide +kernel)
  · intro r hr hcovers d hd
    refine isLower_of_not_covered fun s hs => ?_
    rw [hd]
    exact image_not_covered hr hs hcovers

theorem within_lower {P : Char → Prop} (hsigma : P 'σ') (hfinal : P 'ς') {cs : List Char}
    (h : ∀ c ∈ cs, c.toNat ≠ 0x3A3 → Within P (lowerChar c)) : Within P (lower cs) := by
  have after (before : List Char) : Within P (lowerAfter before cs) := by
    induction cs generalizing before with
    | nil => exact within_nil
    | cons c cs ih =>
        rw [List.forall_mem_cons] at h
        rw [lowerAfter, within_append]
        refine ⟨?_, ih h.2 _⟩
        split
        · split
          · exact within_cons.mpr ⟨hfinal, within_nil⟩
          · exact within_cons.mpr ⟨hsigma, within_nil⟩
        · next hc => exact h.1 hc
  exact after []

theorem isLower_lower (cs : List Char) : Within IsLower (lower cs) :=
  within_lower (by decide +kernel) (by decide +kernel) fun _ _ => isLower_lowerChar

theorem lower_of_isLower {cs : List Char} (h : Within IsLower cs) : lower cs = cs := by
  have after (before : List Char) : lowerAfter before cs = cs := by
    induction cs generalizing before with
    | nil => rfl
    | cons c cs ih =>
        rw [within_cons] at h
        rw [lowerAfter, if_neg h.1.1, h.1.2, ih h.2]
        rfl
  exact after []

theorem lowerChar_ne_nil (c : Char) : lowerChar c ≠ [] := by
  rw [lowerChar]
  split
  · exact List.cons_ne_nil _ _
  · split
    · exact List.cons_ne_nil _ _
    · split <;> exact List.cons_ne_nil _ _

theorem lowerAfter_ne_nil (before : List Char) {cs : List Char} (h : cs ≠ []) :
    lowerAfter before cs ≠ [] := by
  obtain ⟨c, cs, rfl⟩ := List.exists_cons_of_ne_nil h
  rw [lowerAfter]
  refine List.append_ne_nil_of_left_ne_nil ?_ _
  split
  · exact List.cons_ne_nil _ _
  · exact lowerChar_ne_nil c

theorem lowerAfter_append {ds : List Char} (h : Within IsPlain ds) (before cs : List Char) :
    lowerAfter before (ds ++ cs) = asciiLower ds ++ lowerAfter (ds.reverse ++ before) cs := by
  induction ds generalizing before with
  | nil => rfl
  | cons d ds ih =>
      rw [within_cons] at h
      have hlt := h.1.2
      have hsigma : d.toNat ≠ 0x3A3 := by omega
      have hascii : d.toNat < 0x80 := by omega
      rw [List.cons_append, lowerAfter, if_neg hsigma, lowerChar, if_pos hascii, ih h.2,
        List.reverse_cons, List.append_assoc]
      rfl

end SqlCluster.Text
