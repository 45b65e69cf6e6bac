import SqlCluster.Proofs.Text.Within
import SqlCluster.Text.Utf8
/-!
Reading UTF-8 inverts writing it: the bytes of a character are taken up as one entry, so that a text
is read back from its bytes, by the strict reading and by the lossy one.
-/
namespace SqlCluster.Text.Utf8

theorem toNat_toUInt8 {n : Nat} (h : n < 256) : n.toUInt8.toNat = n :=
  UInt8.toNat_ofNat_of_lt' h

theorem lead_of_two {n : Nat} (hl : 0x80 ≤ n) (hu : n < 0x800) :
    lead (0xC0 + n / 64) = .opens ⟨1, 0x80, 0xBF, n / 64⟩ := by
  have h₁ : ¬0xC0 + n / 64 < 0x80 := by omega
  have h₂ : ¬0xC0 + n / 64 < 0xC2 := by omega
  have h₃ : 0xC0 + n / 64 < 0xE0 := by omega
  rw [lead, if_neg h₁, if_neg h₂, if_pos h₃, Nat.add_sub_cancel_left]

theorem lead_of_three {n : Nat} (hu : n < 0x10000) :
    lead (0xE0 + n / 4096) = .opens ⟨2, if n < 0x1000 then 0xA0 else 0x80,
      if n / 4096 = 13 then 0x9F else 0xBF, n / 4096⟩ := by
  have h₁ : ¬0xE0 + n / 4096 < 0x80 := by omega
  have h₂ : ¬0xE0 + n / 4096 < 0xC2 := by omega
  have h₃ : ¬0xE0 + n / 4096 < 0xE0 := by omega
  have h₄ : 0xE0 + n / 4096 < 0xF0 := by omega
  have hlow : 0xE0 + n / 4096 = 0xE0 ↔ n < 0x1000 := by omega
  have hhigh : 0xE0 + n / 4096 = 0xED ↔ n / 4096 = 13 := by omega
  rw [lead, if_neg h₁, if_neg h₂, if_neg h₃, if_pos h₄, Nat.add_sub_cancel_left]
  simp only [hlow, hhigh]

theorem lead_of_four {n : Nat} (hu : n < 0x110000) :
    lead (0xF0 + n / 262144) = .opens ⟨3, if n < 0x40000 then 0x90 else 0x80,
      if n / 262144 = 4 then 0x8F else 0xBF, n / 262144⟩ := by
  have h₁ : ¬0xF0 + n / 262144 < 0x80 := by omega
  have h₂ : ¬0xF0 + n / 262144 < 0xC2 := by omega
  have h₃ : ¬0xF0 + n / 262144 < 0xE0 := by omega
  have h₄ : ¬0xF0 + n / 262144 < 0xF0 := by omega
  have h₅ : 0xF0 + n / 262144 < 0xF5 := by omega
  have hlow : 0xF0 + n / 262144 = 0xF0 ↔ n < 0x40000 := by omega
  have hhigh : 0xF0 + n / 262144 = 0xF4 ↔ n / 262144 = 4 := by omega
  rw [lead, if_neg h₁, if_neg h₂, if_neg h₃, if_neg h₄, if_pos h₅, Nat.add_sub_cancel_left]
  simp only [hlow, hhigh]

theorem scan_opens {n : Nat} {p : Pending} {bs : List UInt8} (hn : n < 256)
    (h : lead n = .opens p) : scan none (n.toUInt8 :: bs) = scan (some p) bs := by
  simp only [scan, toNat_toUInt8 hn, h]

theorem scan_owed {p : Pending} {n : Nat} {bs : List UInt8} (hn : n < 256) (hl : p.low ≤ n)
    (hh : n ≤ p.high) (ho : p.owed ≠ 1) :
    scan (some p) (n.toUInt8 :: bs) = scan (some (p.next n)) bs := by
  have ha : p.accepts n = true := by simp [Pending.accepts, hl, hh]
  simp only [scan, toNat_toUInt8 hn, ha, if_true, if_neg ho]

theorem scan_last {p : Pending} {n : Nat} {bs : List UInt8} (hn : n < 256) (hl : p.low ≤ n)
    (hh : n ≤ p.high) (ho : p.owed = 1) :
    scan (some p) (n.toUInt8 :: bs) = some (Char.ofNat (p.next n).bits) :: scan none bs := by
  have ha : p.accepts n = true := by simp [Pending.accepts, hl, hh]
  simp only [scan, toNat_toUInt8 hn, ha, if_true, if_pos ho]

theorem toNat_lt (c : Char) : c.toNat < 0x110000 := by
  rcases c.valid with h | h
  · exact Nat.lt_trans h (by decide)
  · exact h.2

theorem toNat_not_surrogate (c : Char) : c.toNat < 0xD800 ∨ 0xDFFF < c.toNat := by
  rcases c.valid with h | h
  · exact .inl h
  · exact .inr h.1

theorem scan_two {n : Nat} (hl : 0x80 ≤ n) (hu : n < 0x800) (bs : List UInt8) :
    scan none ((0xC0 + n / 64).toUInt8 :: (0x80 + n % 64).toUInt8 :: bs) =
      some (Char.ofNat n) :: scan none bs := by
  have hbits : n / 64 * 64 + (0x80 + n % 64 - 0x80) = n := by omega
  rw [scan_opens (by omega) (lead_of_two hl hu),
    scan_last (by omega) (by simp only; omega) (by simp only; omega) rfl]
  simp only [Pending.next, hbits]

theorem scan_three {n : Nat} (hl : 0x800 ≤ n) (hu : n < 0x10000) (hs : n < 0xD800 ∨ 0xDFFF < n)
    (bs : List UInt8) :
    scan none ((0xE0 + n / 4096).toUInt8 :: (0x80 + n / 64 % 64).toUInt8 ::
      (0x80 + n % 64).toUInt8 :: bs) = some (Char.ofNat n) :: scan none bs := by
  have hbits : (n / 4096 * 64 + (0x80 + n / 64 % 64 - 0x80)) * 64 + (0x80 + n % 64 - 0x80) = n := by
    omega
  rw [scan_opens (by omega) (lead_of_three hu),
    scan_owed (by omega) (by simp only; split <;> omega) (by simp only; split <;> omega)
      (by simp only; omega),
    scan_last (by omega) (by simp only [Pending.next]; omega) (by simp only [Pending.next]; omega)
      rfl]
  simp only [Pending.next, hbits]

theorem scan_four {n : Nat} (hl : 0x10000 ≤ n) (hu : n < 0x110000) (bs : List UInt8) :
    scan none ((0xF0 + n / 262144).toUInt8 :: (0x80 + n / 4096 % 64).toUInt8 ::
      (0x80 + n / 64 % 64).toUInt8 :: (0x80 + n % 64).toUInt8 :: bs) =
        some (Char.ofNat n) :: scan none bs := by
  have hbits : ((n / 262144 * 64 + (0x80 + n / 4096 % 64 - 0x80)) * 64 +
      (0x80 + n / 64 % 64 - 0x80)) * 64 + (0x80 + n % 64 - 0x80) = n := by
    omega
  rw [scan_opens (by omega) (lead_of_four hu),
    scan_owed (by omega) (by simp only; split <;> omega) (by simp only; split <;> omega)
      (by simp only; omega),
    scan_owed (by omega) (by simp only [Pending.next]; omega) (by simp only [Pending.next]; omega)
      (by simp only [Pending.next]; omega),
    scan_last (by omega) (by simp only [Pending.next]; omega) (by simp only [Pending.next]; omega)
      rfl]
  simp only [Pending.next, hbits]

theorem scan_encodeChar (c : Char) (bs : List UInt8) :
    scan none (encodeChar c ++ bs) = some c :: scan none bs := by
  have hc : Char.ofNat c.toNat = c := Char.ofNat_toNat c
  simp only [encodeChar]
  by_cases h₁ : c.toNat < 0x80
  · have hlead : lead c.toNat = .single := if_pos h₁
    have hn : c.toNat < 256 := Nat.lt_trans h₁ (by decide)
    simp only [if_pos h₁, List.cons_append, List.nil_append, scan, toNat_toUInt8 hn, hlead, hc]
  by_cases h₂ : c.toNat < 0x800
  · simp only [if_neg h₁, if_pos h₂, List.cons_append, List.nil_append]
    rw [scan_two (by omega) h₂, hc]
  by_cases h₃ : c.toNat < 0x10000
  · simp only [if_neg h₁, if_neg h₂, if_pos h₃, List.cons_append, List.nil_append]
    rw [scan_three (by omega) h₃ (toNat_not_surrogate c), hc]
  · simp only [if_neg h₁, if_neg h₂, if_neg h₃, List.cons_append, List.nil_append]
    rw [scan_four (by omega) (toNat_lt c), hc]

theorem scan_encode_append (cs : List Char) (bs : List UInt8) :
    scan none (encode cs ++ bs) = cs.map some ++ scan none bs := by
  induction cs with
  | nil => rfl
  | cons c cs ih =>
      have he : encode (c :: cs) = encodeChar c ++ encode cs := rfl
      rw [he, List.append_assoc, scan_encodeChar, ih, List.map_cons, List.cons_append]

theorem scan_encode (cs : List Char) : scan none (encode cs) = cs.map some := by
  have h := scan_encode_append cs []
  rwa [List.append_nil, show scan none [] = [] from rfl, List.append_nil] at h

theorem decode?_encode (cs : List Char) : decode? (encode cs) = some cs := by
  rw [decode?, scan_encode]
  induction cs with
  | nil => rfl
  | cons c cs ih =>
      rw [List.map_cons, List.mapM_cons, ih]
      rfl

theorem decodeLossy_encode_append (cs : List Char) (bs : List UInt8) :
    decodeLossy (encode cs ++ bs) = cs ++ decodeLossy bs := by
  rw [decodeLossy, scan_encode_append, List.map_append, List.map_map]
  exact congrArg (· ++ decodeLossy bs) (List.map_id cs)

theorem plain_encode {cs : List Char} (h : Within IsPlain cs) :
    ∀ b ∈ encode cs, 0x20 ≤ b.toNat ∧ b.toNat ≤ 0x7E := by
  intro b hb
  obtain ⟨c, hc, hb⟩ := List.mem_flatMap.mp hb
  have hp : IsPlain c := h c hc
  have h₁ : c.toNat < 0x80 := Nat.lt_trans hp.2 (by decide)
  rw [encodeChar, if_pos h₁, List.mem_singleton] at hb
  rw [hb, toNat_toUInt8 (Nat.lt_trans h₁ (by decide))]
  exact ⟨hp.1, Nat.le_of_lt_succ hp.2⟩

end SqlCluster.Text.Utf8
