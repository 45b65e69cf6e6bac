import SqlCluster.Text.Base64
/-!
Reading base64 gives back the bytes that were written, whatever the length of the last group.
-/
namespace SqlCluster.Text.Base64

theorem value?_digit (n : Nat) : value? (digit n) = some (n % 64) := by
  have h : ∀ k < 64, value? (digit k) = some k := by decide +kernel
  have hn := h (n % 64) (Nat.mod_lt n (by decide))
  rwa [digit, Nat.mod_mod] at hn

theorem digit_ne_padding (n : Nat) : digit n ≠ '=' := by
  intro h
  have hv := value?_digit n
  rw [h] at hv
  cases hv

theorem decode?_group {n : Nat} (hn : n < 0x1000000) (rest : List Char) :
    decode? (digit (n / 262144) :: digit (n / 4096) :: digit (n / 64) :: digit n :: rest) =
      (decode? rest).map fun more =>
        (n / 65536).toUInt8 :: (n / 256 % 256).toUInt8 :: (n % 256).toUInt8 :: more := by
  have hbits : ((n / 262144 % 64 * 64 + n / 4096 % 64) * 64 + n / 64 % 64) * 64 + n % 64 = n := by
    omega
  rw [decode?.eq_4 _ _ _ _ _ (fun _ h _ => digit_ne_padding n h) (fun h _ => digit_ne_padding n h)]
  simp only [value?_digit, Option.bind_eq_bind, Option.bind_some, hbits]
  cases decode? rest <;> rfl

theorem decode?_encode (data : List UInt8) : decode? (encode data) = some data := by
  fun_induction encode data with
  | case1 => rfl
  | case2 a n =>
      have ha : a.toNat < 256 := a.toNat_lt
      have hn : n = a.toNat * 16 := rfl
      have hbits : n / 64 % 64 * 64 + n % 64 = n := by omega
      have hzero : n % 16 = 0 := by omega
      have hbyte : n / 16 = a.toNat := by omega
      simp only [decode?, value?_digit, Option.bind_eq_bind, Option.bind_some, hbits, if_pos hzero,
        hbyte, Nat.toUInt8_eq, UInt8.ofNat_toNat, Option.pure_def]
  | case3 a b n =>
      have ha : a.toNat < 256 := a.toNat_lt
      have hb : b.toNat < 256 := b.toNat_lt
      have hn : n = (a.toNat * 256 + b.toNat) * 4 := rfl
      have hbits : (n / 4096 % 64 * 64 + n / 64 % 64) * 64 + n % 64 = n := by omega
      have hzero : n % 4 = 0 := by omega
      have hfirst : n / 1024 = a.toNat := by omega
      have hsecond : n / 4 % 256 = b.toNat := by omega
      rw [decode?.eq_3 _ _ _ (digit_ne_padding n)]
      simp only [value?_digit, Option.bind_eq_bind, Option.bind_some, hbits, if_pos hzero,
        hfirst, hsecond, Nat.toUInt8_eq, UInt8.ofNat_toNat, Option.pure_def]
  | case4 a b c rest n ih =>
      have ha : a.toNat < 256 := a.toNat_lt
      have hb : b.toNat < 256 := b.toNat_lt
      have hc : c.toNat < 256 := c.toNat_lt
      have hn : n = (a.toNat * 256 + b.toNat) * 256 + c.toNat := rfl
      have hfirst : n / 65536 = a.toNat := by omega
      have hsecond : n / 256 % 256 = b.toNat := by omega
      have hthird : n % 256 = c.toNat := by omega
      rw [decode?_group (by omega), ih, Option.map_some, hfirst, hsecond, hthird]
      simp only [Nat.toUInt8_eq, UInt8.ofNat_toNat]

end SqlCluster.Text.Base64
