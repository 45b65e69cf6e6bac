import SqlCluster.Text.Hex
/-!
Hexadecimal digits of either case are read as the number that they were written for.
-/
namespace SqlCluster.Text

theorem hexValue?_lower (n : Nat) : hexValue? (hexDigit lowerDigits n) = some (n % 16) := by
  have h : ∀ k < 16, hexValue? (hexDigit lowerDigits k) = some k := by decide
  have hn := h (n % 16) (Nat.mod_lt n (by decide))
  rwa [hexDigit, Nat.mod_mod] at hn

theorem hexValue?_upper (n : Nat) : hexValue? (hexDigit upperDigits n) = some (n % 16) := by
  have h : ∀ k < 16, hexValue? (hexDigit upperDigits k) = some k := by decide
  have hn := h (n % 16) (Nat.mod_lt n (by decide))
  rwa [hexDigit, Nat.mod_mod] at hn

theorem hexFixed_two (digits : List Char) (n : Nat) :
    hexFixed digits 2 n = [hexDigit digits (n / 16), hexDigit digits n] := rfl

theorem hexFixed_four (digits : List Char) (n : Nat) :
    hexFixed digits 4 n = [hexDigit digits (n / 16 / 16 / 16), hexDigit digits (n / 16 / 16),
      hexDigit digits (n / 16), hexDigit digits n] := rfl

end SqlCluster.Text
