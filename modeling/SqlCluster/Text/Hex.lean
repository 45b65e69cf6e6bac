/-!
Hexadecimal digits, and bytes written as pairs of them.
-/
namespace SqlCluster.Text

def lowerDigits : List Char := "0123456789abcdef".toList

def upperDigits : List Char := "0123456789ABCDEF".toList

def hexValue? (c : Char) : Option Nat :=
  if '0' ≤ c ∧ c ≤ '9' then some (c.toNat - 48)
  else if 'a' ≤ c ∧ c ≤ 'f' then some (c.toNat - 87)
  else if 'A' ≤ c ∧ c ≤ 'F' then some (c.toNat - 55)
  else none

def hexDigit (digits : List Char) (n : Nat) : Char := digits.getD (n % 16) '0'

def hexFixed (digits : List Char) : Nat → Nat → List Char
  | 0, _ => []
  | width + 1, n => hexFixed digits width (n / 16) ++ [hexDigit digits n]

theorem length_hexFixed (digits : List Char) (width n : Nat) :
    (hexFixed digits width n).length = width := by
  induction width generalizing n with
  | zero => rfl
  | succ w ih => simp [hexFixed, ih]

def hexOfBytes (bytes : List UInt8) : List Char :=
  bytes.flatMap fun b => hexFixed lowerDigits 2 b.toNat

def bytesOfHex? : List Char → Option (List UInt8)
  | [] => some []
  | [_] => none
  | a :: b :: rest => do
      let hi ← hexValue? a
      let lo ← hexValue? b
      let more ← bytesOfHex? rest
      return (hi * 16 + lo).toUInt8 :: more

end SqlCluster.Text
