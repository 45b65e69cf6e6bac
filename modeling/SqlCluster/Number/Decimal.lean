import SqlCluster.Number.Literal
import SqlCluster.Number.Shortest
/-!
Arbitrary-precision decimals. A finite decimal keeps its exponent, so trailing zeros are part of its
text.
-/
namespace SqlCluster.Number

inductive Decimal where
  | finite (negative : Bool) (coefficient : Nat) (power : Int)
  | infinite (negative : Bool)
  | nan (negative signaling : Bool) (payload : Option Nat)
  deriving DecidableEq, Repr

namespace Decimal

def ofSpecial? (negative : Bool) (cs : List Char) : Option Decimal :=
  let name := Text.asciiLower cs
  if Literal.infinityNames.contains name then some (.infinite negative)
  else
    let signaling := name.head? = some 's'
    let rest := if signaling then name.drop 1 else name
    if rest.take 3 = "nan".toList then
      if rest.drop 3 = [] then some (.nan negative signaling none)
      else (Literal.natural? (rest.drop 3)).map fun n =>
        .nan negative signaling (if n = 0 then none else some n)
    else none

def parse? (cs : List Char) : Option Decimal :=
  let t := Literal.asciiDigits ((Text.trim Text.isBlank cs).filter (· ≠ '_'))
  let s := Literal.sign t
  match Literal.unsigned? s.1 s.2 with
  | some n => some (.finite n.negative n.coefficient n.power)
  | none => ofSpecial? s.1 s.2

def exponentText (e : Int) : List Char :=
  if e = 0 then [] else 'E' :: (if e < 0 then '-' else '+') :: Text.decimal e.natAbs

/-- Positional when the power is not positive and at most six zeros would open the fraction, else
one digit before the point and an exponent. -/
def chars : Decimal → List Char
  | .infinite s => FloatLayout.signed s "Infinity".toList
  | .nan s signaling payload =>
      FloatLayout.signed s ((if signaling then "sNaN".toList else "NaN".toList) ++
        (match payload with
          | some n => Text.decimal n
          | none => []))
  | .finite s c power =>
      let ds := Text.decimal c
      let left := power + (ds.length : Int)
      let places := if power ≤ 0 ∧ -6 < left then left else 1
      let body :=
        if places ≤ 0 then '0' :: '.' :: (List.replicate (-places).toNat '0' ++ ds)
        else if ds.length ≤ places.toNat then ds ++ List.replicate (places.toNat - ds.length) '0'
        else ds.take places.toNat ++ '.' :: ds.drop places.toNat
      FloatLayout.signed s (body ++ exponentText (left - places))

def text (d : Decimal) : String := String.ofList d.chars

def toDouble? : Decimal → Option Double
  | .finite s c power => some (Double.ofDecimal s c power)
  | .infinite s => some (.infinite s)
  | .nan _ signaling _ => if signaling then none else some .nan

/-- The coefficient without the digits behind the point, and is any of them not zero? A coefficient
that lies behind the point as a whole is not scaled. -/
def cutFraction (c places : Nat) : Nat × Bool :=
  if c.log2 < places then (0, c != 0) else (c / Nat.pow 10 places, c % Nat.pow 10 places != 0)

def truncate? : Decimal → Option Int
  | .finite s c power =>
      if c = 0 then some 0
      else if 0 ≤ power then some (Double.withSign s (c * Nat.pow 10 power.toNat))
      else some (Double.withSign s (cutFraction c (-power).toNat).1)
  | _ => none

def integer? (d : Decimal) : Option Int :=
  match d with
  | .finite _ c power =>
      if power < 0 ∧ (cutFraction c (-power).toNat).2 = true then none else d.truncate?
  | _ => none

def isZero : Decimal → Bool
  | .finite _ c _ => c == 0
  | _ => false

def isNan : Decimal → Bool
  | .nan _ _ _ => true
  | _ => false

def isSignaling : Decimal → Bool
  | .nan _ signaling _ => signaling
  | _ => false

def isPositive : Decimal → Bool
  | .finite s c _ => !s && c != 0
  | .infinite s => !s
  | .nan _ _ _ => false

end Decimal

end SqlCluster.Number
