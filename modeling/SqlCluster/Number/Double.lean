/-!
Double-precision binary floating point, exactly. A finite value is `± significand · 2 ^ exponent`
in one normal form: the significand has 53 bits, or fewer with the least exponent. A quotient is
rounded to the nearest value, a tie to the even significand.
-/
namespace SqlCluster.Number

inductive Double where
  | nan
  | infinite (negative : Bool)
  | finite (negative : Bool) (significand : Nat) (exponent : Int)
  deriving DecidableEq, Repr

namespace Double

def minExponent : Int := -1074

def maxExponent : Int := 971

def zero (negative : Bool) : Double := .finite negative 0 minExponent

/-- The quotient rounded to the nearest integer, a tie to the even one. -/
def divNearest (num den : Nat) : Nat :=
  let q := num / den
  let r := num % den
  if 2 * r < den then q
  else if den < 2 * r then q + 1
  else if q % 2 = 0 then q else q + 1

def scaled (num den : Nat) (exponent : Int) : Nat × Nat :=
  if exponent < 0 then (num * Nat.pow 2 (-exponent).toNat, den)
  else (num, den * Nat.pow 2 exponent.toNat)

/-- The value with the given sign nearest to `num / den`, for a positive `den`. -/
def ofRatio (negative : Bool) (num den : Nat) : Double :=
  if num = 0 then zero negative
  else
    let low : Int := max ((num.log2 : Int) - (den.log2 : Int) - 53) minExponent
    let s := scaled num den low
    let e := if s.1 / s.2 < Nat.pow 2 53 then low else low + 1
    let t := scaled num den e
    let q := divNearest t.1 t.2
    let m := if q = Nat.pow 2 53 then Nat.pow 2 52 else q
    let e := if q = Nat.pow 2 53 then e + 1 else e
    if maxExponent < e then .infinite negative else .finite negative m e

def ofNat (n : Nat) : Double := ofRatio false n 1

def ofInt (n : Int) : Double := ofRatio (decide (n < 0)) n.natAbs 1

/-- The nearest value to `coefficient · 10 ^ power`. Powers that leave the range whatever the
coefficient's digits are cut off before anything is computed. -/
def ofDecimal (negative : Bool) (coefficient : Nat) (power : Int) : Double :=
  if coefficient = 0 then zero negative
  else
    let magnitude : Int := (coefficient.log2 : Int) * 30103 / 100000 + power
    if 310 < magnitude then .infinite negative
    else if magnitude < -326 then zero negative
    else if power < 0 then ofRatio negative coefficient (Nat.pow 10 (-power).toNat)
    else ofRatio negative (coefficient * Nat.pow 10 power.toNat) 1

def magnitude (significand : Nat) (exponent : Int) : Nat × Nat :=
  if exponent < 0 then (significand, Nat.pow 2 (-exponent).toNat)
  else (significand * Nat.pow 2 exponent.toNat, 1)

def withSign (negative : Bool) (n : Nat) : Int := if negative then -(n : Int) else n

def truncate? : Double → Option Int
  | .finite s m e => some (withSign s ((magnitude m e).1 / (magnitude m e).2))
  | _ => none

def integer? : Double → Option Int
  | .finite s m e =>
      if (magnitude m e).1 % (magnitude m e).2 = 0 then
        some (withSign s ((magnitude m e).1 / (magnitude m e).2))
      else none
  | _ => none

def isZero : Double → Bool
  | .finite _ m _ => m == 0
  | _ => false

def isPositive : Double → Bool
  | .nan => false
  | .infinite s => !s
  | .finite s m _ => !s && m != 0

def isAtMostZero : Double → Bool
  | .nan => false
  | d => !d.isPositive

/-- Numeric equality: zeros agree whatever their sign, and not a number differs from itself. -/
def equals : Double → Double → Bool
  | .nan, _ => false
  | _, .nan => false
  | a, b => (a.isZero && b.isZero) || a == b

end Double

end SqlCluster.Number
