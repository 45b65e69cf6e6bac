import SqlCluster.Number.Double
import SqlCluster.Text.Digit
/-!
The shortest decimal text of a double. Among the decimals that round back to the value those with
the fewest digits count, and of these the nearest to the value; a tie goes to the even last digit.
For one digit, two digits and so on only the two neighbours of the value on that decimal grid have
to be looked at.
-/
namespace SqlCluster.Number

structure Decimals where
  digits : Nat
  power : Int
  deriving DecidableEq, Repr

namespace Shortest

def order (num den : Nat) : Int :=
  let guess := ((num.log2 : Int) - (den.log2 : Int)) * 30103 / 100000
  let reaches (k : Int) : Bool :=
    if k < 0 then den ≤ num * Nat.pow 10 (-k).toNat else den * Nat.pow 10 k.toNat ≤ num
  if reaches (guess + 1) then guess + 1
  else if reaches guess then guess
  else if reaches (guess - 1) then guess - 1
  else guess - 2

/-- The reals that round to `significand · 2 ^ exponent`, in quarters of the unit `2 ^ exponent`.
The lower gap is half as wide where the exponent steps down; the ends belong to the interval when
the significand is even. -/
structure Interval where
  low : Nat
  value : Nat
  high : Nat
  closed : Bool
  deriving DecidableEq, Repr

def interval (significand : Nat) (exponent : Int) : Interval :=
  let narrow := significand = Nat.pow 2 52 ∧ Double.minExponent < exponent
  ⟨if narrow then 4 * significand - 1 else 4 * significand - 2, 4 * significand,
    4 * significand + 2, significand % 2 = 0⟩

def onGrid (units : Nat) (exponent power : Int) : Nat × Nat :=
  let e := exponent - 2
  let num := units * (if e < 0 then 1 else Nat.pow 2 e.toNat) *
    (if power < 0 then Nat.pow 10 (-power).toNat else 1)
  let den := (if e < 0 then Nat.pow 2 (-e).toNat else 1) *
    (if power < 0 then 1 else Nat.pow 10 power.toNat)
  (num, den)

def Interval.holds (i : Interval) (exponent : Int) (n : Nat) (power : Int) : Bool :=
  let l := onGrid i.low exponent power
  let h := onGrid i.high exponent power
  if i.closed then l.1 ≤ n * l.2 && n * h.2 ≤ h.1 else l.1 < n * l.2 && n * h.2 < h.1

def neighbour? (i : Interval) (exponent power : Int) : Option Nat :=
  let v := onGrid i.value exponent power
  let q := v.1 / v.2
  let r := v.1 % v.2
  let below := i.holds exponent q power
  let above := i.holds exponent (q + 1) power
  if below && above then
    if 2 * r < v.2 then some q
    else if v.2 < 2 * r then some (q + 1)
    else some (if q % 2 = 0 then q else q + 1)
  else if below then some q
  else if above then some (q + 1)
  else none

/-- The first grid with a hit, from `power` down through `fuel` grids. -/
def search (i : Interval) (exponent : Int) : Nat → Int → Option Decimals
  | 0, _ => none
  | fuel + 1, power =>
      match neighbour? i exponent power with
      | some n => some ⟨n, power⟩
      | none => search i exponent fuel (power - 1)

def dropZeros : Nat → Decimals → Decimals
  | 0, d => d
  | fuel + 1, d => if d.digits % 10 = 0 then dropZeros fuel ⟨d.digits / 10, d.power + 1⟩ else d

/-- The shortest decimal that rounds to a positive finite double; seventeen digits always do. -/
def decimals (significand : Nat) (exponent : Int) : Decimals :=
  let m := Double.magnitude significand exponent
  let top := order m.1 m.2
  match search (interval significand exponent) exponent 18 top with
  | some d => dropZeros 20 d
  | none => ⟨significand, 0⟩

end Shortest

/-- How a double is laid out: the decimal exponents written positionally, the least digits of a
written exponent, and the spellings of the values that are no numbers. -/
structure FloatLayout where
  leastPositional : Int
  mostPositional : Int
  exponentWidth : Nat
  nan : String
  infinity : String
  deriving DecidableEq, Repr

def FloatLayout.plain : FloatLayout := ⟨-4, 15, 2, "nan", "inf"⟩

def FloatLayout.script : FloatLayout := ⟨-4, 15, 2, "NaN", "Infinity"⟩

namespace FloatLayout

def signed (negative : Bool) (cs : List Char) : List Char := if negative then '-' :: cs else cs

def positional (ds : List Char) (places : Int) : List Char :=
  if places ≤ 0 then '0' :: '.' :: (List.replicate (-places).toNat '0' ++ ds)
  else if ds.length ≤ places.toNat then
    ds ++ List.replicate (places.toNat - ds.length) '0' ++ ['.', '0']
  else ds.take places.toNat ++ '.' :: ds.drop places.toNat

def scientific (width : Nat) (ds : List Char) (order : Int) : List Char :=
  let mantissa := match ds with
    | [] => ['0']
    | [d] => [d]
    | d :: rest => d :: '.' :: rest
  mantissa ++ 'e' :: (if order < 0 then '-' else '+') :: Text.padded width order.natAbs

def digits (l : FloatLayout) (d : Decimals) : List Char :=
  let ds := Text.decimal d.digits
  let order := d.power + (ds.length : Int) - 1
  if l.leastPositional ≤ order ∧ order ≤ l.mostPositional then positional ds (order + 1)
  else scientific l.exponentWidth ds order

def chars (l : FloatLayout) : Double → List Char
  | .nan => l.nan.toList
  | .infinite s => signed s l.infinity.toList
  | .finite s 0 _ => signed s ['0', '.', '0']
  | .finite s m e => signed s (l.digits (Shortest.decimals m e))

end FloatLayout

def Double.text (d : Double) : String := String.ofList (FloatLayout.plain.chars d)

end SqlCluster.Number
