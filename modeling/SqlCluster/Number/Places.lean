import SqlCluster.Number.Shortest
/-!
A double in a given number of places. A fixed text has that many digits behind the point, a
scientific one too and a written exponent, and a general one is the shorter-looking of the two with
so many digits in all. Each is the nearest such text, a tie going to the even digit.
-/
namespace SqlCluster.Number

inductive PlacesStyle where
  | fixed
  | scientific
  | general
  deriving DecidableEq, Repr

namespace Places

def pointed (keep : Bool) (places : Nat) (ds : List Char) : List Char :=
  let whole := ds.length - places
  ds.take whole ++ (if places = 0 ∧ keep = false then [] else '.' :: ds.drop whole)

def fixedDigits (num den places : Nat) : List Char :=
  Text.padded (places + 1) (Double.divNearest (num * Nat.pow 10 places) den)

def rounded (num den places : Nat) : Nat × Int :=
  if num = 0 then (0, 0)
  else
    let k := Shortest.order num den
    let up := (places : Int) - k
    let n := if up < 0 then Double.divNearest num (den * Nat.pow 10 (-up).toNat)
      else Double.divNearest (num * Nat.pow 10 up.toNat) den
    if n = Nat.pow 10 (places + 1) then (Nat.pow 10 places, k + 1) else (n, k)

def exponentText (order : Int) : List Char :=
  'e' :: (if order < 0 then '-' else '+') :: Text.padded 2 order.natAbs

def withoutZeros : Nat → List Char → Nat × List Char
  | 0, ds => (0, ds)
  | places + 1, ds =>
      if ds.getLast? = some '0' then withoutZeros places ds.dropLast else (places + 1, ds)

def scientific (keep : Bool) (num den places : Nat) : List Char :=
  let r := rounded num den places
  pointed keep places (Text.padded (places + 1) r.1) ++ exponentText r.2

def general (keep : Bool) (num den digits : Nat) : List Char :=
  let last := digits - 1
  let r := rounded num den last
  let positional := -4 ≤ r.2 ∧ r.2 < (digits : Int)
  let places := if positional then ((last : Int) - r.2).toNat else last
  let ds := if positional then fixedDigits num den places else Text.padded digits r.1
  let kept := if keep then (places, ds) else withoutZeros places ds
  pointed keep kept.1 kept.2 ++ (if positional then [] else exponentText r.2)

/-- A value in a style; `keep` keeps the point, and the zeros of a general text. -/
def chars (style : PlacesStyle) (keep : Bool) (places : Nat) : Double → List Char
  | .nan => "nan".toList
  | .infinite s => FloatLayout.signed s "inf".toList
  | .finite s m e =>
      let v := Double.magnitude m e
      FloatLayout.signed s (match style with
        | .fixed => pointed keep places (fixedDigits v.1 v.2 places)
        | .scientific => scientific keep v.1 v.2 places
        | .general => general keep v.1 v.2 (max places 1))

end Places

end SqlCluster.Number
