import SqlCluster.Number.Cell
import SqlCluster.Number.Shortest
/-!
Lenient readings of a scalar as another: stores write numbers and truth values in more than one way.
-/
namespace SqlCluster.Lenient

open Number

def intBound : Nat := Nat.pow 2 63

def ofBool (b : Bool) : Int := if b then 1 else 0

def intOfDouble? (d : Double) : Option Int :=
  d.integer?.bind fun n => if n.natAbs < intBound then some n else none

def intOfText? (cs : List Char) : Option Int := Literal.cellInt? cs

def floatOfText? (cs : List Char) : Option Double := Literal.cellFloat? cs

def floatOfInt? (n : Int) : Option Double :=
  match Double.ofInt n with
  | .infinite _ => none
  | d => some d

def boolOfInt? (n : Int) : Option Bool :=
  if n = 0 then some false else if n = 1 then some true else none

def trueWords : List (List Char) := ["1", "t", "true", "y", "yes", "on"].map String.toList

def falseWords : List (List Char) := ["0", "f", "false", "n", "no", "off"].map String.toList

def boolOfText? (cs : List Char) : Option Bool :=
  let w := Text.asciiLower cs
  if trueWords.contains w then some true
  else if falseWords.contains w then some false
  else none

end SqlCluster.Lenient
