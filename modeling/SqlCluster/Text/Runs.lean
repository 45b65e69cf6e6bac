/-!
Character classes given by their boundaries: an increasing list of code points at each of which
membership changes, starting outside the class. A property of many values is given in the same way
by where each run begins.
-/
namespace SqlCluster.Text

def inRunsFrom (inside : Bool) : List Nat → Nat → Bool
  | [], _ => inside
  | b :: bs, n => if n < b then inside else inRunsFrom (!inside) bs n

def valueInRuns {α : Type} (before : α) : List (Nat × α) → Nat → α
  | [], _ => before
  | (b, v) :: rest, n => if n < b then before else valueInRuns v rest n

def inRuns (bounds : List Nat) (c : Char) : Bool := inRunsFrom false bounds c.toNat

end SqlCluster.Text
