import SqlCluster.Value.Basic
/-!
JSON texts as trees. An object keeps all its members as written, so a key may come twice. Whole
numbers are unbounded; every other number is a double.
-/
namespace SqlCluster

open Number

inductive Json where
  | null
  | bool (b : Bool)
  | int (n : Int)
  | float (d : Double)
  | text (s : String)
  | list (items : List Json)
  | map (members : List (String × Json))
  deriving Repr, Inhabited

namespace Json

def member? (key : String) (members : List (String × Json)) : Option Json :=
  (members.reverse.find? (·.1 = key)).map (·.2)

mutual

/-- The value that a tree denotes. Of members with one key the last counts, at the first's place. -/
def toValue : Json → Value
  | .null => .null
  | .bool b => .bool b
  | .int n => .int n
  | .float d => .float d
  | .text s => .text s
  | .list xs => .list (toValues xs)
  | .map ms => .map (collectEntries (toEntries ms))

def toValues : List Json → List Value
  | [] => []
  | x :: xs => toValue x :: toValues xs

def toEntries : List (String × Json) → List (String × Value)
  | [] => []
  | (k, x) :: ms => (k, toValue x) :: toEntries ms

end

end Json

end SqlCluster
