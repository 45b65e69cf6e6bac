import SqlCluster.Value.Equality
/-!
Values as the keys of a map. A value that can change is no key, nor is one that holds such a value.
Equal keys share one entry, which stays under the key that came first.
-/
namespace SqlCluster

inductive KeyFault where
  | changeable (typeName : String)
  | signaling
  deriving DecidableEq, Repr

def KeyFault.message : KeyFault → String
  | .changeable name => "unhashable type: '" ++ name ++ "'"
  | .signaling => "Cannot hash a signaling NaN value"

abbrev Keyed := List (Value × Value)

namespace Keyed

mutual

def fault? : Value → Option KeyFault
  | .list _ => some (.changeable "list")
  | .map _ => some (.changeable "dict")
  | .set _ => some (.changeable "set")
  | .bytes .growing _ => some (.changeable "bytearray")
  | .decimal d => if d.isSignaling then some .signaling else none
  | .tuple xs => firstFault? xs
  | _ => none

def firstFault? : List Value → Option KeyFault
  | [] => none
  | x :: xs => (fault? x).or (firstFault? xs)

end

def put (key value : Value) : Keyed → Keyed
  | [] => [(key, value)]
  | e :: es => if Value.equals e.1 key then (e.1, value) :: es else e :: put key value es

end Keyed

end SqlCluster
