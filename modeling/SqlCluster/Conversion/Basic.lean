import SqlCluster.Value.Show
/-!
The types that a caller can ask for, and why a value may refuse to become one.
-/
namespace SqlCluster

/-- The ten types that are supported here. Others that have a conversion of their own, such as
dates, decimals and lists of integers, and those that have none, are left out. -/
inductive Target where
  | int
  | float
  | text
  | bool
  | bytes
  | moment
  | anything
  | none
  | list
  | map
  deriving DecidableEq, Repr

namespace Target

def all : List Target :=
  [.int, .float, .text, .bool, .bytes, .moment, .anything, .none, .list, .map]

def name : Target → String
  | .int => "int"
  | .float => "float"
  | .text => "str"
  | .bool => "bool"
  | .bytes => "bytes"
  | .moment => "datetime"
  | .anything => "object"
  | .none => "none"
  | .list => "list"
  | .map => "dict"

def ofName? (s : String) : Option Target := all.find? (·.name = s)

end Target

inductive ConversionError where
  | truthAsTime (v : Value)
  | epoch (v : Value)
  | timeText (v : Value)
  | timeType (v : Value)
  | fraction (v : Value)
  | failed (v : Value) (target : Target)
  | targetCount (got expected : Nat)
  deriving Repr

def ConversionError.message : ConversionError → String
  | .truthAsTime v => "cannot convert " ++ v.literal ++ " to datetime"
  | .epoch v => "epoch value " ++ v.literal ++ " out of range"
  | .timeText v => "cannot parse " ++ v.literal ++ " as a timestamp"
  | .timeType v => "invalid time type: " ++ v.typeName ++ " value: " ++ v.literal
  | .fraction v => "cannot convert " ++ v.literal ++ " to int without losing its fraction"
  | .failed v t => "cannot convert " ++ v.typeName ++ " " ++ v.literal ++ " to " ++ t.name
  | .targetCount got expected =>
      "wrong number of scan targets: got " ++ toString got ++ ", expected " ++ toString expected

end SqlCluster
