import SqlCluster.Level.Basic
import SqlCluster.Value.Uuid
import SqlCluster.Number.Decimal
import SqlCluster.Calendar.Moment
/-!
The values that statements take as arguments and that rows hold. Maps keep the order in which their
keys came.
-/
namespace SqlCluster

open Number Calendar

inductive BytesKind where
  | fixed
  | growing
  | view
  deriving DecidableEq, Repr

inductive Value where
  | null
  | bool (b : Bool)
  | int (n : Int)
  | float (d : Double)
  | text (s : String)
  | level (l : Level)
  | bytes (kind : BytesKind) (data : List UInt8)
  | date (d : Date)
  | time (c : Clock)
  | moment (m : Moment)
  | decimal (d : Decimal)
  | uuid (u : Uuid)
  | list (items : List Value)
  | tuple (items : List Value)
  | map (entries : List (String × Value))
  | set (items : List Value)
  | complex
  | object
  deriving Repr, Inhabited

namespace Value

def typeName : Value → String
  | .null => "NoneType"
  | .bool _ => "bool"
  | .int _ => "int"
  | .float _ => "float"
  | .text _ => "str"
  | .level _ => "ConsistencyLevel"
  | .bytes .fixed _ => "bytes"
  | .bytes .growing _ => "bytearray"
  | .bytes .view _ => "memoryview"
  | .date _ => "date"
  | .time _ => "time"
  | .moment _ => "datetime"
  | .decimal _ => "Decimal"
  | .uuid _ => "UUID"
  | .list _ => "list"
  | .tuple _ => "tuple"
  | .map _ => "dict"
  | .set _ => "set"
  | .complex => "complex"
  | .object => "object"

def qualifiedTypeName (v : Value) : String :=
  match v with
  | .date _ => "datetime.date"
  | .time _ => "datetime.time"
  | .moment _ => "datetime.datetime"
  | .decimal _ => "decimal.Decimal"
  | v => v.typeName

/-- Does the value count as true where a yes or no is wanted? Empty and zero values do not. -/
def isTruthy : Value → Bool
  | .null => false
  | .bool b => b
  | .int n => n != 0
  | .float d => !d.isZero
  | .text s => !s.isEmpty
  | .bytes _ data => !data.isEmpty
  | .decimal d => !d.isZero
  | .list xs => !xs.isEmpty
  | .tuple xs => !xs.isEmpty
  | .map es => !es.isEmpty
  | .set xs => !xs.isEmpty
  | _ => true

def text? : Value → Option String
  | .text s => some s
  | .level l => some l.name
  | _ => none

def lookup (key : String) (entries : List (String × Value)) : Option Value :=
  (entries.find? (·.1 = key)).map (·.2)

end Value

/-- Keyed entries in the order in which the keys first came. Writing a key again replaces its entry
where it stands. -/
def putEntry {α : Type} (key : String) (value : α) : List (String × α) → List (String × α)
  | [] => [(key, value)]
  | e :: es => if e.1 = key then (key, value) :: es else e :: putEntry key value es

def collectEntries {α : Type} (pairs : List (String × α)) : List (String × α) :=
  pairs.foldl (fun es p => putEntry p.1 p.2 es) []

theorem keys_putEntry {α : Type} (key : String) (value : α) (es : List (String × α)) :
    (putEntry key value es).map (·.1) =
      if key ∈ es.map (·.1) then es.map (·.1) else es.map (·.1) ++ [key] := by
  induction es with
  | nil => simp [putEntry]
  | cons e es ih =>
      simp only [putEntry]
      by_cases h : e.1 = key
      · simp [h]
      · simp only [h, if_false, List.map_cons, ih, List.mem_cons, Ne.symm h, false_or]
        split <;> simp

end SqlCluster
