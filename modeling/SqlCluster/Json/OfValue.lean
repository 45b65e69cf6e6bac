import SqlCluster.Json.Basic
import SqlCluster.Number.Setting
import SqlCluster.Text.Base64
/-!
The JSON form of a value. Bytes become base64, dates and times their ISO text, identifiers their
text and decimals the nearest double; sets, complex numbers and plain objects have no form. Nor have
integers of too many digits, and lists and objects that stand too deep in one another.
-/
namespace SqlCluster.Json

open Number

inductive EncodeError where
  | noForm (typeName : String)
  | signaling
  | tooManyDigits
  | tooDeep
  deriving DecidableEq, Repr

def EncodeError.message : EncodeError → String
  | .noForm name => "Object of type " ++ name ++ " is not JSON serializable"
  | .signaling => "cannot convert signaling NaN to float"
  | .tooManyDigits => Literal.unwritableText
  | .tooDeep => "maximum recursion depth exceeded while encoding a JSON object"

def ofDecimal (d : Decimal) : Except EncodeError Json :=
  match d.toDouble? with
  | some x => .ok (.float x)
  | none => .error .signaling

def ofInt (n : Int) : Except EncodeError Json :=
  if Literal.isWritable n then .ok (.int n) else .error .tooManyDigits

/-- The room of a batch that is made at the top of a program. -/
def usualRoom : Nat := 992

def inside {α : Type} (room : Nat) (write : Nat → Except EncodeError α) : Except EncodeError α :=
  match room with
  | 0 => .error .tooDeep
  | room + 1 => write room

mutual

/-- `room` is how many lists and objects may stand in one another. -/
def ofValue (room : Nat) : Value → Except EncodeError Json
  | .null => .ok .null
  | .bool b => .ok (.bool b)
  | .int n => ofInt n
  | .float d => .ok (.float d)
  | .text s => .ok (.text s)
  | .level l => .ok (.text l.name)
  | .bytes _ data => .ok (.text (String.ofList (Text.Base64.encode data)))
  | .date d => .ok (.text (String.ofList d.chars))
  | .time c => .ok (.text (String.ofList c.chars))
  | .moment m => .ok (.text (String.ofList m.iso))
  | .decimal d => ofDecimal d
  | .uuid u => .ok (.text u.text)
  | .list xs => (inside room fun r => ofValues r xs).map .list
  | .tuple xs => (inside room fun r => ofValues r xs).map .list
  | .map es => (inside room fun r => ofEntries r es).map .map
  | v => .error (.noForm v.typeName)

def ofValues (room : Nat) : List Value → Except EncodeError (List Json)
  | [] => .ok []
  | x :: xs => do
      let j ← ofValue room x
      let js ← ofValues room xs
      return j :: js

def ofEntries (room : Nat) : List (String × Value) → Except EncodeError (List (String × Json))
  | [] => .ok []
  | (k, x) :: es => do
      let j ← ofValue room x
      let js ← ofEntries room es
      return (k, j) :: js

end

end SqlCluster.Json
