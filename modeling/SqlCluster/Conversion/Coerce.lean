import SqlCluster.Conversion.Timestamp
import SqlCluster.Lenient
import SqlCluster.Text.Utf8
/-!
Converting a value to a type. A null stays null, and asking for anything or nothing leaves the value
as it is.
-/
namespace SqlCluster.Conversion

open Number

def spelling? : Value → Option (List Char)
  | .bytes .fixed data => Text.Utf8.decode? data
  | v => v.text?.map String.toList

def chars? : Value → Option (List Char)
  | .bytes .growing data => Text.Utf8.decode? data
  | v => spelling? v

def int? (v : Value) : Option Int :=
  match v with
  | .int n => some n
  | .bool b => some (Lenient.ofBool b)
  | .float d => Lenient.intOfDouble? d
  | .decimal d => d.integer?
  | v => (spelling? v).bind Lenient.intOfText?

def float? (v : Value) : Option Double :=
  match v with
  | .float d => some d
  | .int n => Lenient.floatOfInt? n
  | .bool b => some (Double.ofInt (Lenient.ofBool b))
  | .decimal d => d.toDouble?
  | v => (spelling? v).bind Lenient.floatOfText?

def bool? (v : Value) : Option Bool :=
  match v with
  | .bool b => some b
  | .int n => Lenient.boolOfInt? n
  | .float d => (Lenient.intOfDouble? d).bind Lenient.boolOfInt?
  | .decimal d => (d.toDouble?.bind Lenient.intOfDouble?).bind Lenient.boolOfInt?
  | v => (spelling? v).bind Lenient.boolOfText?

def bytes? : Value → Option (List UInt8)
  | .bytes .view _ => none
  | .bytes _ data => some data
  | v => v.text?.map fun s => Text.Utf8.encode s.toList

def list? : Value → Option (List Value)
  | .list xs => some xs
  | .tuple xs => some xs
  | .set xs => some xs
  | .bytes .view data => some (data.map fun b => .int b.toNat)
  | _ => none

def map? : Value → Option (List (String × Value))
  | .map es => some es
  | _ => none

def reading? (v : Value) : Target → Option Value
  | .int => (int? v).map .int
  | .float => (float? v).map .float
  | .text => (chars? v).map fun cs => .text (String.ofList cs)
  | .bool => (bool? v).map .bool
  | .bytes => (bytes? v).map (.bytes .fixed)
  | .list => (list? v).map .list
  | .map => (map? v).map .map
  | _ => some v

/-- A number with a point becomes an integer only where it has no fraction, however large it is. -/
def wholeNumber (v : Value) (d : Double) : Except ConversionError Value :=
  match d.integer? with
  | some n => .ok (.int n)
  | none => .error (.fraction v)

def coerce (v : Value) (target : Target) : Except ConversionError Value :=
  match target, v with
  | _, .null => .ok .null
  | .anything, v => .ok v
  | .none, v => .ok v
  | .moment, v => (moment v).map .moment
  | .int, .float d => wholeNumber v d
  | target, v => match reading? v target with
      | some w => .ok w
      | none => .error (.failed v target)

end SqlCluster.Conversion
