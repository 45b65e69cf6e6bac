import SqlCluster.Value.Show
import SqlCluster.Number.Setting
/-!
The number that a value is or spells, as an integer or with a point.
-/
namespace SqlCluster

open Number

inductive NumberError where
  | notInteger (literal : String)
  | tooManyDigits (n : Nat)
  | integerType (typeName : String)
  | integerOfNan
  | integerOfInfinity
  | decimalNan
  | decimalInfinity
  | notFloat (literal : String)
  | floatType (typeName : String)
  | tooLarge
  | signaling
  deriving DecidableEq, Repr

def NumberError.message : NumberError → String
  | .notInteger literal => "invalid literal for int() with base 10: " ++ literal
  | .tooManyDigits n => Literal.tooManyDigitsText n
  | .integerType name =>
      "int() argument must be a string, a bytes-like object or a real number, not '" ++ name ++ "'"
  | .integerOfNan => "cannot convert float NaN to integer"
  | .integerOfInfinity => "cannot convert float infinity to integer"
  | .decimalNan => "cannot convert NaN to integer"
  | .decimalInfinity => "cannot convert Infinity to integer"
  | .notFloat literal => "could not convert string to float: " ++ literal
  | .floatType name => "float() argument must be a string or a real number, not '" ++ name ++ "'"
  | .tooLarge => "int too large to convert to float"
  | .signaling => "cannot convert signaling NaN to float"

namespace Value

def shownLength : Nat := 200

def shortened (literal : String) : String := String.ofList (literal.toList.take shownLength)

def ofSpelling {α : Type} (literal : String) : Except Literal.IntError α → Except NumberError α
  | .ok n => .ok n
  | .error .malformed => .error (.notInteger (shortened literal))
  | .error (.tooManyDigits n) => .error (.tooManyDigits n)

def toInt : Value → Except NumberError Int
  | .int n => .ok n
  | .bool b => .ok (if b then 1 else 0)
  | .uuid u => .ok u.value
  | .float d => match d with
      | .nan => .error .integerOfNan
      | .infinite _ => .error .integerOfInfinity
      | d => .ok (d.truncate?.getD 0)
  | .decimal d => match d with
      | .nan _ _ _ => .error .decimalNan
      | .infinite _ => .error .decimalInfinity
      | d => .ok (d.truncate?.getD 0)
  | .bytes _ data =>
      ofSpelling (Text.Quoted.quoteBytes (data.take shownLength))
        (Literal.plainInt (Literal.byteChars data))
  | v => match v.text? with
      | some s => ofSpelling v.literal (Literal.settingInt s.toList)
      | none => .error (.integerType v.qualifiedTypeName)

/-- The nearest number with a point. An integer beyond the largest one is refused. -/
def toDouble : Value → Except NumberError Double
  | .float d => .ok d
  | .int n => match Double.ofInt n with
      | .infinite _ => .error .tooLarge
      | d => .ok d
  | .bool b => .ok (Double.ofNat (if b then 1 else 0))
  | .decimal d => match d.toDouble? with
      | some x => .ok x
      | none => .error .signaling
  | .bytes k data =>
      match Literal.plainFloat? (Literal.byteChars data) with
      | some d => .ok d
      | none => .error (.notFloat (Value.literal (.bytes k data)))
  | v => match v.text? with
      | some s => match Literal.setting? s.toList with
          | some d => .ok d
          | none => .error (.notFloat v.literal)
      | none => .error (.floatType v.qualifiedTypeName)

end Value

end SqlCluster
