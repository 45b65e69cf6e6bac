import SqlCluster.Result.Basic
import SqlCluster.Value.Number
import SqlCluster.Text.Case
/-!
Results from the fields of an entry. A missing, null or empty field counts as zero or nothing; any
other is converted if it can be.
-/
namespace SqlCluster.Result

open Number

inductive FieldError where
  | notIterable (typeName : String)
  | number (e : NumberError)
  deriving DecidableEq, Repr

def FieldError.message : FieldError → String
  | .notIterable name => "'" ++ name ++ "' object is not iterable"
  | .number e => e.message

def ofNumber {α : Type} : Except NumberError α → Except FieldError α
  | .ok a => .ok a
  | .error e => .error (.number e)

def items? : Value → Except FieldError (List Value)
  | .list xs => .ok xs
  | .tuple xs => .ok xs
  | .set xs => .ok xs
  | .map es => .ok (es.map fun e => .text e.1)
  | .bytes _ data => .ok (data.map fun b => .int b.toNat)
  | v => match v.text? with
      | some s => .ok (s.toList.map fun c => .text (String.singleton c))
      | none => .error (.notIterable v.qualifiedTypeName)

def orElse (key : String) (default : Value) (fields : List (String × Value)) : Value :=
  match Value.lookup key fields with
  | some v => if v.isTruthy then v else default
  | none => default

def rowsOf? : List Value → Except FieldError (List (List Value))
  | [] => .ok []
  | v :: vs => do
      let row ← items? v
      let rows ← rowsOf? vs
      return row :: rows

def typeText (v : Value) : String := Text.lowerText v.plain

def ofQuery? (fields : List (String × Value)) (index : Int) : Except FieldError QueryResult := do
  let columns ← items? (orElse "columns" (.list []) fields)
  let types ← items? (orElse "types" (.list []) fields)
  let values ← items? (orElse "values" (.list []) fields)
  let rows ← rowsOf? values
  let time ← ofNumber (Value.toDouble (orElse "time" (.float (Double.zero false)) fields))
  return ⟨index, columns, types.map typeText, rows, time, orElse "error" .null fields⟩

def ofWrite? (fields : List (String × Value)) (index : Int) : Except FieldError WriteResult := do
  let rowsAffected ← ofNumber (Value.toInt (orElse "rows_affected" (.int 0) fields))
  let time ← ofNumber (Value.toDouble (orElse "time" (.float (Double.zero false)) fields))
  return ⟨index, rowsAffected, (Value.lookup "last_insert_id" fields).getD .null, time,
    orElse "error" .null fields⟩

end SqlCluster.Result
