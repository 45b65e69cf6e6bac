import SqlCluster.Json.Field
import SqlCluster.Json.Reader
import SqlCluster.Text.Quoted
/-!
The body of a data response: a list of entries, one a statement, between fields of the whole
request. Fields are checked against their types, and unknown ones are passed over.
-/
namespace SqlCluster.Response

open Number Json

structure Entry where
  columns : Slot (List String)
  types : Slot (List String)
  values : Slot (List (List Json))
  lastInsertId : Slot Int
  rowsAffected : Slot Int
  time : Slot Double
  error : Slot String

namespace Entry

def ofJson? : Json → Option Entry
  | .map ms => do
      let columns ← slot? "columns" (listOf? text?) ms
      let types ← slot? "types" (listOf? text?) ms
      let values ← slot? "values" (listOf? (listOf? some)) ms
      let lastInsertId ← slot? "last_insert_id" int? ms
      let rowsAffected ← slot? "rows_affected" int? ms
      let time ← slot? "time" float? ms
      let error ← slot? "error" text? ms
      return ⟨columns, types, values, lastInsertId, rowsAffected, time, error⟩
  | _ => none

def present {α : Type} (key : String) (value : α → Value) : Slot α → List (String × Value)
  | .absent => []
  | .null => [(key, .null)]
  | .given a => [(key, value a)]

def textList (xs : List String) : Value := .list (xs.map .text)

def fields (e : Entry) : List (String × Value) :=
  present "columns" textList e.columns ++ present "types" textList e.types ++
    present "values" (fun rows => .list (rows.map fun r => .list (Json.toValues r))) e.values ++
    present "last_insert_id" .int e.lastInsertId ++ present "rows_affected" .int e.rowsAffected ++
    present "time" .float e.time ++ present "error" .text e.error

end Entry

structure Envelope where
  results : List Entry
  time : Option Double
  sequenceNumber : Option Int
  error : Option String

def Envelope.ofJson? : Json → Option Envelope
  | .map ms => do
      let results ← fieldOr? "results" [] (listOf? Entry.ofJson?) ms
      let time ← slot? "time" float? ms
      let sequenceNumber ← slot? "sequence_number" int? ms
      let error ← slot? "error" text? ms
      return ⟨results, time.get?, sequenceNumber.get?, error.get?⟩
  | _ => none

/-- What is wrong with a body: it cannot be decoded, or it reports an error of the whole request. -/
inductive BodyError where
  | undecodable (body : List UInt8)
  | reported (message : String)
  deriving DecidableEq, Repr

def shownBytes : Nat := 200

def BodyError.message : BodyError → String
  | .undecodable body =>
      "could not decode response body: " ++
        String.ofList (Text.Quoted.quoteChars (Text.Utf8.decodeLossy (body.take shownBytes)))
  | .reported message => message

def parse (body : List UInt8) : Except BodyError Envelope :=
  match (Json.answer? body).bind Envelope.ofJson? with
  | none => .error (.undecodable body)
  | some e =>
      match e.error with
      | none => .ok e
      | some message => if message = "" then .ok e else .error (.reported message)

end SqlCluster.Response
