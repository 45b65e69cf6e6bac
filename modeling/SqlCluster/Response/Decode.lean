import SqlCluster.Operation
import SqlCluster.Response.Envelope
import SqlCluster.Result.OfFields
/-!
Decoding a response into results, one an entry and in order. The operation decides what an entry is;
in a mixed batch an entry with columns is a query's.
-/
namespace SqlCluster.Response

inductive DecodeError where
  | body (e : BodyError)
  | field (e : Result.FieldError)
  | noResults (operation : Operation)
  deriving DecidableEq, Repr

def DecodeError.message : DecodeError → String
  | .body e => e.message
  | .field e => e.message
  | .noResults o => o.name ++ " responses carry no statement results"

def query (fields : List (String × Value)) (index : Int) : Except DecodeError Result :=
  match Result.ofQuery? fields index with
  | .ok q => .ok (.query q)
  | .error e => .error (.field e)

def write (fields : List (String × Value)) (index : Int) : Except DecodeError Result :=
  match Result.ofWrite? fields index with
  | .ok w => .ok (.write w)
  | .error e => .error (.field e)

def decodeEntry (operation : Operation) (index : Int) (fields : List (String × Value)) :
    Except DecodeError Result :=
  match operation with
  | .query => query fields index
  | .execute => write fields index
  | .request =>
      if (Value.lookup "columns" fields).isSome then query fields index else write fields index
  | o => .error (.noResults o)

def decodeEntries (operation : Operation) : Nat → List Entry → Except DecodeError (List Result)
  | _, [] => .ok []
  | n, e :: es => do
      let r ← decodeEntry operation n e.fields
      let rs ← decodeEntries operation (n + 1) es
      return r :: rs

def decode (body : List UInt8) (operation : Operation) : Except DecodeError (List Result) :=
  match parse body with
  | .ok e => decodeEntries operation 0 e.results
  | .error e => .error (.body e)

def decodeQueued (body : List UInt8) : Except BodyError Int :=
  (parse body).map fun e => e.sequenceNumber.getD 0

end SqlCluster.Response
