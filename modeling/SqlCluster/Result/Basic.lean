import SqlCluster.Value.Basic
/-!
What a statement gives back. A query result holds its rows, a write result counts what it changed,
and a queued write is only acknowledged. An error belongs to the one statement.
-/
namespace SqlCluster

open Number

structure WriteResult where
  index : Int
  rowsAffected : Int
  lastInsertId : Value
  time : Double
  error : Value
  deriving Repr

structure QueryResult where
  index : Int
  columns : List Value
  types : List String
  rows : List (List Value)
  time : Double
  error : Value
  deriving Repr

inductive Result where
  | write (w : WriteResult)
  | query (q : QueryResult)
  deriving Repr

namespace Result

def index : Result → Int
  | .write w => w.index
  | .query q => q.index

def error : Result → Value
  | .write w => w.error
  | .query q => q.error

def isOk (r : Result) : Bool :=
  match r.error with
  | .null => true
  | _ => false

end Result

end SqlCluster
