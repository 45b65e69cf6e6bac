import SqlCluster.Statement.Basic
import SqlCluster.Json.OfValue
import SqlCluster.Json.Writer
import SqlCluster.Text.Utf8
/-!
Batches on the wire: a list with one entry a statement, which holds the template and then the
arguments. A batch is given as statements and plain texts.
-/
namespace SqlCluster

/-- What a caller hands in as one statement of a batch. -/
inductive Item where
  | plain (template : Template)
  | prepared (s : Statement)
  | other (v : Value)
  deriving Repr

inductive BatchError where
  | notStatement (typeName : String)
  | encoding (e : Json.EncodeError)
  deriving DecidableEq, Repr

def BatchError.message : BatchError → String
  | .notStatement name => "expected Statement or str, got " ++ name
  | .encoding e => e.message

namespace Item

/-- A value given for a statement: a text, a level's name among them, is a template. -/
def ofValue : Value → Item
  | .text s => .plain (.text s)
  | .level l => .plain (.level l)
  | v => .other v

def statement? : Item → Except BatchError Statement
  | .plain template => .ok ⟨template, []⟩
  | .prepared s => .ok s
  | .other v => .error (.notStatement v.typeName)

end Item

namespace Statement

def wire (room : Nat) (s : Statement) : Except Json.EncodeError Json :=
  (Json.ofValues room (s.template.toValue :: s.parameters)).map .list

def wireAll (room : Nat) : List Statement → Except Json.EncodeError (List Json)
  | [] => .ok []
  | s :: ss => do
      let j ← s.wire room
      let js ← wireAll room ss
      return j :: js

def encodeAll (room : Nat) (batch : List Statement) : Except Json.EncodeError (List Char) :=
  (wireAll room batch).map fun js => Json.render (.list js)

end Statement

def Item.statements? : List Item → Except BatchError (List Statement)
  | [] => .ok []
  | i :: is => do
      let s ← i.statement?
      let ss ← statements? is
      return s :: ss

def Item.encodeAll (room : Nat) (items : List Item) : Except BatchError (List Char) := do
  let batch ← Item.statements? items
  match Statement.encodeAll room batch with
  | .ok cs => .ok cs
  | .error e => .error (.encoding e)

end SqlCluster
