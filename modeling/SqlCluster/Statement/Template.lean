import SqlCluster.Value.Equality
import SqlCluster.Value.Show
/-!
Templates of statements. A template is a text with question marks; a level counts as one by its
name. A row of values is taken as it is, and each of its question marks is a value of its own.
-/
namespace SqlCluster

inductive Template where
  | text (s : String)
  | level (l : Level)
  | list (items : List Value)
  | tuple (items : List Value)
  deriving Repr

namespace Template

def toValue : Template → Value
  | .text s => .text s
  | .level l => .level l
  | .list xs => .list xs
  | .tuple xs => .tuple xs

def ofValue? : Value → Option Template
  | .text s => some (.text s)
  | .level l => some (.level l)
  | .list xs => some (.list xs)
  | .tuple xs => some (.tuple xs)
  | _ => none

def marksIn (items : List Value) : Nat := items.countP fun v => Value.equals v (.text "?")

def marks : Template → Nat
  | .text s => s.toList.count '?'
  | .level l => l.name.toList.count '?'
  | .list xs => marksIn xs
  | .tuple xs => marksIn xs

def chars : Template → List Char
  | .text s => s.toList
  | .level l => l.name.toList
  | t => t.toValue.literal.toList

end Template

end SqlCluster
