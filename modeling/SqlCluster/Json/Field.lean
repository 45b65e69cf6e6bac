import SqlCluster.Json.Basic
import SqlCluster.Lenient
/-!
Typed fields of a document. A scalar is read leniently; a list or an object has to be one. Every
reading fails on a null, and optional fields say so.
-/
namespace SqlCluster.Json

open Number

def int? : Json → Option Int
  | .int n => some n
  | .bool b => some (Lenient.ofBool b)
  | .float d => Lenient.intOfDouble? d
  | .text s => Lenient.intOfText? s.toList
  | _ => none

def float? : Json → Option Double
  | .float d => some d
  | .int n => some (Double.ofInt n)
  | .bool b => some (Double.ofInt (Lenient.ofBool b))
  | .text s => Lenient.floatOfText? s.toList
  | _ => none

def bool? : Json → Option Bool
  | .bool b => some b
  | .int n => Lenient.boolOfInt? n
  | .float d => (Lenient.intOfDouble? d).bind Lenient.boolOfInt?
  | .text s => Lenient.boolOfText? s.toList
  | _ => none

def text? : Json → Option String
  | .text s => some s
  | _ => none

def listOf? {α : Type} (read : Json → Option α) : Json → Option (List α)
  | .list xs => xs.mapM read
  | _ => none

/-- Members by name, all read; of members with one key the last counts, at the first's place. -/
def mapOf? {α : Type} (read : Json → Option α) : Json → Option (List (String × α))
  | .map ms => (ms.mapM fun m => (read m.2).map fun v => (m.1, v)).map collectEntries
  | _ => none

inductive Slot (α : Type) where
  | absent
  | null
  | given (value : α)
  deriving DecidableEq, Repr

def Slot.get? {α : Type} : Slot α → Option α
  | .given a => some a
  | _ => none

/-- The last member of that name, if it can be read; a null stands for itself. -/
def slot? {α : Type} (key : String) (read : Json → Option α) (ms : List (String × Json)) :
    Option (Slot α) :=
  match member? key ms with
  | none => some .absent
  | some .null => some .null
  | some j => (read j).map .given

def fieldOr? {α : Type} (key : String) (default : α) (read : Json → Option α)
    (ms : List (String × Json)) : Option α :=
  match member? key ms with
  | none => some default
  | some j => read j

end SqlCluster.Json
