import SqlCluster.Text.Hex
import SqlCluster.Text.Split
/-!
Universally unique identifiers: 128 bits, written as 32 hexadecimal digits in groups.
-/
namespace SqlCluster

structure Uuid where
  value : Nat
  deriving DecidableEq, Repr

namespace Uuid

def chars (u : Uuid) : List Char :=
  let ds := Text.hexFixed Text.lowerDigits 32 u.value
  ds.take 8 ++ '-' :: (ds.drop 8).take 4 ++ '-' :: (ds.drop 12).take 4 ++ '-' ::
    (ds.drop 16).take 4 ++ '-' :: ds.drop 20

def text (u : Uuid) : String := String.ofList u.chars

def withoutScheme (cs : List Char) : List Char :=
  let named := (Text.after? "urn:".toList cs).getD cs
  (Text.after? "uuid:".toList named).getD named

/-- Hyphens and enclosing braces are passed over. -/
def parse? (cs : List Char) : Option Uuid := do
  let ds := (withoutScheme cs).filter fun c => c != '-' && c != '\x7b' && c != '\x7d'
  let vs ← ds.mapM Text.hexValue?
  if vs.length = 32 then some ⟨vs.foldl (fun n d => n * 16 + d) 0⟩ else none

end Uuid

end SqlCluster
