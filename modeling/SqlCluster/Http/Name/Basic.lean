import SqlCluster.Http.Name.Label
/-!
The names of hosts beyond ASCII. In a URL a name stands in ASCII, label by label; it is shown with
the characters that its labels spell.
-/
namespace SqlCluster.Http.Name

inductive NameError where
  | label (e : LabelError)
  | emptyLabel
  | emptyName
  | tooLong
  deriving DecidableEq, Repr

def NameError.message : NameError → String
  | .label e => e.message
  | .emptyLabel => "Empty label"
  | .emptyName => "Empty domain"
  | .tooLong => "Domain too long"

def isStop (n : Nat) : Bool := n == 0x2E || n == 0x3002 || n == 0xFF0E || n == 0xFF61

def splitStops : List Nat → List (List Nat)
  | [] => [[]]
  | n :: ns =>
      if isStop n then [] :: splitStops ns
      else match splitStops ns with
        | [] => [[n]]
        | p :: ps => (n :: p) :: ps

def labelsOf (ns : List Nat) : Except NameError (List (List Nat) × Bool) :=
  if Label.maxNameLength < ns.length then .error .tooLong
  else
    let parts := splitStops ns
    if parts = [[]] then .error .emptyName
    else if parts.getLast? = some [] then .ok (parts.dropLast, true)
    else .ok (parts, false)

def eachLabel {α : Type} (f : List Nat → Except LabelError (List α)) :
    List (List Nat) → Except NameError (List (List α))
  | [] => .ok []
  | l :: ls =>
      match f l with
      | .error e => .error (.label e)
      | .ok [] => .error .emptyLabel
      | .ok a => (eachLabel f ls).map (a :: ·)

def toAscii (cs : List Char) : Except NameError (List Char) := do
  let (labels, stopped) ← labelsOf (cs.map Char.toNat)
  let parts ← eachLabel Label.write labels
  let name := Text.joinWith ['.'] (if stopped then parts ++ [[]] else parts)
  if (if stopped then Label.maxNameLength else Label.maxNameLength - 1) < name.length then
    throw .tooLong
  return name

def ofAscii (cs : List Char) : Except NameError (List Char) := do
  let (labels, stopped) ← labelsOf (cs.map Char.toNat)
  let parts ← eachLabel (fun l => Label.read (l.map Char.ofNat)) labels
  return (Text.joinWith ['.'] ((parts.map fun p => p.map Char.ofNat) ++ (if stopped then [[]] else [])))

end SqlCluster.Http.Name
