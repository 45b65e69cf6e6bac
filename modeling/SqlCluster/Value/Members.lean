import SqlCluster.Value.Equality
/-!
Sets. Of equal members the first one stays. Members that are numbers are gone through by residue: a
number's place in a table of a power of two is its residue modulo a Mersenne prime, and where the
place is taken a fixed row of further places is tried. The table grows before it is three fifths
full.
-/
namespace SqlCluster.Members

open Number

def modulus : Nat := Nat.pow 2 61 - 1

def powMod (base : Nat) (exponent : Nat) : Nat :=
  if exponent = 0 then 1
  else
    let half := powMod (base * base % modulus) (exponent / 2)
    if exponent % 2 = 0 then half else half * base % modulus
termination_by exponent
decreasing_by omega

def inverse (n : Nat) : Nat := powMod (n % modulus) (modulus - 2)

/-- A residue in 64 bits. A negative number counts down from the top, and one place there is left
out. -/
def ofResidue (negative : Bool) (r : Nat) : Nat :=
  if negative then
    (if r = 0 then 0 else if r = 1 then Nat.pow 2 64 - 2 else Nat.pow 2 64 - r)
  else r

def placeOf : Quantity → Option Nat
  | .exact num den power =>
      let scale := if power < 0 then inverse (powMod 10 (-power).toNat) else powMod 10 power.toNat
      some (ofResidue (decide (num < 0)) (num.natAbs % modulus * inverse den % modulus * scale % modulus))
  | .infinite negative => some (ofResidue negative 314159)
  | .nan _ => none

def place? : Value → Option Nat
  | .uuid u => some (u.value % modulus)
  | v => v.quantity?.bind placeOf

/-- A table: for each slot the place and the number of the member that took it. -/
abbrev Table := List (Option (Nat × Nat))

def neighbours (size slot : Nat) : List Nat :=
  if slot + 9 < size then List.range' slot 10 else [slot]

/-- The slot for a place: the first free one of the row, of which at most `fuel` stretches are
tried. -/
def freeSlot (t : Table) : Nat → Nat → Nat → Option Nat
  | 0, _, _ => none
  | fuel + 1, slot, rest =>
      match (neighbours t.length slot).find? fun n => (t.getD n none).isNone with
      | some n => some n
      | none => freeSlot t fuel ((slot * 5 + 1 + rest / 32) % t.length) (rest / 32)

def insert (t : Table) (entry : Nat × Nat) : Table :=
  match freeSlot t (t.length + 16) (entry.1 % t.length) entry.1 with
  | some n => t.set n (some entry)
  | none => t

def sizeAbove (n : Nat) : Nat := max 8 (Nat.pow 2 (n.log2 + 1))

def grown (t : Table) : Table :=
  let entries := t.filterMap id
  if entries.length * 5 < (t.length - 1) * 3 then t
  else entries.foldl insert (List.replicate (sizeAbove (entries.length * 4)) none)

def orderOf (places : List Nat) : List Nat :=
  let start : Table := List.replicate 8 none
  ((places.zipIdx.foldl (fun t p => grown (insert t p)) start).filterMap id).map (·.2)

def deduplicated : List Value → List Value → List Value
  | _, [] => []
  | seen, x :: xs =>
      if seen.any fun y => Value.equals y x then deduplicated seen xs
      else x :: deduplicated (seen ++ [x]) xs

/-- The members of a set of the given values, in the order in which they are gone through. -/
def ofValues (xs : List Value) : List Value :=
  let members := deduplicated [] xs
  match members.mapM place? with
  | some places => (orderOf places).filterMap fun n => members[n]?
  | none => members

end SqlCluster.Members
