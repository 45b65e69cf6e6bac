import SqlCluster.Value.Basic
/-!
Equality of values. Numbers of every type compare by exact value, byte strings by content, a level
like its name, and maps without regard to order. Not a number equals nothing, and where a signaling
one meets a number there is no answer at all.
-/
namespace SqlCluster

open Number Calendar

/-- The exact value of a number. A finite one is `num / den · 10 ^ power`. -/
inductive Quantity where
  | exact (num : Int) (den : Nat) (power : Int)
  | infinite (negative : Bool)
  | nan (signaling : Bool)
  deriving DecidableEq, Repr

/-- Is `a · 10 ^ p` equal to `b · 10 ^ q`? No power is computed that outgrows the other side. -/
def sameScaled (a p b q : Int) : Bool :=
  if a = 0 ∨ b = 0 then a == b
  else if q ≤ p then (p - q).toNat ≤ b.natAbs.log2 && a * (Nat.pow 10 (p - q).toNat : Nat) == b
  else (q - p).toNat ≤ a.natAbs.log2 && b * (Nat.pow 10 (q - p).toNat : Nat) == a

namespace Quantity

def equals : Quantity → Quantity → Bool
  | .exact a b p, .exact c d q => sameScaled (a * (d : Int)) p (c * (b : Int)) q
  | .infinite a, .infinite b => a == b
  | _, _ => false

def isSignaling : Quantity → Bool
  | .nan signaling => signaling
  | _ => false

def ofDouble : Double → Quantity
  | .nan => .nan false
  | .infinite s => .infinite s
  | .finite s m e =>
      let r := Double.magnitude m e
      .exact (Double.withSign s r.1) r.2 0

def ofDecimal : Decimal → Quantity
  | .nan _ signaling _ => .nan signaling
  | .infinite s => .infinite s
  | .finite s c power => .exact (Double.withSign s c) 1 power

end Quantity

namespace Value

def quantity? : Value → Option Quantity
  | .bool b => some (.exact (if b then 1 else 0) 1 0)
  | .int n => some (.exact n 1 0)
  | .float d => some (Quantity.ofDouble d)
  | .decimal d => some (Quantity.ofDecimal d)
  | _ => none

/-- A naive and an aware moment never agree; two aware ones agree as instants. -/
def sameMoment (a b : Moment) : Bool :=
  match a.offset, b.offset with
  | none, none => a.wallMicros == b.wallMicros
  | some _, some _ => a.instant == b.instant
  | _, _ => false

def universalSecond (t : Time) (offset : Int) : Int :=
  ((t.hour * 60 + t.minute) * 60 + t.second : Nat) - offset / (microsPerSecond : Int)

/-- Times of one offset agree as they stand, others in universal time of an unbounded day. -/
def sameClock (a b : Clock) : Bool :=
  if a.offset = b.offset then a.time == b.time
  else match a.offset, b.offset with
    | some x, some y =>
        universalSecond a.time x == universalSecond b.time y && a.time.micro == b.time.micro
    | _, _ => false

def sameLeaf : Value → Value → Bool
  | .null, .null => true
  | .bytes _ a, .bytes _ b => a == b
  | .date a, .date b => a == b
  | .time a, .time b => sameClock a b
  | .moment a, .moment b => sameMoment a b
  | .uuid a, .uuid b => a == b
  | .complex, .complex => true
  | a, b =>
      match a.text?, b.text? with
      | some x, some y => x == y
      | _, _ => false

/-- Two values that hold no others, or nothing where a signaling number meets a number. -/
def compareLeaves? (a b : Value) : Option Bool :=
  match a.quantity?, b.quantity? with
  | some x, some y => if x.isSignaling || y.isSignaling then none else some (x.equals y)
  | _, _ => some (sameLeaf a b)

mutual

def compare? : Value → Value → Option Bool
  | .list xs, .list ys => if xs.length = ys.length then compareItems? xs ys else some false
  | .tuple xs, .tuple ys => compareItems? xs ys
  | .map es, .map fs => if es.length = fs.length then compareEntries? es fs else some false
  | .set xs, .set ys => some (xs.length == ys.length && containedIn xs ys)
  | a, b => compareLeaves? a b

def compareItems? : List Value → List Value → Option Bool
  | [], [] => some true
  | x :: xs, y :: ys =>
      match compare? x y with
      | some true => compareItems? xs ys
      | r => r
  | _, _ => some false

def containedIn : List Value → List Value → Bool
  | [], _ => true
  | x :: xs, ys => (ys.any fun y => compare? x y == some true) && containedIn xs ys

def compareEntries? : List (String × Value) → List (String × Value) → Option Bool
  | [], _ => some true
  | (k, v) :: es, fs =>
      match lookup k fs with
      | none => some false
      | some w =>
          match compare? v w with
          | some true => compareEntries? es fs
          | r => r

end

def incomparableText : String := "[<class 'decimal.InvalidOperation'>]"

/-- Are the values equal? Those that cannot be compared are not. -/
def equals (a b : Value) : Bool := compare? a b == some true

end Value

end SqlCluster
