import SqlCluster.Compression.Bits
/-!
Prefix codes given by the lengths of their words. Words of one length follow each other in the order
of their symbols, and those of a greater length come after.
-/
namespace SqlCluster.Compression

/-- How many words there are of each length from one bit on, and the symbols in the order of their
words. -/
structure Code where
  counts : List Nat
  symbols : Array Nat
  deriving DecidableEq, Repr

namespace Code

def maxLength : Nat := 15

def symbolsOf (lengths : List Nat) (length : Nat) : List Nat :=
  (lengths.zipIdx.filter fun p => p.1 = length).map (·.2)

def wordLengths (lengths : List Nat) : List Nat :=
  List.range' 1 (max 1 (lengths.foldl max 0))

def ofLengths (lengths : List Nat) : Code where
  counts := (wordLengths lengths).map fun n => lengths.count n
  symbols := ((wordLengths lengths).flatMap (symbolsOf lengths)).toArray

def spare? : Nat → List Nat → Option Nat
  | left, [] => some left
  | left, c :: cs => if 2 * left < c then none else spare? (2 * left - c) cs

def isComplete (c : Code) : Bool := spare? 1 c.counts == some 0

/-- A code of a single word is in order too, and one of none. -/
def isUsable (c : Code) : Bool :=
  c.isComplete || c.symbols.isEmpty || (c.counts.length == 1 && (spare? 1 c.counts).isSome)

def takeFrom (bad : Corruption) (symbols : Array Nat) :
    List Nat → Nat → Nat → Bits → Reading (Nat × Bits)
  | [], _, _, _ => .error (.corrupt bad)
  | _ :: _, _, _, [] => .error .ended
  | c :: cs, word, skipped, b :: bits =>
      let word := 2 * word + b.toNat
      if word < c then
        match symbols[skipped + word]? with
        | some s => .ok (s, bits)
        | none => .error (.corrupt bad)
      else takeFrom bad symbols cs (word - c) (skipped + c) bits

def takeSymbol (c : Code) (bad : Corruption) (bits : Bits) : Reading (Nat × Bits) :=
  takeFrom bad c.symbols c.counts 0 0 bits

end Code

end SqlCluster.Compression
