import SqlCluster.Text.CompositionTable
/-!
Canonical composition of texts, which are lists of code points here. A text is composed when taking
its characters apart, sorting the marks on each letter and putting all together again changes
nothing.
-/
namespace SqlCluster.Text

def combiningClass (n : Nat) : Nat := valueInRuns 0 combiningRuns n

def syllableBase : Nat := 0xAC00

def leadBase : Nat := 0x1100

def vowelBase : Nat := 0x1161

def tailBase : Nat := 0x11A7

def vowelCount : Nat := 21

def tailCount : Nat := 28

def syllableCount : Nat := 19 * vowelCount * tailCount

def inBlock (base count n : Nat) : Bool := base ≤ n && n < base + count

def splitSyllable (n : Nat) : List Nat :=
  let index := n - syllableBase
  let tail := index % tailCount
  [leadBase + index / (vowelCount * tailCount),
    vowelBase + index % (vowelCount * tailCount) / tailCount] ++
    (if tail = 0 then [] else [tailBase + tail])

def pairSyllable? (a b : Nat) : Option Nat :=
  if inBlock leadBase 19 a && inBlock vowelBase vowelCount b then
    some (syllableBase + ((a - leadBase) * vowelCount + (b - vowelBase)) * tailCount)
  else if inBlock syllableBase syllableCount a && (a - syllableBase) % tailCount == 0 &&
      inBlock (tailBase + 1) (tailCount - 1) b then
    some (a + (b - tailBase))
  else none

def takeApart : Nat → Nat → List Nat
  | 0, n => [n]
  | depth + 1, n =>
      if inBlock syllableBase syllableCount n then splitSyllable n
      else match composites.find? (·.1 = n) with
        | some (_, a, b) => takeApart depth a ++ [b]
        | none => [n]

def maxDepth : Nat := 4

def pair? (a b : Nat) : Option Nat :=
  match pairSyllable? a b with
  | some n => some n
  | none => (composites.find? fun c => c.2.1 = a ∧ c.2.2 = b).map (·.1)

/-- A mark goes behind the marks of a lower class that follow it. -/
def placeMark (n : Nat) : List Nat → List Nat
  | [] => [n]
  | m :: ms =>
      if combiningClass m ≠ 0 ∧ combiningClass m < combiningClass n then m :: placeMark n ms
      else n :: m :: ms

def sortMarks (ns : List Nat) : List Nat := ns.foldr placeMark []

/-- Puts a text together from a letter on, with the marks that were left behind it in reverse. A
mark of a class that was left behind before stays too. -/
def composeFrom (letter : Nat) (left : List Nat) : List Nat → List Nat
  | [] => letter :: left.reverse
  | n :: ns =>
      let blocked := match left with
        | [] => false
        | m :: _ => combiningClass n ≤ combiningClass m
      match if blocked then none else pair? letter n with
      | some p => composeFrom p left ns
      | none =>
          if combiningClass n = 0 then letter :: left.reverse ++ composeFrom n [] ns
          else composeFrom letter (n :: left) ns

def compose : List Nat → List Nat
  | [] => []
  | n :: ns => if combiningClass n = 0 then composeFrom n [] ns else n :: compose ns

def isComposed (ns : List Nat) : Bool :=
  !(ns.any (inRunsFrom false uncomposedBounds)) &&
    compose (sortMarks (ns.flatMap (takeApart maxDepth))) == ns

end SqlCluster.Text
