import SqlCluster.Number.Setting
import SqlCluster.Text.Split
/-!
Numbers as cells spell them. White space is trimmed and the digits are ASCII; leading zeros, single
underscores and a fraction of zeros are passed over in an integer.
-/
namespace SqlCluster.Number.Literal

def hasDoubled : List Char → Bool
  | '_' :: '_' :: _ => true
  | _ :: cs => hasDoubled cs
  | [] => false

def looseUnderscores? (cs : List Char) : Option (List Char) :=
  if cs.head? = some '_' ∨ cs.getLast? = some '_' ∨ hasDoubled cs then none
  else some (cs.filter (· ≠ '_'))

/-- A number as a cell spells it. A text that is no number so gets a second reading, untrimmed, with
underscores dropped. -/
def cellFloat? (cs : List Char) : Option Double :=
  match float? (Text.trim Text.isWhiteSpace cs) with
  | some d => some d
  | none => (looseUnderscores? cs).bind float?

def dropPlus? : List Char → Option (List Char)
  | '+' :: '-' :: _ => none
  | '+' :: cs => some cs
  | cs => some cs

def opensInt (c : Char) : Bool := Text.isAsciiDigit c || c == '-'

/-- The text behind leading zeros and the underscores among them, of which the last character stays
in front of a point. -/
def afterZeros? (last : Char) : List Char → Option (List Char)
  | [] => some ['0']
  | c :: cs =>
      if c = '0' ∨ c = '_' then afterZeros? c cs
      else if c = '.' then some (last :: c :: cs)
      else if opensInt c then some (c :: cs)
      else none

def dropLeadingZeros? : List Char → Option (List Char)
  | [] => none
  | c :: cs =>
      if c = '0' then afterZeros? c cs
      else if opensInt c then some (c :: cs)
      else none

def dropZeroFraction? (cs : List Char) : Option (List Char) :=
  match Text.cutFirst? '.' cs with
  | none => some cs
  | some (whole, zeros) => if !zeros.isEmpty && zeros.all (· = '0') then some whole else none

def bareInt? (cs : List Char) : Option Int :=
  let negative := cs.head? = some '-'
  let digits := if negative then cs.drop 1 else cs
  if maxIntDigits < digits.length then none
  else (natural? digits).map (Double.withSign negative)

def cellInt? (cs : List Char) : Option Int := do
  let unsigned ← dropPlus? (Text.trim Text.isWhiteSpace cs)
  let significant ← dropLeadingZeros? unsigned
  let whole ← dropZeroFraction? significant
  bareInt? ((looseUnderscores? whole).getD whole)

end SqlCluster.Number.Literal
