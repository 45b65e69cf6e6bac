import SqlCluster.Number.Double
import SqlCluster.Text.Blank
import SqlCluster.Text.Digit
import SqlCluster.Text.Case
/-!
Numbers read from text. All readings share the shape sign, digits, fraction, exponent; they differ
in which blanks they trim, which digits they know and where an underscore may stand.
-/
namespace SqlCluster.Number.Literal

structure Scientific where
  negative : Bool
  coefficient : Nat
  power : Int
  deriving DecidableEq, Repr

def Scientific.toDouble (s : Scientific) : Double := Double.ofDecimal s.negative s.coefficient s.power

def sign : List Char → Bool × List Char
  | '-' :: cs => (true, cs)
  | '+' :: cs => (false, cs)
  | cs => (false, cs)

def digitRow : List Char → List Nat × List Char
  | [] => ([], [])
  | c :: cs =>
      match Text.asciiValue? c with
      | some d => let r := digitRow cs; (d :: r.1, r.2)
      | none => ([], c :: cs)

def natural? (cs : List Char) : Option Nat :=
  match digitRow cs with
  | ([], _) => none
  | (ds, []) => some (Text.ofDigits ds)
  | _ => none

def exponent? : List Char → Option Int
  | [] => some 0
  | c :: cs =>
      if c = 'e' ∨ c = 'E' then
        let s := sign cs
        (natural? s.2).map fun n => Double.withSign s.1 n
      else none

def unsigned? (negative : Bool) (cs : List Char) : Option Scientific :=
  let whole := digitRow cs
  let part := match whole.2 with
    | '.' :: rest => digitRow rest
    | rest => ([], rest)
  if whole.1.isEmpty && part.1.isEmpty then none
  else (exponent? part.2).map fun e =>
    ⟨negative, Text.ofDigits (whole.1 ++ part.1), e - part.1.length⟩

def infinityNames : List (List Char) := ["inf".toList, "infinity".toList]

def float? (cs : List Char) : Option Double :=
  let s := sign cs
  let name := Text.asciiLower s.2
  if infinityNames.contains name then some (.infinite s.1)
  else if name = "nan".toList then some .nan
  else (unsigned? s.1 s.2).map Scientific.toDouble

def asciiDigits (cs : List Char) : List Char :=
  cs.map fun c => match Text.decimalValue? c with
    | some d => Char.ofNat (48 + d)
    | none => c

def dropUnderscores? (previous : Bool) : List Char → Option (List Char)
  | [] => some []
  | '_' :: cs =>
      match cs with
      | d :: _ => if previous && Text.isAsciiDigit d then dropUnderscores? false cs else none
      | [] => none
  | c :: cs => (dropUnderscores? (Text.isAsciiDigit c) cs).map (c :: ·)

end SqlCluster.Number.Literal
