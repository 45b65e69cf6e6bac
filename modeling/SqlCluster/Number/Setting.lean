import SqlCluster.Number.Literal
/-!
Numbers as settings and entries spell them. Blanks around a number are passed over, any script's
digits count, and single underscores may stand between digits. An integer has a limited number of
digits, and too many are told apart from a text that is no integer.
-/
namespace SqlCluster.Number.Literal

def maxIntDigits : Nat := 4300

inductive IntError where
  | malformed
  | tooManyDigits (n : Nat)
  deriving DecidableEq, Repr

def tooManyDigitsText (n : Nat) : String :=
  "Exceeds the limit (" ++ toString maxIntDigits ++
    " digits) for integer string conversion: value has " ++ toString n ++
    " digits; use sys.set_int_max_str_digits() to increase the limit"

def isWritable (n : Int) : Bool := decide ((Text.decimal n.natAbs).length ≤ maxIntDigits)

def unwritableText : String :=
  "Exceeds the limit (" ++ toString maxIntDigits ++
    " digits) for integer string conversion; use sys.set_int_max_str_digits() to increase the limit"

def isAsciiBlank (c : Char) : Bool := c == ' ' || (9 ≤ c.toNat && c.toNat ≤ 13)

def asciiForm (cs : List Char) : List Char :=
  cs.map fun c =>
    if c.toNat < 0x7F then c
    else if Text.isBlank c then ' '
    else match Text.decimalValue? c with
      | some d => Char.ofNat (48 + d)
      | none => c

def byteChars (data : List UInt8) : List Char := data.map fun b => Char.ofNat b.toNat

/-- A row of digits with underscores between them, as its digits and the rest; nothing where an
underscore stands elsewhere. -/
def spacedRow? (previous : Bool) : List Char → Option (List Nat × List Char)
  | [] => some ([], [])
  | c :: cs =>
      if c = '_' then
        match cs with
        | d :: _ => if previous && Text.isAsciiDigit d then spacedRow? false cs else none
        | [] => none
      else match Text.asciiValue? c with
        | some d => (spacedRow? true cs).map fun r => (d :: r.1, r.2)
        | none => some ([], c :: cs)

def plainInt (cs : List Char) : Except IntError Int :=
  let s := sign (cs.dropWhile isAsciiBlank)
  match spacedRow? false s.2 with
  | none => .error .malformed
  | some ([], _) => .error .malformed
  | some (d :: ds, rest) =>
      let n := (d :: ds).length
      if maxIntDigits < n then .error (.tooManyDigits n)
      else if rest.all isAsciiBlank then .ok (Double.withSign s.1 (Text.ofDigits (d :: ds)))
      else .error .malformed

def settingInt (cs : List Char) : Except IntError Int := plainInt (asciiForm cs)

def plainFloat? (cs : List Char) : Option Double :=
  (dropUnderscores? false (Text.trim isAsciiBlank cs)).bind float?

def setting? (cs : List Char) : Option Double := plainFloat? (asciiForm cs)

end SqlCluster.Number.Literal
