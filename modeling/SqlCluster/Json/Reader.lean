import SqlCluster.Json.Basic
import SqlCluster.Text.Hex
import SqlCluster.Text.Split
import SqlCluster.Text.Utf8
import SqlCluster.Number.Literal
/-!
Reading JSON. Each reader takes a value off the front of a text and gives the rest. Two sets of
rules are in use: the standard's own, and the looser ones of servers, which also write the numbers
that are none and bound depth and digits.
-/
namespace SqlCluster.Json

open Number

/-- What a reader admits beside the standard's grammar, and where it stops. -/
structure Rules where
  /-- Are `NaN`, `Infinity` and `-Infinity` numbers? -/
  nonFinite : Bool
  /-- The most digits in front of a number's point. -/
  maxDigits : Option Nat
  deriving DecidableEq, Repr

def Rules.strict : Rules := ⟨false, none⟩

def Rules.server : Rules := ⟨true, some 4300⟩

def maxDepth : Nat := 200

def isSpace (c : Char) : Bool := c == ' ' || c == '\t' || c == '\n' || c == '\r'

def skipSpace (cs : List Char) : List Char := cs.dropWhile isSpace

def whole? (cs : List Char) : Option (List Nat × List Char) :=
  match Literal.digitRow cs with
  | ([], _) => none
  | (d :: ds, rest) => if d = 0 ∧ ds ≠ [] then none else some (d :: ds, rest)

def row? (cs : List Char) : Option (List Nat × List Char) :=
  match Literal.digitRow cs with
  | ([], _) => none
  | r => some r

def optional? {α : Type} (opens : Char → Bool) (read : List Char → Option (α × List Char))
    (cs : List Char) : Option (Option α × List Char) :=
  match cs with
  | [] => some (none, [])
  | c :: rest =>
      if opens c then (read rest).map fun r => (some r.1, r.2)
      else some (none, c :: rest)

def exponent? (cs : List Char) : Option (Int × List Char) :=
  let s := Literal.sign cs
  (row? s.2).map fun r => (Double.withSign s.1 (Text.ofDigits r.1), r.2)

def withinDigits (rules : Rules) (n : Nat) : Bool :=
  match rules.maxDigits with
  | none => true
  | some m => n ≤ m

def unsignedNumber? (rules : Rules) (negative : Bool) (cs : List Char) :
    Option (Json × List Char) := do
  let w ← whole? cs
  if withinDigits rules w.1.length then
    let f ← optional? (· == '.') row? w.2
    let e ← optional? (fun c => c == 'e' || c == 'E') exponent? f.2
    if f.1.isNone && e.1.isNone then
      return (.int (Double.withSign negative (Text.ofDigits w.1)), e.2)
    else
      let digits := f.1.getD []
      let power := e.1.getD 0 - digits.length
      return (.float (Double.ofDecimal negative (Text.ofDigits (w.1 ++ digits)) power), e.2)
  else none

def isHighSurrogate (n : Nat) : Bool := 0xD800 ≤ n && n < 0xDC00

def isLowSurrogate (n : Nat) : Bool := 0xDC00 ≤ n && n < 0xE000

def joinSurrogates (high low : Nat) : Nat := 0x10000 + (high - 0xD800) * 0x400 + (low - 0xDC00)

def shortEscape? : Char → Option Char
  | '"' => some '"'
  | '\\' => some '\\'
  | '/' => some '/'
  | 'b' => some (Char.ofNat 8)
  | 'f' => some (Char.ofNat 12)
  | 'n' => some '\n'
  | 'r' => some '\r'
  | 't' => some '\t'
  | _ => none

def unit? (a b c d : Char) : Option Nat := do
  let w ← Text.hexValue? a
  let x ← Text.hexValue? b
  let y ← Text.hexValue? c
  let z ← Text.hexValue? d
  return ((w * 16 + x) * 16 + y) * 16 + z

/-- A text after its opening quote, through the closing one. A numbered escape of half a pair needs
the other half behind it. -/
def textBody? : List Char → Option (List Char × List Char)
  | [] => none
  | '"' :: rest => some ([], rest)
  | '\\' :: 'u' :: a :: b :: c :: d :: rest =>
      (unit? a b c d).bind fun n =>
        if isHighSurrogate n then
          match rest with
          | '\\' :: 'u' :: e :: f :: g :: h :: more =>
              (unit? e f g h).bind fun m =>
                if isLowSurrogate m then
                  (textBody? more).map fun r => (Char.ofNat (joinSurrogates n m) :: r.1, r.2)
                else none
          | _ => none
        else if isLowSurrogate n then none
        else (textBody? rest).map fun r => (Char.ofNat n :: r.1, r.2)
  | '\\' :: c :: rest =>
      (shortEscape? c).bind fun x => (textBody? rest).map fun r => (x :: r.1, r.2)
  | c :: rest =>
      if c.toNat < 0x20 ∨ c = '\\' then none
      else (textBody? rest).map fun r => (c :: r.1, r.2)

/-- Parts between commas, through the closing character. The opening one is already taken, and there
are no more parts than `fuel`. -/
def sequence? {α : Type} (part : List Char → Option (α × List Char)) (close : Char) :
    Nat → List Char → Option (List α × List Char)
  | 0, _ => none
  | fuel + 1, cs => do
      let p ← part (skipSpace cs)
      match skipSpace p.2 with
      | ',' :: rest =>
          let r ← sequence? part close fuel rest
          return (p.1 :: r.1, r.2)
      | c :: rest => if c = close then return ([p.1], rest) else none
      | [] => none

def enclosed? {α : Type} (part : List Char → Option (α × List Char)) (close : Char)
    (cs : List Char) : Option (List α × List Char) :=
  if (skipSpace cs).head? = some close then some ([], (skipSpace cs).drop 1)
  else sequence? part close cs.length cs

def member (part : List Char → Option (Json × List Char)) (cs : List Char) :
    Option ((String × Json) × List Char) :=
  match cs with
  | '"' :: rest =>
      (textBody? rest).bind fun k =>
        match skipSpace k.2 with
        | ':' :: more => (part (skipSpace more)).map fun v => ((String.ofList k.1, v.1), v.2)
        | _ => none
  | _ => none

def words (rules : Rules) : List (List Char × Json) :=
  [("null".toList, .null), ("true".toList, .bool true), ("false".toList, .bool false)] ++
    (if rules.nonFinite then
      [("NaN".toList, .float .nan), ("Infinity".toList, .float (.infinite false)),
        ("-Infinity".toList, .float (.infinite true))]
    else [])

def word? (rules : Rules) (cs : List Char) : Option (Json × List Char) :=
  (words rules).findSome? fun w => (Text.after? w.1 cs).map fun rest => (w.2, rest)

def leaf? (rules : Rules) (cs : List Char) : Option (Json × List Char) :=
  match cs with
  | '"' :: rest => (textBody? rest).map fun r => (.text (String.ofList r.1), r.2)
  | c :: rest =>
      if Text.isAsciiDigit c then unsignedNumber? rules false (c :: rest)
      else match word? rules (c :: rest) with
        | some r => some r
        | none => if c = '-' then unsignedNumber? rules true rest else none
  | [] => none

/-- A value whose lists and objects nest no deeper than `depth`. -/
def value? (rules : Rules) : Nat → List Char → Option (Json × List Char)
  | 0, cs => leaf? rules cs
  | depth + 1, cs =>
      match cs with
      | '[' :: rest => (enclosed? (value? rules depth) ']' rest).map fun r => (.list r.1, r.2)
      | '\x7b' :: rest =>
          (enclosed? (member (value? rules depth)) '\x7d' rest).map fun r => (.map r.1, r.2)
      | _ => leaf? rules cs

def document? (rules : Rules) (depth : Nat) (cs : List Char) : Option Json :=
  match value? rules depth (skipSpace cs) with
  | some (v, rest) => if skipSpace rest = [] then some v else none
  | none => none

/-- The tree of a body under the standard's grammar, at any depth. -/
def strict? (body : List UInt8) : Option Json :=
  (Text.Utf8.decode? body).bind fun cs => document? .strict cs.length cs

/-- The tree of a server's answer. -/
def answer? (body : List UInt8) : Option Json :=
  (Text.Utf8.decode? body).bind (document? .server maxDepth)

end SqlCluster.Json
