import SqlCluster.Number.Places
import SqlCluster.Text.Directive
import SqlCluster.Value.Number
/-!
Messages from a pattern and the values that its directives ask for. The values are used in order,
and every one of them has to be used.
-/
namespace SqlCluster

open Number Text

inductive MessageError where
  | tooFew
  | tooMany
  | pattern (e : DirectiveError)
  | unknown (letter : Char) (position : Nat)
  | extentType
  | widthRange
  | precisionRange
  | integerPrecision
  | notReal (letter : Char) (typeName : String)
  | notInteger (letter : Char) (typeName : String)
  | notFloat (typeName : String)
  | notCharacter
  | characterRange
  | tooManyDigits
  | number (e : NumberError)
  deriving DecidableEq, Repr

namespace MessageError

def shown (c : Char) : String :=
  if 31 ≤ c.toNat ∧ c.toNat < 126 then String.singleton c else "?"

def patternText : DirectiveError → String
  | .named => "format requires a mapping"
  | .widthTooBig => "width too big"
  | .precisionTooBig => "precision too big"
  | .unfinished => "incomplete format"

def message : MessageError → String
  | .tooFew => "not enough arguments for format string"
  | .tooMany => "not all arguments converted during string formatting"
  | .pattern e => patternText e
  | .unknown c n =>
      "unsupported format character '" ++ shown c ++ "' (0x" ++
        String.ofList (Nat.toDigits 16 c.toNat) ++ ") at index " ++ toString n
  | .extentType => "* wants int"
  | .widthRange => "Python int too large to convert to C ssize_t"
  | .precisionRange => "Python int too large to convert to C int"
  | .integerPrecision => "precision too large"
  | .notReal c name =>
      "%" ++ String.singleton c ++ " format: a real number is required, not " ++ name
  | .notInteger c name =>
      "%" ++ String.singleton c ++ " format: an integer is required, not " ++ name
  | .notFloat name => "must be real number, not " ++ name
  | .notCharacter => "%c requires int or char"
  | .characterRange => "%c arg not in range(0x110000)"
  | .tooManyDigits => Literal.unwritableText
  | .number e => e.message

end MessageError

namespace Message

structure Written where
  isNumber : Bool
  sign : List Char
  opening : List Char
  body : List Char
  deriving DecidableEq, Repr

def ofText (cs : List Char) : Written := ⟨false, [], [], cs⟩

def ofNumber (f : Flags) (opening : List Char) : List Char → Written
  | '-' :: cs => ⟨true, ['-'], opening, cs⟩
  | cs => ⟨true, if f.plus then ['+'] else if f.blank then [' '] else [], opening, cs⟩

def padded (f : Flags) (width : Nat) (w : Written) : List Char :=
  let missing := width - (w.sign.length + w.opening.length + w.body.length)
  if f.left then w.sign ++ w.opening ++ w.body ++ List.replicate missing ' '
  else if w.isNumber && f.zeros then w.sign ++ w.opening ++ List.replicate missing '0' ++ w.body
  else List.replicate missing ' ' ++ w.sign ++ w.opening ++ w.body

def cut (precision : Option Nat) (cs : List Char) : List Char :=
  match precision with
  | some n => cs.take n
  | none => cs

def asciiOnly (cs : List Char) : List Char :=
  cs.flatMap fun c => if c.toNat < 0x80 then [c] else Text.Quoted.numbered c.toNat

def integerText (f : Flags) (precision : Option Nat) (opening digits : List Char) (n : Int) :
    Except MessageError Written :=
  if Directive.mostPrecision - 3 < precision.getD 0 then .error .integerPrecision
  else
    let zeros := List.replicate (precision.getD 0 - digits.length) '0'
    .ok (ofNumber f (if f.alternate then opening else [])
      ((if n < 0 then ['-'] else []) ++ zeros ++ digits))

def decimalText (f : Flags) (precision : Option Nat) (n : Int) : Except MessageError Written :=
  if Literal.isWritable n then integerText f precision [] (Text.decimal n.natAbs) n
  else .error .tooManyDigits

def real (letter : Char) (v : Value) : Except MessageError Int :=
  match v with
  | .bool _ | .int _ | .float _ | .decimal _ | .uuid _ => match v.toInt with
      | .ok n => .ok n
      | .error e => .error (.number e)
  | v => .error (.notReal letter v.qualifiedTypeName)

def whole (letter : Char) : Value → Except MessageError Int
  | .bool b => .ok (if b then 1 else 0)
  | .int n => .ok n
  | v => .error (.notInteger letter v.qualifiedTypeName)

def point (v : Value) : Except MessageError Double :=
  match v with
  | .bool _ | .int _ | .float _ | .decimal _ => match v.toDouble with
      | .ok d => .ok d
      | .error e => .error (.number e)
  | v => .error (.notFloat v.qualifiedTypeName)

def character (v : Value) : Except MessageError Char :=
  match v.text? with
  | some s => match s.toList with
      | [c] => .ok c
      | _ => .error .notCharacter
  | none => match whole 'c' v with
      | .ok n =>
          if 0 ≤ n ∧ n < 0x110000 then .ok (Char.ofNat n.toNat) else .error .characterRange
      | .error _ => .error .notCharacter

def style? (c : Char) : Option PlacesStyle :=
  if c = 'f' ∨ c = 'F' then some .fixed
  else if c = 'e' ∨ c = 'E' then some .scientific
  else if c = 'g' ∨ c = 'G' then some .general
  else none

def defaultPlaces : Nat := 6

def floatText (f : Flags) (precision : Option Nat) (letter : Char) (style : PlacesStyle)
    (d : Double) : Written :=
  let cs := Places.chars style f.alternate (precision.getD defaultPlaces) d
  ofNumber f [] (if Text.asciiLower [letter] = [letter] then cs else cs.map Char.toUpper)

def write (f : Flags) (precision : Option Nat) (letter : Char) (position : Nat) (v : Value) :
    Except MessageError Written :=
  match style? letter with
  | some style => (point v).map (floatText f precision letter style)
  | none => match letter with
      | 's' => .ok (ofText (cut precision v.plain.toList))
      | 'r' => .ok (ofText (cut precision v.literal.toList))
      | 'a' => .ok (ofText (cut precision (asciiOnly v.literal.toList)))
      | 'd' | 'i' | 'u' => (real letter v).bind (decimalText f precision)
      | 'o' => (whole letter v).bind fun n =>
          integerText f precision ['0', 'o'] (Nat.toDigits 8 n.natAbs) n
      | 'x' => (whole letter v).bind fun n =>
          integerText f precision ['0', 'x'] (Nat.toDigits 16 n.natAbs) n
      | 'X' => (whole letter v).bind fun n =>
          integerText f precision ['0', 'X'] ((Nat.toDigits 16 n.natAbs).map Char.toUpper) n
      | 'c' => (character v).map fun c => ofText [c]
      | c => .error (.unknown c position)

def extentOf (range : MessageError) (least most : Int) :
    List Value → Except MessageError (Int × List Value)
  | [] => .error .tooFew
  | v :: vs => match whole '*' v with
      | .ok n => if n < least ∨ most < n then .error range else .ok (n, vs)
      | .error _ => .error .extentType

/-- The flags and the width of a directive. A negative width puts the padding to the right. -/
def widthOf (d : Directive) (args : List Value) : Except MessageError (Flags × Nat × List Value) :=
  match d.width with
  | .unset => .ok (d.flags, 0, args)
  | .given n => .ok (d.flags, n, args)
  | .argument =>
      (extentOf .widthRange (-(Directive.mostWidth : Int) - 1) Directive.mostWidth args).map fun r =>
        (if r.1 < 0 then { d.flags with left := true } else d.flags, r.1.natAbs, r.2)

/-- The precision of a directive; below zero it is zero. -/
def precisionOf (d : Directive) (args : List Value) :
    Except MessageError (Option Nat × List Value) :=
  match d.precision with
  | .unset => .ok (none, args)
  | .given n => .ok (some n, args)
  | .argument =>
      (extentOf .precisionRange (-(Directive.mostPrecision : Int) - 1) Directive.mostPrecision
        args).map fun r => (some r.1.toNat, r.2)

/-- A directive filled in, and the values that are left. A doubled percent sign uses none. -/
def fillOne (d : Directive) (args : List Value) : Except MessageError (List Char × List Value) := do
  let w ← widthOf d args
  let p ← precisionOf d w.2.2
  match d.ending with
  | .broken e => .error (.pattern e)
  | .letter c position =>
      if c = '%' then .ok (['%'], p.2)
      else match p.2 with
        | [] => .error .tooFew
        | v :: rest => (write w.1 p.1 c position v).map fun t => (padded w.1 w.2.1 t, rest)

def fillPieces : List Piece → List Value → Except MessageError (List Char)
  | [], [] => .ok []
  | [], _ :: _ => .error .tooMany
  | .literal c :: ps, args => (fillPieces ps args).map (c :: ·)
  | .directive d :: ps, args => do
      let r ← fillOne d args
      let rest ← fillPieces ps r.2
      return r.1 ++ rest

def fill (pattern : String) (args : List Value) : Except MessageError String :=
  (fillPieces (pieces pattern.toList) args).map String.ofList

end Message

end SqlCluster
