import SqlCluster.Http.Name.Admitted
import SqlCluster.Http.Name.Punycode
import SqlCluster.Text.Case
import SqlCluster.Text.Composition
import SqlCluster.Text.Direction
import SqlCluster.Text.Hex
import SqlCluster.Text.Joining
import SqlCluster.Text.Mark
import SqlCluster.Text.Quoted
import SqlCluster.Text.Script
import SqlCluster.Text.Split
/-!
The labels of a host's name, as lists of code points. A label is composed, neither starts nor ends
with a hyphen, does not start with a mark, holds admitted characters only, and keeps to one
direction of writing. Some characters are admitted beside certain others only.
-/
namespace SqlCluster.Http.Name

inductive LabelError where
  | empty
  | tooLong
  | uncomposed
  | innerHyphens
  | outerHyphen
  | leadingMark
  | joiner (code position : Nat) (label : List Nat)
  | context (code position : Nat) (label : List Nat)
  | refused (code position : Nat) (label : List Nat)
  | unknownDirection (position : Nat) (label : List Nat)
  | firstDirection (label : List Nat)
  | directionRight (position : Nat)
  | directionLeft (position : Nat)
  | mixedDigits
  | lastDirection
  | emptyAscii
  | trailingHyphen
  | unreadable
  deriving DecidableEq, Repr

def quoteCodes (ns : List Nat) : String :=
  let q := Text.Quoted.enclosing (ns.contains 39) (ns.contains 34)
  let shown (n : Nat) : List Char :=
    if 0xD800 ≤ n ∧ n < 0xE000 then Text.Quoted.numbered n else Text.Quoted.escape q (Char.ofNat n)
  String.ofList (q :: ns.flatMap shown ++ [q])

def codeText (n : Nat) : String :=
  let width := max 4 ((Nat.toDigits 16 n).length)
  "U+" ++ String.ofList (Text.hexFixed Text.upperDigits width n)

def LabelError.message : LabelError → String
  | .empty => "Empty Label"
  | .tooLong => "Label too long"
  | .uncomposed => "Label must be in Normalization Form C"
  | .innerHyphens => "Label has disallowed hyphens in 3rd and 4th position"
  | .outerHyphen => "Label must not start or end with a hyphen"
  | .leadingMark => "Label begins with an illegal combining character"
  | .joiner c n l =>
      "Unknown codepoint adjacent to joiner " ++ codeText c ++ " at position " ++ toString n ++
        " in " ++ quoteCodes l
  | .context c n l =>
      "Codepoint " ++ codeText c ++ " not allowed at position " ++ toString n ++ " in " ++ quoteCodes l
  | .refused c n l =>
      "Codepoint " ++ codeText c ++ " at position " ++ toString n ++ " of " ++ quoteCodes l ++
        " not allowed"
  | .unknownDirection n l =>
      "Unknown directionality in label " ++ quoteCodes l ++ " at position " ++ toString n
  | .firstDirection l =>
      "First codepoint in label " ++ quoteCodes l ++ " must be directionality L, R or AL"
  | .directionRight n =>
      "Invalid direction for codepoint at position " ++ toString n ++ " in a right-to-left label"
  | .directionLeft n =>
      "Invalid direction for codepoint at position " ++ toString n ++ " in a left-to-right label"
  | .mixedDigits => "Can not mix numeral types in a right-to-left label"
  | .lastDirection => "Label ends with illegal codepoint directionality"
  | .emptyAscii => "Malformed A-label, no Punycode eligible content found"
  | .trailingHyphen => "A-label must not end with a hyphen"
  | .unreadable => "Invalid A-label"

namespace Label

open Text

def hyphen : Nat := 45

def checkHyphens (label : List Nat) : Except LabelError Unit :=
  if (label.drop 2).take 2 = [hyphen, hyphen] then .error .innerHyphens
  else if label.head? = some hyphen ∨ label.getLast? = some hyphen then .error .outerHyphen
  else .ok ()

def silencing : Nat := 9

def joint? (ns : List Nat) : Option Nat := ns.find? fun n => !isTransparent n

/-- Two joiners: both may follow a mark that silences a vowel, and the one that keeps letters apart
may stand between two that would join. -/
def joinerFits (before : List Nat) (code : Nat) (after : List Nat) : Bool :=
  match before.reverse with
  | [] => false
  | p :: ps =>
      if combiningClass p = 0 ∧ direction p = .unknown then false
      else combiningClass p == silencing ||
        (code == 0x200C && ((joint? (p :: ps)).any joinsAfter && (joint? after).any joinsBefore))

def isArabicDigit (n : Nat) : Bool := 0x660 ≤ n && n ≤ 0x669

def isPersianDigit (n : Nat) : Bool := 0x6F0 ≤ n && n ≤ 0x6F9

def contextFits? (before : List Nat) (code : Nat) (after : List Nat) : Option Bool :=
  let label := before ++ code :: after
  if code = 0xB7 then some (before.getLast? == some 108 && after.head? == some 108)
  else if code = 0x375 then some (after.head?.any isGreek)
  else if code = 0x5F3 ∨ code = 0x5F4 then some (before.getLast?.any isHebrew)
  else if code = 0x30FB then some (label.any isJapanese)
  else if isArabicDigit code then some (!label.any isPersianDigit)
  else if isPersianDigit code then some (!label.any isArabicDigit)
  else none

def checkCharacters (before : List Nat) : List Nat → Except LabelError Unit
  | [] => .ok ()
  | n :: after =>
      let position := before.length + 1
      let label := before ++ n :: after
      if isAdmitted n then checkCharacters (before ++ [n]) after
      else if n = 0x200C ∨ n = 0x200D then
        if joinerFits before n after then checkCharacters (before ++ [n]) after
        else .error (.joiner n position label)
      else match contextFits? before n after with
        | some true => checkCharacters (before ++ [n]) after
        | some false => .error (.context n position label)
        | none => .error (.refused n position label)

def isRightward (d : Direction) : Bool := d == .right || d == .arabic

def unknownAt? (ns : List Nat) : Option Nat := ns.findIdx? fun n => direction n == .unknown

def endsRight (d : Direction) : Bool :=
  d == .right || d == .arabic || d == .number || d == .arabicNumber

def endsLeft (d : Direction) : Bool := d == .left || d == .number

def checkRight (position : Nat) (digits : Option Direction) (ending : Bool) :
    List Direction → Except LabelError Unit
  | [] => if ending then .ok () else .error .lastDirection
  | d :: ds =>
      if d = .left then .error (.directionRight position)
      else
        let ending := endsRight d || (d == .mark && ending)
        if d = .number ∨ d = .arabicNumber then
          if digits.any (· ≠ d) then .error .mixedDigits
          else checkRight (position + 1) (some d) ending ds
        else checkRight (position + 1) digits ending ds

def checkLeft (position : Nat) (ending : Bool) : List Direction → Except LabelError Unit
  | [] => if ending then .ok () else .error .lastDirection
  | d :: ds =>
      if isRightward d || d == .arabicNumber then .error (.directionLeft position)
      else checkLeft (position + 1) (endsLeft d || (d == .mark && ending)) ds

def checkDirection (label : List Nat) : Except LabelError Unit :=
  match unknownAt? label with
  | some n => .error (.unknownDirection (n + 1) label)
  | none =>
      let ds := label.map direction
      if !(ds.any fun d => isRightward d || d == .arabicNumber) then .ok ()
      else match ds.head? with
        | some .left => checkLeft 1 false ds
        | some d => if isRightward d then checkRight 1 none false ds else .error (.firstDirection label)
        | none => .ok ()

def maxNameLength : Nat := 254

def check (label : List Nat) : Except LabelError Unit := do
  if label = [] then throw .empty
  if maxNameLength < label.length then throw .tooLong
  if !isComposed label then throw .uncomposed
  checkHyphens label
  if label.head?.any isMark then throw .leadingMark
  checkCharacters [] label
  checkDirection label

def asciiMark : List Char := "xn--".toList

def read (cs : List Char) : Except LabelError (List Nat) :=
  let lower := asciiLower cs
  match after? asciiMark lower with
  | none => do
      check (lower.map Char.toNat)
      return lower.map Char.toNat
  | some [] => .error .emptyAscii
  | some rest =>
      if rest.getLast? = some '-' then .error .trailingHyphen
      else match Punycode.decode? rest with
        | none => .error .unreadable
        | some label => do
            check label
            return label

def maxLength : Nat := 63

def write (label : List Nat) : Except LabelError (List Char) := do
  let ascii ← if label.all Punycode.isBasic then do
      let _ ← read (label.map Char.ofNat)
      pure (label.map Char.ofNat)
    else do
      check label
      pure (asciiMark ++ Punycode.encode label)
  if maxLength < ascii.length then throw .tooLong
  return ascii

end Label

end SqlCluster.Http.Name
