import SqlCluster.Calendar.Moment
import SqlCluster.Text.Blank
/-!
Timestamps in the layouts that databases write: a date, or a date and a time of day with an optional
fraction. A field may drop its leading zero, a run of blanks counts as the one between date and
time, and digits may be of any script where the field's pattern does not name them.
-/
namespace SqlCluster.Calendar

inductive DigitSet where
  | between (low high : Nat)
  | any
  deriving DecidableEq, Repr

def DigitSet.value? : DigitSet → Char → Option Nat
  | .between low high, c =>
      (Text.asciiValue? c).bind fun d => if low ≤ d ∧ d ≤ high then some d else none
  | .any, c => Text.decimalValue? c

inductive LayoutPart where
  | field (alternatives : List (List DigitSet)) (padded : Bool)
  | literal (c : Char)
  | blanks
  | fraction
  deriving Repr

def readPlaces? : List DigitSet → List Char → Option (List Nat × List Char)
  | [], cs => some ([], cs)
  | _ :: _, [] => none
  | p :: ps, c :: cs => do
      let d ← p.value? c
      let r ← readPlaces? ps cs
      return (d :: r.1, r.2)

def LayoutPart.readings (cs : List Char) : LayoutPart → List (List Nat × List Char)
  | .field alternatives padded =>
      let plain := alternatives.filterMap fun a =>
        (readPlaces? a cs).map fun r => ([Text.ofDigits r.1], r.2)
      let spaced := match cs with
        | ' ' :: rest =>
            if padded then
              ((readPlaces? [.between 1 9] rest).map fun r => ([Text.ofDigits r.1], r.2)).toList
            else []
        | _ => []
      plain ++ spaced
  | .literal c => match cs with
      | x :: rest => if x = c then [([], rest)] else []
      | [] => []
  | .blanks =>
      let rest := cs.dropWhile Text.isBlank
      if rest.length < cs.length then [([], rest)] else []
  | .fraction =>
      let ds := (cs.takeWhile Text.isAsciiDigit).take 6
      let values := ds.filterMap Text.asciiValue?
      if ds.isEmpty then []
      else [([Text.ofDigits values * Nat.pow 10 (6 - ds.length)], cs.drop ds.length)]

def readParts? : List LayoutPart → List Char → Option (List Nat × List Char)
  | [], cs => some ([], cs)
  | p :: ps, cs =>
      (p.readings cs).findSome? fun r =>
        (readParts? ps r.2).map fun s => (r.1 ++ s.1, s.2)

namespace Layout

def year : LayoutPart := .field [[.any, .any, .any, .any]] false

def month : LayoutPart :=
  .field [[.between 1 1, .between 0 2], [.between 0 0, .between 1 9], [.between 1 9]] false

def day : LayoutPart :=
  .field [[.between 3 3, .between 0 1], [.between 1 2, .any], [.between 0 0, .between 1 9],
    [.between 1 9]] true

def hour : LayoutPart := .field [[.between 2 2, .between 0 3], [.between 0 1, .any], [.any]] false

def minute : LayoutPart := .field [[.between 0 5, .any], [.any]] false

/-- Leap seconds are read here, and refused with the other times that no clock shows. -/
def second : LayoutPart := .field [[.between 6 6, .between 0 1], [.between 0 5, .any], [.any]] false

def dateOnly : List LayoutPart := [year, .literal '-', month, .literal '-', day]

def dateTime : List LayoutPart :=
  dateOnly ++ [.blanks, hour, .literal ':', minute, .literal ':', second]

def dateTimeFraction : List LayoutPart := dateTime ++ [.literal '.', .fraction]

def all : List (List LayoutPart) := [dateTime, dateTimeFraction, dateOnly]

def momentOf? (fields : List Nat) : Option Moment :=
  let d : Date := ⟨fields.getD 0 0, fields.getD 1 0, fields.getD 2 0⟩
  let t : Time := ⟨fields.getD 3 0, fields.getD 4 0, fields.getD 5 0, fields.getD 6 0⟩
  if d.isValid && t.isValid then some ⟨d, t, none⟩ else none

def read? (layout : List LayoutPart) (cs : List Char) : Option Moment :=
  match readParts? layout cs with
  | some (fields, []) => momentOf? fields
  | _ => none

end Layout

end SqlCluster.Calendar
