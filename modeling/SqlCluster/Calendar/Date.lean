import SqlCluster.Text.Digit
/-!
Dates of the Gregorian calendar, extended to every year from 1 to 9999, and their count of days from
the first day of year 1.
-/
namespace SqlCluster.Calendar

structure Date where
  year : Nat
  month : Nat
  day : Nat
  deriving DecidableEq, Repr

def maxYear : Nat := 9999

def isLeap (year : Nat) : Bool := year % 4 == 0 && (year % 100 != 0 || year % 400 == 0)

def monthLengths (leap : Bool) : List Nat :=
  [31, if leap then 29 else 28, 31, 30, 31, 30, 31, 31, 30, 31, 30, 31]

def daysInMonth (year month : Nat) : Nat := (monthLengths (isLeap year)).getD (month - 1) 0

def daysBeforeYear (year : Nat) : Nat :=
  (year - 1) * 365 + (year - 1) / 4 - (year - 1) / 100 + (year - 1) / 400

namespace Date

def isValid (d : Date) : Bool :=
  1 ≤ d.year && d.year ≤ maxYear && 1 ≤ d.month && d.month ≤ 12 && 1 ≤ d.day &&
    d.day ≤ daysInMonth d.year d.month

def valid? (d : Date) : Option Date := if d.isValid then some d else none

def ordinal (d : Date) : Nat :=
  daysBeforeYear d.year + ((monthLengths (isLeap d.year)).take (d.month - 1)).foldl (· + ·) 0 + d.day

def maxOrdinal : Nat := 3652059

def monthDay : Nat → List Nat → Nat → Nat × Nat
  | month, [], n => (month, n + 1)
  | month, l :: ls, n => if n < l then (month, n + 1) else monthDay (month + 1) ls (n - l)

/-- The year of a day counted from zero, and the day within it. Whole cycles of 400, 100, 4 and one
year are taken off; the last day of a cycle belongs to its last year. -/
def yearOf (n : Nat) : Nat × Nat :=
  let n400 := n / 146097
  let r400 := n % 146097
  let n100 := r400 / 36524
  let r100 := r400 % 36524
  let n4 := r100 / 1461
  let r4 := r100 % 1461
  let n1 := r4 / 365
  let year := n400 * 400 + n100 * 100 + n4 * 4 + n1 + 1
  if n100 = 4 ∨ n1 = 4 then (year - 1, 365) else (year, r4 % 365)

def ofOrdinal (n : Nat) : Date :=
  let y := yearOf (n - 1)
  let md := monthDay 1 (monthLengths (isLeap y.1)) y.2
  ⟨y.1, md.1, md.2⟩

def weekday (d : Date) : Nat := (d.ordinal + 6) % 7

def firstMonday (year : Nat) : Int :=
  let first := (Date.mk year 1 1).ordinal
  let w := (Date.mk year 1 1).weekday
  if 3 < w then (first : Int) - w + 7 else (first : Int) - w

/-- A year has a fifty-third week when it begins on a Thursday, or is a leap year that begins on a
Wednesday. -/
def hasWeek53 (year : Nat) : Bool :=
  let w := (Date.mk year 1 1).weekday
  w == 3 || (w == 2 && isLeap year)

def ofWeek? (year week day : Nat) : Option Date :=
  if year = 0 ∨ week = 0 ∨ 53 < week ∨ (week = 53 ∧ hasWeek53 year = false) ∨ day = 0 ∨ 7 < day then
    none
  else
    let n := firstMonday year + ((week - 1) * 7 + (day - 1) : Nat)
    if 1 ≤ n ∧ n ≤ maxOrdinal then some (ofOrdinal n.toNat) else none

def chars (d : Date) : List Char :=
  Text.padded 4 d.year ++ '-' :: Text.padded 2 d.month ++ '-' :: Text.padded 2 d.day

end Date

end SqlCluster.Calendar
