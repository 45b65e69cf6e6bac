import SqlCluster.Calendar.Date
/-!
Times of day and moments. A moment is a wall clock with an optional offset from universal time,
counted in microseconds; without one it is naive.
-/
namespace SqlCluster.Calendar

structure Time where
  hour : Nat
  minute : Nat
  second : Nat
  micro : Nat
  deriving DecidableEq, Repr

def Time.midnight : Time := ⟨0, 0, 0, 0⟩

def Time.isValid (t : Time) : Bool :=
  t.hour < 24 && t.minute < 60 && t.second < 60 && t.micro < 1000000

def microsPerSecond : Nat := 1000000

def microsPerDay : Nat := 86400 * microsPerSecond

def Time.micros (t : Time) : Nat :=
  ((t.hour * 60 + t.minute) * 60 + t.second) * microsPerSecond + t.micro

def Time.ofMicros (n : Nat) : Time :=
  let s := n / microsPerSecond
  ⟨s / 3600, s / 60 % 60, s % 60, n % microsPerSecond⟩

def fractionChars (micro : Nat) : List Char :=
  if micro = 0 then [] else '.' :: Text.padded 6 micro

def Time.chars (t : Time) : List Char :=
  Text.padded 2 t.hour ++ ':' :: Text.padded 2 t.minute ++ ':' :: Text.padded 2 t.second ++
    fractionChars t.micro

def offsetChars (offset : Int) : List Char :=
  let t := Time.ofMicros offset.natAbs
  (if offset < 0 then '-' else '+') :: Text.padded 2 t.hour ++ ':' :: Text.padded 2 t.minute ++
    (if t.second = 0 ∧ t.micro = 0 then [] else ':' :: Text.padded 2 t.second ++ fractionChars t.micro)

def optionalOffset (offset : Option Int) : List Char :=
  match offset with
  | some o => offsetChars o
  | none => []

structure Clock where
  time : Time
  offset : Option Int
  deriving DecidableEq, Repr

def Clock.chars (c : Clock) : List Char := c.time.chars ++ optionalOffset c.offset

structure Moment where
  date : Date
  time : Time
  offset : Option Int
  deriving DecidableEq, Repr

namespace Moment

def charsWith (separator : Char) (m : Moment) : List Char :=
  m.date.chars ++ separator :: m.time.chars ++ optionalOffset m.offset

def iso (m : Moment) : List Char := m.charsWith 'T'

def isAware (m : Moment) : Bool := m.offset.isSome

def orUtc (m : Moment) : Moment := { m with offset := some (m.offset.getD 0) }

def wallMicros (m : Moment) : Nat := m.date.ordinal * microsPerDay + m.time.micros

def instant (m : Moment) : Int := (m.wallMicros : Int) - m.offset.getD 0

end Moment

end SqlCluster.Calendar
