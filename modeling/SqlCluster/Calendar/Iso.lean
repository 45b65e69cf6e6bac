import SqlCluster.Calendar.Moment
/-!
Reading ISO 8601 text: calendar and week dates in the extended and the basic form, any one character
between date and time, a fraction cut to microseconds, and an offset of any precision. The reading
is lenient in a few places: what stands between the time and the sign of its offset may be one stray
ASCII character, and a third colon opens a fraction.
-/
namespace SqlCluster.Calendar.Iso

def digits? : Nat → List Char → Option (List Nat × List Char)
  | 0, cs => some ([], cs)
  | _ + 1, [] => none
  | n + 1, c :: cs => do
      let d ← Text.asciiValue? c
      let r ← digits? n cs
      return (d :: r.1, r.2)

def number? (width : Nat) (cs : List Char) : Option (Nat × List Char) :=
  (digits? width cs).map fun r => (Text.ofDigits r.1, r.2)

def weekDate? (year : Nat) (extended : Bool) (cs : List Char) : Option Date := do
  let week ← number? 2 cs
  match week.2 with
  | [] => Date.ofWeek? year week.1 1
  | c :: rest =>
      if extended then
        if c = '-' then
          let day ← number? 1 rest
          Date.ofWeek? year week.1 day.1
        else none
      else
        let day ← number? 1 (c :: rest)
        Date.ofWeek? year week.1 day.1

def monthDate? (year : Nat) (extended : Bool) (cs : List Char) : Option Date := do
  let month ← number? 2 cs
  let rest ← if extended then
      match month.2 with
      | '-' :: r => some r
      | _ => none
    else some month.2
  let day ← number? 2 rest
  if day.2 = [] then some ⟨year, month.1, day.1⟩ else none

def date? (cs : List Char) : Option Date := do
  let year ← number? 4 cs
  let extended := year.2.head? = some '-'
  let rest := if extended then year.2.drop 1 else year.2
  match rest with
  | 'W' :: r => weekDate? year.1 extended r
  | r => monthDate? year.1 extended r

def digitRun (cs : List Char) : Nat := (cs.takeWhile Text.isAsciiDigit).length

/-- Where the date ends. A week date without a hyphen is told from one with a day by the parity of
the digits that follow, as the digits of a time come in pairs. -/
def dateLength (cs : List Char) : Nat :=
  if cs.length = 7 then 7
  else if cs[4]? = some '-' then
    if cs[5]? = some 'W' then
      if 8 < cs.length ∧ cs[8]? = some '-' then
        if (cs[10]?.map Text.isAsciiDigit).getD false then 8 else 10
      else 8
    else 10
  else if cs[4]? = some 'W' then
    let stop := 7 + digitRun (cs.drop 7)
    if stop < 9 then stop else if stop % 2 = 0 then 7 else 8
  else 8

def isEnd (c : Char) : Bool := c == Char.ofNat 0

inductive Tail where
  | stop (leftover : Bool)
  | fraction (cs : List Char)
  deriving DecidableEq, Repr

def fields? : Nat → Option Bool → List Char → Option (List Nat × Tail)
  | 0, _, cs => some ([], .fraction cs)
  | n + 1, colons, cs => do
      let v ← number? 2 cs
      match v.2 with
      | [] => return ([v.1], .stop false)
      | [c] => if c.toNat < 128 then return ([v.1], .stop (!isEnd c)) else none
      | c :: more =>
          let colons := colons.getD (c == ':')
          if colons && c == ':' then
            let r ← fields? n (some colons) more
            return (v.1 :: r.1, r.2)
          else if c = '.' ∨ c = ',' then return ([v.1], .fraction more)
          else if colons then none
          else
            let r ← fields? n (some colons) (c :: more)
            return (v.1 :: r.1, r.2)

def fraction? (cs : List Char) : Option (Nat × Bool) := do
  let width := min 6 cs.length
  let v ← number? width cs
  let rest := v.2.dropWhile Text.isAsciiDigit
  let leftover := match rest with
    | [] => false
    | c :: _ => !isEnd c
  return (v.1 * Nat.pow 10 (6 - width), leftover)

def clock? (cs : List Char) : Option (Time × Bool) := do
  let r ← fields? 3 none cs
  let h := r.1.getD 0 0
  let m := r.1.getD 1 0
  let s := r.1.getD 2 0
  match r.2 with
  | .stop leftover => return (⟨h, m, s, 0⟩, leftover)
  | .fraction f =>
      let v ← fraction? f
      return (⟨h, m, s, v.1⟩, v.2)

def opensOffset (c : Char) : Bool := c == '+' || c == '-' || c == 'Z'

/-- An offset less than a day either way. An offset of no whole second is none at all. -/
def offset? (negative : Bool) (cs : List Char) : Option Int := do
  let c ← clock? cs
  if c.2 then none
  else
    let seconds := (c.1.hour * 60 + c.1.minute) * 60 + c.1.second
    if seconds = 0 then return 0
    else
      let size := seconds * microsPerSecond + c.1.micro
      if size < microsPerDay then return (if negative then -(size : Int) else size) else none

def time? (cs : List Char) : Option Clock := do
  let body := cs.takeWhile (!opensOffset ·)
  let c ← clock? body
  if !c.1.isValid then none
  else match cs.drop body.length with
    | [] => if c.2 then none else return ⟨c.1, none⟩
    | s :: rest =>
        if s = 'Z' then
          if (rest.head?.map isEnd).getD true then return ⟨c.1, some 0⟩ else none
        else
          let o ← offset? (s == '-') rest
          return ⟨c.1, some o⟩

def moment? (cs : List Char) : Option Moment := do
  if cs.length < 7 then none
  else
    let n := dateLength cs
    let d ← (date? (cs.take n)).bind Date.valid?
    match cs.drop n with
    | [] => return ⟨d, Time.midnight, none⟩
    | _ :: rest =>
        let t ← time? rest
        return ⟨d, t.time, t.offset⟩

end SqlCluster.Calendar.Iso
