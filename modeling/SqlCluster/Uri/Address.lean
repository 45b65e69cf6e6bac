import SqlCluster.Text.Digit
import SqlCluster.Text.Hex
import SqlCluster.Text.Split
/-!
Texts that are network addresses: four numbers with points, or up to eight groups of hexadecimal
digits with colons, of which one run of zeros may be left out.
-/
namespace SqlCluster.Uri

def isOctet (cs : List Char) : Bool :=
  !cs.isEmpty && cs.length ≤ 3 && cs.all Text.isAsciiDigit && (cs == ['0'] || cs.head? != some '0') &&
    Text.ofDigits (cs.filterMap Text.asciiValue?) ≤ 255

def isIpv4 (cs : List Char) : Bool :=
  let parts := Text.splitAt '.' cs
  parts.length == 4 && parts.all isOctet

def isGroup (cs : List Char) : Bool :=
  !cs.isEmpty && cs.length ≤ 4 && cs.all fun c => (Text.hexValue? c).isSome

def widened (parts : List (List Char)) : Option (List (List Char)) :=
  match parts.reverse with
  | last :: before =>
      if last.contains '.' then
        if isIpv4 last then some ((['0'] :: ['0'] :: before).reverse) else none
      else some parts
  | [] => some parts

/-- The groups on either side of the place where some are left out. Of two empty parts at an end,
one belongs to the mark. -/
def isShortened (left right : List (List Char)) : Bool :=
  let high := if left.head? = some [] then left.drop 1 else left
  let low := if right.getLast? = some [] then right.dropLast else right
  let leftOk := left.head? != some [] || high.isEmpty
  let rightOk := right.getLast? != some [] || low.isEmpty
  leftOk && rightOk && high.length + low.length < 8 && high.all isGroup && low.all isGroup

/-- The first empty part that has parts on both sides, as the parts before and after it. -/
def gap? : List (List Char) → Option (List (List Char) × List (List Char))
  | [] => none
  | [_] => none
  | p :: q :: rest =>
      if q.isEmpty && !rest.isEmpty then some ([p], rest)
      else (gap? (q :: rest)).map fun g => (p :: g.1, g.2)

def isGroups (parts : List (List Char)) : Bool :=
  3 ≤ parts.length &&
    match widened parts with
    | none => false
    | some ps =>
        ps.length ≤ 9 &&
          match gap? ps with
          | some (left, right) => !(right.dropLast.any List.isEmpty) && isShortened left right
          | none => ps.length == 8 && ps.all isGroup

def isIpv6 (cs : List Char) : Bool :=
  match Text.cutFirst? '%' cs with
  | some (address, zone) =>
      !zone.isEmpty && !zone.contains '%' && !cs.contains '/' && isGroups (Text.splitAt ':' address)
  | none => isGroups (Text.splitAt ':' cs)

/-- An address of a kind yet to be defined: a version in hexadecimal, a point and more. -/
def isFutureAddress (cs : List Char) : Bool :=
  match cs with
  | 'v' :: rest =>
      let version := rest.takeWhile fun c => (Text.hexValue? c).isSome
      !version.isEmpty &&
        match rest.drop version.length with
        | '.' :: more => !more.isEmpty && !more.contains '\n'
        | _ => false
  | _ => false

end SqlCluster.Uri
