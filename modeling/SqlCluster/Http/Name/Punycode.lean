import SqlCluster.Text.Digit
/-!
Labels in ASCII letters. The characters beyond ASCII follow behind the last hyphen, in order of
their code points: for each, a number says how many code points and places to go on from the one
before. A number is written in digits of a base that is as many as there are letters and digits, and
ends with the first one below a bound that adapts.
-/
namespace SqlCluster.Http.Name

namespace Punycode

def base : Nat := 36

def threshold (place bias : Nat) : Nat := min 26 (max 1 (base * (place + 1) - bias))

theorem threshold_bounds (place bias : Nat) :
    1 ≤ threshold place bias ∧ threshold place bias ≤ 26 := by
  simp only [threshold]
  omega

def shrink (delta : Nat) : Nat × Nat :=
  if 455 < delta then let r := shrink (delta / 35); (r.1, r.2 + base) else (delta, 0)
termination_by delta
decreasing_by omega

def adapt (delta : Nat) (first : Bool) (count : Nat) : Nat :=
  let d := if first then delta / 700 else delta / 2
  let s := shrink (d + d / count)
  s.2 + base * s.1 / (s.1 + 38)

def digit (n : Nat) : Char := if n < 26 then Char.ofNat (97 + n) else Char.ofNat (22 + n)

def number (bias : Nat) (place n : Nat) : List Char :=
  let t := threshold place bias
  if n < t then [digit n]
  else digit (t + (n - t) % (base - t)) :: number bias (place + 1) ((n - t) / (base - t))
termination_by n
decreasing_by
  have h := threshold_bounds place bias
  exact Nat.lt_of_le_of_lt (Nat.div_le_self _ _) (by omega)

structure Writer where
  written : List Char
  delta : Nat
  bias : Nat
  count : Nat

def Writer.pass (basic n : Nat) (w : Writer) (c : Nat) : Writer :=
  if c < n then { w with delta := w.delta + 1 }
  else if c = n then
    ⟨w.written ++ number w.bias 0 w.delta, 0, adapt w.delta (w.count == basic) (w.count + 1),
      w.count + 1⟩
  else w

def writeFrom (label : List Nat) (basic : Nat) : Nat → List Nat → Writer → Writer
  | _, [], w => w
  | start, n :: ns, w =>
      let v := label.foldl (Writer.pass basic n)
        { w with delta := w.delta + (n - start) * (w.count + 1) }
      writeFrom label basic (n + 1) ns { v with delta := v.delta + 1 }

def increasing (ns : List Nat) : List Nat :=
  ns.foldr (fun n out => out.takeWhile (· < n) ++ n :: out.dropWhile (· ≤ n)) []

def isBasic (n : Nat) : Bool := n < 0x80

def encode (label : List Nat) : List Char :=
  let plain := label.filter isBasic
  let w := writeFrom label plain.length 0x80 (increasing (label.filter fun n => !isBasic n))
    ⟨[], 0, 72, plain.length⟩
  plain.map Char.ofNat ++ (if plain.isEmpty then [] else ['-']) ++ w.written

def digitValue? (c : Char) : Option Nat :=
  if 'a' ≤ c ∧ c ≤ 'z' then some (c.toNat - 97)
  else if 'A' ≤ c ∧ c ≤ 'Z' then some (c.toNat - 65)
  else if '0' ≤ c ∧ c ≤ '9' then some (c.toNat - 22)
  else none

def readNumber? (bias place weight sum : Nat) : List Char → Option (Nat × List Char)
  | [] => none
  | c :: cs =>
      (digitValue? c).bind fun d =>
        let t := threshold place bias
        if d < t then some (sum + d * weight, cs)
        else readNumber? bias (place + 1) (weight * (base - t)) (sum + d * weight) cs

def insertAll? : Nat → Nat → Nat → Nat → Bool → List Nat → List Char → Option (List Nat)
  | 0, _, _, _, _, label, _ => some label
  | _ + 1, _, _, _, _, label, [] => some label
  | fuel + 1, code, place, bias, first, label, cs =>
      (readNumber? bias 0 1 0 cs).bind fun r =>
        let size := label.length + 1
        let code := code + (place + r.1) / size
        let place := (place + r.1) % size
        if 0x10FFFF < code then none
        else insertAll? fuel code (place + 1) (adapt r.1 first size) false
          (label.take place ++ code :: label.drop place) r.2

def decode? (cs : List Char) : Option (List Nat) :=
  let back := cs.reverse.takeWhile (· ≠ '-')
  let plain := (cs.reverse.drop (back.length + 1)).reverse
  insertAll? cs.length 0x80 0 72 true (plain.map Char.toNat) back.reverse

end Punycode

end SqlCluster.Http.Name
