/-!
UTF-8. Reading is one pass over the bytes that keeps the bytes still owed to a character; it yields
one entry per character, and one empty entry for each longest run of bytes that starts a character
and cannot be finished. The lossy reading writes U+FFFD for an empty entry, the strict one fails.
-/
namespace SqlCluster.Text.Utf8

/-- A character of which `owed` bytes are still to come, the next of them in `low..high`. -/
structure Pending where
  owed : Nat
  low : Nat
  high : Nat
  bits : Nat
  deriving DecidableEq, Repr

inductive Lead where
  | single
  | opens (p : Pending)
  | stray
  deriving DecidableEq, Repr

def lead (b : Nat) : Lead :=
  if b < 0x80 then .single
  else if b < 0xC2 then .stray
  else if b < 0xE0 then .opens ⟨1, 0x80, 0xBF, b - 0xC0⟩
  else if b < 0xF0 then
    .opens ⟨2, if b = 0xE0 then 0xA0 else 0x80, if b = 0xED then 0x9F else 0xBF, b - 0xE0⟩
  else if b < 0xF5 then
    .opens ⟨3, if b = 0xF0 then 0x90 else 0x80, if b = 0xF4 then 0x8F else 0xBF, b - 0xF0⟩
  else .stray

def Pending.accepts (p : Pending) (b : Nat) : Bool := p.low ≤ b && b ≤ p.high

def Pending.next (p : Pending) (b : Nat) : Pending :=
  ⟨p.owed - 1, 0x80, 0xBF, p.bits * 64 + (b - 0x80)⟩

def scan : Option Pending → List UInt8 → List (Option Char)
  | none, [] => []
  | some _, [] => [none]
  | none, b :: bs =>
      match lead b.toNat with
      | .single => some (Char.ofNat b.toNat) :: scan none bs
      | .opens p => scan (some p) bs
      | .stray => none :: scan none bs
  | some p, b :: bs =>
      if p.accepts b.toNat then
        if p.owed = 1 then some (Char.ofNat (p.next b.toNat).bits) :: scan none bs
        else scan (some (p.next b.toNat)) bs
      else
        match lead b.toNat with
        | .single => none :: some (Char.ofNat b.toNat) :: scan none bs
        | .opens q => none :: scan (some q) bs
        | .stray => none :: none :: scan none bs

def decode? (bytes : List UInt8) : Option (List Char) :=
  (scan none bytes).mapM id

def decodeLossy (bytes : List UInt8) : List Char :=
  (scan none bytes).map fun c => c.getD (Char.ofNat 0xFFFD)

def encodeChar (c : Char) : List UInt8 :=
  let n := c.toNat
  if n < 0x80 then [n.toUInt8]
  else if n < 0x800 then [(0xC0 + n / 64).toUInt8, (0x80 + n % 64).toUInt8]
  else if n < 0x10000 then
    [(0xE0 + n / 4096).toUInt8, (0x80 + n / 64 % 64).toUInt8, (0x80 + n % 64).toUInt8]
  else
    [(0xF0 + n / 262144).toUInt8, (0x80 + n / 4096 % 64).toUInt8, (0x80 + n / 64 % 64).toUInt8,
      (0x80 + n % 64).toUInt8]

def encode (cs : List Char) : List UInt8 := cs.flatMap encodeChar

end SqlCluster.Text.Utf8
