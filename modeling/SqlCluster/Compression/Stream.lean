import SqlCluster.Compression.Checksum
import SqlCluster.Compression.Inflate
/-!
Compressed data in its wrappings. A short header and a checksum, or a header with optional fields, a
checksum and a size. Data that runs out gives what was written so far; what stands behind the end is
not looked at.
-/
namespace SqlCluster.Compression

def finish (r : Inflated) (check : List UInt8 → Bits → Reading (Unit × Bits)) :
    Except Corruption (List UInt8) :=
  match r.rest with
  | .error .ended => .ok r.written.toList
  | .error (.corrupt c) => .error c
  | .ok bits => match check r.written.toList (alignToByte bits) with
      | .error (.corrupt c) => .error c
      | _ => .ok r.written.toList

def behind (header : Reading (Unit × Bits)) (check : List UInt8 → Bits → Reading (Unit × Bits)) :
    Except Corruption (List UInt8) :=
  match header with
  | .error .ended => .ok []
  | .error (.corrupt c) => .error c
  | .ok ((), bits) => finish (inflate bits) check

def bare (data : List UInt8) : Except Corruption (List UInt8) :=
  finish (inflate (bitsOf data)) fun _ bits => .ok ((), bits)

def swapBytes (n : Nat) : Nat :=
  n % 256 * 0x1000000 + n / 256 % 256 * 0x10000 + n / 0x10000 % 256 * 256 + n / 0x1000000

def deflated : Nat := 8

def shortHeader (bits : Bits) : Reading (Unit × Bits) := do
  let n ← takeNumber 16 bits
  if (n.1 % 256 * 256 + n.1 / 256) % 31 ≠ 0 then throw (.corrupt .header)
  if n.1 % 16 ≠ deflated then throw (.corrupt .method)
  if 7 < n.1 / 16 % 16 then throw (.corrupt .window)
  if n.1 / 0x2000 % 2 = 1 then
    let _ ← takeNumber 32 n.2
    throw (.corrupt .dictionary)
  return ((), n.2)

def sumsCheck (written : List UInt8) (bits : Bits) : Reading (Unit × Bits) := do
  let n ← takeNumber 32 bits
  if swapBytes n.1 ≠ sums written then throw (.corrupt .checksum)
  return ((), n.2)

def wrapped (data : List UInt8) : Except Corruption (List UInt8) :=
  behind (shortHeader (bitsOf data)) sumsCheck

def skipText : Nat → Bits → Reading (Unit × Bits)
  | 0, _ => .error .ended
  | fuel + 1, bits => do
      let b ← takeNumber 8 bits
      if b.1 = 0 then return ((), b.2) else skipText fuel b.2

def skipIf (present : Bool) (skip : Bits → Reading (Unit × Bits)) (bits : Bits) :
    Reading (Unit × Bits) :=
  if present then skip bits else .ok ((), bits)

def skipExtra (bits : Bits) : Reading (Unit × Bits) := do
  let n ← takeNumber 16 bits
  if n.2.length < 8 * n.1 then throw .ended
  return ((), n.2.drop (8 * n.1))

def skipHeaderCheck (data : List UInt8) (bits : Bits) : Reading (Unit × Bits) := do
  let n ← takeNumber 16 bits
  let header := data.take (data.length - bits.length / 8)
  if n.1 ≠ remainder header % 0x10000 then throw (.corrupt .headerChecksum)
  return ((), n.2)

def longHeader (data : List UInt8) : Reading (Unit × Bits) := do
  let mark ← takeNumber 16 (bitsOf data)
  if mark.1 ≠ 0x8B1F then throw (.corrupt .header)
  let flags ← takeNumber 16 mark.2
  if flags.1 % 256 ≠ deflated then throw (.corrupt .method)
  if 0x2000 ≤ flags.1 then throw (.corrupt .headerFlags)
  let has (n : Nat) : Bool := flags.1.testBit n
  let time ← takeNumber 32 flags.2
  let system ← takeNumber 16 time.2
  let extra ← skipIf (has 10) skipExtra system.2
  let name ← skipIf (has 11) (skipText data.length) extra.2
  let comment ← skipIf (has 12) (skipText data.length) name.2
  skipIf (has 9) (skipHeaderCheck data) comment.2

def remainderCheck (written : List UInt8) (bits : Bits) : Reading (Unit × Bits) := do
  let n ← takeNumber 32 bits
  if n.1 ≠ remainder written then throw (.corrupt .checksum)
  let size ← takeNumber 32 n.2
  if size.1 ≠ written.length % 0x100000000 then throw (.corrupt .size)
  return ((), size.2)

/-- Data with the longer header, which no more than its first member is read of. -/
def archived (data : List UInt8) : Except Corruption (List UInt8) :=
  behind (longHeader data) remainderCheck

end SqlCluster.Compression
