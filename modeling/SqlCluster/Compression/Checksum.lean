/-!
Checksums: two sums modulo a prime, and the remainder of a division of polynomials over two
elements.
-/
namespace SqlCluster.Compression

def sumModulus : Nat := 65521

def sums (data : List UInt8) : Nat :=
  let r := data.foldl (fun s b =>
    let low := (s.1 + b.toNat) % sumModulus
    (low, (s.2 + low) % sumModulus)) (1, 0)
  r.2 * 0x10000 + r.1

def divisor : UInt32 := 0xEDB88320

def divideBit (r : UInt32) : UInt32 := if r % 2 = 1 then r / 2 ^^^ divisor else r / 2

def divideByte (r : UInt32) (b : UInt8) : UInt32 :=
  (List.range 8).foldl (fun s _ => divideBit s) (r ^^^ b.toUInt32)

def remainder (data : List UInt8) : Nat :=
  (data.foldl divideByte 0xFFFFFFFF ^^^ 0xFFFFFFFF).toNat

end SqlCluster.Compression
