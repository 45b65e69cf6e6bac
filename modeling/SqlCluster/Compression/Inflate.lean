import SqlCluster.Compression.Code
/-!
Inflating. Compressed data is a row of blocks: bytes as they are, or words of two prefix codes,
which stand for a byte, for the end of the block, or for a length and a distance back in what was
written. The codes are fixed or are sent in front. What was written before data ran out still
counts.
-/
namespace SqlCluster.Compression

structure Inflated where
  written : Array UInt8
  rest : Except Halt Bits

namespace Inflated

def halted (written : Array UInt8) (h : Halt) : Inflated := ⟨written, .error h⟩

def corrupt (written : Array UInt8) (c : Corruption) : Inflated := halted written (.corrupt c)

end Inflated

def storeBytes : Nat → Array UInt8 → Bits → Inflated
  | 0, written, bits => ⟨written, .ok bits⟩
  | n + 1, written, bits =>
      match takeNumber 8 bits with
      | .error h => .halted written h
      | .ok (b, bits) => storeBytes n (written.push b.toUInt8) bits

def storedBlock (written : Array UInt8) (bits : Bits) : Inflated :=
  match takeNumber 32 (alignToByte bits) with
  | .error h => .halted written h
  | .ok (n, bits) =>
      if n % 0x10000 + n / 0x10000 = 0xFFFF then storeBytes (n % 0x10000) written bits
      else .corrupt written .storedLength

def lengthParts : List (Nat × Nat) := [
  (3, 0), (4, 0), (5, 0), (6, 0), (7, 0), (8, 0), (9, 0), (10, 0), (11, 1), (13, 1), (15, 1),
  (17, 1), (19, 2), (23, 2), (27, 2), (31, 2), (35, 3), (43, 3), (51, 3), (59, 3), (67, 4), (83, 4),
  (99, 4), (115, 4), (131, 5), (163, 5), (195, 5), (227, 5), (258, 0)]

def distanceParts : List (Nat × Nat) := [
  (1, 0), (2, 0), (3, 0), (4, 0), (5, 1), (7, 1), (9, 2), (13, 2), (17, 3), (25, 3), (33, 4),
  (49, 4), (65, 5), (97, 5), (129, 6), (193, 6), (257, 7), (385, 7), (513, 8), (769, 8), (1025, 9),
  (1537, 9), (2049, 10), (3073, 10), (4097, 11), (6145, 11), (8193, 12), (12289, 12), (16385, 13),
  (24577, 13)]

def takePart (parts : List (Nat × Nat)) (bad : Corruption) (symbol : Nat) (bits : Bits) :
    Reading (Nat × Bits) :=
  match parts[symbol]? with
  | none => .error (.corrupt bad)
  | some (least, width) => (takeNumber width bits).map fun r => (least + r.1, r.2)

def repeatBack (distance : Nat) : Nat → Array UInt8 → Array UInt8
  | 0, written => written
  | n + 1, written =>
      repeatBack distance n (written.push (written.getD (written.size - distance) 0))

def endOfBlock : Nat := 256

def takeDistance (distances : Code) (size : Nat) (bits : Bits) : Reading (Nat × Bits) := do
  let s ← distances.takeSymbol .distanceCode bits
  let d ← takePart distanceParts .distanceCode s.1 s.2
  if size < d.1 then throw (.corrupt .distance)
  return d

/-- The words of a block, of which there are at most `fuel`. -/
def codedWords (literals distances : Code) : Nat → Array UInt8 → Bits → Inflated
  | 0, written, _ => .halted written .ended
  | fuel + 1, written, bits =>
      match literals.takeSymbol .literalCode bits with
      | .error h => .halted written h
      | .ok (s, bits) =>
          if s < endOfBlock then codedWords literals distances fuel (written.push s.toUInt8) bits
          else if s = endOfBlock then ⟨written, .ok bits⟩
          else match takePart lengthParts .literalCode (s - endOfBlock - 1) bits with
            | .error h => .halted written h
            | .ok (length, bits) =>
                match takeDistance distances written.size bits with
                | .error h => .halted written h
                | .ok (distance, bits) =>
                    codedWords literals distances fuel (repeatBack distance length written) bits

def fixedLiterals : Code :=
  .ofLengths (List.replicate 144 8 ++ List.replicate 112 9 ++ List.replicate 24 7 ++
    List.replicate 8 8)

def fixedDistances : Code := .ofLengths (List.replicate 32 5)

def lengthOrder : List Nat :=
  [16, 17, 18, 0, 8, 7, 9, 6, 10, 5, 11, 4, 12, 3, 13, 2, 14, 1, 15]

def takeLengths : Nat → Bits → Reading (List Nat × Bits)
  | 0, bits => .ok ([], bits)
  | n + 1, bits => do
      let l ← takeNumber 3 bits
      let r ← takeLengths n l.2
      return (l.1 :: r.1, r.2)

def lengthCode (sent : List Nat) : Code :=
  if sent.all (· = 0) then ⟨[2], #[0, 0]⟩
  else .ofLengths ((List.range 19).map fun n =>
    match lengthOrder.idxOf? n with
    | some place => sent.getD place 0
    | none => 0)

/-- How often a length is repeated: the width of the count and its least value. Up to fifteen a
symbol is a length of its own. -/
def repeatPart? (symbol : Nat) : Option (Nat × Nat) :=
  if symbol = 16 then some (2, 3)
  else if symbol = 17 then some (3, 3)
  else if symbol = 18 then some (7, 11)
  else none

/-- The lengths of all words, the last first, until there are `total`. Each symbol gives one at
least, so `total` bounds them. -/
def takeWordLengths (code : Code) (total : Nat) :
    Nat → List Nat → Bits → Reading (List Nat × Bits)
  | 0, lengths, bits => .ok (lengths, bits)
  | fuel + 1, lengths, bits =>
      if total ≤ lengths.length then .ok (lengths, bits)
      else do
        let s ← code.takeSymbol .lengthCodes bits
        match repeatPart? s.1 with
        | none => takeWordLengths code total fuel (s.1 :: lengths) s.2
        | some (width, least) =>
            let n ← takeNumber width s.2
            if s.1 = 16 ∧ lengths = [] then throw (.corrupt .lengthRepeat)
            let length := if s.1 = 16 then lengths.headD 0 else 0
            if total < lengths.length + least + n.1 then throw (.corrupt .lengthRepeat)
            takeWordLengths code total fuel (List.replicate (least + n.1) length ++ lengths) n.2

def takeCodes (bits : Bits) : Reading ((Code × Code) × Bits) := do
  let n ← takeNumber 14 bits
  let literals := n.1 % 32 + 257
  let distances := n.1 / 32 % 32 + 1
  if 286 < literals ∨ 30 < distances then throw (.corrupt .symbolCount)
  let sent ← takeLengths (n.1 / 1024 + 4) n.2
  let code := lengthCode sent.1
  if !code.isComplete then throw (.corrupt .lengthCodes)
  let total := literals + distances
  let r ← takeWordLengths code total total [] sent.2
  let lengths := r.1.reverse
  if lengths.getD endOfBlock 0 = 0 then throw (.corrupt .noEnd)
  let first := Code.ofLengths (lengths.take literals)
  if !first.isUsable then throw (.corrupt .literalCodes)
  let second := Code.ofLengths (lengths.drop literals)
  if !second.isUsable then throw (.corrupt .distanceCodes)
  return ((first, second), r.2)

def sentBlock (written : Array UInt8) (bits : Bits) : Inflated :=
  match takeCodes bits with
  | .error h => .halted written h
  | .ok (codes, bits) => codedWords codes.1 codes.2 (bits.length + 1) written bits

def block (kind : Nat) (written : Array UInt8) (bits : Bits) : Inflated :=
  if kind = 0 then storedBlock written bits
  else if kind = 1 then codedWords fixedLiterals fixedDistances (bits.length + 1) written bits
  else if kind = 2 then sentBlock written bits
  else .corrupt written .blockKind

def blocks : Nat → Array UInt8 → Bits → Inflated
  | 0, written, _ => .halted written .ended
  | fuel + 1, written, bits =>
      match takeNumber 3 bits with
      | .error h => .halted written h
      | .ok (n, bits) =>
          let r := block (n / 2) written bits
          match r.rest with
          | .error _ => r
          | .ok bits => if n % 2 = 1 then r else blocks fuel r.written bits

def inflate (bits : Bits) : Inflated := blocks (bits.length + 1) #[] bits

end SqlCluster.Compression
