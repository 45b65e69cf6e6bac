/-!
Bits of compressed data, the lowest of each byte first. A reader takes bits off the front; where
they run out or make no sense, it says so.
-/
namespace SqlCluster.Compression

inductive Corruption where
  | header
  | method
  | window
  | headerFlags
  | headerChecksum
  | dictionary
  | blockKind
  | storedLength
  | symbolCount
  | lengthCodes
  | lengthRepeat
  | noEnd
  | literalCodes
  | distanceCodes
  | literalCode
  | distanceCode
  | distance
  | checksum
  | size
  deriving DecidableEq, Repr

def Corruption.text : Corruption → String
  | .header => "incorrect header check"
  | .method => "unknown compression method"
  | .window => "invalid window size"
  | .headerFlags => "unknown header flags set"
  | .headerChecksum => "header crc mismatch"
  | .dictionary => ""
  | .blockKind => "invalid block type"
  | .storedLength => "invalid stored block lengths"
  | .symbolCount => "too many length or distance symbols"
  | .lengthCodes => "invalid code lengths set"
  | .lengthRepeat => "invalid bit length repeat"
  | .noEnd => "invalid code -- missing end-of-block"
  | .literalCodes => "invalid literal/lengths set"
  | .distanceCodes => "invalid distances set"
  | .literalCode => "invalid literal/length code"
  | .distanceCode => "invalid distance code"
  | .distance => "invalid distance too far back"
  | .checksum => "incorrect data check"
  | .size => "incorrect length check"

/-- A dictionary is asked for rather than refused. -/
def Corruption.message : Corruption → String
  | .dictionary => "Error 2 while decompressing data"
  | c => "Error -3 while decompressing data: " ++ c.text

inductive Halt where
  | ended
  | corrupt (c : Corruption)
  deriving DecidableEq, Repr

abbrev Bits := List Bool

abbrev Reading := Except Halt

def bitsOfByte (b : UInt8) : Bits := (List.range 8).map fun n => b.toNat.testBit n

def bitsOf (data : List UInt8) : Bits := data.flatMap bitsOfByte

def takeNumber : Nat → Bits → Reading (Nat × Bits)
  | 0, bits => .ok (0, bits)
  | _ + 1, [] => .error .ended
  | width + 1, b :: bits => do
      let r ← takeNumber width bits
      return (b.toNat + 2 * r.1, r.2)

def alignToByte (bits : Bits) : Bits := bits.drop (bits.length % 8)

end SqlCluster.Compression
