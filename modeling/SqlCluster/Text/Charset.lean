import SqlCluster.Text.CharsetTable
import SqlCluster.Text.Digit
import SqlCluster.Text.Utf8
/-!
Charsets, and text read from bytes in one of them. What is no character of the charset is read as
U+FFFD. Wide units may be led by a mark that gives the order of their bytes; where no order is known
beforehand the mark has to be there.
-/
namespace SqlCluster.Text

inductive ByteOrder where
  | little
  | big
  deriving DecidableEq, Repr

inductive Charset where
  | utf8
  | signedUtf8
  | utf16 (order : Option ByteOrder)
  | utf32 (order : Option ByteOrder)
  | ascii
  | latin1
  | upperHalf (table : Charset.UpperHalf)
  deriving DecidableEq, Repr

structure CharsetError where
  width : Nat
  deriving DecidableEq, Repr

def CharsetError.message (e : CharsetError) : String :=
  "UTF-" ++ toString e.width ++ " stream does not start with BOM"

namespace Charset

def named : List (List String × Charset) := [
  (["utf_8", "cp65001", "u8", "utf", "utf8", "utf8_ucs2", "utf8_ucs4"], .utf8),
  (["utf_8_sig"], .signedUtf8),
  (["utf_16", "u16", "utf16"], .utf16 none),
  (["utf_16_le", "unicodelittleunmarked", "utf_16le"], .utf16 (some .little)),
  (["utf_16_be", "unicodebigunmarked", "utf_16be"], .utf16 (some .big)),
  (["utf_32", "u32", "utf32"], .utf32 none),
  (["utf_32_le", "utf_32le"], .utf32 (some .little)),
  (["utf_32_be", "utf_32be"], .utf32 (some .big)),
  (["ascii", "646", "ansi_x3.4_1968", "ansi_x3.4_1986", "ansi_x3_4_1968", "cp367", "csascii",
    "ibm367", "iso646_us", "iso_646.irv_1991", "iso_ir_6", "us", "us_ascii"], .ascii),
  (["latin_1", "8859", "cp819", "csisolatin1", "ibm819", "iso8859", "iso8859_1", "iso_8859_1",
    "iso_8859_1_1987", "iso_ir_100", "l1", "latin", "latin1"], .latin1)]

def all : List (List String × Charset) := named ++ upperHalves.map fun t => (t.names, .upperHalf t)

def isNamePart (c : Char) : Bool := isAsciiLetter c || isAsciiDigit c || c == '.'

def plainForm : List Char → List Char
  | [] => []
  | c :: cs =>
      if isNamePart c then c :: gaps cs else plainForm cs
where
  gaps : List Char → List Char
    | [] => []
    | c :: cs =>
        if isNamePart c then c :: gaps cs
        else match cs with
          | [] => []
          | d :: _ => if isNamePart d then '_' :: gaps cs else gaps cs

def ofName? (name : List Char) : Option Charset :=
  let plain := String.ofList (plainForm name)
  (all.find? fun p => p.1.contains plain).map (·.2)

def replacement : Char := Char.ofNat 0xFFFD

def unit (o : ByteOrder) (bytes : List UInt8) : Nat :=
  let leading := match o with
    | .little => bytes.reverse
    | .big => bytes
  leading.foldl (fun n b => n * 256 + b.toNat) 0

def pairUnits (o : ByteOrder) : List UInt8 → List Nat × Bool
  | [] => ([], false)
  | [_] => ([], true)
  | a :: b :: rest =>
      let r := pairUnits o rest
      (unit o [a, b] :: r.1, r.2)

def isHigh (u : Nat) : Bool := 0xD800 ≤ u && u < 0xDC00

def isLow (u : Nat) : Bool := 0xDC00 ≤ u && u < 0xE000

/-- Units of two bytes as characters. A half pair at the end takes a byte left over with it. -/
def ofPairs (odd : Bool) : List Nat → List Char
  | [] => if odd then [replacement] else []
  | [u] =>
      if isHigh u then [replacement]
      else (if isLow u then replacement else Char.ofNat u) :: ofPairs odd []
  | u :: v :: rest =>
      if isHigh u then
        if isLow v then
          Char.ofNat (0x10000 + (u - 0xD800) * 0x400 + (v - 0xDC00)) :: ofPairs odd rest
        else replacement :: ofPairs odd (v :: rest)
      else (if isLow u then replacement else Char.ofNat u) :: ofPairs odd (v :: rest)

def readPairs (o : ByteOrder) (bytes : List UInt8) : List Char :=
  let r := pairUnits o bytes
  ofPairs r.2 r.1

def wideChar (n : Nat) : Char := if n.isValidChar then Char.ofNat n else replacement

def readQuads (o : ByteOrder) : List UInt8 → List Char
  | [] => []
  | a :: b :: c :: d :: rest => wideChar (unit o [a, b, c, d]) :: readQuads o rest
  | _ => [replacement]

def readOctets (upper : Nat → Char) (bytes : List UInt8) : List Char :=
  bytes.map fun b => if b.toNat < 0x80 then Char.ofNat b.toNat else upper b.toNat

def signature : List UInt8 := [0xEF, 0xBB, 0xBF]

/-- A leading signature is left out, and a part of it that nothing follows too. -/
def readSigned (bytes : List UInt8) : List Char :=
  if bytes.length < signature.length ∧ signature.take bytes.length = bytes then []
  else if bytes.take signature.length = signature then
    Utf8.decodeLossy (bytes.drop signature.length)
  else Utf8.decodeLossy bytes

/-- Wide units behind the mark of their order. Fewer bytes than a unit has are one broken unit. -/
def readMarked (width : Nat) (read : ByteOrder → List UInt8 → List Char) (bytes : List UInt8) :
    Except CharsetError (List Char) :=
  let size := width / 8
  let first := bytes.take size
  if bytes.length < size then .ok (read .little bytes)
  else if unit .little first = 0xFEFF then .ok (read .little (bytes.drop size))
  else if unit .big first = 0xFEFF then .ok (read .big (bytes.drop size))
  else .error ⟨width⟩

def read (c : Charset) (bytes : List UInt8) : Except CharsetError (List Char) :=
  match c with
  | .utf8 => .ok (Utf8.decodeLossy bytes)
  | .signedUtf8 => .ok (readSigned bytes)
  | .utf16 (some o) => .ok (readPairs o bytes)
  | .utf16 none => readMarked 16 readPairs bytes
  | .utf32 (some o) => .ok (readQuads o bytes)
  | .utf32 none => readMarked 32 readQuads bytes
  | .ascii => .ok (readOctets (fun _ => replacement) bytes)
  | .latin1 => .ok (readOctets Char.ofNat bytes)
  | .upperHalf t => .ok (readOctets (fun n => Char.ofNat (t.codes.getD (n - 0x80) 0xFFFD)) bytes)

end Charset

end SqlCluster.Text
