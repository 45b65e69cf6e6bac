import SqlCluster.Text.Hex
import SqlCluster.Text.Utf8
import SqlCluster.Text.Digit
/-!
Percent escapes. Escaping writes every byte outside the unreserved characters as two hexadecimal
digits; unescaping leaves a percent sign that opens no escape as it stands.
-/
namespace SqlCluster.Uri

def isUnreserved (c : Char) : Bool :=
  Text.isAsciiLetter c || Text.isAsciiDigit c || c == '_' || c == '.' || c == '-' || c == '~'

def escapeByte (b : UInt8) : List Char := '%' :: Text.hexFixed Text.upperDigits 2 b.toNat

def escapeChar (c : Char) : List Char :=
  if isUnreserved c then [c] else (Text.Utf8.encodeChar c).flatMap escapeByte

def escapeOctet (b : UInt8) : List Char :=
  if isUnreserved (Char.ofNat b.toNat) then [Char.ofNat b.toNat] else escapeByte b

def escape (cs : List Char) : List Char := cs.flatMap escapeChar

def unescapeBytes : List Char → List UInt8
  | [] => []
  | '%' :: a :: b :: rest =>
      match Text.hexValue? a, Text.hexValue? b with
      | some hi, some lo => (hi * 16 + lo).toUInt8 :: unescapeBytes rest
      | _, _ => 37 :: unescapeBytes (a :: b :: rest)
  | c :: rest => Text.Utf8.encodeChar c ++ unescapeBytes rest

def unescape (cs : List Char) : List Char := Text.Utf8.decodeLossy (unescapeBytes cs)

end SqlCluster.Uri
