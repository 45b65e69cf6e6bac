import SqlCluster.Text.Hex
import SqlCluster.Text.Printable
/-!
Quoted text as error messages show it. The single quote encloses, or the double quote where that
saves an escape; backslash, the enclosing quote and unprintable characters are escaped.
-/
namespace SqlCluster.Text.Quoted

/-- The double quote encloses a text that holds single quotes and no double ones. -/
def enclosing (hasSingle hasDouble : Bool) : Char :=
  if hasSingle && !hasDouble then '"' else '\''

def numbered (n : Nat) : List Char :=
  if n < 0x100 then '\\' :: 'x' :: hexFixed lowerDigits 2 n
  else if n < 0x10000 then '\\' :: 'u' :: hexFixed lowerDigits 4 n
  else '\\' :: 'U' :: hexFixed lowerDigits 8 n

def escape (quote c : Char) : List Char :=
  if c = quote ∨ c = '\\' then ['\\', c]
  else if c = '\n' then ['\\', 'n']
  else if c = '\r' then ['\\', 'r']
  else if c = '\t' then ['\\', 't']
  else if isPrintable c then [c]
  else numbered c.toNat

def quoteChars (cs : List Char) : List Char :=
  let q := enclosing (cs.contains '\'') (cs.contains '"')
  q :: cs.flatMap (escape q) ++ [q]

def quote (s : String) : String := String.ofList (quoteChars s.toList)

def escapeByte (quote : Char) (b : UInt8) : List Char :=
  if b.toNat < 0x80 then escape quote (Char.ofNat b.toNat) else numbered b.toNat

def quoteBytesWith (escapeOne : Char → UInt8 → List Char) (bytes : List UInt8) : String :=
  let q := enclosing (bytes.contains 39) (bytes.contains 34)
  String.ofList ('b' :: q :: bytes.flatMap (escapeOne q) ++ [q])

def quoteBytes (bytes : List UInt8) : String := quoteBytesWith escapeByte bytes

/-- A byte where the single quote is escaped whichever quote encloses, and the double one never. -/
def escapeSingle (_ : Char) (b : UInt8) : List Char := escapeByte '\'' b

def quoteGrowing (bytes : List UInt8) : String := quoteBytesWith escapeSingle bytes

end SqlCluster.Text.Quoted
