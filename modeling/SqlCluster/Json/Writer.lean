import SqlCluster.Json.Basic
import SqlCluster.Number.Shortest
import SqlCluster.Text.Hex
import SqlCluster.Text.Split
/-!
Writing JSON in printable ASCII. A comma or a colon is followed by one space, characters outside the
printable range are escaped, and those beyond the basic plane as a surrogate pair.
-/
namespace SqlCluster.Json

open Number

def unitEscape (n : Nat) : List Char := '\\' :: 'u' :: Text.hexFixed Text.lowerDigits 4 n

def charText (c : Char) : List Char :=
  if c = '"' then ['\\', '"']
  else if c = '\\' then ['\\', '\\']
  else if c = '\n' then ['\\', 'n']
  else if c = '\r' then ['\\', 'r']
  else if c = '\t' then ['\\', 't']
  else if c.toNat = 8 then ['\\', 'b']
  else if c.toNat = 12 then ['\\', 'f']
  else if 0x20 ≤ c.toNat ∧ c.toNat < 0x7F then [c]
  else if c.toNat < 0x10000 then unitEscape c.toNat
  else
    let n := c.toNat - 0x10000
    unitEscape (0xD800 + n / 0x400) ++ unitEscape (0xDC00 + n % 0x400)

def textChars (s : String) : List Char := '"' :: s.toList.flatMap charText ++ ['"']

def comma : List Char := [',', ' ']

mutual

def render : Json → List Char
  | .null => "null".toList
  | .bool true => "true".toList
  | .bool false => "false".toList
  | .int n => Text.decimalInt n
  | .float d => FloatLayout.script.chars d
  | .text s => textChars s
  | .list xs => '[' :: Text.joinWith comma (renderItems xs) ++ [']']
  | .map ms => '\x7b' :: Text.joinWith comma (renderMembers ms) ++ ['\x7d']

def renderItems : List Json → List (List Char)
  | [] => []
  | x :: xs => render x :: renderItems xs

def renderMembers : List (String × Json) → List (List Char)
  | [] => []
  | (k, x) :: ms => (textChars k ++ ':' :: ' ' :: render x) :: renderMembers ms

end

end SqlCluster.Json
