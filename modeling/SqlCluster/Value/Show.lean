import SqlCluster.Number.Setting
import SqlCluster.Value.Basic
import SqlCluster.Text.Quoted
/-!
The two texts of a value. Its literal names the value unambiguously, quotes and type names included,
and is what error messages show; its plain text is what a reader of the value wants to see. A value
has neither where an integer of too many digits stands in it.
-/
namespace SqlCluster

open Number Calendar

namespace Value

def commaSeparated (parts : List String) : String := String.intercalate ", " parts

def applied (name : String) (args : List String) : String :=
  name ++ "(" ++ commaSeparated args ++ ")"

def literalTime (t : Time) : List String :=
  [toString t.hour, toString t.minute] ++
    (if t.second = 0 ∧ t.micro = 0 then []
    else toString t.second :: (if t.micro = 0 then [] else [toString t.micro]))

/-- A span in days, seconds and microseconds, of which only the days may be negative. -/
def literalSpan (micros : Int) : String :=
  let days := micros / (microsPerDay : Int)
  let rest := (micros % (microsPerDay : Int)).toNat
  let part (name : String) (n : Int) : List String := if n = 0 then [] else [name ++ "=" ++ toString n]
  let parts := part "days" days ++ part "seconds" (rest / microsPerSecond : Nat) ++
    part "microseconds" (rest % microsPerSecond : Nat)
  applied "datetime.timedelta" (if parts.isEmpty then ["0"] else parts)

def literalZone : Option Int → List String
  | none => []
  | some o =>
      ["tzinfo=" ++ (if o = 0 then "datetime.timezone.utc"
        else applied "datetime.timezone" [literalSpan o])]

def literalDate (d : Date) : List String := [toString d.year, toString d.month, toString d.day]

def literalLevel (l : Level) : String :=
  "<ConsistencyLevel." ++ l.constant ++ ": '" ++ l.name ++ "'>"

def literalBytes : BytesKind → List UInt8 → String
  | .fixed, data => Text.Quoted.quoteBytes data
  | .growing, data => applied "bytearray" [Text.Quoted.quoteGrowing data]
  | .view, _ => "<memory>"

def braced (parts : List String) : String := "\x7b" ++ commaSeparated parts ++ "\x7d"

/-- A tuple of one keeps its comma. -/
def tupleText : List String → String
  | [p] => "(" ++ p ++ ",)"
  | parts => "(" ++ commaSeparated parts ++ ")"

/-- The empty set has no braces of its own, as those of the empty map are taken. -/
def setText : List String → String
  | [] => "set()"
  | parts => braced parts

mutual

def literal : Value → String
  | .null => "None"
  | .bool true => "True"
  | .bool false => "False"
  | .int n => toString n
  | .float d => d.text
  | .text s => Text.Quoted.quote s
  | .level l => literalLevel l
  | .bytes k data => literalBytes k data
  | .date d => applied "datetime.date" (literalDate d)
  | .time c => applied "datetime.time" (literalTime c.time ++ literalZone c.offset)
  | .moment m =>
      applied "datetime.datetime" (literalDate m.date ++ literalTime m.time ++ literalZone m.offset)
  | .decimal d => applied "Decimal" ["'" ++ d.text ++ "'"]
  | .uuid u => applied "UUID" ["'" ++ u.text ++ "'"]
  | .list xs => "[" ++ commaSeparated (literals xs) ++ "]"
  | .tuple xs => tupleText (literals xs)
  | .map es => braced (literalEntries es)
  | .set xs => setText (literals xs)
  | .complex => "1j"
  | .object => "<object>"

def literals : List Value → List String
  | [] => []
  | x :: xs => literal x :: literals xs

def literalEntries : List (String × Value) → List String
  | [] => []
  | (k, v) :: es => (Text.Quoted.quote k ++ ": " ++ literal v) :: literalEntries es

end

/-- The plain text: texts and the values that have a text of their own stand without quotes and type
names, and all else is shown by its literal. -/
def plain : Value → String
  | .text s => s
  | .level l => l.name
  | .date d => String.ofList d.chars
  | .time c => String.ofList c.chars
  | .moment m => String.ofList (m.charsWith ' ')
  | .decimal d => d.text
  | .uuid u => u.text
  | v => literal v

mutual

/-- Can all integers in the value be written out? -/
def isShowable : Value → Bool
  | .int n => Literal.isWritable n
  | .list xs => areShowable xs
  | .tuple xs => areShowable xs
  | .map es => areShowableEntries es
  | .set xs => areShowable xs
  | _ => true

def areShowable : List Value → Bool
  | [] => true
  | x :: xs => isShowable x && areShowable xs

def areShowableEntries : List (String × Value) → Bool
  | [] => true
  | (_, x) :: es => isShowable x && areShowableEntries es

end

end Value

end SqlCluster
