import SqlCluster.Text.Blank
import SqlCluster.Text.Case
import SqlCluster.Text.Split
/-!
The parameters of a media type: names and values behind semicolons. A value may stand in quotes, and
a semicolon in quotes separates nothing.
-/
namespace SqlCluster.Http.MediaType

def parts (quoted escaped : Bool) : List Char → List (List Char)
  | [] => [[]]
  | c :: cs =>
      if c = ';' ∧ quoted = false then [] :: parts false false cs
      else match parts (if c = '"' ∧ escaped = false then !quoted else quoted) (c == '\\') cs with
        | [] => [[c]]
        | p :: ps => (c :: p) :: ps

def unescape : List Char → List Char
  | '\\' :: '\\' :: cs => '\\' :: unescape cs
  | '\\' :: '"' :: cs => '"' :: unescape cs
  | c :: cs => c :: unescape cs
  | [] => []

def between? (opening closing : Char) : List Char → Option (List Char)
  | [] => none
  | c :: cs => if c = opening ∧ cs.getLast? = some closing then some cs.dropLast else none

def bare (value : List Char) : List Char :=
  match between? '"' '"' value with
  | some inner => unescape inner
  | none => (between? '<' '>' value).getD value

def parameter (part : List Char) : List Char × List Char :=
  let cut := (Text.cutFirst? '=' part).getD (part, [])
  (Text.asciiLower (Text.trim Text.isBlank cut.1), bare (Text.trim Text.isBlank cut.2))

def parameter? (name mediaType : List Char) : Option (List Char) :=
  (((parts false false mediaType).map parameter).find? fun p => p.1 = name).map (·.2)

def charset? (mediaType : List Char) : Option (List Char) :=
  (parameter? "charset".toList mediaType).map Text.asciiLower

end SqlCluster.Http.MediaType
