import SqlCluster.Uri.Escape
import SqlCluster.Text.Split
/-!
Query strings: fields between ampersands, each a name and a value, in which a plus sign is a space.
-/
namespace SqlCluster.Uri.Query

structure Field where
  name : List Char
  value : List Char
  deriving DecidableEq, Repr

def text (cs : List Char) : List Char := unescape (Text.replaceChar '+' [' '] cs)

def field (cs : List Char) : Field :=
  match Text.cutFirst? '=' cs with
  | some (name, value) => ⟨text name, text value⟩
  | none => ⟨text cs, []⟩

def fields (query : List Char) : List Field :=
  ((Text.splitAt '&' query).filter fun p => !p.isEmpty).map field

def last? (name : String) (fs : List Field) : Option (List Char) :=
  (fs.reverse.find? (·.name = name.toList)).map (·.value)

end SqlCluster.Uri.Query
