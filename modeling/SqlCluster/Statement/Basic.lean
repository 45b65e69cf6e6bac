import SqlCluster.Statement.Template
import SqlCluster.Text.Split
/-!
Statements: a template with question marks, and the arguments for them. A wrong number of arguments
is no failure; the statement carries a warning and the store reports the error.
-/
namespace SqlCluster

structure Statement where
  template : Template
  parameters : List Value
  deriving Repr

namespace Statement

def expected (s : Statement) : Nat := s.template.marks

def warning (s : Statement) : String :=
  if s.expected = s.parameters.length then ""
  else "Unexpected parameters count: " ++ toString s.parameters.length ++ ", expected: " ++
    toString s.expected

def append (s : Statement) (sql : String) (parameters : List Value) : Statement :=
  ⟨.text (String.ofList s.template.chars ++ sql), s.parameters ++ parameters⟩

/-- Are the templates equal, and then the arguments? Nothing where two of them cannot be compared.
-/
def compare? (a b : Statement) : Option Bool :=
  Value.compareItems? [a.template.toValue, .tuple a.parameters]
    [b.template.toValue, .tuple b.parameters]

def quoted (s : String) : List Char :=
  '\'' :: Text.replaceChar '\'' ['\'', '\''] s.toList ++ ['\'']

def renderArgument (v : Value) : List Char :=
  match v.text? with
  | some s => quoted s
  | none => match v with
      | .null => "NULL".toList
      | v => v.plain.toList

/-- For reading only: each argument in turn takes the place of the first question mark left. -/
def render (s : Statement) : String :=
  String.ofList <| s.parameters.foldl
    (fun text v => Text.replaceFirst '?' (renderArgument v) text) s.template.chars

end Statement

end SqlCluster
