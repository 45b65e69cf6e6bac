/-!
Read consistency, as requests spell it.
-/
namespace SqlCluster

inductive Level where
  | none
  | weak
  | strong
  deriving DecidableEq, Repr

namespace Level

def all : List Level := [.none, .weak, .strong]

def name : Level → String
  | .none => "none"
  | .weak => "weak"
  | .strong => "strong"

def ofName? (s : String) : Option Level := all.find? (·.name = s)

def constant : Level → String
  | .none => "NONE"
  | .weak => "WEAK"
  | .strong => "STRONG"

end Level

end SqlCluster
