/-!
The operations of the store's HTTP interface. Discovery operations read the cluster's state; data
operations carry statements.
-/
namespace SqlCluster

inductive Operation where
  | status
  | nodes
  | query
  | execute
  | request
  deriving DecidableEq, Repr

namespace Operation

def all : List Operation := [.status, .nodes, .query, .execute, .request]

def name : Operation → String
  | .status => "STATUS"
  | .nodes => "NODES"
  | .query => "QUERY"
  | .execute => "EXECUTE"
  | .request => "REQUEST"

def path : Operation → String
  | .status => "/status"
  | .nodes => "/nodes"
  | .query => "/db/query"
  | .execute => "/db/execute"
  | .request => "/db/request"

def isData : Operation → Bool
  | .status => false
  | .nodes => false
  | _ => true

def method (o : Operation) : String := if o.isData then "POST" else "GET"

def ofPath? (path : String) : Option Operation := all.find? (·.path = path)

def ofName? (name : String) : Option Operation := all.find? (·.name = name)

end Operation

end SqlCluster
