import SqlCluster.Compression.Stream
import SqlCluster.Http.Message
/-!
The codings of a response's content, as its headers list them in the order in which they were
applied. Codings that are not known count as none.
-/
namespace SqlCluster.Http

inductive Coding where
  | gzip
  | deflate
  deriving DecidableEq, Repr

namespace Coding

def named : List (String × Coding) := [("gzip", .gzip), ("deflate", .deflate)]

def ofName? (name : List Char) : Option Coding :=
  (named.find? fun p => p.1.toList = name).map (·.2)

def decode (c : Coding) (data : List UInt8) : Except Compression.Corruption (List UInt8) :=
  match c with
  | .gzip => Compression.archived data
  | .deflate => match Compression.wrapped data with
      | .ok out => .ok out
      | .error _ => Compression.bare data

/-- The last coding applied is the first to be undone. -/
def decodeAll : List Coding → List UInt8 → Except Compression.Corruption (List UInt8)
  | [], data => .ok data
  | c :: cs, data => (decodeAll cs data).bind c.decode

end Coding

namespace Response

def codings (r : Response) : List Coding :=
  (r.headers? "content-encoding").flatMap fun v =>
    (Text.splitAt ',' v.toList).filterMap fun name =>
      Coding.ofName? (Text.asciiLower (Text.trim Text.isBlank name))

def decoded (r : Response) : Except Compression.Corruption Response :=
  if r.body = [] then .ok r
  else (Coding.decodeAll r.codings r.body).map fun body => { r with body := body }

end Response

end SqlCluster.Http
