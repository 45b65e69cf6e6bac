/-!
The kinds of faults. Most are the library's own; a few come from the values that a caller hands in,
and a cancellation from the caller itself.
-/
namespace SqlCluster

inductive FaultKind where
  | general
  | configuration
  | closed
  | notOpen
  | noPeers
  | discovery
  | allPeersFailed
  | response
  | statement
  | cursor
  | coercion
  | badType
  | badValue
  | badAttribute
  | missingKey
  | badIndex
  | overflow
  | tooDeep
  | badOperation
  | badHeader
  | badUnits
  | badName
  | badNameCharacter
  | badNameContext
  | badNameDirection
  | cancelled
  deriving DecidableEq, Repr

namespace FaultKind

def isLibrary : FaultKind → Bool
  | .badType | .badValue | .badAttribute | .missingKey | .badIndex | .overflow
  | .tooDeep | .badOperation | .badHeader | .badUnits | .badName | .badNameCharacter
  | .badNameContext | .badNameDirection | .cancelled => false
  | _ => true

def defaultMessage? : FaultKind → Option String
  | .closed => some "connection is closed"
  | .notOpen => some "Not connected. Call open() first."
  | .noPeers => some "no cluster peers available"
  | .cancelled => some ""
  | _ => none

end FaultKind

end SqlCluster
