import SqlCluster.Fault.Kind
import SqlCluster.Value.Show
/-!
Faults raised by hand from a list of arguments: a message, and behind it a code or the statement
that was refused. Some kinds have a message of their own and take no more than another one.
-/
namespace SqlCluster

structure Raised where
  kind : FaultKind
  message : Value
  detail : Value
  deriving Repr

/-- How many arguments a kind takes did not fit; `owner` is the kind that says how many. -/
inductive RaiseError where
  | noMessage (owner : String)
  | tooMany (owner : String) (least most given : Nat)
  deriving DecidableEq, Repr

namespace RaiseError

def message : RaiseError → String
  | .noMessage owner => owner ++ ".__init__() missing 1 required positional argument: 'message'"
  | .tooMany owner least most given =>
      owner ++ ".__init__() takes from " ++ toString (least + 1) ++ " to " ++ toString (most + 1) ++
        " positional arguments but " ++ toString (given + 1) ++ " were given"

end RaiseError

namespace FaultKind

def owner : FaultKind → String
  | .statement => "StatementError"
  | .closed => "ConnectionClosedError"
  | .notOpen => "NotOpenError"
  | .noPeers => "NoPeersError"
  | _ => "RqliteError"

end FaultKind

namespace Raised

def make (kind : FaultKind) (args : List Value) : Except RaiseError Raised :=
  match kind.defaultMessage?, args with
  | some m, [] => .ok ⟨kind, .text m, .null⟩
  | some _, [m] => .ok ⟨kind, m, .null⟩
  | some _, _ => .error (.tooMany kind.owner 0 1 args.length)
  | none, [] => .error (.noMessage kind.owner)
  | none, [m] => .ok ⟨kind, m, .null⟩
  | none, [m, d] => .ok ⟨kind, m, d⟩
  | none, _ => .error (.tooMany kind.owner 1 2 args.length)

def code (r : Raised) : Value := if r.kind = .statement then .null else r.detail

end Raised

end SqlCluster
