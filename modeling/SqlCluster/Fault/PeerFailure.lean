/-!
Failed attempts: one peer that could not serve a request, and why.
-/
namespace SqlCluster

inductive FailureKind where
  | connection
  | timeout
  | status
  | redirect
  | protocol
  deriving DecidableEq, Repr

namespace FailureKind

def all : List FailureKind := [.connection, .timeout, .status, .redirect, .protocol]

def name : FailureKind → String
  | .connection => "connection"
  | .timeout => "timeout"
  | .status => "status"
  | .redirect => "redirect"
  | .protocol => "protocol"

def ofName? (s : String) : Option FailureKind := all.find? (·.name = s)

end FailureKind

structure PeerFailure where
  peer : String
  url : String
  kind : FailureKind
  detail : String
  statusCode : Option Int
  deriving DecidableEq, Repr

namespace PeerFailure

def text (f : PeerFailure) : String :=
  f.url ++ " failed (" ++ f.kind.name ++ "): " ++ f.detail

def numberedLines : Nat → List PeerFailure → List String
  | _, [] => []
  | n, f :: fs => ("   peer #" ++ toString n ++ ": " ++ f.text) :: numberedLines (n + 1) fs

def summary (fs : List PeerFailure) : String :=
  String.intercalate "\n"
    ("tried all peers unsuccessfully. here are the results:" :: numberedLines 0 fs)

end PeerFailure

end SqlCluster
