import SqlCluster.Journal.Message
import SqlCluster.Text.Blank
/-!
Diagnostics. A tracer writes lines, each opened by its connection's name, to a sink; a sink is
silent, a stream, or a log. Log records are kept apart from what a stream received.
-/
namespace SqlCluster

inductive Channel where
  | cluster
  | executor
  | connection
  | statement
  | trace
  deriving DecidableEq, Repr

def Channel.name : Channel → String
  | .cluster => "rqlite_sdk.cluster"
  | .executor => "rqlite_sdk.connection.executor"
  | .connection => "rqlite_sdk.connection.http"
  | .statement => "rqlite_sdk.protocol.statement"
  | .trace => "rqlite_sdk.trace"

/-- How much a record matters; records below `debug` are not kept. -/
abbrev Severity := Int

namespace Severity

def debug : Severity := 10

def warning : Severity := 30

def named : List (Severity × String) :=
  [(10, "DEBUG"), (20, "INFO"), (30, "WARNING"), (40, "ERROR"), (50, "CRITICAL")]

def name (s : Severity) : String :=
  match named.find? (·.1 = s) with
  | some p => p.2
  | none => "Level " ++ toString s

end Severity

structure Record where
  severity : Severity
  channel : Channel
  message : String
  deriving DecidableEq, Repr

def Record.text (r : Record) : String :=
  Severity.name r.severity ++ " " ++ r.channel.name ++ ": " ++ r.message

structure Journal where
  stream : List Char
  records : List Record
  deriving DecidableEq, Repr

namespace Journal

def empty : Journal := ⟨[], []⟩

def log (j : Journal) (r : Record) : Journal :=
  if r.severity < Severity.debug then j else { j with records := j.records ++ [r] }

end Journal

/-- Where trace lines go. A stream is taken to accept every text: one that fails would raise its own
error out of the operation that is traced. -/
inductive Sink where
  | silent
  | stream
  | log (severity : Severity)
  deriving DecidableEq, Repr

namespace Sink

def isEnabled : Sink → Bool
  | .silent => false
  | _ => true

def isNewline (c : Char) : Bool := c == '\n'

def write (s : Sink) (message : List Char) (j : Journal) : Journal :=
  match s with
  | .silent => j
  | .stream => { j with stream := j.stream ++ Text.trimEnd isNewline message ++ ['\n'] }
  | .log severity => j.log ⟨severity, .trace, String.ofList message⟩

end Sink

structure Tracer where
  sink : Sink
  id : List Char
  deriving DecidableEq, Repr

namespace Tracer

def isEnabled (t : Tracer) : Bool := t.sink.isEnabled

def line (t : Tracer) (message : List Char) : List Char :=
  t.id ++ ':' :: ' ' :: Text.trim Text.isBlank message

def note (t : Tracer) (message : String) (j : Journal) : Journal :=
  t.sink.write (t.line message.toList) j

/-- Nothing is formatted while the sink is silent; a pattern without arguments is taken as it is. -/
def format (t : Tracer) (pattern : String) (args : List Value) (j : Journal) :
    Except MessageError Journal :=
  if !t.isEnabled then .ok j
  else if args.isEmpty then .ok (t.note pattern j)
  else (Message.fill pattern args).map fun message => t.note message j

end Tracer

end SqlCluster
