import SqlCluster.Config.Url
import SqlCluster.Cluster.Refresh
import SqlCluster.Executor.Walk
import SqlCluster.Statement.Batch
/-!
Connections: settings, the topology in use, and a client that is either the caller's or the
connection's own. A connection is new, open or closed, and a closed one stays closed.
-/
namespace SqlCluster

/-- The client behind a connection. Its own is made when it opens; a caller's is never closed. -/
inductive ClientState where
  | shared (c : Http.Client)
  | unmade
  | own (closed : Bool)
  deriving DecidableEq, Repr

namespace ClientState

def ofGiven : Option Http.Client → ClientState
  | none => .unmade
  | some c => .shared c

def inUse : ClientState → Http.Client
  | .shared c => c
  | _ => Executor.ownClient

def isClosed? : ClientState → Option Bool
  | .shared _ => some false
  | .unmade => none
  | .own closed => some closed

def opened : ClientState → ClientState
  | .unmade => .own false
  | c => c

def closed : ClientState → ClientState
  | .own _ => .own true
  | c => c

end ClientState

structure Connection where
  config : Config
  topology : Topology
  tracer : Tracer
  favorSeed : Bool
  client : ClientState
  /-- How many lists and objects may stand in one another in an argument. -/
  room : Nat
  started : Bool
  closed : Bool
  deriving Repr

namespace Connection

def make (config : Config) (tracer : Tracer) (favorSeed : Bool) (given : Option Http.Client)
    (room : Nat) : Connection where
  config := config
  topology := .make config.seed (config.seeds.drop 1) config.seed
  tracer := tracer
  favorSeed := favorSeed
  client := .ofGiven given
  room := room
  started := false
  closed := false

def isOpen (c : Connection) : Bool := c.started && !c.closed

def stateName (c : Connection) : String :=
  if c.closed then "closed" else if c.started then "open" else "new"

def describe (c : Connection) : String :=
  "RqliteConnection(" ++ String.ofList c.tracer.id ++ ", " ++ c.stateName ++ ", peers=" ++
    Value.literal (.list (c.topology.peers.map fun p => .text p.address)) ++ ")"

def executor (c : Connection) : Executor :=
  ⟨c.client.inUse, c.config, c.topology, c.tracer, c.favorSeed, Executor.defaultRedirects⟩

def requireExecutor (c : Connection) : Except Fault Executor :=
  if c.closed then .error .closed
  else if c.started then .ok c.executor else .error .notOpen

variable {σ : Type}

def refresh (serve : Http.Server σ) (c : Connection) (w : World σ) :
    Except Fault Topology × Connection × World σ :=
  match c.requireExecutor with
  | .error f => (.error f, c, w)
  | .ok x =>
      let w := w.note c.tracer "refreshing cluster info"
      let fetch : Discovery.Fetch σ := fun operation w => x.execute serve operation [] false w
      match Discovery.refresh fetch c.topology c.tracer w with
      | (.error f, w) => (.error f, c, w)
      | (.ok t, w) => (.ok t, { c with topology := t }, w)

def warnDiscovery (f : Fault) (w : World σ) : World σ :=
  if f.isDiscovery then
    w.log .warning .connection
      ("cluster discovery failed, using peers from the URL: " ++ f.message)
  else w

/-- Opening discovers the cluster, unless the settings forbid it. When that fails the connection is
open all the same. -/
def «open» (serve : Http.Server σ) (c : Connection) (w : World σ) :
    Except Fault Unit × Connection × World σ :=
  if c.closed then (.error .closed, c, w)
  else if c.started then (.ok (), c, w)
  else
    let c := { c with started := true, client := c.client.opened }
    let w := w.note c.tracer
      ("opened connection to " ++ String.intercalate ", " (c.config.seeds.map Peer.address))
    if c.config.disableDiscovery.isTruthy then (.ok (), c, w)
    else match c.refresh serve w with
      | (.ok _, c, w) => (.ok (), c, w)
      | (.error f, c, w) => (.error f, c, warnDiscovery f w)

def close (c : Connection) (w : World σ) : Connection × World σ :=
  if c.closed then (c, w)
  else
    ({ c with closed := true, started := false, client := c.client.closed },
      w.note c.tracer "closing connection")

def enter (serve : Http.Server σ) (c : Connection) (w : World σ) :
    Except Fault Unit × Connection × World σ :=
  match c.open serve w with
  | (.ok (), c, w) => (.ok (), c, w)
  | (.error f, c, w) => (.error f, c.close w)

def connect (serve : Http.Server σ) (config : Config) (tracer : Tracer) (favorSeed : Bool)
    (given : Option Http.Client) (room : Nat) (w : World σ) :
    Except Fault Unit × Connection × World σ :=
  (make config tracer favorSeed given room).enter serve w

theorem closed_close (c : Connection) (w : World σ) : (c.close w).1.closed = true := by
  simp only [close]
  split
  · assumption
  · rfl

end Connection

end SqlCluster
