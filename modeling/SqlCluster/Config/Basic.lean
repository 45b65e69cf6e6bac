import SqlCluster.Peer.Parse
import SqlCluster.Level.Parse
/-!
The settings of a connection. Changes are checked, whether they are made to the defaults or to
settings in use: there is a peer, the scheme is known, and the timeout is a number that is not zero
or less. The other settings are kept as given; of a flag it counts whether it is true.
-/
namespace SqlCluster

open Number

inductive Scheme where
  | http
  | https
  deriving DecidableEq, Repr

namespace Scheme

def name : Scheme → String
  | .http => "http"
  | .https => "https"

def ofName? (s : String) : Option Scheme :=
  if s = "http" then some .http else if s = "https" then some .https else none

theorem ofName?_name (s : Scheme) : ofName? s.name = some s := by cases s <;> decide

def port : Scheme → Nat
  | .http => 80
  | .https => 443

end Scheme

structure Config where
  seeds : List Peer
  scheme : Scheme
  username : Value
  password : Value
  level : Level
  timeout : Value
  disableDiscovery : Value
  transaction : Value
  queuedWrites : Value
  deriving Repr

/-- The settings to change. Scheme and timeout are as given, not yet checked. -/
structure Options where
  seeds : Option (List Peer) := none
  scheme : Option Value := none
  username : Option Value := none
  password : Option Value := none
  level : Option Level := none
  timeout : Option Value := none
  disableDiscovery : Option Value := none
  transaction : Option Value := none
  queuedWrites : Option Value := none

namespace Config

def defaultHost : String := "localhost"

def default : Config where
  seeds := [⟨defaultHost, Peer.defaultPort⟩]
  scheme := .http
  username := .text ""
  password := .text ""
  level := .weak
  timeout := .float (Double.ofNat 10)
  disableDiscovery := .bool false
  transaction := .bool true
  queuedWrites := .bool false

def seed (c : Config) : Option Peer := c.seeds.head?

def wantsHttps (c : Config) : Bool := c.scheme == .https

def hasCredentials (c : Config) : Bool := c.username.isTruthy && c.password.isTruthy

/-- Is a number above zero? Not a number counts as above, unless it is a decimal, which cannot be
compared. -/
def exceedsZero : Value → Except ConfigError Bool
  | .float d => .ok !d.isAtMostZero
  | .int n => .ok (decide (0 < n))
  | .bool b => .ok b
  | .decimal d => if d.isNan then .error .incomparable else .ok d.isPositive
  | v => .error (.timeoutType v.qualifiedTypeName)

def checkTimeout (v : Value) : Except ConfigError Value := do
  if ← exceedsZero v then return v else throw (.lowTimeout v)

def schemeOf (v : Value) : Except ConfigError Scheme :=
  match v.text?.bind Scheme.ofName? with
  | some s => .ok s
  | none => .error (.badScheme v)

def orKeep {α β : Type} (current : α) (check : β → Except ConfigError α) :
    Option β → Except ConfigError α
  | none => .ok current
  | some b => check b

def withOptions (c : Config) (o : Options) : Except ConfigError Config := do
  let seeds := o.seeds.getD c.seeds
  if seeds.isEmpty then throw .noPeers
  let scheme ← orKeep c.scheme schemeOf o.scheme
  let timeout ← orKeep c.timeout checkTimeout o.timeout
  return {
    seeds := seeds
    scheme := scheme
    username := o.username.getD c.username
    password := o.password.getD c.password
    level := o.level.getD c.level
    timeout := timeout
    disableDiscovery := o.disableDiscovery.getD c.disableDiscovery
    transaction := o.transaction.getD c.transaction
    queuedWrites := o.queuedWrites.getD c.queuedWrites }

def make (o : Options) : Except ConfigError Config := default.withOptions o

end Config

end SqlCluster
