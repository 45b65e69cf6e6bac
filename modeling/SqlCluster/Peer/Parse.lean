import SqlCluster.Config.Error
/-!
Peers from settings: from a host and a port, and from an address, which is a host with an optional
port or a whole URL. A port that is given as a value has to be an integer.
-/
namespace SqlCluster.Peer

def make (host : String) (port : Int) : Except ConfigError Peer :=
  if host.isEmpty then .error .emptyHost
  else if isValidPort port then .ok ⟨host, port.toNat⟩
  else .error (.badPort port)

def portOf : Value → Except ConfigError Int
  | .int n => .ok n
  | .bool b => .ok (if b then 1 else 0)
  | v => .error (.portType v.qualifiedTypeName)

/-- A host that counts as false is an empty one, and is looked at before the port; one that is no
text behind it. -/
def ofValues (host port : Value) : Except ConfigError Peer := do
  if !host.isTruthy then throw .emptyHost
  let n ← portOf port
  match host.text? with
  | some h => make h n
  | none => if isValidPort n then throw (.hostType host) else throw (.badPort n)

def withSlashes (cs : List Char) : List Char :=
  if Text.containsText "://".toList cs then cs else '/' :: '/' :: cs

def parseWith (address : List Char) (defaultPort : Value) : Except ConfigError Peer :=
  let a := withSlashes (Text.trim Text.isBlank address)
  match Uri.split a with
  | .error e => .error (.badAddress a e)
  | .ok parts => match parts.port? with
      | .error e => .error (.badAddress a e)
      | .ok port =>
          if parts.hostname = [] then .error (.noHost a)
          else ofValues (.text (String.ofList parts.hostname))
            ((port.map fun n => .int (n : Int)).getD defaultPort)

def parse (address : List Char) (defaultPort : Int) : Except ConfigError Peer :=
  parseWith address (.int defaultPort)

end SqlCluster.Peer
