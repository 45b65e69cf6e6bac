import SqlCluster.Config.Basic
import SqlCluster.Uri.Query
/-!
Settings from a connection URL. The first of its comma-separated parts is a URL with credentials and
options in it; the others are addresses of further peers, and nothing but their host and port
counts.
-/
namespace SqlCluster.Config

open Number

def option? (name : String) (fields : List Uri.Query.Field) : Option String :=
  match Uri.Query.last? name fields with
  | none => none
  | some v =>
      let t := Text.trim Text.isBlank v
      if t = [] then none else some (String.ofList t)

def trueWords : List String := ["1", "true", "yes", "on"]

def falseWords : List String := ["0", "false", "no", "off"]

def flagOf (name text : String) : Except ConfigError Bool :=
  let w := Text.lowerText text
  if trueWords.contains w then .ok true
  else if falseWords.contains w then .ok false
  else .error (.badFlag name text)

def levelOf (v : Value) : Except ConfigError Level :=
  match Level.parse? v with
  | some l => .ok l
  | none => .error (.unknownLevel v)

def timeoutOfText (text : String) : Except ConfigError Value :=
  match Literal.setting? text.toList with
  | some d => .ok (.float d)
  | none => .error (.badTimeout text)

def furtherPeers : List (List Char) → Except ConfigError (List Peer)
  | [] => .ok []
  | part :: parts => do
      if part = [] then furtherPeers parts
      else
        let p ← Peer.parse part Peer.defaultPort
        let ps ← furtherPeers parts
        return p :: ps

def userText (cs : Option (List Char)) : String := String.ofList (Uri.unescape (cs.getD []))

def cutUrl (first : List Char) : Except ConfigError (Uri.Parts × Option Nat) :=
  match Uri.split first with
  | .error e => .error (.malformedUrl e)
  | .ok parts => match parts.port? with
      | .error e => .error (.malformedUrl e)
      | .ok port => .ok (parts, port)

def startsHttp (cs : List Char) : Bool :=
  (Text.after? "http://".toList cs).isSome || (Text.after? "https://".toList cs).isSome

def ofParts (first : List Char) (rest : List (List Char)) : Except ConfigError Config := do
  if !startsHttp first then throw .notHttp
  let (parts, port) ← cutUrl first
  let host := if parts.hostname = [] then defaultHost else String.ofList parts.hostname
  let primary ← Peer.make host (port.getD Peer.defaultPort)
  let others ← furtherPeers rest
  let fields := Uri.Query.fields parts.query
  let level ← orKeep Level.weak (fun t => levelOf (.text t)) (option? "level" fields)
  let timeout ← orKeep default.timeout timeoutOfText (option? "timeout" fields)
  let disable ← orKeep false (flagOf "disableClusterDiscovery")
    (option? "disableClusterDiscovery" fields)
  make {
    seeds := some (distinct (primary :: others))
    scheme := some (.text (String.ofList parts.scheme))
    username := some (.text (userText parts.username))
    password := some (.text (userText parts.password))
    level := some level
    timeout := some timeout
    disableDiscovery := some (.bool disable) }

def ofUrl (url : List Char) : Except ConfigError Config :=
  match Text.trim Text.isBlank url with
  | [] => .error .emptyUrl
  | cs => match (Text.splitAt ',' cs).map (Text.trim Text.isBlank) with
      | [] => .error .emptyUrl
      | first :: rest => ofParts first rest

end SqlCluster.Config
