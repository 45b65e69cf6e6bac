import SqlCluster.Config.Basic
import SqlCluster.Operation
import SqlCluster.Uri.Escape
import SqlCluster.Uri.Redact
/-!
The URL for an operation against a peer. Credentials stand in it only as a pair, escaped; data
operations say how they are to be run in the query.
-/
namespace SqlCluster

namespace Config

def escapedSetting? : Value → Option (List Char)
  | .bytes .view _ => none
  | .bytes _ data => some (data.flatMap Uri.escapeOctet)
  | v => v.text?.map fun s => Uri.escape s.toList

def userinfo? (c : Config) : Option (List Char) := do
  let username ← escapedSetting? c.username
  let password ← escapedSetting? c.password
  return username ++ ':' :: password

def userPart? (c : Config) : Option (List Char) :=
  if c.hasCredentials then c.userinfo?.map (· ++ ['@']) else some []

def flags (c : Config) (operation : Operation) (queue : Bool) : List Char :=
  if operation.isData then
    "?timings&level=".toList ++ c.level.name.toList ++
      (if c.transaction.isTruthy then "&transaction".toList else []) ++
      (if operation = .execute ∧ (queue || c.queuedWrites.isTruthy) = true then "&queue".toList
      else [])
  else []

def assembleUrl? (c : Config) (operation : Operation) (peer : Peer) (queue : Bool) :
    Option (List Char) :=
  c.userPart?.map fun user =>
    c.scheme.name.toList ++ "://".toList ++ user ++ peer.addressChars ++
      operation.path.toList ++ c.flags operation queue

end Config

def shownUrl (url : List Char) : String := String.ofList (Uri.redact url)

end SqlCluster
