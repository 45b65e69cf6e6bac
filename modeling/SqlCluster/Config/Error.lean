import SqlCluster.Peer.Basic
import SqlCluster.Uri.Parts
import SqlCluster.Value.Equality
import SqlCluster.Value.Show
/-!
What can be wrong with a setting. Some messages show the value that is wrong, and where that value
cannot be written out, its writing is what fails.
-/
namespace SqlCluster

inductive ConfigError where
  | emptyHost
  | hostType (v : Value)
  | badPort (n : Int)
  | badAddress (address : List Char) (e : Uri.SplitError)
  | noHost (address : List Char)
  | unknownLevel (v : Value)
  | emptyUrl
  | notHttp
  | malformedUrl (e : Uri.SplitError)
  | badTimeout (text : String)
  | badFlag (name text : String)
  | noPeers
  | badScheme (v : Value)
  | lowTimeout (v : Value)
  | timeoutType (typeName : String)
  | portType (typeName : String)
  | incomparable
  deriving Repr

namespace ConfigError

def shown? : ConfigError → Option Value
  | .badPort n => some (.int n)
  | .unknownLevel v | .badScheme v | .lowTimeout v => some v
  | _ => none

def isSayable (e : ConfigError) : Bool := e.shown?.all Value.isShowable

def text : ConfigError → String
  | .emptyHost => "peer host must not be empty"
  | .hostType (.bytes _ _) => "a bytes-like object is required, not 'str'"
  | .hostType v => "argument of type '" ++ v.qualifiedTypeName ++ "' is not iterable"
  | .badPort n => "invalid peer port: " ++ toString n
  | .badAddress a e =>
      "invalid peer address " ++ String.ofList (Text.Quoted.quoteChars a) ++ ": " ++ e.message
  | .noHost a => "invalid peer address " ++ String.ofList (Text.Quoted.quoteChars a) ++ ": no host"
  | .unknownLevel v => "unknown consistency level: " ++ v.literal
  | .emptyUrl => "connection URL is empty"
  | .notHttp => "connection URL does not start with 'http://' or 'https://'"
  | .malformedUrl e => "malformed connection URL: " ++ e.message
  | .badTimeout t => "invalid timeout: " ++ Text.Quoted.quote t
  | .badFlag name t => "invalid value for " ++ name ++ ": " ++ Text.Quoted.quote t
  | .noPeers => "at least one peer is required"
  | .badScheme v => "unsupported scheme: " ++ v.literal
  | .lowTimeout v => "timeout must be > 0, got " ++ v.plain
  | .timeoutType name =>
      "'<=' not supported between instances of '" ++ name ++ "' and 'int'"
  | .portType name => "'<' not supported between instances of 'int' and '" ++ name ++ "'"
  | .incomparable => Value.incomparableText

def message (e : ConfigError) : String :=
  if e.isSayable then e.text else Number.Literal.unwritableText

end ConfigError

end SqlCluster
