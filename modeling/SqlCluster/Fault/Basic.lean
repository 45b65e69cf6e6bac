import SqlCluster.Fault.Kind
import SqlCluster.Fault.PeerFailure
import SqlCluster.Fault.Raised
import SqlCluster.Cluster.Document
import SqlCluster.Http.Message
import SqlCluster.Journal.Basic
import SqlCluster.Response.Decode
import SqlCluster.Result.Cursor
import SqlCluster.Statement.Batch
/-!
Faults: everything that can go wrong in an operation, by its cause. A fault has a kind and a
message; one that is handed in from outside is known by these alone.
-/
namespace SqlCluster

inductive Fault where
  | config (e : ConfigError)
  | closed
  | notOpen
  | noPeers
  | discovery (e : DiscoveryError)
  | allPeersFailed (failures : List PeerFailure)
  | decode (e : Response.DecodeError)
  | resultCount (n : Nat)
  | statement (message : Value) (sql : Value)
  | batch (e : BatchError)
  | incomparable
  | number (e : NumberError)
  | unquotable
  | header (e : Http.HeaderError)
  | units (e : Text.CharsetError)
  | hostName (e : Http.Name.NameError)
  | unknownScheme (url : List Char)
  | parametersAlongside
  | notTemplate (typeName : String)
  | bytesTemplate
  | read (e : ReadError)
  | conversion (e : ConversionError)
  | format (e : MessageError)
  | unknownName (name : Value) (list : String)
  | reference (e : Uri.SplitError)
  | cancelled
  | raised (r : Raised)
  | raising (e : RaiseError)
  deriving Repr

namespace Fault

def settingKind : ConfigError → FaultKind
  | .timeoutType _ | .portType _ | .hostType _ => .badType
  | .incomparable => .badOperation
  | _ => .configuration

def configKind (e : ConfigError) : FaultKind := if e.isSayable then settingKind e else .badValue

theorem configKind_of_shown {e : ConfigError} {v : Value} (he : e.shown? = some v) :
    configKind e = if v.isShowable then .configuration else .badValue := by
  have hs : e.isSayable = v.isShowable := by rw [ConfigError.isSayable, he, Option.all_some]
  cases e with
  | badPort | unknownLevel | badScheme | lowTimeout => simp only [configKind, hs, settingKind]
  | _ => cases he

def numberKind : NumberError → FaultKind
  | .integerType _ | .floatType _ => .badType
  | .integerOfInfinity | .decimalInfinity | .tooLarge => .overflow
  | _ => .badValue

def fieldKind : Result.FieldError → FaultKind
  | .notIterable _ => .badType
  | .number e => numberKind e

def decodeKind : Response.DecodeError → FaultKind
  | .body _ => .response
  | .field e => fieldKind e
  | .noResults _ => .badValue

def encodeKind : Json.EncodeError → FaultKind
  | .noForm _ => .badType
  | .signaling | .tooManyDigits => .badValue
  | .tooDeep => .tooDeep

def batchKind : BatchError → FaultKind
  | .notStatement _ => .badType
  | .encoding e => encodeKind e

def readKind : ReadError → FaultKind
  | .beforeFirst | .pastLast => .cursor
  | .noColumn _ => .missingKey
  | .incomparable => .badOperation
  | .key _ => .badType
  | .shortRow => .badIndex
  | .conversion _ => .coercion

def formatKind : MessageError → FaultKind
  | .pattern .named => .badType
  | .pattern _ | .unknown _ _ | .tooManyDigits => .badValue
  | .widthRange | .precisionRange | .integerPrecision | .characterRange => .overflow
  | .number e => numberKind e
  | _ => .badType

def labelKind : Http.Name.LabelError → FaultKind
  | .refused _ _ _ => .badNameCharacter
  | .context _ _ _ => .badNameContext
  | .unknownDirection _ _ | .firstDirection _ | .directionRight _ | .directionLeft _
  | .mixedDigits | .lastDirection => .badNameDirection
  | _ => .badName

def nameKind : Http.Name.NameError → FaultKind
  | .label e => labelKind e
  | _ => .badName

def kind : Fault → FaultKind
  | .config e => configKind e
  | .closed => .closed
  | .notOpen => .notOpen
  | .noPeers => .noPeers
  | .discovery _ => .discovery
  | .allPeersFailed _ => .allPeersFailed
  | .decode e => decodeKind e
  | .resultCount _ => .response
  | .statement _ _ => .statement
  | .batch e => batchKind e
  | .incomparable => .badOperation
  | .number e => numberKind e
  | .unquotable => .badType
  | .header _ => .badHeader
  | .units _ => .badUnits
  | .hostName e => nameKind e
  | .unknownScheme _ => .badValue
  | .parametersAlongside => .badType
  | .notTemplate _ => .badAttribute
  | .bytesTemplate => .badType
  | .read e => readKind e
  | .conversion _ => .coercion
  | .format e => formatKind e
  | .unknownName _ _ => .badValue
  | .reference _ => .badValue
  | .cancelled => .cancelled
  | .raised r => r.kind
  | .raising _ => .badType

def message : Fault → String
  | .config e => e.message
  | .closed => "connection is closed"
  | .notOpen => "Not connected. Call open() first."
  | .noPeers => "no cluster peers available"
  | .discovery e => e.message
  | .allPeersFailed fs => PeerFailure.summary fs
  | .decode e => e.message
  | .resultCount n => "expected 1 result, got " ++ toString n
  | .statement m _ => m.plain
  | .batch e => e.message
  | .incomparable => Value.incomparableText
  | .number e => e.message
  | .unquotable => "quote_from_bytes() expected bytes"
  | .header e => e.message
  | .units e => e.message
  | .hostName e => e.message
  | .unknownScheme url => "unknown url type: " ++ String.ofList (Text.Quoted.quoteChars url)
  | .parametersAlongside => "parameters must be given to Statement(), not alongside it"
  | .notTemplate name => "'" ++ name ++ "' object has no attribute 'count'"
  | .bytesTemplate => "argument should be integer or bytes-like object, not 'str'"
  | .read e => e.message
  | .conversion e => e.message
  | .format e => e.message
  | .unknownName name list => name.literal ++ " is not a valid " ++ list
  | .reference e => e.message
  | .cancelled => ""
  | .raised r => r.message.plain
  | .raising e => e.message

def isLibrary (f : Fault) : Bool := f.kind.isLibrary

def isDiscovery (f : Fault) : Bool := f.kind == .discovery

end Fault

end SqlCluster
