import SqlCluster.Fault.PeerFailure
import SqlCluster.Http.MediaType
import SqlCluster.Http.Url
import SqlCluster.Text.Charset
/-!
Requests as they reach a server, and what becomes of them: a response, a failure on the way, or a
cancellation by the caller.
-/
namespace SqlCluster.Http

open Number

inductive Method where
  | get
  | post
  deriving DecidableEq, Repr

def Method.name : Method → String
  | .get => "GET"
  | .post => "POST"

def mediaType : String := "application/json"

structure Request where
  method : Method
  url : Url
  body : List UInt8
  credentials : Option (List Char)
  timeout : Double
  deriving DecidableEq, Repr

structure Response where
  status : Int
  headers : List (String × String)
  body : List UInt8
  deriving DecidableEq, Repr

structure HeaderError where
  character : Char
  first : Nat
  last : Nat
  deriving DecidableEq, Repr

def HeaderError.message (e : HeaderError) : String :=
  "'ascii' codec can't encode character" ++
    (if e.first = e.last then
      " '" ++ String.ofList (Text.Quoted.numbered e.character.toNat) ++ "' in position " ++
        toString e.first
    else "s in position " ++ toString e.first ++ "-" ++ toString e.last) ++
    ": ordinal not in range(128)"

namespace Response

def checkAscii (cs : List Char) : Except HeaderError Unit :=
  match cs.dropWhile isAscii with
  | [] => .ok ()
  | c :: rest =>
      let first := cs.length - rest.length - 1
      .error ⟨c, first, first + (rest.takeWhile fun d => !isAscii d).length⟩

/-- The names and values of all headers are ASCII. This is a check of the scripted cluster, which
has its headers as texts: from a node on the network they come as bytes, and a location beyond ASCII
is followed. -/
def checkHeaders (r : Response) : Except HeaderError Unit :=
  r.headers.forM fun h => do
    checkAscii h.1.toList
    checkAscii h.2.toList

def headers? (r : Response) (name : String) : List String :=
  (r.headers.filter fun h => Text.asciiLower h.1.toList = Text.asciiLower name.toList).map (·.2)

def header? (r : Response) (name : String) : Option String :=
  match r.headers? name with
  | [] => none
  | values => some (String.intercalate ", " values)

def location? (r : Response) : Option String := r.header? "location"

def charset (r : Response) : Text.Charset :=
  (((r.header? "content-type").bind fun t => MediaType.charset? t.toList).bind
    Text.Charset.ofName?).getD .utf8

def text (r : Response) : Except Text.CharsetError (List Char) :=
  if r.body = [] then .ok [] else r.charset.read r.body

end Response

inductive Cause where
  | connectTimeout
  | readTimeout
  | writeTimeout
  | poolTimeout
  | timeout
  | connect
  | read
  | write
  | close
  | network
  | remoteProtocol
  | localProtocol
  | protocol
  | proxy
  | unsupportedProtocol
  | transport
  | tooManyRedirects
  | decoding
  | request
  | http
  | invalidUrl
  deriving DecidableEq, Repr

namespace Cause

def all : List Cause := [.connectTimeout, .readTimeout, .writeTimeout, .poolTimeout, .timeout,
  .connect, .read, .write, .close, .network, .remoteProtocol, .localProtocol, .protocol, .proxy,
  .unsupportedProtocol, .transport, .tooManyRedirects, .decoding, .request, .http, .invalidUrl]

def name : Cause → String
  | .connectTimeout => "ConnectTimeout"
  | .readTimeout => "ReadTimeout"
  | .writeTimeout => "WriteTimeout"
  | .poolTimeout => "PoolTimeout"
  | .timeout => "TimeoutException"
  | .connect => "ConnectError"
  | .read => "ReadError"
  | .write => "WriteError"
  | .close => "CloseError"
  | .network => "NetworkError"
  | .remoteProtocol => "RemoteProtocolError"
  | .localProtocol => "LocalProtocolError"
  | .protocol => "ProtocolError"
  | .proxy => "ProxyError"
  | .unsupportedProtocol => "UnsupportedProtocol"
  | .transport => "TransportError"
  | .tooManyRedirects => "TooManyRedirects"
  | .decoding => "DecodingError"
  | .request => "RequestError"
  | .http => "HTTPError"
  | .invalidUrl => "InvalidURL"

def ofName? (s : String) : Option Cause := all.find? (·.name = s)

def above : Cause → List Cause
  | .connectTimeout | .readTimeout | .writeTimeout | .poolTimeout =>
      [.timeout, .transport, .request, .http]
  | .connect | .read | .write | .close => [.network, .transport, .request, .http]
  | .remoteProtocol | .localProtocol => [.protocol, .transport, .request, .http]
  | .timeout | .network | .protocol | .proxy | .unsupportedProtocol => [.transport, .request, .http]
  | .transport | .tooManyRedirects | .decoding => [.request, .http]
  | .request => [.http]
  | .http | .invalidUrl => []

def isA (c d : Cause) : Bool := (c :: c.above).contains d

end Cause

/-- Why a request failed before it was answered. A failure without a message goes by its class. -/
structure Failure where
  cause : Cause
  message : String
  deriving DecidableEq, Repr

def Failure.text (f : Failure) : String := if f.message = "" then f.cause.name else f.message

inductive Outcome where
  | response (r : Response)
  | failure (f : Failure)
  | cancelled
  deriving DecidableEq, Repr

abbrev Server (σ : Type) := σ → Request → Outcome × σ

end SqlCluster.Http
