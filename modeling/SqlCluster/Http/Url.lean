import SqlCluster.Http.Name.Basic
import SqlCluster.Number.Setting
import SqlCluster.Text.Quoted
import SqlCluster.Uri.Address
import SqlCluster.Uri.Escape
/-!
Request URLs in the form in which a client sends them: scheme and host in lower case, the default
port left out, dot segments resolved, and every character that may not stand in its part escaped.
Escapes that are already there are kept, valid or not.
-/
namespace SqlCluster.Http

structure Url where
  scheme : List Char
  userinfo : List Char
  host : List Char
  port : Option Int
  path : List Char
  query : Option (List Char)
  fragment : Option (List Char)
  deriving DecidableEq, Repr

structure UrlParts where
  scheme : List Char
  userinfo : List Char
  host : List Char
  port : List Char
  path : List Char
  query : Option (List Char)
  fragment : Option (List Char)
  deriving DecidableEq, Repr

inductive UrlError where
  | tooLong
  | unprintable (component : String) (c : Char) (position : Nat)
  | ipv4 (host : List Char)
  | ipv6 (host : List Char)
  | name (host : List Char)
  | port (text : List Char)
  | unrooted
  | doubleSlash
  | colon
  deriving DecidableEq, Repr

def UrlError.message : UrlError → String
  | .tooLong => "URL too long"
  | .unprintable component c n =>
      "Invalid non-printable ASCII character in URL" ++ component ++ ", " ++
        String.ofList (Text.Quoted.quoteChars [c]) ++ " at position " ++ toString n ++ "."
  | .ipv4 host => "Invalid IPv4 address: " ++ String.ofList (Text.Quoted.quoteChars host)
  | .ipv6 host => "Invalid IPv6 address: " ++ String.ofList (Text.Quoted.quoteChars host)
  | .name host => "Invalid IDNA hostname: " ++ String.ofList (Text.Quoted.quoteChars host)
  | .port text => "Invalid port: " ++ String.ofList (Text.Quoted.quoteChars text)
  | .unrooted => "For absolute URLs, path must be empty or begin with '/'"
  | .doubleSlash => "Relative URLs cannot have a path starting with '//'"
  | .colon => "Relative URLs cannot have a path starting with ':'"

def isAscii (c : Char) : Bool := c.toNat < 0x80

def admits (refused : String) (c : Char) : Bool :=
  0x20 ≤ c.toNat && c.toNat < 0x7F && !refused.toList.contains c

def fragmentRefused : String := " \"<>\x60"

def queryRefused : String := " \"#<>"

def pathRefused : String := queryRefused ++ "?\x60\x7b\x7d"

def userRefused : String := pathRefused ++ "/;=@[\\]^|"

def hostAdmitted : String := "!$&'()*+,;=\"\x60\x7b\x7d%|\\"

def escapeUnless (keep : Char → Bool) (cs : List Char) : List Char :=
  cs.flatMap fun c =>
    if Uri.isUnreserved c || keep c then [c] else (Text.Utf8.encodeChar c).flatMap Uri.escapeByte

def cutScheme (cs : List Char) : List Char × List Char :=
  match Text.cutFirst? ':' cs with
  | some ([], rest) => ([], rest)
  | some (c :: before, rest) =>
      if Text.isAsciiLetter c && before.all fun d =>
          Text.isAsciiLetter d || Text.isAsciiDigit d || d == '+' || d == '-' || d == '.' then
        (c :: before, rest)
      else ([], cs)
  | none => ([], cs)

def cutOptional (c : Char) (cs : List Char) : List Char × Option (List Char) :=
  match Text.cutFirst? c cs with
  | some (before, rest) => (before, some rest)
  | none => (cs, none)

def cutBrackets? : List Char → Option (List Char × List Char)
  | '[' :: rest => (Text.cutLast? ']' rest).map fun p => ('[' :: p.1 ++ [']'], p.2)
  | _ => none

def cutHost (cs : List Char) : List Char × List Char :=
  let cut := (cutBrackets? cs).getD (cs.takeWhile (· ≠ ':'), cs.dropWhile (· ≠ ':'))
  (cut.1, match cut.2 with
    | ':' :: port => port
    | port => port)

def cutUser (authority : List Char) : List Char × List Char :=
  match Text.cutLast? '@' authority with
  | some p => p
  | none => ([], authority)

def cutAuthority : List Char → List Char × List Char
  | '/' :: '/' :: rest => (rest.takeWhile (· ≠ '/'), rest.dropWhile (· ≠ '/'))
  | path => ([], path)

def UrlParts.ofText (cs : List Char) : UrlParts :=
  let s := cutScheme cs
  let f := cutOptional '#' s.2
  let q := cutOptional '?' f.1
  let a := cutAuthority q.1
  let u := cutUser a.1
  let h := cutHost u.2
  ⟨s.1, u.1, h.1, h.2, a.2, q.2, f.2⟩

def looksIpv4 (host : List Char) : Bool :=
  let parts := Text.splitAt '.' host
  parts.length == 4 && parts.all fun p => !p.isEmpty && p.all Text.isAsciiDigit

def hostOf (host : List Char) : Except UrlError (List Char) :=
  if looksIpv4 host then
    if Uri.isIpv4 host then .ok host else .error (.ipv4 host)
  else if host.head? = some '[' ∧ host.getLast? = some ']' then
    let inner := (host.drop 1).dropLast
    if Uri.isIpv6 inner then .ok inner else .error (.ipv6 host)
  else if host.all isAscii then
    .ok (escapeUnless hostAdmitted.toList.contains (Text.asciiLower host))
  else match Name.toAscii (Text.lower host) with
    | .ok name => .ok name
    | .error _ => .error (.name host)

def defaultPort? (scheme : List Char) : Option Int :=
  [("ftp", 21), ("http", 80), ("https", 443), ("ws", 80), ("wss", 443)].findSome? fun p =>
    if p.1.toList = scheme then some (p.2 : Int) else none

def portOf (scheme port : List Char) : Except UrlError (Option Int) :=
  if port = [] then .ok none
  else match Number.Literal.settingInt port with
    | .error _ => .error (.port port)
    | .ok n => .ok (if defaultPort? scheme = some n then none else some n)

def dropDots (done : List (List Char)) (segment : List Char) : List (List Char) :=
  if segment = ['.'] then done
  else if segment = ['.', '.'] then if done = [[]] then done else done.drop 1
  else segment :: done

def normalPath (path : List Char) : List Char :=
  let segments := Text.splitAt '/' path
  if segments.any fun s => s = ['.'] ∨ s = ['.', '.'] then
    Text.joinWith ['/'] (segments.foldl dropDots []).reverse
  else path

def checkPath (hasScheme hasAuthority : Bool) (path : List Char) : Except UrlError Unit :=
  if hasAuthority then
    if path = [] ∨ path.head? = some '/' then .ok () else .error .unrooted
  else if hasScheme then .ok ()
  else if path.take 2 = ['/', '/'] then .error .doubleSlash
  else if path.head? = some ':' then .error .colon
  else .ok ()

def maxLength : Nat := 65536

def unprintable? (position : Nat) : List Char → Option (Char × Nat)
  | [] => none
  | c :: cs =>
      if c.toNat < 0x20 ∨ c.toNat = 0x7F then some (c, position) else unprintable? (position + 1) cs

def checkText (component : String) (cs : List Char) : Except UrlError Unit :=
  if maxLength < cs.length then .error .tooLong
  else match unprintable? 0 cs with
    | some (c, n) => .error (.unprintable component c n)
    | none => .ok ()

namespace Url

def make (p : UrlParts) : Except UrlError Url := do
  let host ← hostOf p.host
  let port ← portOf p.scheme p.port
  let userinfo := escapeUnless (admits userRefused) p.userinfo
  let hasScheme := !p.scheme.isEmpty
  let hasAuthority := !userinfo.isEmpty || !host.isEmpty || port.isSome
  checkPath hasScheme hasAuthority p.path
  let path := if hasScheme || hasAuthority then normalPath p.path else p.path
  return {
    scheme := Text.asciiLower p.scheme
    userinfo := userinfo
    host := host
    port := port
    path := escapeUnless (admits pathRefused) path
    query := p.query.map (escapeUnless (admits queryRefused))
    fragment := p.fragment.map (escapeUnless (admits fragmentRefused)) }

def parse (cs : List Char) : Except UrlError Url := do
  checkText "" cs
  make (UrlParts.ofText cs)

def bracketed (host : List Char) : List Char :=
  if host.contains ':' then '[' :: host ++ [']'] else host

def hostName (u : Url) : Except Name.NameError (List Char) :=
  if (Text.after? Name.Label.asciiMark u.host).isSome then Name.ofAscii u.host else .ok u.host

def parts (u : Url) : UrlParts where
  scheme := u.scheme
  userinfo := u.userinfo
  host := bracketed u.host
  port := (u.port.map Text.decimalInt).getD []
  path := u.path
  query := u.query
  fragment := u.fragment

def marked (mark : Char) : Option (List Char) → List Char
  | some part => mark :: part
  | none => []

def authority (u : Url) : List Char :=
  (if u.userinfo = [] then [] else u.userinfo ++ ['@']) ++ bracketed u.host ++
    marked ':' (u.port.map Text.decimalInt)

def text (u : Url) : List Char :=
  (if u.scheme = [] then [] else u.scheme ++ [':']) ++
    (if u.authority = [] then [] else '/' :: '/' :: u.authority) ++ u.path ++
    marked '?' u.query ++ marked '#' u.fragment

def isAbsolute (u : Url) : Bool := !u.scheme.isEmpty && !u.host.isEmpty

def withHost (u : Url) (host : List Char) : Except UrlError Url :=
  make { u.parts with host := bracketed host }

def withFragment (u : Url) (fragment : List Char) : Except UrlError Url := do
  checkText " fragment component" fragment
  make { u.parts with fragment := some fragment }

def requestPath (u : Url) : List Char := if u.path = [] then ['/'] else u.path

def asPath (u : Url) : Except UrlError Url :=
  make ⟨[], [], [], [], '/' :: u.requestPath.dropWhile (· == '/'), u.query, none⟩

def credentials? (u : Url) : Option (List Char) :=
  let cut := (Text.cutFirst? ':' u.userinfo).getD (u.userinfo, [])
  if cut.1 = [] ∧ cut.2 = [] then none
  else some (Uri.unescape cut.1 ++ ':' :: Uri.unescape cut.2)

def portOrDefault (u : Url) : Option Int :=
  match u.port with
  | some n => some n
  | none =>
      if u.scheme = "http".toList then some 80
      else if u.scheme = "https".toList then some 443 else none

def sameOrigin (a b : Url) : Bool :=
  a.scheme == b.scheme && a.host == b.host && a.portOrDefault == b.portOrDefault

def isUpgrade (a b : Url) : Bool :=
  a.host == b.host && a.scheme == "http".toList && a.portOrDefault == some 80 &&
    b.scheme == "https".toList && b.portOrDefault == some 443

end Url

end SqlCluster.Http
