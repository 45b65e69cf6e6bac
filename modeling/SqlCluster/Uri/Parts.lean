import SqlCluster.Uri.Address
import SqlCluster.Number.Setting
import SqlCluster.Text.Blank
import SqlCluster.Text.Case
import SqlCluster.Text.Quoted
/-!
A reference taken apart into scheme, authority, path, query and fragment, each of them empty where
it is missing. Leading control characters and spaces and all tabs and line ends are dropped.
-/
namespace SqlCluster.Uri

structure Parts where
  scheme : List Char
  authority : List Char
  path : List Char
  query : List Char
  fragment : List Char
  deriving DecidableEq, Repr

inductive SplitError where
  | brackets
  | futureAddress
  | notAddress (host : List Char)
  | bracketedIpv4
  | compatibility (authority : List Char)
  | portText (port : List Char)
  | portRange
  | portDigits (n : Nat)
  deriving DecidableEq, Repr

def SplitError.message : SplitError → String
  | .brackets => "Invalid IPv6 URL"
  | .futureAddress => "IPvFuture address is invalid"
  | .notAddress host =>
      String.ofList (Text.Quoted.quoteChars host) ++ " does not appear to be an IPv4 or IPv6 address"
  | .bracketedIpv4 => "An IPv4 address cannot be in brackets"
  | .compatibility authority =>
      "netloc '" ++ String.ofList authority ++
        "' contains invalid characters under NFKC normalization"
  | .portText port =>
      "Port could not be cast to integer value as " ++ String.ofList (Text.Quoted.quoteChars port)
  | .portRange => "Port out of range 0-65535"
  | .portDigits n => Number.Literal.tooManyDigitsText n

def isControlOrSpace (c : Char) : Bool := c.toNat ≤ 0x20

def isLineBreak (c : Char) : Bool := c == '\t' || c == '\r' || c == '\n'

def cleaned (cs : List Char) : List Char :=
  (cs.dropWhile isControlOrSpace).filter fun c => !isLineBreak c

def isSchemeChar (c : Char) : Bool :=
  Text.isAsciiLetter c || Text.isAsciiDigit c || c == '+' || c == '-' || c == '.'

def cutScheme (cs : List Char) : List Char × List Char :=
  match Text.cutFirst? ':' cs with
  | some (c :: before, rest) =>
      if Text.isAsciiLetter c && (c :: before).all isSchemeChar then
        (Text.asciiLower (c :: before), rest)
      else ([], cs)
  | _ => ([], cs)

def endsAuthority (c : Char) : Bool := c == '/' || c == '?' || c == '#'

def cutAuthority (cs : List Char) : List Char × List Char :=
  match cs with
  | '/' :: '/' :: rest =>
      (rest.takeWhile fun c => !endsAuthority c, rest.dropWhile fun c => !endsAuthority c)
  | cs => ([], cs)

def cutAt (c : Char) (cs : List Char) : List Char × List Char := (Text.cutFirst? c cs).getD (cs, [])

def hostPart (authority : List Char) : List Char :=
  match Text.cutLast? '@' authority with
  | some (_, host) => host
  | none => authority

def checkAddress (host : List Char) : Except SplitError Unit :=
  if host.head? = some 'v' then
    if isFutureAddress host then .ok () else .error .futureAddress
  else if isIpv4 host then .error .bracketedIpv4
  else if isIpv6 host then .ok ()
  else .error (.notAddress host)

/-- Brackets come in pairs, hold an address, and only a port stands outside them. -/
def checkBrackets (authority : List Char) : Except SplitError Unit :=
  match authority.contains '[', authority.contains ']' with
  | false, false => .ok ()
  | true, true =>
      let host := hostPart authority
      match Text.cutFirst? '[' host with
      | some (before, rest) =>
          let inner := cutAt ']' rest
          if !before.isEmpty then .error .brackets
          else if inner.2 ≠ [] ∧ inner.2.head? ≠ some ':' then .error .brackets
          else checkAddress inner.1
      | none => checkAddress (cutAt ':' host).1
  | _, _ => .error .brackets

/-- The characters whose compatibility forms hold one of those that end a part. -/
def disguised : List Nat := [
  0x2047, 0x2048, 0x2049, 0x2100, 0x2101, 0x2105, 0x2106, 0x2A74, 0xFE13, 0xFE16, 0xFE55, 0xFE56,
  0xFE5F, 0xFE6B, 0xFF03, 0xFF0F, 0xFF1A, 0xFF1F, 0xFF20]

def checkDisguised (authority : List Char) : Except SplitError Unit :=
  if authority.any fun c => disguised.contains c.toNat then .error (.compatibility authority)
  else .ok ()

def split (text : List Char) : Except SplitError Parts := do
  let s := cutScheme (cleaned text)
  let a := cutAuthority s.2
  checkBrackets a.1
  let f := cutAt '#' a.2
  let q := cutAt '?' f.1
  checkDisguised a.1
  return ⟨s.1, a.1, q.1, q.2, f.2⟩

namespace Parts

def userinfo (p : Parts) : Option (List Char) := (Text.cutLast? '@' p.authority).map (·.1)

def username (p : Parts) : Option (List Char) := p.userinfo.map fun u => (cutAt ':' u).1

def password (p : Parts) : Option (List Char) :=
  p.userinfo.bind fun u => (Text.cutFirst? ':' u).map (·.2)

def hostAndPort (p : Parts) : List Char × List Char :=
  let host := hostPart p.authority
  match Text.cutFirst? '[' host with
  | some (_, rest) =>
      let inner := cutAt ']' rest
      (inner.1, (cutAt ':' inner.2).2)
  | none => cutAt ':' host

/-- The host in lower case, apart from an address's zone. -/
def hostname (p : Parts) : List Char :=
  match Text.cutFirst? '%' p.hostAndPort.1 with
  | some (host, zone) => Text.lower host ++ '%' :: zone
  | none => Text.lower p.hostAndPort.1

def port? (p : Parts) : Except SplitError (Option Nat) :=
  match p.hostAndPort.2 with
  | [] => .ok none
  | cs =>
      if !cs.all Text.isAsciiDigit then .error (.portText cs)
      else if Number.Literal.maxIntDigits < cs.length then .error (.portDigits cs.length)
      else
        let n := Text.ofDigits (cs.filterMap Text.asciiValue?)
        if n ≤ 65535 then .ok (some n) else .error .portRange

end Parts

end SqlCluster.Uri
