import SqlCluster.Uri.Parts
/-!
Putting references together: the text of parts, and a reference resolved against a base.
-/
namespace SqlCluster.Uri

def schemes (names : List String) : List (List Char) := [] :: names.map String.toList

def relativeSchemes : List (List Char) := schemes [
  "ftp", "http", "gopher", "nntp", "imap", "wais", "file", "https", "shttp", "mms", "prospero",
  "rtsp", "rtsps", "rtspu", "sftp", "svn", "svn+ssh", "ws", "wss"]

def authoritySchemes : List (List Char) := schemes [
  "ftp", "http", "gopher", "nntp", "telnet", "imap", "wais", "file", "mms", "https", "shttp",
  "snews", "prospero", "rtsp", "rtsps", "rtspu", "rsync", "svn", "svn+ssh", "sftp", "nfs", "git",
  "git+ssh", "ws", "wss"]

def parameterSchemes : List (List Char) := schemes [
  "ftp", "hdl", "prospero", "http", "imap", "https", "shttp", "rtsp", "rtsps", "rtspu", "sip",
  "sips", "mms", "sftp", "tel"]

def marked (mark : Char) (part : List Char) : List Char :=
  match part with
  | [] => []
  | part => mark :: part

namespace Parts

def hasAuthority (p : Parts) : Bool :=
  !p.authority.isEmpty || (!p.scheme.isEmpty && authoritySchemes.contains p.scheme) ||
    p.path.take 2 == ['/', '/']

def rooted (path : List Char) : List Char :=
  match path with
  | [] => []
  | '/' :: rest => '/' :: rest
  | path => '/' :: path

def text (p : Parts) : List Char :=
  let body :=
    if p.hasAuthority then
      '/' :: '/' :: p.authority ++ rooted p.path
    else p.path
  (if p.scheme = [] then body else p.scheme ++ ':' :: body) ++ marked '?' p.query ++
    marked '#' p.fragment

def cutParameters (scheme path : List Char) : List Char × List Char :=
  if parameterSchemes.contains scheme && path.contains ';' then
    match Text.cutLast? '/' path with
    | some (before, last) =>
        match Text.cutFirst? ';' last with
        | some (segment, parameters) => (before ++ '/' :: segment, parameters)
        | none => (path, [])
    | none => cutAt ';' path
  else (path, [])

end Parts

/-- Segments with one of them taken in: two points take back the one before, one point stands for
nothing. -/
def takeSegment (done : List (List Char)) (segment : List Char) : List (List Char) :=
  if segment = ['.', '.'] then done.drop 1
  else if segment = ['.'] then done
  else segment :: done

def resolveDots (segments : List (List Char)) : List (List Char) :=
  let done := (segments.foldl takeSegment []).reverse
  match segments.getLast? with
  | some last => if last = ['.'] ∨ last = ['.', '.'] then done ++ [[]] else done
  | none => done

def dropEmptyMiddle : List (List Char) → List (List Char)
  | [] => []
  | first :: rest =>
      first :: rest.dropLast.filter (fun s => !s.isEmpty) ++ rest.getLast?.toList

def mergeSegments (base path : List Char) : List (List Char) :=
  let own := Text.splitAt '/' path
  if path.head? = some '/' then own
  else
    let above := Text.splitAt '/' base
    let above := if above.getLast? = some [] then above else above.dropLast
    dropEmptyMiddle (above ++ own)

def mergePath (base path : List Char) : List Char :=
  match Text.joinWith ['/'] (resolveDots (mergeSegments base path)) with
  | [] => ['/']
  | cs => cs

def withParameters (path parameters : List Char) : List Char := path ++ marked ';' parameters

/-- The parts of a target as seen from those of a base, unless it stands for itself. -/
def Parts.resolve? (b t : Parts) : Option Parts :=
  let scheme := if t.scheme = [] then b.scheme else t.scheme
  if scheme ≠ b.scheme ∨ !relativeSchemes.contains scheme then none
  else
    let tp := Parts.cutParameters scheme t.path
    if authoritySchemes.contains scheme && !t.authority.isEmpty then
      some ⟨scheme, t.authority, withParameters tp.1 tp.2, t.query, t.fragment⟩
    else
      let authority := if authoritySchemes.contains scheme then b.authority else t.authority
      let bp := Parts.cutParameters b.scheme b.path
      if tp.1 = [] ∧ tp.2 = [] then
        let query := if t.query = [] then b.query else t.query
        some ⟨scheme, authority, withParameters bp.1 bp.2, query, t.fragment⟩
      else
        some ⟨scheme, authority, withParameters (mergePath bp.1 tp.1) tp.2, t.query, t.fragment⟩

def join (base target : List Char) : Except SplitError (List Char) :=
  if base = [] then .ok target
  else if target = [] then .ok base
  else do
    let b ← split base
    let t ← split target
    return match b.resolve? t with
      | some p => p.text
      | none => target

end SqlCluster.Uri
