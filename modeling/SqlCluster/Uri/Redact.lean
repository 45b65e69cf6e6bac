import SqlCluster.Uri.Join
/-!
Passwords masked before a text is shown. In a reference the password is found by taking it apart; in
free text everything between a colon and an at-sign behind two slashes counts as one.
-/
namespace SqlCluster.Uri

def mask : List Char := "xxxxx".toList

/-- The reference with its password masked, or nothing where it names no host. -/
def redact (text : List Char) : List Char :=
  match split text with
  | .error _ => []
  | .ok p =>
      if p.scheme = [] ∨ p.authority = [] then []
      else match p.password with
        | none => text
        | some _ =>
            let user := (p.username.getD []) ++ ':' :: mask
            Parts.text { p with authority := user ++ '@' :: hostPart p.authority }

def isNameChar (c : Char) : Bool := c != ':' && c != '/' && c != '@' && !Text.isBlank c

def isSecretChar (c : Char) : Bool := c != '@' && c != '/' && !Text.isBlank c

/-- A user's name, a colon and a password behind two slashes, cut at the at-sign. -/
def secretAfterSlashes? (cs : List Char) : Option (List Char × List Char) :=
  let name := cs.takeWhile isNameChar
  match cs.drop name.length with
  | ':' :: rest =>
      match rest.dropWhile isSecretChar with
      | '@' :: more => some (name, more)
      | _ => none
  | _ => none

/-- A text of at most `fuel` characters with all passwords masked. -/
def redactFrom : Nat → List Char → List Char
  | 0, cs => cs
  | _ + 1, [] => []
  | fuel + 1, c :: cs =>
      match Text.after? "://".toList (c :: cs) with
      | none => c :: redactFrom fuel cs
      | some rest =>
          match secretAfterSlashes? rest with
          | some (name, more) =>
              "://".toList ++ name ++ ':' :: mask ++ '@' :: redactFrom fuel more
          | none => c :: redactFrom fuel cs

def redactText (cs : List Char) : List Char := redactFrom cs.length cs

end SqlCluster.Uri
