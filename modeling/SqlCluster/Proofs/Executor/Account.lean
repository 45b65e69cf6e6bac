import SqlCluster.Proofs.Http.Dressed
import SqlCluster.Executor.Walk
/-!
Accounts. The URL of an operation at a peer is the same for all accounts but for the login.
-/
namespace SqlCluster

open Text Uri

/-- A name and a password, neither of them empty. -/
structure Account where
  username : String
  password : String
  username_ne : username ≠ ""
  password_ne : password ≠ ""

namespace Account

theorem toList_ne_nil {s : String} (h : s ≠ "") : s.toList ≠ [] := by
  rw [ne_eq, String.toList_eq_nil_iff]
  exact h

def login (a : Account) : Login :=
  .ofTexts a.username.toList a.password.toList (toList_ne_nil a.username_ne)

theorem sameName {a b : Account} (h : a.username = b.username) : a.login.SameName b.login := by
  simp only [Login.SameName, login, Login.ofTexts, h]

end Account

def Config.withAccount (c : Config) (a : Account) : Config :=
  { c with username := .text a.username, password := .text a.password }

namespace Config

variable (c : Config) (a : Account)

theorem hasCredentials_withAccount : (c.withAccount a).hasCredentials = true := by
  simp [hasCredentials, withAccount, Value.isTruthy, a.username_ne, a.password_ne]

theorem userinfo_withAccount : (c.withAccount a).userinfo? = some a.login.text := rfl

theorem userPart_withAccount : (c.withAccount a).userPart? = some (a.login.text ++ ['@']) := by
  rw [userPart?, if_pos (c.hasCredentials_withAccount a), userinfo_withAccount]
  rfl

end Config

def isPeerChar (c : Char) : Bool :=
  isAsciiLetter c || isAsciiDigit c || c == '-' || c == '_' || c == '.' || c == ':'

/-- A peer whose host is a name or an address: only an address has colons. -/
structure Peer.IsNamed (p : Peer) : Prop where
  chars : p.host.toList.all isPeerChar = true
  address : ':' ∈ p.host.toList → isIpv6 p.host.toList = true
  port : Peer.isValidPort p.port = true

theorem isPeerChar_spec {c : Char} (h : isPeerChar c = true) :
    IsHostChar c ∧ c ≠ '@' ∧ c ≠ '[' ∧ c ≠ ']' ∧ c ≠ '%' := by
  have hc : c.toNat < 128 := by
    simp only [isPeerChar, Bool.or_eq_true, beq_iff_eq] at h
    rcases h with ((((h | h) | rfl) | rfl) | rfl) | rfl
    · exact lt_of_isAsciiLetter h
    · exact lt_of_isAsciiDigit h
    all_goals decide
  exact of_ascii (P := fun c => isPeerChar c = true →
    IsHostChar c ∧ c ≠ '@' ∧ c ≠ '[' ∧ c ≠ ']' ∧ c ≠ '%') (by decide +kernel) hc h

theorem Peer.IsNamed.host_chars {p : Peer} (h : p.IsNamed) :
    Within (isPeerChar · = true) p.host.toList := fun c hc => List.all_eq_true.mp h.chars c hc

theorem within_decimal (n : Nat) : Within IsHostChar (decimal n) :=
  Http.within_decimalInt (.ofNat n)

theorem Peer.IsNamed.address_chars {p : Peer} (h : p.IsNamed) :
    Within IsHostChar p.addressChars := by
  have hh : Within IsHostChar p.host.toList :=
    h.host_chars.mono fun _ hc => (isPeerChar_spec hc).1
  simp only [Peer.addressChars, within_append, within_cons]
  refine ⟨?_, by decide, within_decimal p.port⟩
  split
  · rw [within_append, within_cons]
    exact ⟨⟨by decide, hh⟩, by decide⟩
  · exact hh

theorem plain_flags (c : Config) (operation : Operation) (queue : Bool) :
    Within IsPlain (c.flags operation queue) ∧ Opens (c.flags operation queue) := by
  rw [Config.flags]
  split
  · have hlevel : Within IsPlain c.level.name.toList := by
      cases c.level <;> decide
    refine ⟨?_, .inr ⟨'?', _, rfl, by decide⟩⟩
    simp only [within_append]
    refine ⟨⟨⟨by decide, hlevel⟩, ?_⟩, ?_⟩
    · split <;> decide
    · split <;> decide
  · exact ⟨within_nil, .inl rfl⟩

def Config.place (c : Config) (operation : Operation) (queue : Bool) {peer : Peer}
    (h : peer.IsNamed) : Place where
  scheme := c.scheme.name.toList
  authority := peer.addressChars
  rest := operation.path.toList ++ c.flags operation queue
  isScheme := by cases c.scheme <;> exact .inr ⟨'h', _, rfl, by decide, by decide, by decide⟩
  authority_chars := h.address_chars
  rest_chars := by
    have hp : Within IsPlain operation.path.toList := by cases operation <;> decide
    exact within_append.mpr ⟨hp, (plain_flags c operation queue).1⟩
  opens := by cases operation <;> exact .inr ⟨'/', _, rfl, by decide⟩

theorem assembleUrl_withAccount (c : Config) (a : Account) (operation : Operation) (queue : Bool)
    {peer : Peer} (h : peer.IsNamed) :
    (c.withAccount a).assembleUrl? operation peer queue =
      some ((c.place operation queue h).dress a.login) := by
  have hs : c.scheme.name.toList ≠ [] := by cases c.scheme <;> decide
  have hd : (c.place operation queue h).dress a.login =
      c.scheme.name.toList ++ ':' :: (c.place operation queue h).body a.login := if_neg hs
  have hmark : "://".toList = [':', '/', '/'] := rfl
  rw [Config.assembleUrl?, Config.userPart_withAccount, Option.map_some, hd, hmark]
  simp only [Place.body, Config.place, List.append_assoc, List.cons_append, List.nil_append]
  rfl

end SqlCluster
