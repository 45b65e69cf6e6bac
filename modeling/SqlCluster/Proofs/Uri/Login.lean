import SqlCluster.Proofs.Text.Within
import SqlCluster.Uri.Redact
import SqlCluster.Http.Url
/-!
Logins: a name and a password as they stand in a URL in front of an at-sign, escaped.
-/
namespace SqlCluster.Uri

open Text

/-- The characters of a login, in which everything that has a meaning in a URL is escaped. -/
def isLoginChar (c : Char) : Bool := isUnreserved c || "!$%&'()*+,:".toList.contains c

/-- A name, which is not empty and holds no colon, and a password. -/
structure Login where
  name : List Char
  secret : List Char
  name_ne : name ≠ []
  name_chars : Within (fun c => isLoginChar c = true ∧ c ≠ ':') name
  secret_chars : Within (isLoginChar · = true) secret

def Login.text (l : Login) : List Char := l.name ++ ':' :: l.secret

def Login.SameName (l m : Login) : Prop := l.name = m.name

theorem lt_of_isUnreserved {c : Char} (h : isUnreserved c = true) : c.toNat < 128 := by
  simp only [isUnreserved, Bool.or_eq_true, beq_iff_eq] at h
  rcases h with ((((h | h) | rfl) | rfl) | rfl) | rfl
  · exact lt_of_isAsciiLetter h
  · exact lt_of_isAsciiDigit h
  all_goals decide

theorem lt_of_isLoginChar {c : Char} (h : isLoginChar c = true) : c.toNat < 128 := by
  rw [isLoginChar, Bool.or_eq_true] at h
  rcases h with h | h
  · exact lt_of_isUnreserved h
  · exact lt_of_contains (by decide) h

theorem isLoginChar_spec {c : Char} (h : isLoginChar c = true) :
    IsPlain c ∧ endsAuthority c = false ∧ c ≠ '@' ∧ c ≠ '[' ∧ c ≠ ']' ∧ isSecretChar c = true ∧
      (c ≠ ':' → isNameChar c = true) ∧ Http.admits Http.userRefused c = true :=
  of_ascii (P := fun c => isLoginChar c = true → IsPlain c ∧ endsAuthority c = false ∧ c ≠ '@' ∧
      c ≠ '[' ∧ c ≠ ']' ∧ isSecretChar c = true ∧ (c ≠ ':' → isNameChar c = true) ∧
      Http.admits Http.userRefused c = true)
    (by decide +kernel) (lt_of_isLoginChar h) h

theorem isLoginChar_of_admits {c : Char} (h : Http.admits Http.userRefused c = true) :
    isLoginChar c = true := by
  have hc : c.toNat < 128 := by
    simp only [Http.admits, Bool.and_eq_true, decide_eq_true_eq] at h
    omega
  exact of_ascii (P := fun c => Http.admits Http.userRefused c = true → isLoginChar c = true)
    (by decide +kernel) hc h

theorem within_escapeByte {p : Char → Prop} (hp : p '%') (hd : Within p upperDigits) (b : UInt8) :
    Within p (escapeByte b) := by
  rw [escapeByte, within_cons]
  exact ⟨hp, fun c hc => hd c (mem_hexFixed hc)⟩

theorem within_escapeUnless {p : Char → Prop} {keep : Char → Bool} (hp : p '%')
    (hd : Within p upperDigits) (hk : ∀ c, (isUnreserved c || keep c) = true → p c)
    (cs : List Char) : Within p (Http.escapeUnless keep cs) := by
  intro c hc
  obtain ⟨d, -, hd'⟩ := List.mem_flatMap.mp hc
  split at hd'
  · next hu =>
      rw [List.mem_singleton.mp hd']
      exact hk d hu
  · obtain ⟨b, -, hb⟩ := List.mem_flatMap.mp hd'
    exact within_escapeByte hp hd b c hb

theorem escapeUnless_of_within {keep : Char → Bool} {cs : List Char}
    (h : Within (fun c => (isUnreserved c || keep c) = true) cs) : Http.escapeUnless keep cs = cs := by
  induction cs with
  | nil => rfl
  | cons c cs ih =>
      rw [within_cons] at h
      have ih := ih h.2
      rw [Http.escapeUnless, List.flatMap_cons, if_pos h.1]
      rw [Http.escapeUnless] at ih
      rw [ih, List.singleton_append]

theorem escapeUnless_append (keep : Char → Bool) (cs ds : List Char) :
    Http.escapeUnless keep (cs ++ ds) = Http.escapeUnless keep cs ++ Http.escapeUnless keep ds := by
  simp [Http.escapeUnless]

theorem escape_eq_escapeUnless (cs : List Char) :
    escape cs = Http.escapeUnless (fun _ => false) cs := by
  rw [escape, Http.escapeUnless]
  congr 1
  funext c
  rw [escapeChar, Bool.or_false]

theorem within_escape (cs : List Char) :
    Within (fun c => isLoginChar c = true ∧ c ≠ ':') (escape cs) := by
  rw [escape_eq_escapeUnless]
  refine within_escapeUnless (by decide) (by decide) ?_ cs
  intro c hc
  rw [Bool.or_false] at hc
  refine ⟨by simp [isLoginChar, hc], ?_⟩
  rintro rfl
  exact absurd hc (by decide)

theorem escapeChar_ne_nil (c : Char) : escapeChar c ≠ [] := by
  rw [escapeChar]
  split
  · simp
  · have he : Utf8.encodeChar c ≠ [] := by
      simp only [Utf8.encodeChar]
      split
      · simp
      · split
        · simp
        · split <;> simp
    obtain ⟨b, bs, hb⟩ := List.exists_cons_of_ne_nil he
    simp [hb, escapeByte]

theorem length_le_escape (cs : List Char) : cs.length ≤ (escape cs).length := by
  induction cs with
  | nil => exact Nat.le_refl 0
  | cons c cs ih =>
      have hc : 0 < (escapeChar c).length := List.length_pos_iff.mpr (escapeChar_ne_nil c)
      rw [escape] at ih
      rw [escape, List.flatMap_cons, List.length_append, List.length_cons]
      omega

theorem escape_ne_nil {cs : List Char} (h : cs ≠ []) : escape cs ≠ [] :=
  List.length_pos_iff.mp (Nat.lt_of_lt_of_le (List.length_pos_iff.mpr h) (length_le_escape cs))

namespace Login

theorem text_chars (l : Login) : Within (isLoginChar · = true) l.text := by
  simp only [text, within_append, within_cons]
  exact ⟨l.name_chars.mono fun _ h => h.1, by decide, l.secret_chars⟩

def extend (l : Login) (tail : List Char) (h : Within (isLoginChar · = true) tail) : Login :=
  ⟨l.name, l.secret ++ tail, l.name_ne, l.name_chars, within_append.mpr ⟨l.secret_chars, h⟩⟩

@[simp] theorem text_extend (l : Login) (tail : List Char)
    (h : Within (isLoginChar · = true) tail) : (l.extend tail h).text = l.text ++ tail := by
  simp [text, extend]

theorem text_ne_nil (l : Login) : l.text ≠ [] := by simp [text]

def ofTexts (username password : List Char) (h : username ≠ []) : Login :=
  ⟨escape username, escape password, escape_ne_nil h, within_escape username,
    (within_escape password).mono fun _ h => h.1⟩

theorem cutFirst_text (l : Login) (rest : List Char) :
    cutFirst? ':' (l.text ++ rest) = some (l.name, l.secret ++ rest) := by
  have hn : ':' ∉ l.name := l.name_chars.not_mem (by simp)
  rw [text, List.append_assoc, List.cons_append, cutFirst?_append hn]

end Login

end SqlCluster.Uri
