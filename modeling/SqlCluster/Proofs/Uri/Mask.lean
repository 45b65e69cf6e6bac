import SqlCluster.Proofs.Uri.Place
/-!
Masking. Texts that differ in passwords only are shown alike.
-/
namespace SqlCluster.Uri

open Text

/-- A URL is shown without the password of its login. -/
theorem redact_dress (p : Place) {l m : Login} (h : l.SameName m) :
    redact (p.dress l) = redact (p.dress m) := by
  have hr (l : Login) : redact (p.dress l) = match checkBrackets p.authority with
      | .error _ => []
      | .ok _ =>
          if p.scheme = [] then []
          else Parts.text { p.parts with
            authority := (l.name ++ ':' :: mask) ++ '@' :: hostPart p.authority } := by
    rw [redact, p.split_dress l]
    cases checkBrackets p.authority with
    | error e => rfl
    | ok _ =>
        have hs := password_withUser p.parts l
        have ha : (p.parts.withUser l.text).authority ≠ [] := by simp [Parts.withUser]
        simp only [Except.map, ha, or_false, hs, username_withUser, Option.getD_some]
        simp only [Parts.withUser, hostPart_withUser]
        rfl
  rw [hr l, hr m, h]

/-- Two texts that are the same apart from passwords behind a name. -/
inductive Masked : List Char → List Char → Prop
  | nil : Masked [] []
  | cons (c : Char) {cs ds : List Char} (h : Masked cs ds) : Masked (c :: cs) (c :: ds)
  | login (l m : Login) (h : l.SameName m) {cs ds : List Char} (t : Masked cs ds) :
      Masked (':' :: '/' :: '/' :: (l.text ++ '@' :: cs)) (':' :: '/' :: '/' :: (m.text ++ '@' :: ds))

namespace Masked

variable {cs ds : List Char}

theorem refl (cs : List Char) : Masked cs cs := by
  induction cs with
  | nil => exact .nil
  | cons c cs ih => exact .cons c ih

theorem append {as bs : List Char} (h : Masked as bs) (t : Masked cs ds) :
    Masked (as ++ cs) (bs ++ ds) := by
  induction h with
  | nil => exact t
  | cons c _ ih => exact .cons c ih
  | login l m hn _ ih =>
      have h := Masked.login l m hn ih
      simpa [List.append_assoc] using h

theorem of_append (as : List Char) (t : Masked cs ds) : Masked (as ++ cs) (as ++ ds) :=
  (refl as).append t

theorem dress (p : Place) (hs : p.scheme ≠ []) {l m : Login} (h : l.SameName m) :
    Masked (p.dress l) (p.dress m) := by
  have ht := Masked.login l m h (refl (p.authority ++ p.rest))
  have hd := ht.of_append p.scheme
  simpa [Place.dress, Place.body, hs] using hd

theorem joinWith {seps₁ seps₂ : List Char} (h : Masked seps₁ seps₂) (pieces : List (List Char)) :
    Masked (Text.joinWith seps₁ pieces) (Text.joinWith seps₂ pieces) := by
  induction pieces with
  | nil => exact .nil
  | cons piece pieces ih =>
      cases pieces with
      | nil => exact refl piece
      | cons next pieces => exact ((refl piece).append h).append ih

theorem takeWhile_name (h : Masked cs ds) :
    cs.takeWhile isNameChar = ds.takeWhile isNameChar ∧
      Masked (cs.dropWhile isNameChar) (ds.dropWhile isNameChar) := by
  induction h with
  | nil => exact ⟨rfl, .nil⟩
  | cons c h ih =>
      by_cases hc : isNameChar c = true
      · simp only [List.takeWhile_cons, List.dropWhile_cons, hc, if_true]
        exact ⟨by rw [ih.1], ih.2⟩
      · simp only [List.takeWhile_cons, List.dropWhile_cons, hc]
        exact ⟨rfl, .cons c h⟩
  | login l m hn h _ =>
      have hc : isNameChar ':' = false := by decide
      simp only [List.takeWhile_cons, List.dropWhile_cons, hc]
      exact ⟨rfl, .login l m hn h⟩

theorem dropWhile_secret (h : Masked cs ds) :
    Masked (cs.dropWhile isSecretChar) (ds.dropWhile isSecretChar) ∨
      ∃ as bs, cs.dropWhile isSecretChar = '/' :: as ∧ ds.dropWhile isSecretChar = '/' :: bs := by
  induction h with
  | nil => exact .inl .nil
  | cons c h ih =>
      by_cases hc : isSecretChar c = true
      · simp only [List.dropWhile_cons, hc, if_true]
        exact ih
      · simp only [List.dropWhile_cons, hc]
        exact .inl (.cons c h)
  | login l m hn h _ =>
      have hc : isSecretChar ':' = true := by decide
      have hs : isSecretChar '/' = false := by decide
      simp only [List.dropWhile_cons, hc, hs]
      exact .inr ⟨_, _, rfl, rfl⟩

theorem secretAfterSlashes (h : Masked cs ds) :
    (secretAfterSlashes? cs = none ∧ secretAfterSlashes? ds = none) ∨
      ∃ name as bs, secretAfterSlashes? cs = some (name, as) ∧
        secretAfterSlashes? ds = some (name, bs) ∧ Masked as bs := by
  obtain ⟨hn, hd⟩ := h.takeWhile_name
  simp only [secretAfterSlashes?, drop_length_takeWhile]
  rw [← hn]
  generalize cs.takeWhile isNameChar = name
  generalize cs.dropWhile isNameChar = xs, ds.dropWhile isNameChar = ys at hd
  cases hd with
  | nil => exact .inl ⟨rfl, rfl⟩
  | login l m _ _ =>
      have hs : isSecretChar '/' = false := by decide
      simp [hs]
  | cons c h =>
      by_cases hc : c = ':'
      swap
      · simp [hc]
      subst hc
      rcases h.dropWhile_secret with h | ⟨as, bs, ha, hb⟩
      · simp only
        generalize List.dropWhile isSecretChar _ = us at h ⊢
        generalize List.dropWhile isSecretChar _ = vs at h ⊢
        cases h with
        | nil => exact .inl ⟨rfl, rfl⟩
        | login l m _ _ => exact .inl ⟨rfl, rfl⟩
        | cons c h =>
            by_cases hc : c = '@'
            · subst hc
              exact .inr ⟨name, _, _, rfl, rfl, h⟩
            · simp [hc]
      · simp [ha, hb]

theorem after (h : Masked cs ds) {opening : List Char} (ho : ':' ∉ opening) :
    (after? opening cs = none ∧ after? opening ds = none) ∨
      ∃ as bs, after? opening cs = some as ∧ after? opening ds = some bs ∧ Masked as bs := by
  induction opening generalizing cs ds with
  | nil => exact .inr ⟨cs, ds, by cases cs <;> rfl, by cases ds <;> rfl, h⟩
  | cons o opening ih =>
      rw [List.mem_cons, not_or] at ho
      cases h with
      | nil => exact .inl ⟨rfl, rfl⟩
      | login l m _ _ =>
          have hne : ¬o = ':' := fun h => ho.1 h.symm
          exact .inl ⟨by simp [after?, hne], by simp [after?, hne]⟩
      | cons c h =>
          by_cases hc : o = c
          · simp only [after?, hc, if_true]
            exact ih h ho.2
          · exact .inl ⟨by simp [after?, hc], by simp [after?, hc]⟩

end Masked

/-- A name, a colon and a password up to an at-sign, one behind the other. -/
theorem secretAfterSlashes?_eq_some {cs name more : List Char} :
    secretAfterSlashes? cs = some (name, more) ↔ ∃ secret, Within (isNameChar · = true) name ∧
      Within (isSecretChar · = true) secret ∧ cs = name ++ ':' :: (secret ++ '@' :: more) := by
  constructor
  · intro h
    simp only [secretAfterSlashes?, drop_length_takeWhile] at h
    split at h
    · next rest hn =>
        split at h
        · next more' hs =>
            cases h
            refine ⟨rest.takeWhile isSecretChar, fun c hc => List.mem_takeWhile_imp hc,
              fun c hc => List.mem_takeWhile_imp hc, ?_⟩
            rw [← hs, List.takeWhile_append_dropWhile, ← hn, List.takeWhile_append_dropWhile]
        · cases h
    · cases h
  · rintro ⟨secret, hname, hsecret, rfl⟩
    have hn := takeWhile_append_opens hname
      (.inr ⟨':', secret ++ '@' :: more, rfl, (by decide : isNameChar ':' = false)⟩)
    have hs := takeWhile_append_opens hsecret
      (.inr ⟨'@', more, rfl, (by decide : isSecretChar '@' = false)⟩)
    simp only [secretAfterSlashes?, drop_length_takeWhile]
    rw [hn.1, hn.2]
    simp only [hs.2]

theorem secretAfterSlashes_login (l : Login) (rest : List Char) :
    secretAfterSlashes? (l.text ++ '@' :: rest) = some (l.name, rest) := by
  have hname : Within (isNameChar · = true) l.name :=
    l.name_chars.mono fun _ h => (isLoginChar_spec h.1).2.2.2.2.2.2.1 h.2
  have hsecret : Within (isSecretChar · = true) l.secret :=
    l.secret_chars.mono fun _ h => (isLoginChar_spec h).2.2.2.2.2.1
  exact secretAfterSlashes?_eq_some.mpr ⟨l.secret, hname, hsecret, by simp [Login.text]⟩

theorem length_of_after {opening cs rest : List Char} (h : after? opening cs = some rest) :
    rest.length ≤ cs.length := by
  rw [eq_of_after h, List.length_append]
  exact Nat.le_add_left _ _

theorem length_of_secretAfterSlashes {cs name more : List Char}
    (h : secretAfterSlashes? cs = some (name, more)) : more.length ≤ cs.length := by
  obtain ⟨secret, -, -, rfl⟩ := secretAfterSlashes?_eq_some.mp h
  simp only [List.length_append, List.length_cons]
  omega

theorem redactFrom_of_ne (n : Nat) {c : Char} (cs : List Char) (hc : c ≠ ':') :
    redactFrom (n + 1) (c :: cs) = c :: redactFrom n cs := by
  have ha : after? "://".toList (c :: cs) = none := if_neg hc.symm
  rw [redactFrom, ha]

theorem redactFrom_colon (n : Nat) (cs : List Char) :
    redactFrom (n + 1) (':' :: cs) = match (after? ['/', '/'] cs).bind secretAfterSlashes? with
      | some (name, more) => "://".toList ++ name ++ ':' :: mask ++ '@' :: redactFrom n more
      | none => ':' :: redactFrom n cs := by
  have ha : after? "://".toList (':' :: cs) = after? ['/', '/'] cs := rfl
  rw [redactFrom, ha]
  cases after? ['/', '/'] cs with
  | none => rfl
  | some rest => rfl

theorem redactFrom_masked {n k : Nat} {cs ds : List Char} (hn : cs.length ≤ n) (hk : ds.length ≤ k)
    (h : Masked cs ds) : redactFrom n cs = redactFrom k ds := by
  induction n generalizing k cs ds with
  | zero =>
      have hc : cs = [] := List.length_eq_zero_iff.mp (Nat.le_zero.mp hn)
      subst hc
      cases h with
      | nil => cases k <;> rfl
  | succ n ih =>
      cases h with
      | nil => cases k <;> rfl
      | @login l m hlm cs ds h =>
          obtain ⟨k, rfl⟩ : ∃ j, k = j + 1 := Nat.exists_eq_succ_of_ne_zero fun h => by simp [h] at hk
          simp only [List.length_cons, List.length_append] at hn hk
          have hrest : redactFrom n cs = redactFrom k ds := ih (by omega) (by omega) h
          have ha (rest : List Char) : after? ['/', '/'] ('/' :: '/' :: rest) = some rest := by
            simp [after?]
          simp only [redactFrom_colon, ha, Option.bind_some, secretAfterSlashes_login, hrest]
          rw [hlm]
      | @cons c cs ds h =>
          obtain ⟨k, rfl⟩ : ∃ j, k = j + 1 := Nat.exists_eq_succ_of_ne_zero fun h => by simp [h] at hk
          simp only [List.length_cons, Nat.add_le_add_iff_right] at hn hk
          have hrest := ih hn hk h
          by_cases hc : c = ':'
          swap
          · rw [redactFrom_of_ne n cs hc, redactFrom_of_ne k ds hc, hrest]
          subst hc
          rw [redactFrom_colon, redactFrom_colon, hrest]
          rcases h.after (by decide : ':' ∉ ['/', '/']) with ⟨ha, hb⟩ | ⟨as, bs, ha, hb, hm⟩
          · rw [ha, hb]
            rfl
          · rw [ha, hb, Option.bind_some, Option.bind_some]
            rcases hm.secretAfterSlashes with ⟨hx, hy⟩ | ⟨name, xs, ys, hx, hy, hm⟩
            · rw [hx, hy]
            · have hxs := length_of_secretAfterSlashes hx
              have hys := length_of_secretAfterSlashes hy
              have has := length_of_after ha
              have hbs := length_of_after hb
              have hmore := ih (by omega : xs.length ≤ n) (by omega : ys.length ≤ k) hm
              rw [hx, hy]
              simp only [hmore]

theorem redactText_masked {cs ds : List Char} (h : Masked cs ds) :
    redactText cs = redactText ds :=
  redactFrom_masked (Nat.le_refl _) (Nat.le_refl _) h

end SqlCluster.Uri
