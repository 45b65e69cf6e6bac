import SqlCluster.Proofs.Json.Reading
import SqlCluster.Proofs.Json.Scalar
/-!
What is written for a tree is a text of it by the grammar, and so is read back, at whatever depth
lists and objects nest. Numbers that are not whole are left aside.
-/
namespace SqlCluster.Json

open Text

mutual

def Floatless : Json → Prop
  | .float _ => False
  | .list xs => FloatlessItems xs
  | .map ms => FloatlessMembers ms
  | _ => True

def FloatlessItems : List Json → Prop
  | [] => True
  | x :: xs => Floatless x ∧ FloatlessItems xs

def FloatlessMembers : List (String × Json) → Prop
  | [] => True
  | (_, x) :: ms => Floatless x ∧ FloatlessMembers ms

end

variable {rules : Rules}

theorem ItemTexts.spaced : ∀ {xs : List Json} {texts : List (List Char)},
    ItemTexts rules xs texts → ItemTexts rules xs (texts.map (' ' :: ·))
  | _, _, .nil => .nil
  | _, _, .cons hb h ha hs => .cons (within_cons.mpr ⟨rfl, hb⟩) h ha hs.spaced

theorem MemberTexts.spaced : ∀ {ms : List (String × Json)} {texts : List (List Char)},
    MemberTexts rules ms texts → MemberTexts rules ms (texts.map (' ' :: ·))
  | _, _, .nil => .nil
  | _, _, .cons hb hk hc hd h ha hs => .cons (within_cons.mpr ⟨rfl, hb⟩) hk hc hd h ha hs.spaced

theorem joinWith_comma (text : List Char) (texts : List (List Char)) :
    joinWith comma (text :: texts) = joinWith [','] (text :: texts.map (' ' :: ·)) := by
  induction texts generalizing text with
  | nil => rfl
  | cons next more ih =>
      have hspace (cs : List Char) (rest : List (List Char)) :
          joinWith [','] ((' ' :: cs) :: rest) = ' ' :: joinWith [','] (cs :: rest) := by
        cases rest <;> rfl
      rw [List.map_cons, joinWith, joinWith, hspace, ← ih next]
      simp only [comma, List.append_assoc, List.cons_append, List.nil_append]

theorem textOf_list {xs : List Json} {texts : List (List Char)} (h : ItemTexts rules xs texts) :
    TextOf rules (.list xs) ('[' :: joinWith comma texts ++ [']']) := by
  cases h with
  | nil => exact .empty within_nil
  | cons hb h ha hs =>
      rw [joinWith_comma]
      exact .list (.cons hb h ha hs.spaced)

theorem textOf_map {ms : List (String × Json)} {texts : List (List Char)}
    (h : MemberTexts rules ms texts) :
    TextOf rules (.map ms) ('\x7b' :: joinWith comma texts ++ ['\x7d']) := by
  cases h with
  | nil => exact .emptyMap within_nil
  | cons hb hk hc hd h ha hs =>
      rw [joinWith_comma]
      exact .map (.cons hb hk hc hd h ha hs.spaced)

theorem itemTexts_cons {x : Json} {xs : List Json} {cs : List Char} {texts : List (List Char)}
    (h : TextOf rules x cs) (hs : ItemTexts rules xs texts) :
    ItemTexts rules (x :: xs) (cs :: texts) := by
  have hitems := ItemTexts.cons within_nil h within_nil hs
  rwa [List.nil_append, List.append_nil] at hitems

theorem memberTexts_cons {k : String} {x : Json} {ms : List (String × Json)} {ks cs : List Char}
    {texts : List (List Char)} (hk : QuotedText k ks) (h : TextOf rules x cs)
    (hs : MemberTexts rules ms texts) :
    MemberTexts rules ((k, x) :: ms) ((ks ++ ':' :: ' ' :: cs) :: texts) := by
  have hspace : Blanks [' '] := within_cons.mpr ⟨rfl, within_nil⟩
  have hmembers := MemberTexts.cons within_nil hk within_nil hspace h within_nil hs
  rwa [List.nil_append, List.append_nil] at hmembers

mutual

theorem textOf_render : ∀ {j : Json}, Floatless j → TextOf .strict j (render j)
  | .null, _ => .null
  | .bool true, _ => .bool
  | .bool false, _ => .bool
  | .int n, _ => textOf_decimalInt n
  | .text s, _ => .text (quotedText_textChars s)
  | .list _, hj => textOf_list (itemTexts_render hj)
  | .map _, hj => textOf_map (memberTexts_render hj)

theorem itemTexts_render : ∀ {xs : List Json}, FloatlessItems xs →
    ItemTexts .strict xs (renderItems xs)
  | [], _ => .nil
  | _ :: _, hj => itemTexts_cons (textOf_render hj.1) (itemTexts_render hj.2)

theorem memberTexts_render : ∀ {ms : List (String × Json)}, FloatlessMembers ms →
    MemberTexts .strict ms (renderMembers ms)
  | [], _ => .nil
  | (k, _) :: _, hj =>
      memberTexts_cons (quotedText_textChars k) (textOf_render hj.1) (memberTexts_render hj.2)

end

mutual

theorem plain_render : ∀ {j : Json}, Floatless j → Within IsPlain (render j)
  | .null, _ => by decide
  | .bool true, _ => by decide
  | .bool false, _ => by decide
  | .int n, _ => by
      rw [render]
      exact plain_decimalInt n
  | .text s, _ => by
      rw [render]
      exact plain_textChars s
  | .list xs, hj => by
      rw [render, within_append, within_cons]
      exact ⟨⟨by decide, within_joinWith (by decide) (plain_renderItems hj)⟩, by decide⟩
  | .map ms, hj => by
      rw [render, within_append, within_cons]
      exact ⟨⟨by decide, within_joinWith (by decide) (plain_renderMembers hj)⟩, by decide⟩

theorem plain_renderItems : ∀ {xs : List Json}, FloatlessItems xs →
    ∀ s ∈ renderItems xs, Within IsPlain s
  | [], _ => by simp [renderItems]
  | x :: xs, hj => by
      rw [renderItems, List.forall_mem_cons]
      exact ⟨plain_render hj.1, plain_renderItems hj.2⟩

theorem plain_renderMembers : ∀ {ms : List (String × Json)}, FloatlessMembers ms →
    ∀ s ∈ renderMembers ms, Within IsPlain s
  | [], _ => by simp [renderMembers]
  | (k, x) :: ms, hj => by
      rw [renderMembers, List.forall_mem_cons, within_append, within_cons, within_cons]
      exact ⟨⟨plain_textChars k, by decide, by decide, plain_render hj.1⟩, plain_renderMembers hj.2⟩

end

theorem strict?_render {j : Json} (hj : Floatless j) :
    strict? (Utf8.encode (render j)) = some j := by
  have h := textOf_render hj
  have hread := document?_of_textOf within_nil h within_nil (h.nesting_le (Nat.le_refl _))
  rw [List.nil_append, List.append_nil] at hread
  rw [strict?, Utf8.decode?_encode, Option.bind_some, hread]

theorem withinDigits_of_le {m n : Nat} (h : withinDigits rules m = true) (hn : n ≤ m) :
    withinDigits rules n = true := by
  rw [withinDigits] at h ⊢
  cases hd : rules.maxDigits with
  | none => rfl
  | some d =>
      rw [hd] at h
      exact decide_eq_true (Nat.le_trans hn (of_decide_eq_true h))

theorem bodyOf_render {j : Json} (hj : Floatless j)
    (hl : withinDigits .server (render j).length = true) (hd : nesting j ≤ maxDepth) :
    BodyOf j (Utf8.encode (render j)) := by
  have h := (textOf_render hj).of_short (fun n hn => withinDigits_of_le hl hn) (Nat.le_refl _)
  have hb := BodyOf.mk within_nil h within_nil hd
  rwa [List.nil_append, List.append_nil] at hb

end SqlCluster.Json
