import SqlCluster.Json.Reader
import SqlCluster.Number.Setting
import SqlCluster.Proofs.Json.Members
import SqlCluster.Proofs.Number.Row
/-!
Numbers that can be shown. A whole number is only written out up to some number of digits, and what
is read of a server's answer has none with more of them.
-/
namespace SqlCluster.Json

open Number Number.Literal Text

inductive Legible : Json → Prop
  | null : Legible .null
  | bool (b : Bool) : Legible (.bool b)
  | int {n : Int} (h : (decimal n.natAbs).length ≤ maxIntDigits) : Legible (.int n)
  | float (d : Double) : Legible (.float d)
  | text (s : String) : Legible (.text s)
  | list {xs : List Json} (h : ∀ x ∈ xs, Legible x) : Legible (.list xs)
  | map {ms : List (String × Json)} (h : ∀ m ∈ ms, Legible m.2) : Legible (.map ms)

theorem Legible.forall_of_listOf? {α : Type} {P : α → Prop} {read : Json → Option α} {j : Json}
    {values : List α} (hj : j.Legible) (h : listOf? read j = some values)
    (hr : ∀ x a, x.Legible → read x = some a → P a) : ∀ a ∈ values, P a := by
  obtain ⟨xs, rfl, hs⟩ := forall₂_of_listOf? h
  cases hj with
  | list hxs =>
      intro a ha
      obtain ⟨i, hi, rfl⟩ := List.mem_iff_getElem.mp ha
      have hx := hs.get hi (hs.length_eq ▸ hi)
      exact hr _ _ (hxs _ (List.get_mem _ _)) hx

theorem lt_of_digitRow (cs : List Char) : ∀ d ∈ (digitRow cs).1, d < 10 := by
  induction cs with
  | nil => exact nofun
  | cons c cs ih =>
      rw [digitRow]
      cases hc : asciiValue? c with
      | none => exact nofun
      | some v =>
          intro d hd
          rcases List.mem_cons.mp hd with rfl | hd
          · rw [asciiValue?] at hc
            split at hc
            · next hdigit =>
                cases hc
                exact of_asciiDigit (P := fun c => c.toNat - 48 < 10) (by decide) hdigit
            · cases hc
          · exact ih d hd

theorem ofDigits_lt {ds : List Nat} (h : ∀ d ∈ ds, d < 10) : ofDigits ds < 10 ^ ds.length := by
  have hfrom (n : Nat) : ds.foldl (fun n d => n * 10 + d) n < (n + 1) * 10 ^ ds.length := by
    induction ds generalizing n with
    | nil => simp
    | cons d ds ih =>
        have hd : d < 10 := h d List.mem_cons_self
        calc ds.foldl (fun n d => n * 10 + d) (n * 10 + d)
            < (n * 10 + d + 1) * 10 ^ ds.length :=
              ih (fun x hx => h x (List.mem_cons_of_mem d hx)) _
          _ ≤ ((n + 1) * 10) * 10 ^ ds.length := Nat.mul_le_mul_right _ (by omega)
          _ = (n + 1) * 10 ^ (ds.length + 1) := by rw [Nat.pow_succ', Nat.mul_assoc]
  simpa [ofDigits] using hfrom 0

theorem whole?_digits {cs rest : List Char} {ds : List Nat} (h : whole? cs = some (ds, rest)) :
    ds ≠ [] ∧ ∀ d ∈ ds, d < 10 := by
  have hlt := lt_of_digitRow cs
  rw [whole?] at h
  split at h
  · cases h
  · next hrow =>
      rw [hrow] at hlt
      split at h
      · cases h
      · cases h
        exact ⟨List.cons_ne_nil _ _, hlt⟩

theorem natAbs_withSign (negative : Bool) (n : Nat) :
    (Double.withSign negative n).natAbs = n := by
  cases negative <;> simp [Double.withSign]

section Parts

variable {α : Type} {part : List Char → Option (α × List Char)} {P : α → Prop} {close : Char}
  {r : List α × List Char}

theorem forall_of_sequence? (hp : ∀ cs p, part cs = some p → P p.1) {fuel : Nat} {cs : List Char}
    (h : sequence? part close fuel cs = some r) : ∀ a ∈ r.1, P a := by
  induction fuel generalizing cs r with
  | zero => cases h
  | succ fuel ih =>
      rw [sequence?] at h
      obtain ⟨p, hpart, h⟩ := Option.bind_eq_some_iff.mp h
      have hhead := hp _ p hpart
      split at h
      · obtain ⟨more, hmore, h⟩ := Option.bind_eq_some_iff.mp h
        cases h
        exact List.forall_mem_cons.mpr ⟨hhead, ih hmore⟩
      · split at h
        · cases h
          exact List.forall_mem_singleton.mpr hhead
        · cases h
      · cases h

theorem forall_of_enclosed? (hp : ∀ cs p, part cs = some p → P p.1) {cs : List Char}
    (h : enclosed? part close cs = some r) : ∀ a ∈ r.1, P a := by
  rw [enclosed?] at h
  split at h
  · cases h
    exact nofun
  · exact forall_of_sequence? hp h

end Parts

variable {cs : List Char} {r : Json × List Char}

theorem legible_of_unsignedNumber? {negative : Bool}
    (h : unsignedNumber? .server negative cs = some r) : r.1.Legible := by
  rw [unsignedNumber?] at h
  obtain ⟨⟨ds, rest⟩, hw, h⟩ := Option.bind_eq_some_iff.mp h
  obtain ⟨hne, hds⟩ := whole?_digits hw
  split at h
  · next hlen =>
      obtain ⟨f, -, h⟩ := Option.bind_eq_some_iff.mp h
      obtain ⟨e, -, h⟩ := Option.bind_eq_some_iff.mp h
      split at h
      · cases h
        refine .int ?_
        have hshort : ds.length ≤ maxIntDigits := of_decide_eq_true hlen
        rw [natAbs_withSign]
        exact Nat.le_trans ((Nat.length_toDigits_le_iff (by decide)
          (List.length_pos_iff.mpr hne)).mpr (ofDigits_lt hds)) hshort
      · cases h
        exact .float _
  · cases h

theorem legible_of_word? (h : word? .server cs = some r) : r.1.Legible := by
  obtain ⟨w, hw, h⟩ := List.exists_of_findSome?_eq_some h
  obtain ⟨rest, -, rfl⟩ := Option.map_eq_some_iff.mp h
  have hall : ∀ w ∈ words .server, w.2.Legible := by
    simp only [words, Rules.server, if_true, List.forall_mem_append, List.forall_mem_cons,
      List.not_mem_nil, false_imp_iff, implies_true, and_true]
    exact ⟨⟨.null, .bool _, .bool _⟩, .float _, .float _, .float _⟩
  exact hall w hw

theorem legible_of_leaf? (h : leaf? .server cs = some r) : r.1.Legible := by
  rw [leaf?.eq_def] at h
  split at h
  · obtain ⟨s, -, rfl⟩ := Option.map_eq_some_iff.mp h
    exact .text _
  · split at h
    · exact legible_of_unsignedNumber? h
    · split at h
      · next hword =>
          cases h
          exact legible_of_word? hword
      · split at h
        · exact legible_of_unsignedNumber? h
        · cases h
  · cases h

theorem legible_of_member {part : List Char → Option (Json × List Char)}
    (hp : ∀ cs r, part cs = some r → r.1.Legible) {m : (String × Json) × List Char}
    (h : member part cs = some m) : m.1.2.Legible := by
  rw [member.eq_def] at h
  split at h
  · obtain ⟨k, -, h⟩ := Option.bind_eq_some_iff.mp h
    split at h
    · obtain ⟨v, hv, rfl⟩ := Option.map_eq_some_iff.mp h
      exact hp _ v hv
    · cases h
  · cases h

theorem legible_of_value? {depth : Nat} (h : value? .server depth cs = some r) : r.1.Legible := by
  induction depth generalizing cs r with
  | zero => exact legible_of_leaf? h
  | succ depth ih =>
      rw [value?.eq_def] at h
      simp only at h
      split at h
      · obtain ⟨items, hitems, rfl⟩ := Option.map_eq_some_iff.mp h
        exact .list (forall_of_enclosed? (fun _ _ => ih) hitems)
      · obtain ⟨members, hmembers, rfl⟩ := Option.map_eq_some_iff.mp h
        exact .map (forall_of_enclosed? (P := fun m => m.2.Legible)
          (fun _ _ => legible_of_member fun _ _ => ih) hmembers)
      · exact legible_of_leaf? h

/-- What is read of an answer can be shown. -/
theorem legible_of_answer? {body : List UInt8} {j : Json} (h : answer? body = some j) :
    j.Legible := by
  obtain ⟨cs, -, h⟩ := Option.bind_eq_some_iff.mp h
  rw [document?] at h
  split at h
  · next hv =>
      split at h
      · cases h
        exact legible_of_value? hv
      · cases h
  · cases h

end SqlCluster.Json
