import Mathlib.Algebra.Group.Nat.Defs
import SqlCluster.Number.Setting
import SqlCluster.Proofs.Text.Within
/-!
Rows of digits. A number's digits are read as the number again, by the two readers of ports; and a
colon stands in no number.
-/
namespace SqlCluster

open Text

def Text.IsRow (cs : List Char) : Prop := Within (isAsciiDigit · = true) cs

theorem Text.asciiValue?_eq_some {c : Char} (h : isAsciiDigit c = true) :
    asciiValue? c = some (c.toNat - 48) := by
  rw [asciiValue?, if_pos h]

def Text.rowValue (cs : List Char) : Nat := ofDigits (cs.filterMap asciiValue?)

theorem Text.rowValue_eq {cs : List Char} (h : IsRow cs) : rowValue cs = Nat.ofDigitChars 10 cs 0 := by
  rw [rowValue, ofDigits]
  generalize 0 = n
  induction cs generalizing n with
  | nil => rfl
  | cons c cs ih =>
      have h := within_cons.mp h
      have hc := asciiValue?_eq_some h.1
      rw [List.filterMap_cons_some hc, List.foldl_cons, ih h.2, Nat.ofDigitChars_cons, Nat.mul_comm]
      rfl

theorem Text.isRow_decimal (n : Nat) : IsRow (decimal n) := by
  intro c hc
  have hd : c.isDigit = true := Nat.isDigit_of_mem_toDigits (by decide) (by decide) hc
  simp only [Char.isDigit, Bool.and_eq_true, decide_eq_true_eq] at hd
  simp only [isAsciiDigit, Bool.and_eq_true, decide_eq_true_eq]
  exact hd

theorem Text.rowValue_decimal (n : Nat) : rowValue (decimal n) = n := by
  rw [rowValue_eq (isRow_decimal n)]
  exact Nat.ofDigitChars_ten_toDigits

theorem Text.isRow_padded (width n : Nat) : IsRow (padded width n) := by
  rw [padded, IsRow, within_append]
  refine ⟨?_, isRow_decimal n⟩
  intro c hc
  rw [List.eq_of_mem_replicate hc]
  rfl

theorem Text.length_padded {w n : Nat} (hw : 0 < w) (h : n < 10 ^ w) :
    (padded w n).length = w := by
  have hle : (decimal n).length ≤ w := (Nat.length_toDigits_le_iff (by decide) hw).mpr h
  rw [padded, List.length_append, List.length_replicate, Nat.sub_add_cancel hle]

theorem Number.Literal.isWritable_iff {n : Int} :
    isWritable n = true ↔ n.natAbs < 10 ^ maxIntDigits := by
  rw [isWritable, decide_eq_true_iff, decimal]
  exact Nat.length_toDigits_le_iff (by decide) (by decide)

theorem Number.Literal.isWritable_of_lt {n : Int} (h : n.natAbs < 10 ^ 5) : isWritable n = true :=
  isWritable_iff.mpr (Nat.lt_of_lt_of_le h (Nat.pow_le_pow_right (by decide) (by decide)))

theorem Text.rowValue_padded (width n : Nat) : rowValue (padded width n) = n := by
  rw [rowValue_eq (isRow_padded width n), padded, Nat.ofDigitChars_append,
    Nat.ofDigitChars_replicate_zero, Nat.mul_zero]
  exact Nat.ofDigitChars_ten_toDigits

theorem Text.IsRow.plain {cs : List Char} (h : IsRow cs) : Within IsPlain cs :=
  h.mono fun _ hc => of_asciiDigit (P := IsPlain) (by decide) hc

namespace Number.Literal

theorem asciiForm_of_plain {cs : List Char} (h : Within IsPlain cs) : asciiForm cs = cs := by
  induction cs with
  | nil => rfl
  | cons c cs ih =>
      have h := within_cons.mp h
      have ih := ih h.2
      rw [asciiForm] at ih
      rw [asciiForm, List.map_cons, if_pos h.1.2, ih]

theorem spacedRow_of_row {cs : List Char} (h : IsRow cs) (previous : Bool) :
    spacedRow? previous cs = some (cs.filterMap asciiValue?, []) := by
  induction cs generalizing previous with
  | nil => rfl
  | cons c cs ih =>
      have h := within_cons.mp h
      have hc := asciiValue?_eq_some h.1
      have hu : c ≠ '_' := by
        rintro rfl
        exact absurd h.1 (by decide)
      rw [spacedRow?.eq_def, List.filterMap_cons_some hc]
      simp only [if_neg hu, hc, ih h.2, Option.map_some]

theorem settingInt_of_row {cs : List Char} (h : IsRow cs) (hne : cs ≠ [])
    (hlen : cs.length ≤ maxIntDigits) : settingInt cs = .ok (rowValue cs) := by
  obtain ⟨c, ds, rfl⟩ := List.exists_cons_of_ne_nil hne
  have hc := (within_cons.mp h).1
  have hblank : isAsciiBlank c = false :=
    of_asciiDigit (P := fun c => isAsciiBlank c = false) (by decide) hc
  have hsign : sign (c :: ds) = (false, c :: ds) := by
    have hm : c ≠ '-' := by
      rintro rfl
      exact absurd hc (by decide)
    have hp : c ≠ '+' := by
      rintro rfl
      exact absurd hc (by decide)
    unfold sign
    split
    · next he => exact absurd (List.cons.inj he).1 hm
    · next he => exact absurd (List.cons.inj he).1 hp
    · rfl
  have hv := asciiValue?_eq_some hc
  have hcount : (List.filterMap asciiValue? (c :: ds)).length ≤ (c :: ds).length :=
    List.length_filterMap_le _ _
  have hrow := spacedRow_of_row h false
  rw [List.filterMap_cons_some hv] at hrow hcount
  simp only [settingInt, asciiForm_of_plain h.plain, plainInt, List.dropWhile_cons, hblank,
    Bool.false_eq_true, if_false, hsign, hrow]
  rw [if_neg (by omega)]
  simp only [List.all_nil, if_true, Double.withSign, Bool.false_eq_true, if_false, rowValue,
    List.filterMap_cons_some hv]

theorem colon_of_spacedRow {cs rest : List Char} {ds : List Nat} {previous : Bool}
    (h : spacedRow? previous cs = some (ds, rest)) (hc : ':' ∈ cs) : ':' ∈ rest := by
  induction cs generalizing ds previous with
  | nil => cases hc
  | cons c cs ih =>
      rw [spacedRow?.eq_def] at h
      simp only at h
      by_cases hu : c = '_'
      · have hm : ':' ∈ cs := (List.mem_cons.mp hc).resolve_left (by simp [hu])
        rw [if_pos hu] at h
        split at h
        · split at h
          · exact ih h hm
          · cases h
        · cases h
      · rw [if_neg hu] at h
        cases hv : asciiValue? c with
        | none =>
            rw [hv] at h
            cases h
            exact hc
        | some d =>
            have hd : c ≠ ':' := by
              rintro rfl
              cases hv
            have hm : ':' ∈ cs := (List.mem_cons.mp hc).resolve_left fun he => hd he.symm
            rw [hv] at h
            obtain ⟨r, hr, he⟩ := Option.map_eq_some_iff.mp h
            cases he
            exact ih hr hm

theorem colon_of_sign {cs : List Char} (h : ':' ∈ cs) : ':' ∈ (sign cs).2 := by
  unfold sign
  split
  · exact (List.mem_cons.mp h).resolve_left (by decide)
  · exact (List.mem_cons.mp h).resolve_left (by decide)
  · exact h

theorem not_mem_of_settingInt {cs : List Char} (hp : Within IsPlain cs) {n : Int}
    (h : settingInt cs = .ok n) : ':' ∉ cs := by
  intro hc
  rw [settingInt, asciiForm_of_plain hp, plainInt] at h
  have hd : ':' ∈ cs.dropWhile isAsciiBlank := by
    have ha : cs.takeWhile isAsciiBlank ++ cs.dropWhile isAsciiBlank = cs :=
      List.takeWhile_append_dropWhile
    rw [← ha, List.mem_append] at hc
    refine hc.resolve_left fun hm => ?_
    exact absurd (List.mem_takeWhile_imp hm) (by decide)
  have hs := colon_of_sign hd
  simp only at h
  cases hr : spacedRow? false (sign (cs.dropWhile isAsciiBlank)).2 with
  | none => simp [hr] at h
  | some r =>
      obtain ⟨ds, rest⟩ := r
      have hm := colon_of_spacedRow hr hs
      have hb : rest.all isAsciiBlank = false := by
        rw [List.all_eq_false]
        exact ⟨':', hm, by decide⟩
      cases ds with
      | nil => simp [hr] at h
      | cons d ds =>
          simp only [hr, hb] at h
          split at h <;> cases h

end Number.Literal

end SqlCluster
