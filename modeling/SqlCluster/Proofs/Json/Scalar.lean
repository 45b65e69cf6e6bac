import Mathlib.Data.List.Forall2
import SqlCluster.Proofs.Json.Grammar
import SqlCluster.Proofs.Text.Hex
import SqlCluster.Proofs.Text.Utf8
import SqlCluster.Json.Writer
/-!
Texts and integers as JSON: what is written for one is a text of it by the grammar, in printable
ASCII.
-/
namespace SqlCluster.Json

open Number Text

theorem unit?_hexDigits {n : Nat} (hn : n < 0x10000) :
    unit? (hexDigit lowerDigits (n / 16 / 16 / 16)) (hexDigit lowerDigits (n / 16 / 16))
      (hexDigit lowerDigits (n / 16)) (hexDigit lowerDigits n) = some n := by
  have hbits : ((n / 16 / 16 / 16 % 16 * 16 + n / 16 / 16 % 16) * 16 + n / 16 % 16) * 16 +
      n % 16 = n := by
    omega
  simp only [unit?, hexValue?_lower, Option.bind_eq_bind, Option.bind_some, Option.pure_def, hbits]

theorem unitText_unitEscape {n : Nat} (hn : n < 0x10000) : UnitText n (unitEscape n) := by
  rw [unitEscape, hexFixed_four]
  exact .mk (unit?_hexDigits hn)

inductive Written (c : Char) : List Char → Prop
  | short {e : Char} (h : shortEscape? e = some c) (he : IsPlain e) : Written c ['\\', e]
  | plain (h : IsPlain c) (hq : c ≠ '"') (hb : c ≠ '\\') : Written c [c]
  | unit (h : c.toNat < 0x10000) : Written c (unitEscape c.toNat)
  | pair (h : 0x10000 ≤ c.toNat) :
      Written c (unitEscape (0xD800 + (c.toNat - 0x10000) / 0x400) ++
        unitEscape (0xDC00 + (c.toNat - 0x10000) % 0x400))

theorem written_charText (c : Char) : Written c (charText c) := by
  have short {d e : Char} (hd : c = d) (h : shortEscape? e = some d) (he : IsPlain e) :
      Written c ['\\', e] := by
    rw [← hd] at h
    exact .short h he
  have code {n : Nat} (hn : c.toNat = n) : c = Char.ofNat n := by rw [← hn, Char.ofNat_toNat]
  simp only [charText]
  split
  · next h => exact short h rfl (by decide)
  split
  · next h => exact short h rfl (by decide)
  split
  · next h => exact short h rfl (by decide)
  split
  · next h => exact short h rfl (by decide)
  split
  · next h => exact short h rfl (by decide)
  split
  · next h => exact short (code h) rfl (by decide)
  split
  · next h => exact short (code h) rfl (by decide)
  split
  · next hq hb _ _ _ _ _ h => exact .plain h hq hb
  split
  · next h => exact .unit h
  · next h => exact .pair (Nat.le_of_not_lt h)

theorem Written.form {c : Char} {cs : List Char} (hw : Written c cs) : CharForm c cs := by
  cases hw with
  | short h _ => exact .short h
  | plain h hq hb => exact .bare h.1 hq hb
  | unit h => exact .unit (unitText_unitEscape h)
  | pair h =>
      have hlt := Utf8.toNat_lt c
      exact .pair h (unitText_unitEscape (by omega)) (unitText_unitEscape (by omega))

theorem quotedText_textChars (s : String) : QuotedText s (textChars s) := by
  have hforms : List.Forall₂ CharForm s.toList (s.toList.map charText) :=
    List.forall₂_map_right_iff.mpr (List.forall₂_same.mpr fun c _ => (written_charText c).form)
  exact .mk hforms

theorem plain_unitEscape (n : Nat) : Within IsPlain (unitEscape n) := by
  have hd (k : Nat) : IsPlain (hexDigit lowerDigits k) := by
    have h : ∀ k < 16, IsPlain (hexDigit lowerDigits k) := by decide
    have hk := h (k % 16) (Nat.mod_lt k (by decide))
    rwa [hexDigit, Nat.mod_mod] at hk
  rw [unitEscape, hexFixed_four]
  simp only [within_cons, hd, within_nil, and_true]
  decide

theorem Written.chars {c : Char} {cs : List Char} (hw : Written c cs) : Within IsPlain cs := by
  cases hw with
  | short _ he => exact within_cons.mpr ⟨by decide, within_cons.mpr ⟨he, within_nil⟩⟩
  | plain h _ _ => exact within_cons.mpr ⟨h, within_nil⟩
  | unit _ => exact plain_unitEscape _
  | pair _ => exact within_append.mpr ⟨plain_unitEscape _, plain_unitEscape _⟩

theorem plain_textChars (s : String) : Within IsPlain (textChars s) := by
  rw [textChars, List.cons_append, within_cons, within_append]
  refine ⟨by decide, ?_, by decide⟩
  intro c hc
  obtain ⟨d, -, hd⟩ := List.mem_flatMap.mp hc
  exact (written_charText d).chars c hd

theorem decimal_eq_cons (n : Nat) : ∃ c cs, decimal n = c :: cs ∧ isAsciiDigit c = true := by
  have hne : decimal n ≠ [] := Nat.toDigits_ne_nil
  have hrow := isRow_decimal n
  obtain ⟨c, cs, hd⟩ := List.exists_cons_of_ne_nil hne
  rw [hd] at hrow
  exact ⟨c, cs, hd, (within_cons.mp hrow).1⟩

theorem decimal_of_zero_lead {n : Nat} {cs : List Char} (h : decimal n = '0' :: cs) : cs = [] := by
  induction n using Nat.strongRecOn generalizing cs with
  | _ n ih =>
      by_cases hn : n < 10
      · rw [decimal, Nat.toDigits_of_lt_base hn] at h
        exact (List.cons.inj h).2.symm
      · have hlt : n / 10 < n := by omega
        have hsplit : decimal n = decimal (n / 10) ++ [(n % 10).digitChar] :=
          Nat.toDigits_of_base_le (by decide) (Nat.le_of_not_lt hn)
        obtain ⟨d, ds, hd, -⟩ := decimal_eq_cons (n / 10)
        rw [hsplit, hd, List.cons_append] at h
        obtain ⟨rfl, -⟩ := List.cons.inj h
        have hds : ds = [] := ih (n / 10) hlt hd
        have hv := rowValue_decimal (n / 10)
        rw [hd, hds] at hv
        have hz : rowValue ['0'] = 0 := rfl
        omega

theorem isWhole_decimal (n : Nat) : IsWhole (decimal n) where
  row := isRow_decimal n
  ne_nil := Nat.toDigits_ne_nil
  lead := by
    obtain ⟨c, cs, hd, -⟩ := decimal_eq_cons n
    rw [hd]
    intro hc
    obtain rfl := Option.some.inj hc
    rw [decimal_of_zero_lead hd]

theorem textOf_decimalInt (n : Int) : TextOf .strict (.int n) (decimalInt n) := by
  have hn (negative : Bool) (k : Nat) : NumberText .strict negative
      (.int (Double.withSign negative k)) (decimal k) := by
    have hnumber : NumberText .strict negative (.int (Double.withSign negative (rowValue (decimal k))))
        (decimal k) := .int (isWhole_decimal k) rfl
    rwa [rowValue_decimal] at hnumber
  cases n with
  | ofNat n => exact .number (hn false n)
  | negSucc n => exact .number (hn true (n + 1))

theorem plain_decimalInt (n : Int) : Within IsPlain (decimalInt n) := by
  cases n with
  | ofNat n => exact (isRow_decimal n).plain
  | negSucc n => exact within_cons.mpr ⟨by decide, (isRow_decimal (n + 1)).plain⟩

end SqlCluster.Json
