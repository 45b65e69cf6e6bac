import SqlCluster.Proofs.Json.Scalar
/-!
Numbers with a point as JSON. Every finite one is written as a number by the grammar, wherever its
point stands: its digits do not open with a zero, and there are digits on both sides of the point.
-/
namespace SqlCluster

open Text

namespace Number

def Double.isFinite : Double → Bool
  | .finite _ _ _ => true
  | _ => false

namespace Shortest

theorem onGrid_pos {units : Nat} (h : 0 < units) (exponent power : Int) :
    0 < (onGrid units exponent power).1 := by
  have hpow (b n : Nat) (hb : 0 < b) : 0 < Nat.pow b n := Nat.pow_pos hb
  simp only [onGrid]
  refine Nat.mul_pos (Nat.mul_pos h ?_) ?_
  · split
    · exact Nat.one_pos
    · exact hpow 2 _ (by decide)
  · split
    · exact hpow 10 _ (by decide)
    · exact Nat.one_pos

variable {i : Interval} (hi : 0 < i.low) {exponent power : Int}
include hi

theorem holds_zero : i.holds exponent 0 power = false := by
  have hlow := onGrid_pos hi exponent power
  rw [Interval.holds]
  split <;> simp only [Nat.zero_mul, Bool.and_eq_false_iff, decide_eq_false_iff_not] <;>
    exact .inl (by omega)

theorem neighbour_ne_zero {n : Nat} (h : neighbour? i exponent power = some n) : n ≠ 0 := by
  rintro rfl
  have hzero : i.holds exponent 0 power = false := holds_zero hi
  generalize hq : (onGrid i.value exponent power).1 / (onGrid i.value exponent power).2 = q at h
  simp only [neighbour?, hq] at h
  -- The value itself stands between zero and one of the grid, so only the one can be taken.
  cases q with
  | zero =>
      rw [hzero] at h
      simp at h
  | succ q => grind

theorem search_ne_zero {fuel : Nat} {d : Decimals} (h : search i exponent fuel power = some d) :
    d.digits ≠ 0 := by
  induction fuel generalizing power with
  | zero => cases h
  | succ fuel ih =>
      rw [search] at h
      split at h
      · next hn =>
          cases h
          exact neighbour_ne_zero hi hn
      · exact ih h

end Shortest

theorem Shortest.dropZeros_ne_zero (fuel : Nat) {d : Decimals} (h : d.digits ≠ 0) :
    (dropZeros fuel d).digits ≠ 0 := by
  induction fuel generalizing d with
  | zero => exact h
  | succ fuel ih =>
      rw [dropZeros]
      split
      · refine ih ?_
        show d.digits / 10 ≠ 0
        omega
      · exact h

theorem Shortest.decimals_ne_zero {significand : Nat} (h : significand ≠ 0) (exponent : Int) :
    (decimals significand exponent).digits ≠ 0 := by
  have hlow : 0 < (interval significand exponent).low := by
    simp only [interval]
    split <;> omega
  simp only [decimals]
  split
  · next hs => exact dropZeros_ne_zero _ (search_ne_zero hlow hs)
  · exact h

end Number

namespace Json

open Number

def IsNumeral (cs : List Char) : Prop := ∀ negative, ∃ j, NumberText .strict negative j cs

theorem textOf_signed {cs : List Char} (h : IsNumeral cs) (negative : Bool) :
    ∃ j, TextOf .strict j (FloatLayout.signed negative cs) := by
  obtain ⟨j, hj⟩ := h negative
  have hsign : FloatLayout.signed negative cs = minus negative ++ cs := by cases negative <;> rfl
  exact ⟨j, hsign ▸ .number hj⟩

theorem isNumeral_of_parts {ws ds fs es : List Char} {e : Int} (hw : IsWhole ws)
    (hf : FractionText ds fs) (he : ExponentText e es) (hp : fs ≠ [] ∨ es ≠ []) :
    IsNumeral (ws ++ (fs ++ es)) := fun _ => ⟨_, .float hw rfl hf he hp⟩

theorem isNumeral_of_point {ws ds : List Char} (hw : IsWhole ws) (hd : IsRow ds) (hne : ds ≠ []) :
    IsNumeral (ws ++ '.' :: ds) := by
  have h := isNumeral_of_parts hw (.present hd hne) .absent (.inl (List.cons_ne_nil '.' ds))
  rwa [List.append_nil] at h

theorem isWhole_zero : IsWhole ['0'] := isWhole_decimal 0

/-- The digits of a positive number, the first of which is none of its zeros. -/
structure Leads (ds : List Char) : Prop where
  row : IsRow ds
  ne_nil : ds ≠ []
  head : ds.head? ≠ some '0'

theorem leads_decimal {n : Nat} (h : n ≠ 0) : Leads (decimal n) where
  row := isRow_decimal n
  ne_nil := Nat.toDigits_ne_nil
  head := by
    intro hz
    have hv := rowValue_decimal n
    rw [(isWhole_decimal n).lead hz] at hv
    exact h hv.symm

theorem isRow_zeros (n : Nat) : IsRow (List.replicate n '0') := by
  intro c hc
  rw [List.eq_of_mem_replicate hc]
  rfl

namespace Leads

variable {ds : List Char} (h : Leads ds)
include h

theorem isWhole_append {more : List Char} (hm : IsRow more) : IsWhole (ds ++ more) where
  row := within_append.mpr ⟨h.row, hm⟩
  ne_nil := List.append_ne_nil_of_left_ne_nil h.ne_nil more
  lead := by
    intro hz
    rw [List.head?_append_of_ne_nil _ h.ne_nil] at hz
    exact absurd hz h.head

theorem isWhole_take {n : Nat} (hn : 0 < n) : IsWhole (ds.take n) := by
  obtain ⟨c, cs, rfl⟩ := List.exists_cons_of_ne_nil h.ne_nil
  obtain ⟨n, rfl⟩ := Nat.exists_eq_succ_of_ne_zero hn.ne'
  exact ⟨h.row.of_subset (List.take_subset _ _), List.cons_ne_nil _ _,
    fun hz => absurd hz h.head⟩

theorem isNumeral_positional (places : Int) : IsNumeral (FloatLayout.positional ds places) := by
  rw [FloatLayout.positional]
  split
  · have hrow : IsRow (List.replicate (-places).toNat '0' ++ ds) :=
      within_append.mpr ⟨isRow_zeros _, h.row⟩
    exact isNumeral_of_point isWhole_zero hrow (List.append_ne_nil_of_right_ne_nil _ h.ne_nil)
  · split
    · exact isNumeral_of_point (h.isWhole_append (isRow_zeros _)) (isRow_zeros 1)
        (List.cons_ne_nil _ _)
    · next hpositive hlong =>
        refine isNumeral_of_point (h.isWhole_take (by omega)) (h.row.drop _) ?_
        rw [ne_eq, List.drop_eq_nil_iff]
        exact hlong

theorem isNumeral_scientific (width : Nat) (order : Int) :
    IsNumeral (FloatLayout.scientific width ds order) := by
  have hpadded : padded width order.natAbs ≠ [] :=
    List.append_ne_nil_of_right_ne_nil _ Nat.toDigits_ne_nil
  have hpower : ∃ e, ExponentText e
      ('e' :: (if order < 0 then '-' else '+') :: padded width order.natAbs) := by
    split
    · exact ⟨_, .present (.inl rfl) .minus (isRow_padded _ _) hpadded⟩
    · exact ⟨_, .present (.inl rfl) .plus (isRow_padded _ _) hpadded⟩
  obtain ⟨e, he⟩ := hpower
  obtain ⟨c, cs, rfl⟩ := List.exists_cons_of_ne_nil h.ne_nil
  have hfirst : IsWhole [c] := h.isWhole_take (n := 1) Nat.one_pos
  have hne := List.cons_ne_nil 'e' ((if order < 0 then '-' else '+') :: padded width order.natAbs)
  cases cs with
  | nil => exact isNumeral_of_parts hfirst .absent he (.inr hne)
  | cons d cs =>
      have hrest : IsRow (d :: cs) := (within_cons.mp h.row).2
      exact isNumeral_of_parts hfirst (.present hrest (List.cons_ne_nil d cs)) he (.inr hne)

end Leads

theorem isNumeral_digits (l : FloatLayout) {d : Decimals} (h : d.digits ≠ 0) :
    IsNumeral (l.digits d) := by
  simp only [FloatLayout.digits]
  split
  · exact (leads_decimal h).isNumeral_positional _
  · exact (leads_decimal h).isNumeral_scientific _ _

/-- A finite number is a number of JSON however it is laid out. -/
theorem textOf_chars (l : FloatLayout) {d : Double} (h : d.isFinite = true) :
    ∃ j, TextOf .strict j (l.chars d) := by
  cases d with
  | nan => cases h
  | infinite s => cases h
  | finite s m e =>
      cases m with
      | zero => exact textOf_signed (isNumeral_of_point isWhole_zero (isRow_zeros 1) (by decide)) s
      | succ m =>
          exact textOf_signed (isNumeral_digits l (Shortest.decimals_ne_zero (Nat.succ_ne_zero m) e)) s

end Json

end SqlCluster
