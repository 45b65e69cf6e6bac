import SqlCluster.Proofs.Calendar.Counting
import SqlCluster.Proofs.Number.Row
import SqlCluster.Text.Blank
/-!
Dates, times and offsets as they are written: numbers in a fixed number of digits with marks between
them.
-/
namespace SqlCluster.Calendar

open Text

theorem padded_two {n : Nat} (h : n < 100) :
    ∃ a b, padded 2 n = [a, b] ∧ isAsciiDigit a = true ∧ isAsciiDigit b = true := by
  obtain ⟨a, b, hab⟩ := List.length_eq_two.mp (length_padded (by decide) h)
  have hrow := isRow_padded 2 n
  rw [hab] at hrow
  exact ⟨a, b, hab, hrow a (by simp), hrow b (by simp)⟩

def isClockChar (c : Char) : Bool := isAsciiDigit c || "-:.+".toList.contains c

theorem isClockChar_spec {c : Char} (h : isClockChar c = true) :
    isBlank c = false ∧ c ≠ 'T' ∧ c ≠ 'Z' := by
  have hc : c.toNat < 128 := by
    rw [isClockChar, Bool.or_eq_true] at h
    rcases h with h | h
    · exact lt_of_isAsciiDigit h
    · exact lt_of_contains (by decide) h
  exact of_ascii (P := fun c => isClockChar c = true → isBlank c = false ∧ c ≠ 'T' ∧ c ≠ 'Z')
    (by decide +kernel) hc h

theorem clockChars_padded (width n : Nat) : Within (isClockChar · = true) (padded width n) :=
  (isRow_padded width n).mono fun c hc => by rw [isClockChar, hc, Bool.true_or]

theorem clockChars_fraction (micro : Nat) :
    Within (isClockChar · = true) (fractionChars micro) := by
  rw [fractionChars]
  split
  · exact within_nil
  · exact within_cons.mpr ⟨by decide, clockChars_padded 6 micro⟩

theorem clockChars_offset (o : Int) : Within (isClockChar · = true) (offsetChars o) := by
  simp only [offsetChars, within_append, within_cons]
  refine ⟨⟨⟨?_, clockChars_padded _ _⟩, by decide, clockChars_padded _ _⟩, ?_⟩
  · split <;> decide
  · split
    · exact within_nil
    · exact within_append.mpr ⟨within_cons.mpr ⟨by decide, clockChars_padded _ _⟩,
        clockChars_fraction _⟩

theorem clockChars_optionalOffset (o : Option Int) :
    Within (isClockChar · = true) (optionalOffset o) := by
  cases o with
  | none => exact within_nil
  | some o => exact clockChars_offset o

namespace Date

theorem clockChars (d : Date) : Within (isClockChar · = true) d.chars := by
  simp only [chars, within_append, within_cons]
  exact ⟨⟨clockChars_padded _ _, by decide, clockChars_padded _ _⟩, by decide,
    clockChars_padded _ _⟩

theorem bounds_of_isValid {d : Date} (h : d.isValid = true) :
    d.year < 10 ^ 4 ∧ 1 ≤ d.month ∧ d.month ≤ 12 ∧ 1 ≤ d.day ∧ d.day ≤ 31 := by
  obtain ⟨y, k, r, rfl, hy, hk, hr⟩ := (isValid_iff d).mp h
  have hlong : ∀ leap, ∀ k < 12, (monthLengths leap).getD k 0 ≤ 31 := by decide
  have hr31 := Nat.lt_of_lt_of_le hr (hlong _ k hk)
  have hy4 : y < 9999 := hy
  refine ⟨?_, Nat.le_add_left 1 k, hk, Nat.le_add_left 1 r, hr31⟩
  simp only
  omega

end Date

namespace Time

def hands (t : Time) : List Char :=
  padded 2 t.hour ++ ':' :: padded 2 t.minute ++ ':' :: padded 2 t.second

/-- A time of day with its fraction in six digits, which may be left out where it is zero. -/
inductive Spelled (t : Time) : List Char → Prop
  | whole (h : t.micro = 0) : Spelled t t.hands
  | fraction : Spelled t (t.hands ++ '.' :: padded 6 t.micro)

theorem spelled_chars (t : Time) : t.Spelled t.chars := by
  have hchars : t.chars = t.hands ++ fractionChars t.micro := rfl
  rw [hchars, fractionChars]
  split
  · next h =>
      rw [List.append_nil]
      exact .whole h
  · exact .fraction

theorem clockChars_hands (t : Time) : Within (isClockChar · = true) t.hands := by
  simp only [hands, within_append, within_cons]
  exact ⟨⟨clockChars_padded _ _, by decide, clockChars_padded _ _⟩, by decide,
    clockChars_padded _ _⟩

theorem Spelled.clockChars {t : Time} {cs : List Char} (h : t.Spelled cs) :
    Within (isClockChar · = true) cs := by
  cases h with
  | whole => exact t.clockChars_hands
  | fraction =>
      exact within_append.mpr
        ⟨t.clockChars_hands, within_cons.mpr ⟨by decide, clockChars_padded _ _⟩⟩

end Time

end SqlCluster.Calendar
