import Mathlib.Algebra.GroupWithZero.Nat
import Mathlib.Order.Monotone.Basic
import SqlCluster.Calendar.Epoch
/-!
Days and microseconds counted. Every number from the first day's to the last day's belongs to
exactly one day, every microsecond of a day to exactly one time, and so every instant of the years
that the calendar has to exactly one wall clock in universal time.
-/
namespace SqlCluster.Calendar

def yearLength (year : Nat) : Nat := if isLeap year then 366 else 365

theorem isLeap_iff (year : Nat) :
    isLeap year = true ↔ 4 ∣ year ∧ (100 ∣ year → 400 ∣ year) := by
  simp [isLeap, Nat.dvd_iff_mod_eq_zero, or_iff_not_imp_left]

theorem daysBeforeYear_succ (y : Nat) :
    daysBeforeYear (y + 2) = daysBeforeYear (y + 1) + yearLength (y + 1) := by
  have hle : y / 100 ≤ y / 4 := Nat.div_le_div_left (by decide) (by decide)
  have h100 : 100 ∣ y + 1 → 4 ∣ y + 1 := Nat.dvd_trans (by decide)
  have h400 : 400 ∣ y + 1 → 100 ∣ y + 1 := Nat.dvd_trans (by decide)
  simp only [daysBeforeYear, yearLength, isLeap_iff, Nat.add_one_sub_one, Nat.succ_div]
  generalize y / 4 = a, y / 100 = b, y / 400 = c at *
  -- The year is divisible by none of 4, 100 and 400, by the first of them, by two, or by all.
  by_cases hy4 : 4 ∣ y + 1
  · by_cases hy100 : 100 ∣ y + 1
    · by_cases hy400 : 400 ∣ y + 1
      · simp only [hy4, hy100, hy400, if_true, and_self, imp_self]
        omega
      · simp only [hy4, hy100, hy400, if_true, if_false, true_imp_iff, and_false]
        omega
    · simp only [hy4, hy100, mt h400 hy100, if_true, if_false, false_imp_iff, and_self]
      omega
  · simp only [hy4, mt h100 hy4, mt (h100 ∘ h400) hy4, if_false, false_and]
    omega

theorem daysBeforeYear_mono {y z : Nat} (h : y ≤ z) :
    daysBeforeYear (y + 1) ≤ daysBeforeYear (z + 1) := by
  refine monotone_nat_of_le_succ (f := fun y => daysBeforeYear (y + 1)) ?_ h
  intro n
  exact Nat.le.intro (daysBeforeYear_succ n).symm

theorem daysBeforeYear_cycles (a : Nat) {b c d : Nat} (hb : b ≤ 3) (hc : c ≤ 24) (hd : d ≤ 3) :
    daysBeforeYear (400 * a + 100 * b + 4 * c + d + 1) =
      146097 * a + 36524 * b + 1461 * c + 365 * d := by
  have h4 : (400 * a + 100 * b + 4 * c + d) / 4 = 100 * a + 25 * b + c := by omega
  have h100 : (400 * a + 100 * b + 4 * c + d) / 100 = 4 * a + b := by omega
  have h400 : (400 * a + 100 * b + 4 * c + d) / 400 = a := by omega
  rw [daysBeforeYear, Nat.add_one_sub_one, h4, h100, h400]
  omega

theorem isLeap_cycles (a : Nat) {b c d : Nat} (hb : b ≤ 3) (hc : c ≤ 24) (hd : d ≤ 3) :
    isLeap (400 * a + 100 * b + 4 * c + d + 1) = true ↔ d = 3 ∧ (c = 24 → b = 3) := by
  rw [isLeap_iff]
  omega

theorem exists_cycles (y : Nat) :
    ∃ a b c d, b ≤ 3 ∧ c ≤ 24 ∧ d ≤ 3 ∧ y = 400 * a + 100 * b + 4 * c + d :=
  ⟨y / 400, y % 400 / 100, y % 100 / 4, y % 4, by omega, by omega, by omega, by omega⟩

namespace Date

theorem yearOf_add {y r : Nat} (hr : r < yearLength (y + 1)) :
    yearOf (daysBeforeYear (y + 1) + r) = (y + 1, r) := by
  obtain ⟨a, b, c, d, hb, hc, hd, rfl⟩ := exists_cycles y
  rw [daysBeforeYear_cycles a hb hc hd]
  simp only [yearLength, isLeap_cycles a hb hc hd] at hr
  have h400 : (146097 * a + 36524 * b + 1461 * c + 365 * d + r) / 146097 = a := by
    split at hr <;> omega
  have r400 : (146097 * a + 36524 * b + 1461 * c + 365 * d + r) % 146097 =
      36524 * b + (1461 * c + (365 * d + r)) := by split at hr <;> omega
  -- Only the last day of 400 years is none of a whole cycle of a hundred.
  have hcases : 1461 * c + (365 * d + r) < 36524 ∨ b = 3 ∧ 1461 * c + (365 * d + r) = 36524 := by
    split at hr <;> omega
  rcases hcases with h | ⟨hb, h⟩
  · have h100 : (36524 * b + (1461 * c + (365 * d + r))) / 36524 = b := by omega
    have r100 : (36524 * b + (1461 * c + (365 * d + r))) % 36524 = 1461 * c + (365 * d + r) := by
      omega
    have h4 : (1461 * c + (365 * d + r)) / 1461 = c := by split at hr <;> omega
    have r4 : (1461 * c + (365 * d + r)) % 1461 = 365 * d + r := by split at hr <;> omega
    simp only [yearOf, h400, r400, h100, r100, h4, r4]
    split <;> rw [Prod.mk.injEq] <;> split at hr <;> omega
  · have h100 : (36524 * b + (1461 * c + (365 * d + r))) / 36524 = 4 := by omega
    have r100 : (36524 * b + (1461 * c + (365 * d + r))) % 36524 = 0 := by omega
    simp only [yearOf, h400, r400, h100, r100, true_or, if_true, Prod.mk.injEq]
    split at hr <;> omega

theorem exists_year (n : Nat) :
    ∃ y r, r < yearLength (y + 1) ∧ daysBeforeYear (y + 1) + r = n := by
  induction n with
  | zero => exact ⟨0, 0, by decide, rfl⟩
  | succ n ih =>
      obtain ⟨y, r, hr, rfl⟩ := ih
      by_cases h : r + 1 < yearLength (y + 1)
      · exact ⟨y, r + 1, h, rfl⟩
      · refine ⟨y + 1, 0, ?_, ?_⟩
        · rw [yearLength]
          split <;> decide
        · rw [daysBeforeYear_succ]
          omega

theorem monthDay_add (month : Nat) {k r : Nat} {lengths : List Nat} (hr : r < lengths.getD k 0) :
    monthDay month lengths ((lengths.take k).sum + r) = (month + k, r + 1) := by
  induction lengths generalizing month k with
  | nil => simp at hr
  | cons l ls ih =>
      cases k with
      | zero => simp_all [monthDay]
      | succ k =>
          have h := ih (month + 1) hr
          rw [List.take_succ_cons, List.sum_cons, monthDay, if_neg (by omega)]
          rw [Nat.add_assoc, Nat.add_sub_cancel_left, h]
          simp only [Nat.add_assoc, Nat.add_comm 1]

theorem exists_month {n : Nat} {lengths : List Nat} (h : n < lengths.sum) :
    ∃ k < lengths.length, ∃ r < lengths.getD k 0, (lengths.take k).sum + r = n := by
  induction lengths generalizing n with
  | nil => simp at h
  | cons l ls ih =>
      by_cases hn : n < l
      · exact ⟨0, by simp, n, by simpa using hn, by simp⟩
      · rw [List.sum_cons] at h
        obtain ⟨k, hk, r, hr, hs⟩ := ih (n := n - l) (by omega)
        refine ⟨k + 1, by simpa using hk, r, by simpa using hr, ?_⟩
        rw [List.take_succ_cons, List.sum_cons]
        omega

theorem sum_take_add_lt {k r : Nat} {lengths : List Nat} (hr : r < lengths.getD k 0) :
    (lengths.take k).sum + r < lengths.sum := by
  induction lengths generalizing k with
  | nil => simp at hr
  | cons l ls ih =>
      cases k with
      | zero =>
          have hl : r < l := hr
          rw [List.take_zero, List.sum_nil, List.sum_cons]
          omega
      | succ k =>
          have h := ih (k := k) hr
          rw [List.take_succ_cons, List.sum_cons, List.sum_cons]
          omega

theorem sum_monthLengths (year : Nat) : (monthLengths (isLeap year)).sum = yearLength year := by
  rw [yearLength]
  cases isLeap year <;> rfl

theorem isValid_iff (d : Date) :
    d.isValid = true ↔ ∃ y k r, d = ⟨y + 1, k + 1, r + 1⟩ ∧ y < maxYear ∧ k < 12 ∧
      r < (monthLengths (isLeap (y + 1))).getD k 0 := by
  obtain ⟨year, month, day⟩ := d
  simp only [isValid, Bool.and_eq_true, decide_eq_true_eq, Date.mk.injEq]
  constructor
  · rintro ⟨⟨⟨⟨⟨hy, hmax⟩, hm⟩, h12⟩, hd⟩, hlast⟩
    obtain ⟨y, rfl⟩ := Nat.exists_eq_add_of_le' hy
    obtain ⟨k, rfl⟩ := Nat.exists_eq_add_of_le' hm
    obtain ⟨r, rfl⟩ := Nat.exists_eq_add_of_le' hd
    exact ⟨y, k, r, ⟨rfl, rfl, rfl⟩, hmax, Nat.lt_of_succ_le h12, hlast⟩
  · rintro ⟨y, k, r, ⟨rfl, rfl, rfl⟩, hy, hk, hr⟩
    exact ⟨⟨⟨⟨⟨Nat.le_add_left 1 y, hy⟩, Nat.le_add_left 1 k⟩, hk⟩, Nat.le_add_left 1 r⟩, hr⟩

theorem ordinal_mk (y k r : Nat) : (Date.mk (y + 1) (k + 1) (r + 1)).ordinal =
    daysBeforeYear (y + 1) + (((monthLengths (isLeap (y + 1))).take k).sum + r) + 1 := by
  rw [ordinal, List.sum_eq_foldl_nat]
  simp only [Nat.add_one_sub_one, Nat.add_assoc]

theorem ofOrdinal_ordinal {d : Date} (h : d.isValid = true) : ofOrdinal d.ordinal = d := by
  obtain ⟨y, k, r, rfl, -, -, hr⟩ := (isValid_iff d).mp h
  have hyear := sum_take_add_lt hr
  rw [sum_monthLengths] at hyear
  simp only [ordinal_mk, ofOrdinal, Nat.add_one_sub_one, yearOf_add hyear, monthDay_add 1 hr,
    Nat.add_comm 1]

theorem ordinal_bounds {d : Date} (h : d.isValid = true) :
    1 ≤ d.ordinal ∧ d.ordinal ≤ maxOrdinal := by
  obtain ⟨y, k, r, rfl, hy, -, hr⟩ := (isValid_iff d).mp h
  have hyear := sum_take_add_lt hr
  have hlast : daysBeforeYear (y + 2) ≤ maxOrdinal := daysBeforeYear_mono (z := maxYear) hy
  rw [sum_monthLengths] at hyear
  rw [daysBeforeYear_succ] at hlast
  rw [ordinal_mk]
  omega

theorem exists_ordinal {n : Nat} (h : 1 ≤ n) (hn : n ≤ maxOrdinal) :
    ∃ d : Date, d.isValid = true ∧ d.ordinal = n := by
  obtain ⟨n, rfl⟩ := Nat.exists_eq_add_of_le' h
  obtain ⟨y, s, hs, rfl⟩ := exists_year n
  rw [← sum_monthLengths] at hs
  obtain ⟨k, hk, r, hr, rfl⟩ := exists_month hs
  have hy : y < maxYear := by
    by_contra hlong
    have hmono := daysBeforeYear_mono (y := maxYear) (Nat.le_of_not_lt hlong)
    have hlast : daysBeforeYear (maxYear + 1) = maxOrdinal := by decide
    omega
  exact ⟨⟨y + 1, k + 1, r + 1⟩, (isValid_iff _).mpr ⟨y, k, r, rfl, hy, hk, hr⟩, ordinal_mk y k r⟩

end Date

namespace Time

theorem isValid_iff (t : Time) : t.isValid = true ↔
    t.hour < 24 ∧ t.minute < 60 ∧ t.second < 60 ∧ t.micro < microsPerSecond := by
  simp [isValid, microsPerSecond, and_assoc]

theorem ofMicros_micros {t : Time} (h : t.isValid = true) : ofMicros t.micros = t := by
  obtain ⟨hour, minute, second, micro⟩ := t
  obtain ⟨hh, hm, hs, hu⟩ := (isValid_iff _).mp h
  simp only [micros, ofMicros, microsPerSecond, Time.mk.injEq] at hh hm hs hu ⊢
  omega

theorem micros_ofMicros (n : Nat) : (ofMicros n).micros = n := by
  simp only [micros, ofMicros, microsPerSecond]
  omega

theorem micros_lt {t : Time} (h : t.isValid = true) : t.micros < microsPerDay := by
  obtain ⟨hh, hm, hs, hu⟩ := (isValid_iff t).mp h
  simp only [micros, microsPerDay, microsPerSecond] at hu ⊢
  omega

theorem isValid_ofMicros {n : Nat} (h : n < microsPerDay) : (ofMicros n).isValid = true := by
  rw [isValid_iff]
  simp only [ofMicros, microsPerDay, microsPerSecond] at h ⊢
  omega

end Time

theorem Epoch.ofMicros?_eq_some {micros : Int} {m : Moment} :
    ofMicros? micros = some m ↔ m.date.isValid = true ∧ m.time.isValid = true ∧
      m.offset = some 0 ∧ (m.wallMicros : Int) = micros + (originOrdinal * microsPerDay : Nat) := by
  have hpos : (0 : Int) < (microsPerDay : Int) := by decide
  simp only [ofMicros?, Moment.wallMicros]
  generalize micros + (originOrdinal * microsPerDay : Nat) = total
  constructor
  · intro h
    have hsum := Int.mul_ediv_add_emod total (microsPerDay : Int)
    have hnonneg := Int.emod_nonneg total (Int.ne_of_gt hpos)
    have hlt := Int.emod_lt_of_pos total hpos
    generalize total / (microsPerDay : Int) = day, total % (microsPerDay : Int) = rest at *
    split at h
    · next hday =>
        obtain ⟨d, hd, ho⟩ := Date.exists_ordinal (n := day.toNat) (by omega) (by omega)
        rw [← ho, Date.ofOrdinal_ordinal hd] at h
        cases h
        refine ⟨hd, Time.isValid_ofMicros (by omega), rfl, ?_⟩
        rw [Time.micros_ofMicros, ho, ← hsum, Int.natCast_add, Int.natCast_mul,
          Int.toNat_of_nonneg (by omega), Int.toNat_of_nonneg hnonneg, Int.mul_comm]
    · cases h
  · rintro ⟨hd, ht, ho, hw⟩
    have hbounds := Date.ordinal_bounds hd
    have hlt := Time.micros_lt ht
    have hday : total / (microsPerDay : Int) = m.date.ordinal := by
      rw [← hw, ← Int.natCast_ediv, Nat.mul_comm, Nat.mul_add_div (by decide),
        Nat.div_eq_of_lt hlt, Nat.add_zero]
    have hrest : total % (microsPerDay : Int) = m.time.micros := by
      rw [← hw, ← Int.natCast_emod, Nat.mul_comm, Nat.mul_add_mod, Nat.mod_eq_of_lt hlt]
    rw [hday, hrest, if_pos (by omega)]
    simp only [Int.toNat_natCast, Date.ofOrdinal_ordinal hd, Time.ofMicros_micros ht, ← ho]

end SqlCluster.Calendar
