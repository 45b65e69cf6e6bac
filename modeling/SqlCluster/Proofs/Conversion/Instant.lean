import SqlCluster.Fault.Basic
import SqlCluster.Number.Setting
import SqlCluster.Proofs.Conversion.Timestamp
/-!
Instants told in seconds and in text. A number of seconds stands for the same instant as every text
of its wall clock, here and at every whole minute's distance from universal time.
-/
namespace SqlCluster

open Calendar Text

namespace Calendar.Epoch

/-- The moment is what a clock shows at second `n`, so much ahead of universal time. -/
structure ShownBy (n offset : Int) (m : Moment) : Prop where
  real : m.IsReal
  offset : m.offset = some offset
  instant : m.instant = n * microsPerSecond + (originOrdinal * microsPerDay : Nat)

variable {n n' offset : Int} {m m' : Moment}

theorem ofSeconds?_eq_some : ofSeconds? n = some m ↔ ShownBy n 0 m := by
  rw [ofSeconds?, ofMicros?_eq_some]
  constructor
  · rintro ⟨hd, ht, ho, hw⟩
    have hreal : m.IsReal := by
      refine ⟨hd, ht, fun o hm => ?_⟩
      rw [ho] at hm
      cases hm
      decide
    refine ⟨hreal, ho, ?_⟩
    rw [Moment.instant, ho, hw, Option.getD_some, Int.sub_zero]
  · rintro ⟨hreal, ho, hi⟩
    rw [Moment.instant, ho, Option.getD_some, Int.sub_zero] at hi
    exact ⟨hreal.date, hreal.time, ho, hi⟩

theorem ShownBy.lt_iff (h : ShownBy n 0 m) (h' : ShownBy n' 0 m') :
    n < n' ↔ m.instant < m'.instant := by
  rw [h.instant, h'.instant, microsPerSecond]
  omega

theorem ShownBy.whole (h : ShownBy n offset m)
    (ho : ((60 * microsPerSecond : Nat) : Int) ∣ offset) : m.time.micro = 0 := by
  obtain ⟨-, -, -, hu⟩ := (Time.isValid_iff m.time).mp h.real.time
  obtain ⟨minutes, rfl⟩ := ho
  have hi := h.instant
  rw [Moment.instant, h.offset, Moment.wallMicros, Time.micros, Option.getD_some] at hi
  simp only [microsPerDay, microsPerSecond] at hi hu
  omega

theorem exists_shownBy : (∃ m, ShownBy n 0 m) ↔ -62135596800 ≤ n ∧ n ≤ 253402300799 := by
  have hdays :
      1 ≤ (n * microsPerSecond + (originOrdinal * microsPerDay : Nat)) / (microsPerDay : Int) ∧
        (n * microsPerSecond + (originOrdinal * microsPerDay : Nat)) / (microsPerDay : Int) ≤
          Date.maxOrdinal ↔ -62135596800 ≤ n ∧ n ≤ 253402300799 := by
    simp only [microsPerDay, microsPerSecond, originOrdinal, Date.maxOrdinal]
    omega
  simp only [← ofSeconds?_eq_some, ofSeconds?, ofMicros?, hdays]
  split <;> simp [*]

end Calendar.Epoch

open Epoch

theorem keptOffset_minutes {offset : Int} (ho : ((60 * microsPerSecond : Nat) : Int) ∣ offset) :
    keptOffset offset = offset := by
  obtain ⟨minutes, rfl⟩ := ho
  rw [keptOffset, microsPerSecond]
  split <;> omega

namespace Conversion

variable {n offset : Int} {m : Moment}

theorem moment_int (h : ShownBy n 0 m) : moment (.int n) = .ok m := by
  rw [moment, ofSeconds?_eq_some.mpr h]

theorem moment_int_error (h : ¬∃ m, ShownBy n 0 m) :
    moment (.int n) = .error (.epoch (.int n)) := by
  cases hn : ofSeconds? n with
  | none => rw [moment, hn]
  | some m => exact absurd ⟨m, ofSeconds?_eq_some.mp hn⟩ h

theorem shownBy_of_moment_int (h : moment (.int n) = .ok m) : ShownBy n 0 m := by
  rw [← ofSeconds?_eq_some]
  rw [moment] at h
  split at h
  · next hn =>
      cases h
      exact hn
  · cases h

theorem moment_shownBy (h : ShownBy n offset m) (ho : ((60 * microsPerSecond : Nat) : Int) ∣ offset)
    {cs : List Char} (hcs : m.time.Spelled cs) :
    moment (.text (String.ofList (m.date.chars ++ 'T' :: (cs ++ offsetChars offset)))) = .ok m := by
  have hread := moment_offset h.real hcs
  have hm : { m with offset := some offset } = m := by rw [← h.offset]
  rw [h.offset, Option.getD_some, keptOffset_minutes ho, hm] at hread
  exact hread

/-- A second is the same moment as every text of its wall clock in universal time, and the same
instant as a text of the wall clock anywhere at whole minutes; later seconds are later instants, and
a number outside the years that the calendar has is refused. -/
theorem epoch_agrees_with_text :
    (∀ (n : Int) (utc : Moment), ShownBy n 0 utc →
      moment (.int n) = .ok utc ∧ utc.time.micro = 0 ∧
      (∀ cs, UtcText utc.date utc.time cs →
        moment (.text (String.ofList cs)) = moment (.int n)) ∧
      ∀ (offset : Int) (there : Moment) (cs : List Char),
        ((60 * microsPerSecond : Nat) : Int) ∣ offset → ShownBy n offset there →
        there.time.Spelled cs →
        moment (.text (String.ofList (there.date.chars ++ 'T' :: (cs ++ offsetChars offset)))) =
          .ok there ∧ there.time.micro = 0 ∧ there.instant = utc.instant) ∧
    (∀ (n n' : Int) (m m' : Moment), moment (.int n) = .ok m → moment (.int n') = .ok m' →
      (n < n' ↔ m.instant < m'.instant)) ∧
    (∀ n : Int, (∃ utc, ShownBy n 0 utc) ↔ -62135596800 ≤ n ∧ n ≤ 253402300799) ∧
    ∀ n : Int, (decimal n.natAbs).length ≤ Number.Literal.maxIntDigits →
      (¬∃ utc, ShownBy n 0 utc) →
      ∃ e, moment (.int n) = .error e ∧ (Fault.conversion e).kind = .coercion ∧
        e.message = "epoch value " ++ (Value.int n).literal ++ " out of range" := by
  refine ⟨fun n utc h => ?_, fun n n' m m' hm hm' => ?_, fun n => exists_shownBy,
    fun n _ hn => ⟨_, moment_int_error hn, rfl, rfl⟩⟩
  · refine ⟨moment_int h, h.whole (Int.dvd_zero _), fun cs hcs => ?_,
      fun offset there cs ho hthere hcs => ?_⟩
    · have hutc : Moment.mk utc.date utc.time (some 0) = utc := by rw [← h.offset]
      rw [moment_utcText h.real.date h.real.time hcs, hutc, moment_int h]
    · exact ⟨moment_shownBy hthere ho hcs, hthere.whole ho, hthere.instant.trans h.instant.symm⟩
  · exact (shownBy_of_moment_int hm).lt_iff (shownBy_of_moment_int hm')

theorem epoch_agrees_with_text_edges :
    moment (.text "2000-02-29T12:00:00+12:00") =
      .ok ⟨⟨2000, 2, 29⟩, ⟨12, 0, 0, 0⟩, some 43200000000⟩ ∧
    moment (.text "1969-12-31 23:59:59") = moment (.int (-1)) ∧
    ((-1 : Int) < 0 ↔ (Moment.mk ⟨1969, 12, 31⟩ ⟨23, 59, 59, 0⟩ (some 0)).instant <
      (Moment.mk ⟨1970, 1, 1⟩ ⟨0, 0, 0, 0⟩ (some 0)).instant) ∧
    ∃ e, moment (.int 253402300800) = .error e := by
  have leapDay : ShownBy 951782400 0 ⟨⟨2000, 2, 29⟩, ⟨0, 0, 0, 0⟩, some 0⟩ :=
    ⟨⟨by decide, by decide, by decide⟩, rfl, by decide⟩
  have noon : ShownBy 951782400 43200000000 ⟨⟨2000, 2, 29⟩, ⟨12, 0, 0, 0⟩, some 43200000000⟩ :=
    ⟨⟨by decide, by decide, by decide⟩, rfl, by decide⟩
  have before : ShownBy (-1) 0 ⟨⟨1969, 12, 31⟩, ⟨23, 59, 59, 0⟩, some 0⟩ :=
    ⟨⟨by decide, by decide, by decide⟩, rfl, by decide⟩
  have origin : ShownBy 0 0 ⟨⟨1970, 1, 1⟩, ⟨0, 0, 0, 0⟩, some 0⟩ :=
    ⟨⟨by decide, by decide, by decide⟩, rfl, by decide⟩
  have after : ¬∃ utc, ShownBy 253402300800 0 utc := by
    rw [epoch_agrees_with_text.2.2.1]
    decide
  refine ⟨?_, ?_, ?_, ?_⟩
  · exact ((epoch_agrees_with_text.1 _ _ leapDay).2.2.2 _ _ _ (by decide) noon (.whole rfl)).1
  · exact (epoch_agrees_with_text.1 _ _ before).2.2.1 _ (.spaced (.whole rfl))
  · exact epoch_agrees_with_text.2.1 _ _ _ _ (moment_int before) (moment_int origin)
  · obtain ⟨e, he, -⟩ := epoch_agrees_with_text.2.2.2 _ (by decide) after
    exact ⟨e, he⟩

end Conversion

end SqlCluster
