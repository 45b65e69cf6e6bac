import SqlCluster.Conversion.Timestamp
import SqlCluster.Json.OfValue
import SqlCluster.Proofs.Calendar.Iso
import SqlCluster.Proofs.Calendar.Layout
import SqlCluster.Proofs.Text.Pieces
/-!
Timestamps read from text. Dates and times in full are read as they were written, whichever way they
are put together, and so is what goes to a node for a date or a moment; only an offset of less than
a second is lost on the way.
-/
namespace SqlCluster

open Calendar Text

/-- A wall clock that the calendar has, at most a day away from universal time. -/
structure Calendar.Moment.IsReal (m : Moment) : Prop where
  date : m.date.isValid = true
  time : m.time.isValid = true
  offset : ∀ o ∈ m.offset, o.natAbs < microsPerDay

namespace Conversion

theorem moment_of_text {cs : List Char} {m : Moment} (htrim : trim isBlank cs = cs)
    (h : momentOfText? cs = some m) : moment (.text (String.ofList cs)) = .ok m := by
  simp only [moment, Value.text?, String.toList_ofList, htrim, h]

theorem plain_of_clockChars {cs : List Char} (h : Within (isClockChar · = true) cs) :
    Within (isBlank · = false) cs :=
  h.mono fun _ hc => (isClockChar_spec hc).1

theorem dateChars_ne_nil {d : Date} (h : d.isValid = true) : d.chars ≠ [] := by
  intro hnil
  have hlen := Iso.length_dateChars h
  rw [hnil] at hlen
  cases hlen

theorem spelled_ne_nil {t : Time} {cs : List Char} (h : t.Spelled cs) : cs ≠ [] := by
  cases h <;> simp [Time.hands]

theorem spellOffset_of_clockChars {cs : List Char} (h : Within (isClockChar · = true) cs) :
    spellOffset cs = cs := by
  induction cs with
  | nil => rfl
  | cons c cs ih =>
      obtain ⟨hc, hcs⟩ := within_cons.mp h
      have hz := (isClockChar_spec hc).2.2
      have ih := ih hcs
      rw [spellOffset, replaceChar] at ih ⊢
      rw [List.flatMap_cons, ih, if_neg hz, List.singleton_append]

theorem spellOffset_lettered (d : Date) {cs : List Char} (hcs : Within (isClockChar · = true) cs)
    (zone : List Char) : spellOffset (d.chars ++ 'T' :: (cs ++ zone)) =
      d.chars ++ 'T' :: (cs ++ spellOffset zone) := by
  have hd := spellOffset_of_clockChars d.clockChars
  have hcs := spellOffset_of_clockChars hcs
  have ht : (if 'T' = 'Z' then "+00:00".toList else ['T']) = ['T'] := if_neg (by decide)
  rw [spellOffset, replaceChar] at hd hcs ⊢
  rw [List.flatMap_append, List.flatMap_cons, List.flatMap_append, hd, hcs, ht]
  rfl

variable {m : Moment} {cs : List Char}

theorem moment_lettered (h : m.IsReal) (hcs : m.time.Spelled cs) {zone : List Char}
    (hplain : Within (isBlank · = false) zone)
    (hzone : spellOffset zone = optionalOffset m.offset) :
    moment (.text (String.ofList (m.date.chars ++ 'T' :: (cs ++ zone)))) =
      .ok { m with offset := some (keptOffset (m.offset.getD 0)) } := by
  have htrim : trim isBlank (m.date.chars ++ 'T' :: (cs ++ zone)) =
      m.date.chars ++ 'T' :: (cs ++ zone) := by
    refine Within.trim_eq (within_append.mpr ⟨plain_of_clockChars m.date.clockChars, ?_⟩)
    exact within_cons.mpr
      ⟨by decide, within_append.mpr ⟨plain_of_clockChars hcs.clockChars, hplain⟩⟩
  refine moment_of_text htrim ?_
  have hletter : 'T' ∈ m.date.chars ++ 'T' :: (cs ++ zone) := by simp
  have hread := Iso.moment?_spelled h.date h.time h.offset hcs 'T'
  rw [momentOfText?, Layout.all_lettered hletter, spellOffset_lettered m.date hcs.clockChars, hzone]
  simp only [hread, Option.map_some, Moment.orUtc]
  cases m.offset <;> rfl

theorem moment_offset (h : m.IsReal) (hcs : m.time.Spelled cs) :
    moment (.text (String.ofList (m.date.chars ++ 'T' :: (cs ++ optionalOffset m.offset)))) =
      .ok { m with offset := some (keptOffset (m.offset.getD 0)) } := by
  have hzone := clockChars_optionalOffset m.offset
  exact moment_lettered h hcs (plain_of_clockChars hzone) (spellOffset_of_clockChars hzone)

theorem moment_iso (h : m.IsReal) : moment (.text (String.ofList m.iso)) =
    .ok { m with offset := some (keptOffset (m.offset.getD 0)) } := by
  rw [Moment.iso, Moment.charsWith, List.append_assoc, List.cons_append]
  exact moment_offset h m.time.spelled_chars

variable {d : Date} {t : Time}

theorem moment_date (h : d.isValid = true) :
    moment (.text (String.ofList d.chars)) = .ok ⟨d, .midnight, some 0⟩ := by
  refine moment_of_text (plain_of_clockChars d.clockChars).trim_eq ?_
  rw [momentOfText?, Layout.all_date h]
  rfl

/-- The texts of a wall clock in universal time. -/
inductive UtcText (d : Date) (t : Time) : List Char → Prop
  | spaced {cs : List Char} (h : t.Spelled cs) : UtcText d t (d.chars ++ ' ' :: cs)
  | naive {cs : List Char} (h : t.Spelled cs) : UtcText d t (d.chars ++ 'T' :: cs)
  | letter {cs : List Char} (h : t.Spelled cs) : UtcText d t (d.chars ++ 'T' :: (cs ++ ['Z']))
  | offset {cs : List Char} (h : t.Spelled cs) :
      UtcText d t (d.chars ++ 'T' :: (cs ++ "+00:00".toList))

theorem moment_utcText (hd : d.isValid = true) (ht : t.isValid = true) (h : UtcText d t cs) :
    moment (.text (String.ofList cs)) = .ok ⟨d, t, some 0⟩ := by
  have hnaive : (Moment.mk d t none).IsReal := ⟨hd, ht, by simp⟩
  have haware : (Moment.mk d t (some 0)).IsReal := ⟨hd, ht, by simp [microsPerDay, microsPerSecond]⟩
  cases h with
  | spaced h =>
      have htrim : trim isBlank (d.chars ++ [' '] ++ _) = _ :=
        trim_between (plain_of_clockChars d.clockChars) (dateChars_ne_nil hd)
          (plain_of_clockChars h.clockChars) (spelled_ne_nil h)
      rw [List.append_assoc, List.singleton_append] at htrim
      refine moment_of_text htrim ?_
      rw [momentOfText?, Layout.all_spaced hd ht h]
      rfl
  | naive h =>
      have hread := moment_lettered hnaive h within_nil rfl
      rwa [List.append_nil] at hread
  | letter h => exact moment_lettered haware h (by decide) rfl
  | offset h => exact moment_lettered haware h (by decide) rfl

end Conversion

/-- The text that goes to a node for a value is read as the moment. -/
def ReadsBack (v : Value) (m : Moment) : Prop :=
  ∃ s, (∀ room, Json.ofValue room v = .ok (.text s)) ∧ Conversion.moment (.text s) = .ok m

theorem ReadsBack.unique {v : Value} {m n : Moment} (hm : ReadsBack v m) (hn : ReadsBack v n) :
    m = n := by
  obtain ⟨s, hs, hm⟩ := hm
  obtain ⟨r, hr, hn⟩ := hn
  have hr := (hs 0).symm.trans (hr 0)
  rw [Except.ok.injEq, Json.text.injEq] at hr
  rw [hr, hn, Except.ok.injEq] at hm
  exact hm.symm

theorem readsBack_moment {m : Moment} (h : m.IsReal) :
    ReadsBack (.moment m) { m with offset := some (keptOffset (m.offset.getD 0)) } :=
  ⟨String.ofList m.iso, fun _ => by rw [Json.ofValue], Conversion.moment_iso h⟩

theorem readsBack_date {d : Date} (h : d.isValid = true) :
    ReadsBack (.date d) ⟨d, .midnight, some 0⟩ :=
  ⟨String.ofList d.chars, fun _ => by rw [Json.ofValue], Conversion.moment_date h⟩

/-- An aware moment comes back with its wall clock and its offset, and a naive one or a date in
universal time, as does a moment that is less than a second away from it. -/
theorem timestamps_survive_wire :
    (∀ (m : Moment) (o : Int), m.IsReal → m.offset = some o →
      (o = 0 ∨ microsPerSecond ≤ o.natAbs → ReadsBack (.moment m) m) ∧
      (o.natAbs < microsPerSecond → ReadsBack (.moment m) { m with offset := some 0 })) ∧
    (∀ m : Moment, m.IsReal → m.offset = none →
      ReadsBack (.moment m) { m with offset := some 0 }) ∧
    ∀ d : Date, d.isValid = true → ReadsBack (.date d) ⟨d, .midnight, some 0⟩ := by
  refine ⟨fun m o h ho => ?_, fun m h ho => ?_, fun d h => readsBack_date h⟩
  · have hread := readsBack_moment h
    rw [ho, Option.getD_some] at hread
    constructor
    · intro hlong
      have hkept : keptOffset o = o := by
        rw [keptOffset]
        split <;> omega
      rwa [hkept, ← ho] at hread
    · intro hshort
      rwa [keptOffset, if_pos hshort] at hread
  · have hread := readsBack_moment h
    rwa [ho, Option.getD_none] at hread

theorem timestamps_survive_wire_edges :
    ReadsBack (.moment ⟨⟨1, 1, 1⟩, ⟨0, 0, 0, 1⟩, some 86399999999⟩)
      ⟨⟨1, 1, 1⟩, ⟨0, 0, 0, 1⟩, some 86399999999⟩ ∧
    ReadsBack (.moment ⟨⟨9999, 12, 31⟩, ⟨23, 59, 59, 999999⟩, some (-1)⟩)
      ⟨⟨9999, 12, 31⟩, ⟨23, 59, 59, 999999⟩, some 0⟩ ∧
    ReadsBack (.moment ⟨⟨2024, 2, 29⟩, ⟨23, 59, 59, 999999⟩, none⟩)
      ⟨⟨2024, 2, 29⟩, ⟨23, 59, 59, 999999⟩, some 0⟩ ∧
    ReadsBack (.date ⟨2024, 2, 29⟩) ⟨⟨2024, 2, 29⟩, ⟨0, 0, 0, 0⟩, some 0⟩ :=
  ⟨(timestamps_survive_wire.1 _ 86399999999 ⟨by decide, by decide, by decide⟩ rfl).1
      (.inr (by decide)),
    (timestamps_survive_wire.1 _ (-1) ⟨by decide, by decide, by decide⟩ rfl).2 (by decide),
    timestamps_survive_wire.2.1 _ ⟨by decide, by decide, by decide⟩ rfl,
    timestamps_survive_wire.2.2 _ (by decide)⟩

theorem short_offset_lost :
    ¬∀ (m : Moment) (o : Int), m.IsReal → m.offset = some o → ReadsBack (.moment m) m := by
  intro h
  have hreal : (Moment.mk ⟨2024, 1, 2⟩ ⟨3, 4, 5, 0⟩ (some 1)).IsReal :=
    ⟨by decide, by decide, by decide⟩
  have heq := (h _ 1 hreal rfl).unique (readsBack_moment hreal)
  exact absurd heq (by decide)

end SqlCluster
