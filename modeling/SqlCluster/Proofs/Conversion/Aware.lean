import SqlCluster.Conversion.Timestamp
import SqlCluster.Fault.Basic
import SqlCluster.Proofs.Calendar.Counting
import SqlCluster.Proofs.Json.Legible
/-!
Aware timestamps. Whatever is read as a timestamp has an offset, and it is universal time's unless
it is read of a text with another one.
-/
namespace SqlCluster

open Calendar Number Text

namespace Calendar

namespace Iso

inductive Timed (offset : Int) : List Char → Prop
  | mk {clock tail : List Char} {sign : Char} {t : Time × Bool} (hc : clock? clock = some t)
      (hs : sign = '+' ∨ sign = '-') (ho : offset? (sign == '-') tail = some offset) :
      Timed offset (clock ++ sign :: tail)

/-- A date and, behind any one character, a time of day with the offset. -/
inductive WithOffset (offset : Int) : List Char → Prop
  | mk {date rest : List Char} {d : Date} (hd : date? date = some d) (between : Char)
      (h : Timed offset rest) : WithOffset offset (date ++ between :: rest)

variable {cs : List Char} {o : Int}

theorem opens_of_dropWhile {s : Char} {rest : List Char}
    (h : cs.dropWhile (!opensOffset ·) = s :: rest) (hz : s ≠ 'Z') : s = '+' ∨ s = '-' := by
  have hopens := List.head?_dropWhile_not (!opensOffset ·) cs
  rw [h] at hopens
  simpa [opensOffset, hz, or_iff_not_imp_left] using hopens

theorem offset_of_time? {c : Clock} (h : time? cs = some c) (ho : c.offset = some o) :
    o = 0 ∨ Timed o cs := by
  obtain ⟨t, hc, h⟩ := Option.bind_eq_some_iff.mp h
  rw [drop_length_takeWhile] at h
  split at h
  · cases h
  · split at h
    · split at h
      · cases h
      · cases h
        cases ho
    · next s rest hdrop =>
        split at h
        · split at h
          · cases h
            cases ho
            exact .inl rfl
          · cases h
        · next hz =>
            obtain ⟨o', hread, h⟩ := Option.bind_eq_some_iff.mp h
            cases h
            cases ho
            have hcs : cs.takeWhile (!opensOffset ·) ++ s :: rest = cs := by
              rw [← hdrop, List.takeWhile_append_dropWhile]
            rw [← hcs]
            exact .inr (.mk hc (opens_of_dropWhile hdrop hz) hread)

theorem offset_of_moment? {m : Moment} (h : moment? cs = some m) (ho : m.offset = some o) :
    o = 0 ∨ WithOffset o cs := by
  rw [moment?] at h
  split at h
  · cases h
  · obtain ⟨d, hd, h⟩ := Option.bind_eq_some_iff.mp h
    obtain ⟨d', hdate, -⟩ := Option.bind_eq_some_iff.mp hd
    have hcs := List.take_append_drop (dateLength cs) cs
    split at h
    · cases h
      cases ho
    · next between rest hdrop =>
        obtain ⟨t, ht, h⟩ := Option.bind_eq_some_iff.mp h
        cases h
        rw [hdrop] at hcs
        rw [← hcs]
        exact (offset_of_time? ht ho).imp id (.mk hdate between)

end Iso

theorem Layout.offset_of_read? {layout : List LayoutPart} {cs : List Char} {m : Moment}
    (h : read? layout cs = some m) : m.offset = none := by
  rw [read?] at h
  split at h
  · rw [momentOf?] at h
    split at h
    · cases h
      rfl
    · cases h
  · cases h

theorem Epoch.offset_of_ofDouble? {d : Double} {m : Moment} (h : ofDouble? d = some m) :
    m.offset = some 0 := by
  cases d with
  | finite s n e => exact (ofMicros?_eq_some.mp h).2.2.1
  | _ => cases h

end Calendar

namespace Conversion

theorem offset_of_momentOfText? {cs : List Char} {m : Moment} (h : momentOfText? cs = some m) :
    ∃ o, m.offset = some o ∧ (o = 0 ∨ Iso.WithOffset o (spellOffset cs)) := by
  rw [momentOfText?] at h
  split at h
  · next n hn =>
      obtain ⟨layout, -, hread⟩ := List.exists_of_findSome?_eq_some hn
      cases h
      rw [Moment.orUtc, Layout.offset_of_read? hread]
      exact ⟨0, rfl, .inl rfl⟩
  · obtain ⟨n, hn, rfl⟩ := Option.map_eq_some_iff.mp h
    rw [Moment.orUtc]
    cases ho : n.offset with
    | none => exact ⟨0, rfl, .inl rfl⟩
    | some o => exact ⟨o, rfl, Iso.offset_of_moment? hn ho⟩

/-- An aware timestamp, in universal time unless it is read of a text with another offset. -/
structure TellsTime (j : Json) (m : Moment) (o : Int) : Prop where
  aware : m.offset = some o
  placed : o = 0 ∨ ∃ s, j = .text s ∧ Iso.WithOffset o (spellOffset (trim isBlank s.toList))

/-- A value of a document is read as an aware timestamp or refused. -/
theorem told_or_refused (j : Json) :
    (∃ m o, moment j.toValue = .ok m ∧ TellsTime j m o) ∨
      ∃ e, moment j.toValue = .error e ∧ (Fault.conversion e).kind = .coercion := by
  cases j with
  | null => exact .inr ⟨_, rfl, rfl⟩
  | bool b => exact .inr ⟨_, rfl, rfl⟩
  | int n =>
      rw [Json.toValue, moment]
      cases hn : Epoch.ofSeconds? n with
      | none => exact .inr ⟨_, rfl, rfl⟩
      | some m => exact .inl ⟨m, 0, rfl, (Epoch.ofMicros?_eq_some.mp hn).2.2.1, .inl rfl⟩
  | float d =>
      rw [Json.toValue, moment]
      cases hd : Epoch.ofDouble? d with
      | none => exact .inr ⟨_, rfl, rfl⟩
      | some m => exact .inl ⟨m, 0, rfl, Epoch.offset_of_ofDouble? hd, .inl rfl⟩
  | text s =>
      rw [Json.toValue]
      simp only [moment, Value.text?]
      cases hs : momentOfText? (trim isBlank s.toList) with
      | none => exact .inr ⟨_, rfl, rfl⟩
      | some m =>
          obtain ⟨o, ho, hplaced⟩ := offset_of_momentOfText? hs
          exact .inl ⟨m, o, rfl, ho, hplaced.imp id fun h => ⟨s, rfl, h⟩⟩
  | list xs =>
      rw [Json.toValue]
      exact .inr ⟨_, rfl, rfl⟩
  | map ms =>
      rw [Json.toValue]
      exact .inr ⟨_, rfl, rfl⟩

end Conversion

end SqlCluster
