import SqlCluster.Calendar.Iso
import SqlCluster.Proofs.Calendar.Spelled
/-!
ISO 8601 texts read back. The text of a moment is read as the moment, except that an offset of less
than a second either way is lost.
-/
namespace SqlCluster.Calendar

open Text

/-- The offset that is left of one when its text is read: one without a whole second is none. -/
def keptOffset (offset : Int) : Int := if offset.natAbs < microsPerSecond then 0 else offset

namespace Iso

theorem digits?_append {cs : List Char} (h : IsRow cs) (rest : List Char) :
    digits? cs.length (cs ++ rest) = some (cs.filterMap asciiValue?, rest) := by
  induction cs with
  | nil => rfl
  | cons c cs ih =>
      have h := within_cons.mp h
      have hc := asciiValue?_eq_some h.1
      simp only [List.length_cons, List.cons_append, digits?, hc, ih h.2, Option.bind_eq_bind,
        Option.bind_some, Option.pure_def, List.filterMap_cons_some hc]

theorem number?_padded {w n : Nat} (hw : 0 < w) (h : n < 10 ^ w) (rest : List Char) :
    number? w (padded w n ++ rest) = some (n, rest) := by
  have hd := digits?_append (isRow_padded w n) rest
  have hv : ofDigits ((padded w n).filterMap asciiValue?) = n := rowValue_padded w n
  rw [length_padded hw h] at hd
  rw [number?, hd, Option.map_some, hv]

theorem number?_padded_end {w n : Nat} (hw : 0 < w) (h : n < 10 ^ w) :
    number? w (padded w n) = some (n, []) := by
  have hn := number?_padded hw h []
  rwa [List.append_nil] at hn

theorem date?_chars {d : Date} (h : d.isValid = true) : date? d.chars = some d := by
  obtain ⟨hy, -, hm, -, hd⟩ := Date.bounds_of_isValid h
  obtain ⟨a, b, hab, ha, -⟩ := padded_two (n := d.month) (by omega)
  have hyear := number?_padded (by decide) hy ('-' :: padded 2 d.month ++ '-' :: padded 2 d.day)
  have hmonth := number?_padded (w := 2) (n := d.month) (by decide) (by omega)
    ('-' :: padded 2 d.day)
  have hday := number?_padded_end (w := 2) (n := d.day) (by decide) (by omega)
  have hw : a ≠ 'W' := by
    rintro rfl
    exact absurd ha (by decide)
  have hmonthDate :
      monthDate? d.year true (padded 2 d.month ++ '-' :: padded 2 d.day) = some d := by
    simp only [monthDate?, hmonth, hday, if_true, Option.bind_eq_bind, Option.bind_some]
  rw [hab] at hmonthDate hyear
  rw [Date.chars, hab, List.append_assoc, date?, hyear]
  simp only [Option.bind_eq_bind, Option.bind_some, List.cons_append, List.head?_cons, if_true,
    List.drop_succ_cons, List.drop_zero, decide_true]
  split
  · next he => exact absurd (List.cons.inj he).1 hw
  · exact hmonthDate

theorem length_dateChars {d : Date} (h : d.isValid = true) : d.chars.length = 10 := by
  obtain ⟨hy, -, hm, -, hd⟩ := Date.bounds_of_isValid h
  have hmonth : (padded 2 d.month).length = 2 := length_padded (by decide) (by omega)
  have hday : (padded 2 d.day).length = 2 := length_padded (by decide) (by omega)
  simp only [Date.chars, List.length_append, List.length_cons, length_padded (by decide) hy, hmonth,
    hday]

theorem dateLength_chars {d : Date} (h : d.isValid = true) (c : Char) (rest : List Char) :
    dateLength (d.chars ++ c :: rest) = 10 := by
  obtain ⟨hy, -, hm, -, -⟩ := Date.bounds_of_isValid h
  obtain ⟨a, b, hab, ha, -⟩ := padded_two (n := d.month) (by omega)
  have hlen : (d.chars ++ c :: rest).length ≠ 7 := by
    rw [List.length_append, length_dateChars h]
    omega
  have htext : d.chars ++ c :: rest =
      padded 4 d.year ++ '-' :: a :: b :: '-' :: (padded 2 d.day ++ c :: rest) := by
    simp only [Date.chars, hab, List.append_assoc, List.cons_append, List.nil_append]
  have hw : a ≠ 'W' := by
    rintro rfl
    exact absurd ha (by decide)
  have hyear := length_padded (w := 4) (by decide) hy
  have h4 : (d.chars ++ c :: rest)[4]? = some '-' := by
    rw [htext, List.getElem?_append_right (by omega), hyear]
    rfl
  have h5 : (d.chars ++ c :: rest)[5]? = some a := by
    rw [htext, List.getElem?_append_right (by omega), hyear]
    rfl
  simp only [dateLength, hlen, h4, h5, if_false, if_true, Option.some.injEq, hw]

variable {h m s : Nat}

theorem fields?_last (n : Nat) (colons : Option Bool) (hs : s < 100) :
    fields? (n + 1) colons (padded 2 s) = some ([s], .stop false) := by
  simp only [fields?, number?_padded_end (w := 2) (by decide) hs, Option.bind_eq_bind,
    Option.bind_some, Option.pure_def]

theorem fields?_colon (n : Nat) {colons : Option Bool} (hc : colons.getD true = true) (hm : m < 100)
    (c : Char) (rest : List Char) : fields? (n + 1) colons (padded 2 m ++ ':' :: c :: rest) =
      (fields? n (some true) (c :: rest)).map fun r => (m :: r.1, r.2) := by
  have hn := number?_padded (w := 2) (by decide) hm (':' :: c :: rest)
  simp only [fields?, hn, beq_self_eq_true, hc, Option.bind_eq_bind, Option.bind_some,
    Option.pure_def, Bool.and_self, if_true]
  cases fields? n (some true) (c :: rest) <;> rfl

theorem fields?_point (n : Nat) (hs : s < 100) (c : Char) (rest : List Char) :
    fields? (n + 1) (some true) (padded 2 s ++ '.' :: c :: rest) =
      some ([s], .fraction (c :: rest)) := by
  have hn := number?_padded (w := 2) (by decide) hs ('.' :: c :: rest)
  have hne : ('.' == ':') = false := by decide
  simp only [fields?, hn, Option.getD_some, hne, Option.bind_eq_bind, Option.bind_some,
    Option.pure_def, Bool.and_false, Bool.false_eq_true, if_false, true_or, if_true]

theorem fraction?_padded {u : Nat} (hu : u < microsPerSecond) :
    fraction? (padded 6 u) = some (u, false) := by
  have hlen : (padded 6 u).length = 6 := length_padded (by decide) hu
  have hn := number?_padded_end (w := 6) (by decide) hu
  simp only [fraction?, hlen, Nat.min_self, hn, Option.bind_eq_bind, Option.bind_some,
    Option.pure_def, List.dropWhile_nil, Nat.sub_self]
  rw [show Nat.pow 10 0 = 1 from rfl, Nat.mul_one]

theorem clock?_short (hh : h < 24) (hm : m < 60) :
    clock? (padded 2 h ++ ':' :: padded 2 m) = some (⟨h, m, 0, 0⟩, false) := by
  obtain ⟨a, b, hab, -, -⟩ := padded_two (n := m) (by omega)
  have hlast := fields?_last 1 (some true) (s := m) (by omega)
  have hfirst : (none : Option Bool).getD true = true := rfl
  have hfields := fields?_colon 2 hfirst (m := h) (by omega) a [b]
  rw [← hab, hlast] at hfields
  simp only [clock?, hfields, Option.map_some, Option.bind_eq_bind, Option.bind_some]
  rfl

theorem fields?_hands {t : Time} (ht : t.isValid = true) (rest : List Char) :
    fields? 3 none (t.hands ++ rest) =
      (fields? 1 (some true) (padded 2 t.second ++ rest)).map fun r =>
        (t.hour :: t.minute :: r.1, r.2) := by
  obtain ⟨hh, hm, hs, -⟩ := (Time.isValid_iff t).mp ht
  obtain ⟨a, b, hab, -, -⟩ := padded_two (n := t.minute) (by omega)
  obtain ⟨c, d, hcd, -, -⟩ := padded_two (n := t.second) (by omega)
  have hfirst : (none : Option Bool).getD true = true := rfl
  have hnext : (some true).getD true = true := rfl
  have hminute := fields?_colon 1 hnext (m := t.minute) (by omega) c (d :: rest)
  have hhour := fields?_colon 2 hfirst (m := t.hour) (by omega) a (b :: ':' :: c :: d :: rest)
  rw [hab] at hminute
  simp only [List.cons_append, List.nil_append] at hminute
  rw [hminute, Option.map_map] at hhour
  simp only [Time.hands, hab, hcd, List.append_assoc, List.cons_append, List.nil_append]
  exact hhour

theorem clock?_spelled {t : Time} (ht : t.isValid = true) {cs : List Char} (hcs : t.Spelled cs) :
    clock? cs = some (t, false) := by
  obtain ⟨-, -, hs, hu⟩ := (Time.isValid_iff t).mp ht
  cases hcs with
  | whole h0 =>
      have hfields := fields?_hands ht []
      rw [List.append_nil, List.append_nil, fields?_last 0 (some true) (by omega)] at hfields
      have htime : (⟨t.hour, t.minute, t.second, 0⟩ : Time) = t := by rw [← h0]
      simp only [clock?, hfields, Option.map_some, Option.bind_eq_bind, Option.bind_some,
        Option.pure_def, List.getD_cons_zero, List.getD_cons_succ, htime]
  | fraction =>
      have hfields := fields?_hands ht ('.' :: padded 6 t.micro)
      have hfraction := fraction?_padded hu
      obtain ⟨c, ds, hc⟩ := List.exists_cons_of_length_pos (l := padded 6 t.micro)
        (by rw [length_padded (by decide) hu]; decide)
      rw [hc] at hfields hfraction
      rw [fields?_point 0 (by omega)] at hfields
      simp only [clock?, hc, hfields, hfraction, Option.map_some, Option.bind_eq_bind,
        Option.bind_some, Option.pure_def, List.getD_cons_zero, List.getD_cons_succ]

theorem clock?_offset {t : Time} (ht : t.isValid = true) :
    clock? (padded 2 t.hour ++ ':' :: padded 2 t.minute ++
      (if t.second = 0 ∧ t.micro = 0 then [] else ':' :: padded 2 t.second ++ fractionChars t.micro)) =
        some (t, false) := by
  obtain ⟨hh, hm, -, -⟩ := (Time.isValid_iff t).mp ht
  split
  · next h0 =>
      have htime : (⟨t.hour, t.minute, 0, 0⟩ : Time) = t := by
        obtain ⟨hour, minute, second, micro⟩ := t
        obtain ⟨rfl, rfl⟩ := h0
        rfl
      rw [List.append_nil, clock?_short hh hm, htime]
  · rw [← List.append_assoc]
    exact clock?_spelled ht t.spelled_chars

theorem offset?_of_clock (negative : Bool) {cs : List Char} {t : Time}
    (hc : clock? cs = some (t, false)) (ht : t.micros < microsPerDay)
    (hu : t.micro < microsPerSecond) :
    offset? negative cs = some (if t.micros < microsPerSecond then 0
      else if negative then -(t.micros : Int) else t.micros) := by
  rw [Time.micros] at ht ⊢
  simp only [offset?, hc, Option.bind_eq_bind, Option.bind_some, Bool.false_eq_true, if_false, ht,
    if_true, Option.pure_def]
  generalize (t.hour * 60 + t.minute) * 60 + t.second = seconds at *
  by_cases h0 : seconds = 0
  · have hlt : seconds * microsPerSecond + t.micro < microsPerSecond := by
      rwa [h0, Nat.zero_mul, Nat.zero_add]
    rw [if_pos h0, if_pos hlt]
  · have hle : ¬seconds * microsPerSecond + t.micro < microsPerSecond := by
      have h1 := Nat.le_mul_of_pos_left microsPerSecond (Nat.pos_of_ne_zero h0)
      omega
    rw [if_neg h0, if_neg hle]

theorem offset?_chars {o : Int} (ho : o.natAbs < microsPerDay) :
    ∃ sign tail, offsetChars o = sign :: tail ∧ (sign = '+' ∨ sign = '-') ∧
      offset? (sign == '-') tail = some (keptOffset o) := by
  have ht := Time.isValid_ofMicros ho
  obtain ⟨-, -, -, hu⟩ := (Time.isValid_iff _).mp ht
  have hsign : ((if o < 0 then '-' else '+') == '-') = decide (o < 0) := by
    by_cases hneg : o < 0 <;> simp [hneg]
  refine ⟨if o < 0 then '-' else '+', _, rfl, ?_, ?_⟩
  · split
    · exact .inr rfl
    · exact .inl rfl
  · have hread := offset?_of_clock (decide (o < 0)) (clock?_offset ht)
      (by rwa [Time.micros_ofMicros]) hu
    rw [Time.micros_ofMicros] at hread
    rw [hsign]
    refine hread.trans ?_
    simp only [keptOffset, decide_eq_true_eq, Option.some.injEq]
    split
    · rfl
    · split <;> omega

theorem closed_spelled {t : Time} {cs : List Char} (h : t.Spelled cs) :
    Within (fun c => (!opensOffset c) = true) cs := by
  have hpadded (width n : Nat) : Within (fun c => (!opensOffset c) = true) (padded width n) :=
    (isRow_padded width n).mono fun _ hc =>
      of_asciiDigit (P := fun c => (!opensOffset c) = true) (by decide) hc
  have hhands : Within (fun c => (!opensOffset c) = true) t.hands := by
    simp only [Time.hands, within_append, within_cons]
    exact ⟨⟨hpadded _ _, by decide, hpadded _ _⟩, by decide, hpadded _ _⟩
  cases h with
  | whole => exact hhands
  | fraction => exact within_append.mpr ⟨hhands, within_cons.mpr ⟨by decide, hpadded _ _⟩⟩

theorem time?_spelled {t : Time} (ht : t.isValid = true) {cs : List Char} (hcs : t.Spelled cs)
    {offset : Option Int} (ho : ∀ o ∈ offset, o.natAbs < microsPerDay) :
    time? (cs ++ optionalOffset offset) = some ⟨t, offset.map keptOffset⟩ := by
  have hbody := closed_spelled hcs
  have hclock := clock?_spelled ht hcs
  cases offset with
  | none =>
      have htake := (takeWhile_append_opens hbody (.inl rfl)).1
      rw [List.append_nil] at htake
      simp only [time?, optionalOffset, List.append_nil, htake, hclock, ht, Option.bind_eq_bind,
        Option.bind_some, Bool.not_true, Bool.false_eq_true, if_false, List.drop_length,
        Option.pure_def, Option.map_none]
  | some o =>
      obtain ⟨sign, tail, htext, hsign, hread⟩ := offset?_chars (ho o rfl)
      have hopens : (!opensOffset sign) = false := by rcases hsign with rfl | rfl <;> rfl
      have hz : sign ≠ 'Z' := by rcases hsign with rfl | rfl <;> decide
      have htake := (takeWhile_append_opens hbody (.inr ⟨sign, tail, rfl, hopens⟩)).1
      simp only [time?, optionalOffset, htext, htake, hclock, ht, List.drop_left, hread, hz,
        Option.bind_eq_bind, Option.bind_some, Bool.not_true, Bool.false_eq_true, if_false,
        Option.pure_def, Option.map_some]

theorem moment?_spelled {m : Moment} (hd : m.date.isValid = true) (ht : m.time.isValid = true)
    (ho : ∀ o ∈ m.offset, o.natAbs < microsPerDay) {cs : List Char} (hcs : m.time.Spelled cs)
    (separator : Char) :
    moment? (m.date.chars ++ separator :: (cs ++ optionalOffset m.offset)) =
      some { m with offset := m.offset.map keptOffset } := by
  have hlen := length_dateChars hd
  have hshort : ¬(m.date.chars ++ separator :: (cs ++ optionalOffset m.offset)).length < 7 := by
    rw [List.length_append, hlen]
    omega
  have hstop := dateLength_chars hd separator (cs ++ optionalOffset m.offset)
  rw [← hlen] at hstop
  have hvalid : m.date.valid? = some m.date := if_pos hd
  simp only [moment?, hshort, if_false, hstop, List.take_left, List.drop_left, date?_chars hd,
    Option.bind_some, hvalid, time?_spelled ht hcs ho, Option.bind_eq_bind, Option.pure_def]

end Iso

end SqlCluster.Calendar
