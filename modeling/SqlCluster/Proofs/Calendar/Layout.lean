import SqlCluster.Calendar.Layout
import SqlCluster.Proofs.Calendar.Spelled
/-!
Texts in the layouts of databases. A layout takes only the characters that its parts admit, so a
text with a letter in it is in none of them; dates and times in full are read as they were written.
-/
namespace SqlCluster.Calendar

open Text

theorem decimalValue?_of_digit {c : Char} (h : isAsciiDigit c = true) :
    decimalValue? c = some (c.toNat - 48) :=
  of_asciiDigit (P := fun c => decimalValue? c = some (c.toNat - 48)) (by decide) h

theorem DigitSet.decimal_of_value? {p : DigitSet} {c : Char} {d : Nat} (h : p.value? c = some d) :
    (decimalValue? c).isSome = true := by
  cases p with
  | any => exact Option.isSome_of_eq_some h
  | between low high =>
      obtain ⟨v, hv, -⟩ := Option.bind_eq_some_iff.mp h
      rw [asciiValue?] at hv
      split at hv
      · next hc => rw [decimalValue?_of_digit hc, Option.isSome_some]
      · cases hv

theorem readPlaces?_taken {ps : List DigitSet} {cs : List Char} {r : List Nat × List Char}
    (h : readPlaces? ps cs = some r) :
    ∃ taken, cs = taken ++ r.2 ∧ Within (fun c => (decimalValue? c).isSome = true) taken := by
  induction ps generalizing cs r with
  | nil =>
      cases h
      exact ⟨[], rfl, within_nil⟩
  | cons p ps ih =>
      cases cs with
      | nil => cases h
      | cons c cs =>
          obtain ⟨d, hd, h⟩ := Option.bind_eq_some_iff.mp h
          obtain ⟨s, hs, h⟩ := Option.bind_eq_some_iff.mp h
          cases h
          obtain ⟨taken, rfl, ht⟩ := ih hs
          exact ⟨c :: taken, rfl, within_cons.mpr ⟨DigitSet.decimal_of_value? hd, ht⟩⟩

namespace LayoutPart

def admits (c : Char) : LayoutPart → Bool
  | .field _ _ => c == ' ' || (decimalValue? c).isSome
  | .literal x => c == x
  | .blanks => isBlank c
  | .fraction => isAsciiDigit c

theorem admits_field {alternatives : List (List DigitSet)} {padded : Bool} {cs : List Char}
    (h : Within (fun c => (decimalValue? c).isSome = true) cs) :
    Within ((LayoutPart.field alternatives padded).admits · = true) cs :=
  h.mono fun c hc => by rw [admits, hc, Bool.or_true]

theorem readings_taken {p : LayoutPart} {cs : List Char} {r : List Nat × List Char}
    (h : r ∈ p.readings cs) : ∃ taken, cs = taken ++ r.2 ∧ Within (p.admits · = true) taken ∧
      (p = .blanks → taken ≠ []) := by
  cases p with
  | field alternatives padded =>
      simp only [readings, List.mem_append, List.mem_filterMap] at h
      rcases h with ⟨places, -, h⟩ | h
      · obtain ⟨s, hs, rfl⟩ := Option.map_eq_some_iff.mp h
        obtain ⟨taken, hcs, ht⟩ := readPlaces?_taken hs
        exact ⟨taken, hcs, admits_field ht, nofun⟩
      · split at h
        · split at h
          · obtain ⟨s, hs, rfl⟩ := Option.map_eq_some_iff.mp (Option.mem_toList.mp h)
            obtain ⟨taken, hcs, ht⟩ := readPlaces?_taken hs
            exact ⟨' ' :: taken, congrArg (' ' :: ·) hcs,
              within_cons.mpr ⟨rfl, admits_field ht⟩, nofun⟩
          · cases h
        · cases h
  | literal x =>
      cases cs with
      | nil => cases h
      | cons c cs =>
          rw [readings] at h
          split at h
          · next hc =>
              obtain rfl := List.mem_singleton.mp h
              exact ⟨[c], rfl, within_cons.mpr ⟨beq_iff_eq.mpr hc, within_nil⟩, nofun⟩
          · cases h
  | blanks =>
      rw [readings] at h
      split at h
      · next hlt =>
          obtain rfl := List.mem_singleton.mp h
          have hfront : Within (isBlank · = true) (cs.takeWhile isBlank) :=
            fun _ => List.mem_takeWhile_imp
          refine ⟨cs.takeWhile isBlank, List.takeWhile_append_dropWhile.symm, hfront, ?_⟩
          intro _ hnil
          have hall := List.takeWhile_append_dropWhile (p := isBlank) (l := cs)
          rw [hnil, List.nil_append] at hall
          rw [hall] at hlt
          exact Nat.lt_irrefl _ hlt
      · cases h
  | fraction =>
      simp only [readings] at h
      split at h
      · cases h
      · obtain rfl := List.mem_singleton.mp h
        have hfront : Within (isAsciiDigit · = true) ((cs.takeWhile isAsciiDigit).take 6) :=
          fun _ hc => List.mem_takeWhile_imp (List.mem_of_mem_take hc)
        have hprefix : (cs.takeWhile isAsciiDigit).take 6 <+: cs :=
          (List.take_prefix 6 _).trans (List.takeWhile_prefix isAsciiDigit)
        exact ⟨_, (List.prefix_iff_eq_append.mp hprefix).symm, hfront, nofun⟩

end LayoutPart

theorem readParts?_taken {ps : List LayoutPart} {cs : List Char} {r : List Nat × List Char}
    (h : readParts? ps cs = some r) :
    ∃ taken, cs = taken ++ r.2 ∧ (∀ c ∈ taken, ∃ p ∈ ps, p.admits c = true) ∧
      (.blanks ∈ ps → ∃ c ∈ taken, isBlank c = true) := by
  induction ps generalizing cs r with
  | nil =>
      cases h
      exact ⟨[], rfl, nofun, nofun⟩
  | cons p ps ih =>
      rw [readParts?] at h
      obtain ⟨s, hs, h⟩ := List.exists_of_findSome?_eq_some h
      obtain ⟨u, hu, rfl⟩ := Option.map_eq_some_iff.mp h
      obtain ⟨front, rfl, hfront, hne⟩ := LayoutPart.readings_taken hs
      obtain ⟨taken, he, htaken, hblank⟩ := ih hu
      refine ⟨front ++ taken, by rw [he, List.append_assoc], ?_, ?_⟩
      · intro c hc
        rcases List.mem_append.mp hc with hc | hc
        · exact ⟨p, List.mem_cons_self, hfront c hc⟩
        · obtain ⟨q, hq, ha⟩ := htaken c hc
          exact ⟨q, List.mem_cons_of_mem p hq, ha⟩
      · intro hm
        rcases List.mem_cons.mp hm with rfl | hm
        · obtain ⟨c, cs, hc⟩ := List.exists_cons_of_ne_nil (hne rfl)
          exact ⟨c, by simp [hc], hfront c (by simp [hc])⟩
        · obtain ⟨c, hc, hb⟩ := hblank hm
          exact ⟨c, List.mem_append_right _ hc, hb⟩

theorem readParts?_cons {p : LayoutPart} {ps : List LayoutPart} {cs rest : List Char}
    {fields : List Nat} (h : (p.readings cs).head? = some (fields, rest))
    {s : List Nat × List Char} (hs : readParts? ps rest = some s) :
    readParts? (p :: ps) cs = some (fields ++ s.1, s.2) := by
  obtain ⟨more, hr⟩ := List.head?_eq_some_iff.mp h
  rw [readParts?, hr, List.findSome?_cons, hs, Option.map_some]

theorem readPlaces?_any {cs : List Char} (h : IsRow cs) (rest : List Char) :
    readPlaces? (List.replicate cs.length .any) (cs ++ rest) =
      some (cs.filterMap asciiValue?, rest) := by
  induction cs with
  | nil => rfl
  | cons c cs ih =>
      have h := within_cons.mp h
      have hc : (DigitSet.any).value? c = some (c.toNat - 48) := decimalValue?_of_digit h.1
      simp only [List.length_cons, List.replicate_succ, List.cons_append, readPlaces?, hc, ih h.2,
        Option.bind_eq_bind, Option.bind_some, Option.pure_def,
        List.filterMap_cons_some (asciiValue?_eq_some h.1)]

theorem readPlaces?_append {ps : List DigitSet} {cs : List Char} (h : ps.length ≤ cs.length)
    (rest : List Char) : readPlaces? ps (cs ++ rest) =
      (readPlaces? ps cs).map fun r => (r.1, r.2 ++ rest) := by
  induction ps generalizing cs with
  | nil => rfl
  | cons p ps ih =>
      cases cs with
      | nil => cases h
      | cons c cs =>
          have ih := ih (Nat.le_of_succ_le_succ h)
          simp only [List.cons_append, readPlaces?, ih]
          cases p.value? c with
          | none => rfl
          | some d => cases readPlaces? ps cs <;> rfl

namespace Layout

variable {n : Nat} (rest : List Char)

theorem readings_append {alternatives : List (List DigitSet)} {spaced : Bool} {cs : List Char}
    (ha : ∀ a ∈ alternatives, a.length ≤ cs.length) {c : Char} {ds : List Char} (hcs : cs = c :: ds)
    (hc : c ≠ ' ') : (LayoutPart.field alternatives spaced).readings (cs ++ rest) =
      ((LayoutPart.field alternatives spaced).readings cs).map fun r => (r.1, r.2 ++ rest) := by
  have hplain : alternatives.filterMap (fun a =>
      (readPlaces? a (cs ++ rest)).map fun r => ([ofDigits r.1], r.2)) =
        (alternatives.filterMap fun a =>
          (readPlaces? a cs).map fun r => ([ofDigits r.1], r.2)).map fun r => (r.1, r.2 ++ rest) := by
    rw [List.map_filterMap]
    refine List.filterMap_congr fun a hm => ?_
    rw [readPlaces?_append (ha a hm), Option.map_map, Option.map_map]
    rfl
  simp only [LayoutPart.readings, hplain, List.map_append]
  congr 1
  split
  · next he =>
      rw [hcs] at he
      exact absurd (List.cons.inj he).1 hc
  · split
    · exact absurd (List.cons.inj hcs).1.symm hc
    · rfl

theorem two_padded {alternatives : List (List DigitSet)} {spaced : Bool}
    (ha : ∀ a ∈ alternatives, a.length ≤ 2) (hn : n < 100)
    (h : ((LayoutPart.field alternatives spaced).readings (padded 2 n)).head? = some ([n], [])) :
    ((LayoutPart.field alternatives spaced).readings (padded 2 n ++ rest)).head? =
      some ([n], rest) := by
  obtain ⟨a, b, hab, hd, -⟩ := padded_two hn
  have hspace : a ≠ ' ' := by
    rintro rfl
    exact absurd hd (by decide)
  rw [readings_append rest (by rwa [hab]) hab hspace, List.head?_map, h]
  rfl

theorem year_padded (h : n < 10 ^ 4) :
    (year.readings (padded 4 n ++ rest)).head? = some ([n], rest) := by
  have hr := readPlaces?_any (isRow_padded 4 n) rest
  have hv : ofDigits ((padded 4 n).filterMap asciiValue?) = n := rowValue_padded 4 n
  rw [length_padded (by decide) h] at hr
  have hr : readPlaces? [.any, .any, .any, .any] (padded 4 n ++ rest) = _ := hr
  simp only [year, LayoutPart.readings, List.filterMap_cons, hr, Option.map_some, hv,
    List.cons_append, List.head?_cons]

theorem month_padded (h1 : 1 ≤ n) (h12 : n ≤ 12) :
    (month.readings (padded 2 n ++ rest)).head? = some ([n], rest) := by
  have hall : ∀ n ≤ 12, 1 ≤ n → (month.readings (padded 2 n)).head? = some ([n], []) := by
    decide +kernel
  exact two_padded rest (by decide) (by omega) (hall n h12 h1)

theorem day_padded (h1 : 1 ≤ n) (h31 : n ≤ 31) :
    (day.readings (padded 2 n ++ rest)).head? = some ([n], rest) := by
  have hall : ∀ n ≤ 31, 1 ≤ n → (day.readings (padded 2 n)).head? = some ([n], []) := by
    decide +kernel
  exact two_padded rest (by decide) (by omega) (hall n h31 h1)

theorem hour_padded (h : n < 24) :
    (hour.readings (padded 2 n ++ rest)).head? = some ([n], rest) := by
  have hall : ∀ n < 24, (hour.readings (padded 2 n)).head? = some ([n], []) := by decide +kernel
  exact two_padded rest (by decide) (by omega) (hall n h)

theorem minute_padded (h : n < 60) :
    (minute.readings (padded 2 n ++ rest)).head? = some ([n], rest) := by
  have hall : ∀ n < 60, (minute.readings (padded 2 n)).head? = some ([n], []) := by decide +kernel
  exact two_padded rest (by decide) (by omega) (hall n h)

theorem second_padded (h : n < 60) :
    (second.readings (padded 2 n ++ rest)).head? = some ([n], rest) := by
  have hall : ∀ n < 60, (second.readings (padded 2 n)).head? = some ([n], []) := by decide +kernel
  exact two_padded rest (by decide) (by omega) (hall n h)

theorem read?_unadmitted {layout : List LayoutPart} {cs : List Char} {c : Char}
    (h : ∀ p ∈ layout, p.admits c = false) (hc : c ∈ cs) : read? layout cs = none := by
  rw [read?]
  split
  · next fields hr =>
      obtain ⟨taken, rfl, ht, -⟩ := readParts?_taken hr
      rw [List.append_nil] at hc
      obtain ⟨p, hp, ha⟩ := ht c hc
      rw [h p hp] at ha
      cases ha
  · rfl

theorem read?_unspaced {layout : List LayoutPart} {cs : List Char} (h : .blanks ∈ layout)
    (hcs : ∀ c ∈ cs, isBlank c = false) : read? layout cs = none := by
  rw [read?]
  split
  · next fields hr =>
      obtain ⟨taken, rfl, -, hb⟩ := readParts?_taken hr
      obtain ⟨c, hc, hblank⟩ := hb h
      rw [hcs c (List.mem_append_left _ hc)] at hblank
      cases hblank
  · rfl

theorem all_lettered {cs : List Char} (h : 'T' ∈ cs) : all.findSome? (read? · cs) = none := by
  rw [List.findSome?_eq_none_iff]
  intro layout hl
  have hadmits : ∀ layout ∈ all, ∀ p ∈ layout, p.admits 'T' = false := by decide
  exact read?_unadmitted (hadmits layout hl) h

theorem literal_read (c : Char) {ps : List LayoutPart} {s : List Nat × List Char}
    (hs : readParts? ps rest = some s) : readParts? (.literal c :: ps) (c :: rest) = some s := by
  have hr : ((LayoutPart.literal c).readings (c :: rest)).head? = some ([], rest) := by
    rw [LayoutPart.readings, if_pos rfl, List.head?_cons]
  exact readParts?_cons hr hs

theorem blanks_read {ps : List LayoutPart} {s : List Nat × List Char}
    (hrest : rest.dropWhile isBlank = rest) (hs : readParts? ps rest = some s) :
    readParts? (.blanks :: ps) (' ' :: rest) = some s := by
  have hdrop : (' ' :: rest).dropWhile isBlank = rest := by
    rw [List.dropWhile_cons_of_pos (by decide), hrest]
  have hr : (LayoutPart.blanks.readings (' ' :: rest)).head? = some ([], rest) := by
    have hlt : rest.length < (' ' :: rest).length := Nat.lt_succ_self rest.length
    rw [LayoutPart.readings, hdrop, if_pos hlt, List.head?_cons]
  exact readParts?_cons hr hs

theorem date_read {d : Date} (h : d.isValid = true) (ps : List LayoutPart)
    {s : List Nat × List Char} (hs : readParts? ps rest = some s) :
    readParts? (dateOnly ++ ps) (d.chars ++ rest) =
      some (d.year :: d.month :: d.day :: s.1, s.2) := by
  obtain ⟨hy, h1, h12, h1', h31⟩ := Date.bounds_of_isValid h
  have hday := readParts?_cons (day_padded rest h1' h31) hs
  have hmonth := readParts?_cons (month_padded _ h1 h12) (literal_read _ '-' hday)
  have hyear := readParts?_cons (year_padded _ hy) (literal_read _ '-' hmonth)
  simpa only [dateOnly, Date.chars, List.append_assoc, List.cons_append, List.nil_append]
    using hyear

theorem clock_read {t : Time} (h : t.isValid = true) (ps : List LayoutPart)
    {s : List Nat × List Char} (hs : readParts? ps rest = some s) :
    readParts? ([hour, .literal ':', minute, .literal ':', second] ++ ps) (t.hands ++ rest) =
      some (t.hour :: t.minute :: t.second :: s.1, s.2) := by
  obtain ⟨hh, hm, hsec, -⟩ := (Time.isValid_iff t).mp h
  have hsecond := readParts?_cons (second_padded rest hsec) hs
  have hminute := readParts?_cons (minute_padded _ hm) (literal_read _ ':' hsecond)
  have hhour := readParts?_cons (hour_padded _ hh) (literal_read _ ':' hminute)
  simpa only [Time.hands, List.append_assoc, List.cons_append, List.nil_append] using hhour

theorem fraction_read {u : Nat} (hu : u < microsPerSecond) :
    readParts? [.literal '.', .fraction] ('.' :: padded 6 u) = some ([u], []) := by
  have hlen : (padded 6 u).length = 6 := length_padded (by decide) hu
  have hv : ofDigits ((padded 6 u).filterMap asciiValue?) = u := rowValue_padded 6 u
  have htake : ((padded 6 u).takeWhile isAsciiDigit).take 6 = padded 6 u := by
    rw [List.takeWhile_eq_self_iff.mpr (isRow_padded 6 u), List.take_of_length_le (by omega)]
  have hne : (padded 6 u).isEmpty = false := by
    rw [List.isEmpty_eq_false_iff, ← List.length_pos_iff, hlen]
    decide
  have hr : (LayoutPart.fraction.readings (padded 6 u)).head? = some ([u], []) := by
    have hone : Nat.pow 10 (6 - 6) = 1 := rfl
    simp only [LayoutPart.readings, htake, hne, hv, Bool.false_eq_true, if_false, List.head?_cons,
      hlen, hone, Nat.mul_one, List.drop_of_length_le (Nat.le_of_eq hlen)]
  have hend : readParts? [] [] = some ([], []) := rfl
  exact literal_read _ '.' (readParts?_cons hr hend)

theorem dateTime_read {d : Date} {t : Time} (hd : d.isValid = true) (ht : t.isValid = true)
    (ps : List LayoutPart) {s : List Nat × List Char} (hs : readParts? ps rest = some s) :
    readParts? (dateTime ++ ps) (d.chars ++ ' ' :: (t.hands ++ rest)) =
      some (d.year :: d.month :: d.day :: t.hour :: t.minute :: t.second :: s.1, s.2) := by
  have hdrop : (t.hands ++ rest).dropWhile isBlank = t.hands ++ rest := by
    obtain ⟨a, b, hab, ha, -⟩ := padded_two (n := t.hour) (by
      have hh := ((Time.isValid_iff t).mp ht).1
      omega)
    have hblank : isBlank a = false := (isClockChar_spec (by rw [isClockChar, ha, Bool.true_or])).1
    rw [Time.hands, hab, List.cons_append, List.cons_append, List.cons_append,
      List.dropWhile_cons_of_neg (by rw [hblank]; decide)]
  exact date_read _ hd _ (blanks_read _ hdrop (clock_read rest ht ps hs))

theorem momentOf?_fields {d : Date} {t : Time} (hd : d.isValid = true) (ht : t.isValid = true) :
    momentOf? [d.year, d.month, d.day, t.hour, t.minute, t.second, t.micro] =
      some ⟨d, t, none⟩ := by
  have hvalid : (d.isValid && t.isValid) = true := by rw [hd, ht, Bool.and_self]
  exact if_pos hvalid

theorem all_spaced {d : Date} {t : Time} (hd : d.isValid = true) (ht : t.isValid = true)
    {cs : List Char} (hcs : t.Spelled cs) :
    all.findSome? (read? · (d.chars ++ ' ' :: cs)) = some ⟨d, t, none⟩ := by
  have hmoment := momentOf?_fields hd ht
  cases hcs with
  | whole h0 =>
      have hread := dateTime_read [] hd ht [] rfl
      rw [List.append_nil, List.append_nil] at hread
      rw [h0] at hmoment
      have hfirst : read? dateTime (d.chars ++ ' ' :: t.hands) = some ⟨d, t, none⟩ := by
        rw [read?, hread]
        exact hmoment
      rw [all, List.findSome?_cons, hfirst]
  | fraction =>
      obtain ⟨-, -, -, hu⟩ := (Time.isValid_iff t).mp ht
      have hshort := dateTime_read ('.' :: padded 6 t.micro) hd ht [] rfl
      have hread := dateTime_read ('.' :: padded 6 t.micro) hd ht _ (fraction_read hu)
      rw [List.append_nil] at hshort
      have hfirst : read? dateTime (d.chars ++ ' ' :: (t.hands ++ '.' :: padded 6 t.micro)) =
          none := by
        rw [read?, hshort]
      have hsecond :
          read? dateTimeFraction (d.chars ++ ' ' :: (t.hands ++ '.' :: padded 6 t.micro)) =
            some ⟨d, t, none⟩ := by
        rw [read?, dateTimeFraction, hread]
        exact hmoment
      rw [all, List.findSome?_cons, hfirst, List.findSome?_cons, hsecond]

theorem all_date {d : Date} (h : d.isValid = true) :
    all.findSome? (read? · d.chars) = some ⟨d, .midnight, none⟩ := by
  have hcs : ∀ c ∈ d.chars, isBlank c = false :=
    fun c hc => (isClockChar_spec (d.clockChars c hc)).1
  have hread := date_read [] h [] rfl
  rw [List.append_nil, List.append_nil] at hread
  have hfirst : read? dateTime d.chars = none :=
    read?_unspaced (by simp [dateTime]) hcs
  have hsecond : read? dateTimeFraction d.chars = none :=
    read?_unspaced (by simp [dateTimeFraction, dateTime]) hcs
  have hthird : read? dateOnly d.chars = some ⟨d, .midnight, none⟩ := by
    rw [read?, hread]
    exact momentOf?_fields (t := .midnight) h rfl
  rw [all, List.findSome?_cons, hfirst, List.findSome?_cons, hsecond, List.findSome?_cons, hthird]

end Layout

end SqlCluster.Calendar
