import SqlCluster.Proofs.Json.Grammar
import SqlCluster.Proofs.Text.Hex
import SqlCluster.Proofs.Text.Utf8
/-!
Every text of a tree is read as the tree, up to where it ends, if its lists and objects nest no
deeper than the reader goes.
-/
namespace SqlCluster.Json

open Number Text

theorem textBody?_unit {n : Nat} {us : List Char} (h : UnitText n us) (hs : n < 0xD800 ∨ 0xDFFF < n)
    (rest : List Char) :
    textBody? (us ++ rest) = (textBody? rest).map fun r => (Char.ofNat n :: r.1, r.2) := by
  obtain ⟨h⟩ := h
  have hhigh : isHighSurrogate n = false := by
    simp only [isHighSurrogate, Bool.and_eq_false_iff, decide_eq_false_iff_not]
    omega
  have hlow : isLowSurrogate n = false := by
    simp only [isLowSurrogate, Bool.and_eq_false_iff, decide_eq_false_iff_not]
    omega
  simp only [List.cons_append, List.nil_append, textBody?, h, Option.bind_some, hhigh, hlow,
    Bool.false_eq_true, if_false]

theorem textBody?_pair {high low : Nat} {us vs : List Char} (hu : UnitText high us)
    (hv : UnitText low vs) (hh : 0xD800 ≤ high ∧ high < 0xDC00) (hl : 0xDC00 ≤ low ∧ low < 0xE000)
    (rest : List Char) :
    textBody? (us ++ (vs ++ rest)) =
      (textBody? rest).map fun r => (Char.ofNat (joinSurrogates high low) :: r.1, r.2) := by
  obtain ⟨hu⟩ := hu
  obtain ⟨hv⟩ := hv
  have hhigh : isHighSurrogate high = true := by simp [isHighSurrogate, hh]
  have hlow : isLowSurrogate low = true := by simp [isLowSurrogate, hl]
  simp only [List.cons_append, List.nil_append]
  rw [textBody?.eq_3]
  simp only [hu, hv, Option.bind_some, hhigh, hlow, if_true]

theorem textBody?_escape {c x : Char} (hx : shortEscape? c = some x) (rest : List Char) :
    textBody? ('\\' :: c :: rest) = (textBody? rest).map fun r => (x :: r.1, r.2) := by
  have hu : c ≠ 'u' := by
    rintro rfl
    cases hx
  rw [textBody?.eq_4 c rest fun _ _ _ _ _ he _ => hu he, hx, Option.bind_some]

theorem textBody?_bare {c : Char} (hl : 0x20 ≤ c.toNat) (hq : c ≠ '"') (hb : c ≠ '\\')
    (rest : List Char) :
    textBody? (c :: rest) = (textBody? rest).map fun r => (c :: r.1, r.2) := by
  have hn : ¬(c.toNat < 0x20 ∨ c = '\\') := by
    rintro (h | h)
    · omega
    · exact hb h
  rw [textBody?.eq_5 c rest hq (fun _ _ _ _ _ he _ => hb he) (fun _ _ he _ => hb he), if_neg hn]

theorem joinSurrogates_split {n : Nat} (hn : 0x10000 ≤ n) :
    joinSurrogates (0xD800 + (n - 0x10000) / 0x400) (0xDC00 + (n - 0x10000) % 0x400) = n := by
  unfold joinSurrogates
  omega

theorem CharForm.read {c : Char} {cs : List Char} (h : CharForm c cs) (rest : List Char) :
    textBody? (cs ++ rest) = (textBody? rest).map fun r => (c :: r.1, r.2) := by
  have hc : Char.ofNat c.toNat = c := Char.ofNat_toNat c
  cases h with
  | bare hl hq hb => exact textBody?_bare hl hq hb rest
  | short h => exact textBody?_escape h rest
  | unit h => rw [textBody?_unit h (Utf8.toNat_not_surrogate c), hc]
  | pair h hu hv =>
      have hlt := Utf8.toNat_lt c
      rw [List.append_assoc, textBody?_pair hu hv (by omega) (by omega), joinSurrogates_split h, hc]

theorem textBody?_forms {cs : List Char} {forms : List (List Char)}
    (h : List.Forall₂ CharForm cs forms) (rest : List Char) :
    textBody? (forms.flatten ++ '"' :: rest) = some (cs, rest) := by
  induction h with
  | nil => rfl
  | cons hc _ ih => rw [List.flatten_cons, List.append_assoc, hc.read, ih, Option.map_some]

theorem QuotedText.read {s : String} {cs : List Char} (h : QuotedText s cs) (rest : List Char) :
    ∃ more, cs ++ rest = '"' :: more ∧ textBody? more = some (s.toList, rest) := by
  obtain ⟨h⟩ := h
  exact ⟨_, by rw [List.cons_append, List.append_assoc]; rfl, textBody?_forms h rest⟩

def Clear (p : Char → Bool) (cs : List Char) : Prop := ∀ c ∈ cs.head?, p c = false

theorem clear_cons {p : Char → Bool} {c : Char} {cs : List Char} (h : p c = false) :
    Clear p (c :: cs) := by
  intro d hd
  cases hd
  exact h

/-- The characters that can stand behind a value. -/
def stoppers : List Char := [',', ']', '\x7d', ' ', '\t', '\n', '\r']

def Stops (rest : List Char) : Prop := ∀ c ∈ rest.head?, c ∈ stoppers

theorem stops_nil : Stops [] := by
  intro c hc
  cases hc

theorem stops_cons {c : Char} {rest : List Char} (h : c ∈ stoppers) : Stops (c :: rest) := by
  intro d hd
  cases hd
  exact h

theorem stopper_of_isSpace {c : Char} (h : isSpace c = true) : c ∈ stoppers := by
  simp only [isSpace, Bool.or_eq_true, beq_iff_eq] at h
  rcases h with ((rfl | rfl) | rfl) | rfl <;> decide

theorem stops_append {a rest : List Char} (ha : Blanks a) (hr : Stops rest) : Stops (a ++ rest) := by
  cases a with
  | nil => exact hr
  | cons c a => exact stops_cons (stopper_of_isSpace (within_cons.mp ha).1)

theorem Stops.clear {p : Char → Bool} {rest : List Char} (hr : Stops rest)
    (hp : stoppers.any p = false) : Clear p rest := by
  intro c hc
  exact eq_false_of_ne_true (List.any_eq_false.mp hp c (hr c hc))

theorem digitRow_append {cs rest : List Char} (h : IsRow cs) (hr : Clear isAsciiDigit rest) :
    Literal.digitRow (cs ++ rest) = (cs.filterMap asciiValue?, rest) := by
  induction cs with
  | nil =>
      cases rest with
      | nil => rfl
      | cons c rest =>
          have hc : asciiValue? c = none := if_neg (by rw [hr c rfl]; decide)
          rw [List.nil_append, Literal.digitRow, hc]
          rfl
  | cons c cs ih =>
      have h := within_cons.mp h
      have hc := asciiValue?_eq_some h.1
      rw [List.cons_append, Literal.digitRow, hc, List.filterMap_cons_some hc, ih h.2]

theorem opens_of_row {cs : List Char} (h : IsRow cs) (hne : cs ≠ []) :
    ∃ c more, cs = c :: more ∧ isAsciiDigit c = true := by
  obtain ⟨c, more, rfl⟩ := List.exists_cons_of_ne_nil hne
  exact ⟨c, more, rfl, (within_cons.mp h).1⟩

theorem row?_append {cs rest : List Char} (h : IsRow cs) (hne : cs ≠ [])
    (hr : Clear isAsciiDigit rest) : row? (cs ++ rest) = some (cs.filterMap asciiValue?, rest) := by
  obtain ⟨c, more, rfl, hc⟩ := opens_of_row h hne
  have hv := asciiValue?_eq_some hc
  rw [row?, digitRow_append h hr, List.filterMap_cons_some hv]

theorem whole?_append {cs rest : List Char} (h : IsWhole cs) (hr : Clear isAsciiDigit rest) :
    whole? (cs ++ rest) = some (cs.filterMap asciiValue?, rest) := by
  obtain ⟨c, more, rfl, hc⟩ := opens_of_row h.row h.ne_nil
  have hv := asciiValue?_eq_some hc
  rw [whole?, digitRow_append h.row hr, List.filterMap_cons_some hv]
  dsimp only
  rw [if_neg]
  rintro ⟨hz, hne⟩
  have hc0 : c = '0' :=
    of_asciiDigit (P := fun c => c.toNat - 48 = 0 → c = '0') (by decide) hc hz
  have hmore := h.lead (congrArg some hc0)
  rw [(List.cons.inj hmore).2] at hne
  exact hne rfl

theorem optional?_absent {α : Type} {opens : Char → Bool}
    {read : List Char → Option (α × List Char)} {rest : List Char} (h : Clear opens rest) :
    optional? opens read rest = some (none, rest) := by
  cases rest with
  | nil => rfl
  | cons c rest =>
      have hc : opens c = false := h c rfl
      simp only [optional?, hc, Bool.false_eq_true, if_false]

def isPoint (c : Char) : Bool := c == '.'

def isPower (c : Char) : Bool := c == 'e' || c == 'E'

theorem FractionText.read {ds fs rest : List Char} (h : FractionText ds fs)
    (hd : Clear isAsciiDigit rest) (hp : Clear isPoint rest) :
    ∃ o, optional? isPoint row? (fs ++ rest) = some (o, rest) ∧
      o.getD [] = ds.filterMap asciiValue? ∧ (o.isNone = true ↔ fs = []) := by
  cases h with
  | absent => exact ⟨none, optional?_absent hp, rfl, by simp⟩
  | present h hne =>
      have ho : isPoint '.' = true := rfl
      refine ⟨some _, ?_, rfl, by simp⟩
      rw [List.cons_append, optional?, if_pos ho, row?_append h hne hd]
      rfl

theorem sign_append {negative : Bool} {ss ds : List Char} (hs : SignText negative ss)
    (h : IsRow ds) (hne : ds ≠ []) (rest : List Char) :
    Literal.sign (ss ++ ds ++ rest) = (negative, ds ++ rest) := by
  obtain ⟨c, more, rfl, hc⟩ := opens_of_row h hne
  cases hs with
  | plus => rfl
  | minus => rfl
  | none =>
      have hm : c ≠ '-' := by
        rintro rfl
        cases hc
      have hp : c ≠ '+' := by
        rintro rfl
        cases hc
      unfold Literal.sign
      split
      · next he => exact absurd (List.cons.inj he).1 hm
      · next he => exact absurd (List.cons.inj he).1 hp
      · rfl

theorem ExponentText.read {e : Int} {es rest : List Char} (h : ExponentText e es) (hr : Stops rest) :
    ∃ o, optional? isPower exponent? (es ++ rest) = some (o, rest) ∧
      o.getD 0 = e ∧ (o.isNone = true ↔ es = []) := by
  cases h with
  | absent => exact ⟨none, optional?_absent (hr.clear (by decide)), rfl, by simp⟩
  | @present c negative ss ds he hs h hne =>
      have ho : isPower c = true := by
        rcases he with rfl | rfl
        · rfl
        · rfl
      refine ⟨some _, ?_, rfl, by simp⟩
      rw [List.cons_append, optional?, if_pos ho, exponent?, sign_append hs h hne,
        row?_append h hne (hr.clear (by decide))]
      rfl

theorem ExponentText.clear {e : Int} {es rest : List Char} (h : ExponentText e es)
    {p : Char → Bool} (he : p 'e' = false ∧ p 'E' = false) (hr : Clear p rest) :
    Clear p (es ++ rest) := by
  cases h with
  | absent => exact hr
  | present hc _ _ _ =>
      rcases hc with rfl | rfl
      · exact clear_cons he.1
      · exact clear_cons he.2

theorem FractionText.clear {ds fs rest : List Char} (h : FractionText ds fs)
    (hr : Clear isAsciiDigit rest) : Clear isAsciiDigit (fs ++ rest) := by
  cases h with
  | absent => exact hr
  | present _ _ => exact clear_cons (by decide)

theorem length_digits {cs : List Char} (h : IsRow cs) :
    (cs.filterMap asciiValue?).length = cs.length := by
  induction cs with
  | nil => rfl
  | cons c cs ih =>
      have h := within_cons.mp h
      have hc := asciiValue?_eq_some h.1
      rw [List.filterMap_cons_some hc, List.length_cons, List.length_cons, ih h.2]

theorem FractionText.row {ds fs : List Char} (h : FractionText ds fs) : IsRow ds := by
  cases h with
  | absent => exact within_nil
  | present h _ => exact h

variable {rules : Rules}

theorem NumberText.opens {negative : Bool} {j : Json} {cs : List Char}
    (h : NumberText rules negative j cs) : ∃ c more, cs = c :: more ∧ isAsciiDigit c = true := by
  cases h with
  | int h _ => exact opens_of_row h.row h.ne_nil
  | float h _ _ _ _ =>
      obtain ⟨c, more, rfl, hc⟩ := opens_of_row h.row h.ne_nil
      exact ⟨c, _, rfl, hc⟩

theorem NumberText.read {negative : Bool} {j : Json} {cs rest : List Char}
    (h : NumberText rules negative j cs) (hr : Stops rest) :
    unsignedNumber? rules negative (cs ++ rest) = some (j, rest) := by
  cases h with
  | int h hw =>
      have hpoint : optional? isPoint row? rest = some (none, rest) :=
        optional?_absent (hr.clear (by decide))
      have hpower : optional? isPower exponent? rest = some (none, rest) :=
        optional?_absent (hr.clear (by decide))
      unfold isPoint at hpoint
      unfold isPower at hpower
      simp only [unsignedNumber?, whole?_append h (hr.clear (by decide)), Option.bind_eq_bind,
        Option.bind_some, length_digits h.row, hw, hpoint, hpower, if_true, Option.isNone_none,
        Bool.and_self, Option.pure_def]
      rfl
  | @float ws ds fs es e h hw hf he hp =>
      have hexp : Clear isAsciiDigit (es ++ rest) := he.clear (by decide) (hr.clear (by decide))
      obtain ⟨f, hfraction, hdigits, hnone⟩ :=
        hf.read hexp (he.clear (by decide) (hr.clear (by decide)))
      obtain ⟨p, hpower, hvalue, hnone'⟩ := he.read hr
      have hreal : (f.isNone && p.isNone) = false := by
        rw [Bool.and_eq_false_iff, ← Bool.not_eq_true, ← Bool.not_eq_true, hnone, hnone']
        exact hp
      unfold isPoint at hfraction
      unfold isPower at hpower
      simp only [unsignedNumber?, List.append_assoc, whole?_append h (hf.clear hexp),
        Option.bind_eq_bind, Option.bind_some, length_digits h.row, hw, hfraction, hpower, hreal,
        if_true, Bool.false_eq_true, if_false, hdigits, hvalue, length_digits hf.row,
        Option.pure_def, rowValue, List.filterMap_append]

theorem word?_null (rest : List Char) : word? rules ("null".toList ++ rest) = some (.null, rest) := rfl

theorem word?_wordOf (b : Bool) (rest : List Char) :
    word? rules (wordOf b ++ rest) = some (.bool b, rest) := by
  cases b <;> rfl

theorem word?_minus {c : Char} (h : isAsciiDigit c = true) (rest : List Char) :
    word? rules ('-' :: c :: rest) = none := by
  have hi : 'I' ≠ c := by
    rintro rfl
    cases h
  cases hf : rules.nonFinite <;> simp [word?, words, hf, after?, hi]

theorem leaf?_number {negative : Bool} {j : Json} {cs rest : List Char}
    (h : NumberText rules negative j cs) (hr : Stops rest) :
    leaf? rules (minus negative ++ cs ++ rest) = some (j, rest) := by
  have hread := h.read hr
  obtain ⟨c, more, rfl, hc⟩ := h.opens
  cases negative with
  | false =>
      have hq : c ≠ '"' := by
        rintro rfl
        cases hc
      rw [List.cons_append] at hread
      show leaf? rules (c :: (more ++ rest)) = _
      rw [leaf?.eq_2 rules c (more ++ rest) hq, if_pos hc, hread]
  | true =>
      have hd : isAsciiDigit '-' = false := by decide
      show leaf? rules ('-' :: c :: (more ++ rest)) = _
      rw [leaf?.eq_2 rules _ _ (by decide), hd, word?_minus hc]
      simp only [Bool.false_eq_true, if_false, if_true]
      exact hread

theorem leaf?_word {c : Char} {cs rest : List Char} {j : Json} (hq : c ≠ '"')
    (hd : isAsciiDigit c = false) (h : word? rules (c :: cs) = some (j, rest)) :
    leaf? rules (c :: cs) = some (j, rest) := by
  rw [leaf?.eq_2 rules c cs hq, hd, h]
  rfl

theorem leaf?_quoted {s : String} {cs : List Char} (h : QuotedText s cs) (rest : List Char) :
    leaf? rules (cs ++ rest) = some (.text s, rest) := by
  obtain ⟨more, he, hread⟩ := h.read rest
  rw [he, leaf?.eq_1, hread, Option.map_some, String.ofList_toList]

/-- The text opens with a character that is neither blank nor closes anything, and is read as the
value, wherever a value can end. -/
structure Takes {α : Type} (part : List Char → Option (α × List Char)) (text : List Char)
    (value : α) : Prop where
  opens : ∃ c cs, text = c :: cs ∧ isSpace c = false ∧ c ≠ ']' ∧ c ≠ '\x7d'
  reads : ∀ rest, Stops rest → part (text ++ rest) = some (value, rest)

def TakesSpaced {α : Type} (part : List Char → Option (α × List Char)) (spaced : List Char)
    (value : α) : Prop :=
  ∃ b text a, spaced = b ++ (text ++ a) ∧ Blanks b ∧ Blanks a ∧ Takes part text value

theorem skipSpace_append {b : List Char} (hb : Blanks b) (rest : List Char) :
    skipSpace (b ++ rest) = skipSpace rest := by
  induction b with
  | nil => rfl
  | cons c b ih =>
      obtain ⟨hc, hb⟩ := within_cons.mp hb
      rw [List.cons_append, skipSpace, List.dropWhile_cons_of_pos hc]
      exact ih hb

section Sequences

variable {α : Type} {part : List Char → Option (α × List Char)} {text : List Char} {value : α}
  {texts : List (List Char)} {values : List α} {close : Char}

theorem Takes.skipSpace (h : Takes part text value) (rest : List Char) :
    skipSpace (text ++ rest) = text ++ rest := by
  obtain ⟨c, cs, rfl, hc, -, -⟩ := h.opens
  rw [Json.skipSpace, List.cons_append, List.dropWhile_cons_of_neg]
  simp [hc]

theorem Takes.length_pos (h : Takes part text value) : 0 < text.length := by
  obtain ⟨c, cs, rfl, -⟩ := h.opens
  exact Nat.zero_lt_succ _

theorem TakesSpaced.length_pos (h : TakesSpaced part text value) : 0 < text.length := by
  obtain ⟨b, core, a, rfl, -, -, ht⟩ := h
  have hpos := ht.length_pos
  simp only [List.length_append]
  omega

theorem TakesSpaced.step (h : TakesSpaced part text value) {c : Char} (hc : c ∈ stoppers)
    (hs : isSpace c = false) (rest : List Char) :
    ∃ left, part (skipSpace (text ++ c :: rest)) = some (value, left) ∧
      skipSpace left = c :: rest := by
  obtain ⟨b, core, a, rfl, hb, ha, ht⟩ := h
  refine ⟨a ++ c :: rest, ?_, ?_⟩
  · rw [List.append_assoc, List.append_assoc, skipSpace_append hb, ht.skipSpace]
    exact ht.reads _ (stops_append ha (stops_cons hc))
  · rw [skipSpace_append ha, skipSpace, List.dropWhile_cons_of_neg]
    simp [hs]

theorem sequence?_joinWith (hc : close = ']' ∨ close = '\x7d')
    (h : List.Forall₂ (TakesSpaced part) texts values) (hne : texts ≠ []) {fuel : Nat}
    (hf : texts.length ≤ fuel) (rest : List Char) :
    sequence? part close fuel (joinWith [','] texts ++ close :: rest) = some (values, rest) := by
  induction h generalizing fuel with
  | nil => exact absurd rfl hne
  | @cons text value texts values ht hts ih =>
      obtain ⟨fuel, rfl⟩ : ∃ k, fuel = k + 1 := ⟨fuel - 1, by simp at hf; omega⟩
      cases hts with
      | nil =>
          have hstop : close ∈ stoppers := by rcases hc with rfl | rfl <;> decide
          have hspace : isSpace close = false := by rcases hc with rfl | rfl <;> decide
          obtain ⟨left, hpart, hleft⟩ := ht.step hstop hspace rest
          simp only [joinWith, sequence?, hpart, hleft, Option.bind_eq_bind, Option.bind_some]
          rcases hc with rfl | rfl <;> rfl
      | @cons next nextValue more moreValues hn hm =>
          have htext : joinWith [','] (text :: next :: more) ++ close :: rest =
              text ++ ',' :: (joinWith [','] (next :: more) ++ close :: rest) := by
            simp only [joinWith, List.append_assoc, List.cons_append, List.nil_append]
          obtain ⟨left, hpart, hleft⟩ := ht.step (c := ',') (by decide) (by decide)
            (joinWith [','] (next :: more) ++ close :: rest)
          have hf : (next :: more).length ≤ fuel := by simpa using hf
          rw [htext]
          simp only [sequence?, hpart, hleft, Option.bind_eq_bind, Option.bind_some,
            ih (List.cons_ne_nil next more) hf]
          rfl

theorem length_le_joinWith (sep : List Char) (h : ∀ s ∈ texts, 0 < s.length) :
    texts.length ≤ (joinWith sep texts).length := by
  induction texts with
  | nil => exact Nat.zero_le _
  | cons t ts ih =>
      have ht : 0 < t.length := h t List.mem_cons_self
      have ih := ih fun s hs => h s (List.mem_cons_of_mem _ hs)
      cases ts with
      | nil => exact ht
      | cons u us =>
          simp only [joinWith, List.length_append, List.length_cons] at ih ⊢
          omega

theorem length_pos_of_takes (h : List.Forall₂ (TakesSpaced part) texts values) :
    ∀ s ∈ texts, 0 < s.length := by
  induction h with
  | nil =>
      intro s hs
      cases hs
  | cons ht _ ih =>
      intro s hs
      rcases List.mem_cons.mp hs with rfl | hs
      · exact ht.length_pos
      · exact ih s hs

theorem joinWith_cons (sep text : List Char) (texts : List (List Char)) :
    ∃ tail, joinWith sep (text :: texts) = text ++ tail := by
  cases texts with
  | nil => exact ⟨[], (List.append_nil text).symm⟩
  | cons next more => exact ⟨sep ++ joinWith sep (next :: more), List.append_assoc ..⟩

theorem enclosed?_joinWith (hc : close = ']' ∨ close = '\x7d')
    (h : List.Forall₂ (TakesSpaced part) texts values) (hne : texts ≠ []) (rest : List Char) :
    enclosed? part close (joinWith [','] texts ++ close :: rest) = some (values, rest) := by
  have hlong : texts.length ≤ (joinWith [','] texts ++ close :: rest).length := by
    have hle := length_le_joinWith [','] (length_pos_of_takes h)
    rw [List.length_append]
    omega
  have hseq := sequence?_joinWith hc h hne hlong rest
  cases h with
  | nil => exact absurd rfl hne
  | @cons text value texts values ht hts =>
      obtain ⟨tail, htail⟩ := joinWith_cons [','] text texts
      obtain ⟨b, core, a, rfl, hb, -, ht⟩ := ht
      obtain ⟨c, cs, hopen, -, hbracket, hbrace⟩ := ht.opens
      have hclose : c ≠ close := by
        rcases hc with rfl | rfl
        · exact hbracket
        · exact hbrace
      have hhead : (skipSpace (joinWith [','] ((b ++ (core ++ a)) :: texts) ++ close :: rest)).head? =
          some c := by
        rw [htail, List.append_assoc, List.append_assoc, List.append_assoc, skipSpace_append hb,
          ht.skipSpace, hopen]
        rfl
      rw [enclosed?, hhead, if_neg (fun he => hclose (Option.some.inj he)), hseq]

theorem enclosed?_blanks (hc : close = ']' ∨ close = '\x7d') {b : List Char} (hb : Blanks b)
    (rest : List Char) : enclosed? part close (b ++ close :: rest) = some ([], rest) := by
  have hskip : skipSpace (b ++ close :: rest) = close :: rest := by
    rw [skipSpace_append hb]
    rcases hc with rfl | rfl <;> rfl
  simp only [enclosed?, hskip, List.head?_cons, if_true, List.drop_one, List.tail_cons]

end Sequences

theorem takes_member {part : List Char → Option (Json × List Char)} {k : String} {x : Json}
    {ks c d cs : List Char} (hk : QuotedText k ks) (hc : Blanks c) (hd : Blanks d)
    (h : Takes part cs x) : Takes (member part) (ks ++ (c ++ ':' :: (d ++ cs))) (k, x) where
  opens := by
    obtain ⟨hk⟩ := hk
    exact ⟨'"', _, rfl, by decide, by decide, by decide⟩
  reads := by
    intro rest hr
    obtain ⟨more, hmore, hread⟩ := hk.read (c ++ ':' :: (d ++ (cs ++ rest)))
    have htext : ks ++ (c ++ ':' :: (d ++ cs)) ++ rest = '"' :: more := by
      rw [← hmore]
      simp only [List.append_assoc, List.cons_append]
    have hcolon (cs : List Char) : skipSpace (':' :: cs) = ':' :: cs := rfl
    rw [htext]
    simp only [member, hread, Option.bind_some, skipSpace_append hc, hcolon, skipSpace_append hd,
      h.skipSpace, h.reads rest hr, Option.map_some, String.ofList_toList]

theorem takes_leaf {j : Json} {text : List Char} {depth : Nat}
    (ho : ∃ c cs, text = c :: cs ∧ isSpace c = false ∧ ']' ≠ c ∧ '\x7d' ≠ c ∧ '[' ≠ c ∧ '\x7b' ≠ c)
    (h : ∀ rest, Stops rest → leaf? rules (text ++ rest) = some (j, rest)) :
    Takes (value? rules depth) text j := by
  obtain ⟨c, cs, rfl, hspace, hbracket, hbrace, hlist, hmap⟩ := ho
  refine ⟨⟨c, cs, rfl, hspace, hbracket.symm, hbrace.symm⟩, ?_⟩
  intro rest hr
  have hleaf := h rest hr
  cases depth with
  | zero => exact hleaf
  | succ depth =>
      rw [List.cons_append] at hleaf ⊢
      rw [value?.eq_4, hleaf]
      · intro more he
        exact hlist (List.cons.inj he).1.symm
      · intro more he
        exact hmap (List.cons.inj he).1.symm

theorem opens_number {negative : Bool} {j : Json} {cs : List Char}
    (h : NumberText rules negative j cs) :
    ∃ c more, minus negative ++ cs = c :: more ∧ isSpace c = false ∧ ']' ≠ c ∧ '\x7d' ≠ c ∧
      '[' ≠ c ∧ '\x7b' ≠ c := by
  obtain ⟨c, more, rfl, hc⟩ := h.opens
  cases negative with
  | false =>
      refine ⟨c, more, rfl, ?_⟩
      exact of_asciiDigit
        (P := fun c => isSpace c = false ∧ ']' ≠ c ∧ '\x7d' ≠ c ∧ '[' ≠ c ∧ '\x7b' ≠ c)
        (by decide) hc
  | true => exact ⟨'-', _, rfl, by decide⟩

theorem opens_quoted {s : String} {cs : List Char} (h : QuotedText s cs) :
    ∃ c more, cs = c :: more ∧ isSpace c = false ∧ ']' ≠ c ∧ '\x7d' ≠ c ∧ '[' ≠ c ∧ '\x7b' ≠ c := by
  obtain ⟨h⟩ := h
  exact ⟨'"', _, rfl, by decide⟩

theorem leaf?_wordOf (b : Bool) (rest : List Char) :
    leaf? rules (wordOf b ++ rest) = some (.bool b, rest) := by
  have hw : word? rules (wordOf b ++ rest) = some (.bool b, rest) := word?_wordOf b rest
  cases b
  · exact leaf?_word (by decide) (by decide) hw
  · exact leaf?_word (by decide) (by decide) hw

theorem takes_list {xs : List Json} {body : List Char} {depth : Nat}
    (h : ∀ rest, enclosed? (value? rules depth) ']' (body ++ ']' :: rest) = some (xs, rest)) :
    Takes (value? rules (depth + 1)) ('[' :: (body ++ [']'])) (.list xs) := by
  refine ⟨⟨'[', _, rfl, by decide⟩, ?_⟩
  intro rest _
  rw [List.cons_append, List.append_assoc, List.singleton_append, value?.eq_2, h rest,
    Option.map_some]

theorem takes_map {ms : List (String × Json)} {body : List Char} {depth : Nat}
    (h : ∀ rest,
      enclosed? (member (value? rules depth)) '\x7d' (body ++ '\x7d' :: rest) = some (ms, rest)) :
    Takes (value? rules (depth + 1)) ('\x7b' :: (body ++ ['\x7d'])) (.map ms) := by
  refine ⟨⟨'\x7b', _, rfl, by decide⟩, ?_⟩
  intro rest _
  rw [List.cons_append, List.append_assoc, List.singleton_append, value?.eq_3, h rest,
    Option.map_some]

theorem succ_of_lt {n depth : Nat} (h : n + 1 ≤ depth) : ∃ d, depth = d + 1 ∧ n ≤ d :=
  ⟨depth - 1, by omega, by omega⟩

mutual

theorem TextOf.takes : ∀ {j : Json} {cs : List Char}, TextOf rules j cs → ∀ {depth : Nat},
    nesting j ≤ depth → Takes (value? rules depth) cs j
  | _, _, .null, _, _ =>
      takes_leaf ⟨'n', _, rfl, by decide⟩ fun rest _ =>
        leaf?_word (by decide) (by decide) (word?_null rest)
  | _, _, .bool (b := b), _, _ =>
      takes_leaf (by cases b <;> exact ⟨_, _, rfl, by decide⟩) fun rest _ => leaf?_wordOf b rest
  | _, _, .number h, _, _ => takes_leaf (opens_number h) fun rest hr => leaf?_number h hr
  | _, _, .text h, _, _ => takes_leaf (opens_quoted h) fun rest _ => leaf?_quoted h rest
  | _, _, .empty hb, _, hd => by
      obtain ⟨d, rfl, -⟩ := succ_of_lt hd
      exact takes_list (enclosed?_blanks (.inl rfl) hb)
  | _, _, .list h, _, hd => by
      obtain ⟨d, rfl, hn⟩ := succ_of_lt hd
      exact takes_list (enclosed?_joinWith (.inl rfl) (h.takes hn) (by cases h; simp))
  | _, _, .emptyMap hb, _, hd => by
      obtain ⟨d, rfl, -⟩ := succ_of_lt hd
      exact takes_map (enclosed?_blanks (.inr rfl) hb)
  | _, _, .map h, _, hd => by
      obtain ⟨d, rfl, hn⟩ := succ_of_lt hd
      exact takes_map (enclosed?_joinWith (.inr rfl) (h.takes hn) (by cases h; simp))

theorem ItemTexts.takes : ∀ {xs : List Json} {texts : List (List Char)}, ItemTexts rules xs texts →
    ∀ {depth : Nat}, nestingItems xs ≤ depth →
      List.Forall₂ (TakesSpaced (value? rules depth)) texts xs
  | _, _, .nil, _, _ => .nil
  | _, _, .cons hb h ha hs, _, hd => by
      rw [nestingItems, Nat.max_le] at hd
      exact .cons ⟨_, _, _, rfl, hb, ha, h.takes hd.1⟩ (hs.takes hd.2)

theorem MemberTexts.takes : ∀ {ms : List (String × Json)} {texts : List (List Char)},
    MemberTexts rules ms texts → ∀ {depth : Nat}, nestingMembers ms ≤ depth →
      List.Forall₂ (TakesSpaced (member (value? rules depth))) texts ms
  | _, _, .nil, _, _ => .nil
  | _, _, .cons hb hk hc hd h ha hs, _, hn => by
      rw [nestingMembers, Nat.max_le] at hn
      exact .cons ⟨_, _, _, rfl, hb, ha, takes_member hk hc hd (h.takes hn.1)⟩ (hs.takes hn.2)

end

theorem document?_of_textOf {j : Json} {b cs a : List Char} (hb : Blanks b) (h : TextOf rules j cs)
    (ha : Blanks a) {depth : Nat} (hd : nesting j ≤ depth) :
    document? rules depth (b ++ (cs ++ a)) = some j := by
  have ht := h.takes hd
  have hend : skipSpace a = [] := by
    have hskip := skipSpace_append ha []
    rwa [List.append_nil] at hskip
  have hstop : Stops a := by
    have hstop := stops_append ha stops_nil
    rwa [List.append_nil] at hstop
  rw [document?, skipSpace_append hb, ht.skipSpace, ht.reads a hstop]
  exact if_pos hend

theorem answer?_of_bodyOf {j : Json} {body : List UInt8} (h : BodyOf j body) :
    answer? body = some j := by
  obtain ⟨hb, h, ha, hd⟩ := h
  rw [answer?, Utf8.decode?_encode, Option.bind_some, document?_of_textOf hb h ha hd]

end SqlCluster.Json
