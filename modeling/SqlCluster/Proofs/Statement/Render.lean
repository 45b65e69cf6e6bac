import Mathlib.Data.List.Forall2
import SqlCluster.Proofs.Json.Scalar
import SqlCluster.Statement.Basic
/-!
Statements as they are shown. The arguments take the place of question marks one after the other, so
a question mark that an argument brings along is taken by the next argument.
-/
namespace SqlCluster

open Number Calendar Text

inductive Begins : List Char → Prop
  | cons {c : Char} (h : c ≠ '?') (cs : List Char) : Begins (c :: cs)

instance : (cs : List Char) → Decidable (Begins cs)
  | [] => .isFalse nofun
  | c :: cs => decidable_of_iff (c ≠ '?') ⟨fun h => .cons h cs, fun | .cons h _ => h⟩

section Begins

variable {cs : List Char}

theorem Begins.append (h : Begins cs) (ds : List Char) : Begins (cs ++ ds) := by
  obtain ⟨hc, es⟩ := h
  exact .cons hc (es ++ ds)

theorem Begins.take (h : Begins cs) {n : Nat} (hn : 0 < n) : Begins (cs.take n) := by
  obtain ⟨hc, es⟩ := h
  obtain ⟨n, rfl⟩ := Nat.exists_eq_add_of_lt hn
  exact .cons hc _

theorem Begins.signed (h : Begins cs) (negative : Bool) :
    Begins (FloatLayout.signed negative cs) := by
  cases negative with
  | true => exact .cons (by decide) cs
  | false => exact h

theorem begins_of_within (h : Within (· ≠ '?') cs) (hne : cs ≠ []) : Begins cs := by
  obtain ⟨c, ds, rfl⟩ := List.exists_cons_of_ne_nil hne
  exact .cons (within_cons.mp h).1 ds

theorem begins_of_row (h : IsRow cs) (hne : cs ≠ []) : Begins cs :=
  begins_of_within (h.mono fun _ hc => of_asciiDigit (P := (· ≠ '?')) (by decide) hc) hne

theorem begins_decimal (n : Nat) : Begins (decimal n) :=
  begins_of_row (isRow_decimal n) Nat.toDigits_ne_nil

theorem begins_padded (width n : Nat) : Begins (padded width n) :=
  begins_of_row (isRow_padded width n) (List.append_ne_nil_of_right_ne_nil _ Nat.toDigits_ne_nil)

theorem begins_int (n : Int) : Begins (toString n).toList := by
  cases n with
  | ofNat n =>
      have hn : (toString (Int.ofNat n)).toList = decimal n := String.toList_ofList
      rw [hn]
      exact begins_decimal n
  | negSucc n =>
      have hn : (toString (Int.negSucc n)).toList = '-' :: decimal (n + 1) := by
        have hs : toString (Int.negSucc n) = "-" ++ toString (n + 1) := rfl
        rw [hs, String.toList_append]
        exact congrArg ('-' :: ·) String.toList_ofList
      rw [hn]
      exact .cons (by decide) _

theorem begins_positional {ds : List Char} (h : Begins ds) (places : Int) :
    Begins (FloatLayout.positional ds places) := by
  rw [FloatLayout.positional]
  split
  · exact .cons (by decide) _
  · next hp =>
      split
      · rw [List.append_assoc]
        exact h.append _
      · exact (h.take (by omega)).append _

theorem begins_scientific (width : Nat) {ds : List Char} (h : Begins ds) (order : Int) :
    Begins (FloatLayout.scientific width ds order) := by
  obtain ⟨hc, es⟩ := h
  cases es <;> exact .cons hc _

theorem begins_float (d : Double) : Begins (FloatLayout.plain.chars d) := by
  have hdigits (d : Decimals) : Begins (FloatLayout.plain.digits d) := by
    rw [FloatLayout.digits]
    split
    · exact begins_positional (begins_decimal _) _
    · exact begins_scientific _ (begins_decimal _) _
  rw [FloatLayout.chars.eq_def]
  split
  · exact .cons (by decide) _
  · exact Begins.signed (.cons (by decide) _) _
  · exact Begins.signed (.cons (by decide) _) _
  · exact (hdigits _).signed _

theorem begins_decimalNumber (d : Decimal) : Begins d.chars := by
  cases d with
  | infinite s => exact Begins.signed (.cons (by decide) _) s
  | nan s signaling payload =>
      refine Begins.signed (Begins.append ?_ _) s
      split <;> exact .cons (by decide) _
  | finite s c power =>
      have hbody (places : Int) : Begins
          (if places ≤ 0 then '0' :: '.' :: (List.replicate (-places).toNat '0' ++ decimal c)
          else if (decimal c).length ≤ places.toNat then
            decimal c ++ List.replicate (places.toNat - (decimal c).length) '0'
          else (decimal c).take places.toNat ++ '.' :: (decimal c).drop places.toNat) := by
        split
        · exact .cons (by decide) _
        · split
          · exact (begins_decimal c).append _
          · exact ((begins_decimal c).take (by omega)).append _
      exact ((hbody _).append _).signed s

theorem begins_date (d : Date) : Begins d.chars := by
  rw [Date.chars, List.append_assoc]
  exact (begins_padded 4 d.year).append _

theorem begins_time (t : Time) : Begins t.chars := by
  rw [Time.chars, List.append_assoc, List.append_assoc]
  exact (begins_padded 2 t.hour).append _

theorem begins_uuid (u : Uuid) : Begins u.chars := by
  have hdigits (width n : Nat) : Within (· ≠ '?') (hexFixed lowerDigits width n) := by
    have hdigit : ∀ k < 16, hexDigit lowerDigits k ≠ '?' := by decide
    induction width generalizing n with
    | zero => exact within_nil
    | succ width ih =>
        have hlast := hdigit (n % 16) (Nat.mod_lt n (by decide))
        rw [hexDigit, Nat.mod_mod] at hlast
        exact within_append.mpr ⟨ih (n / 16), within_cons.mpr ⟨hlast, within_nil⟩⟩
  have hne : hexFixed lowerDigits 32 u.value ≠ [] := by
    rw [← List.length_pos_iff, length_hexFixed]
    decide
  rw [Uuid.chars]
  simp only [List.append_assoc]
  exact ((begins_of_within (hdigits 32 u.value) hne).take (by decide)).append _

theorem begins_text {s : String} (h : Begins s.toList) (t : String) : Begins (s ++ t).toList := by
  rw [String.toList_append]
  exact h.append _

theorem begins_ofList (h : Begins cs) : Begins (String.ofList cs).toList := by
  rwa [String.toList_ofList]

theorem begins_bytes (kind : BytesKind) (data : List UInt8) :
    Begins (Value.literalBytes kind data).toList := by
  cases kind with
  | fixed => exact begins_ofList (.cons (by decide) _)
  | growing => exact begins_text (begins_text (begins_text (by decide) _) _) _
  | view => exact (by decide : Begins "<memory>".toList)

theorem begins_braced (parts : List String) : Begins (Value.braced parts).toList :=
  begins_text (begins_text (by decide) _) _

theorem begins_plain {v : Value} (hv : v.text? = none) : Begins v.plain.toList := by
  rw [Value.plain.eq_def]
  cases v with
  | text s => cases hv
  | level l => cases hv
  | null => exact .cons (by decide) _
  | bool b => cases b <;> exact .cons (by decide) _
  | int n => exact begins_int n
  | float d => exact begins_ofList (begins_float d)
  | bytes kind data => exact begins_bytes kind data
  | date d => exact begins_ofList (begins_date d)
  | time c => exact begins_ofList ((begins_time c.time).append _)
  | moment m =>
      refine begins_ofList ?_
      rw [Moment.charsWith, List.append_assoc]
      exact (begins_date m.date).append _
  | decimal d => exact begins_ofList (begins_decimalNumber d)
  | uuid u => exact begins_ofList (begins_uuid u)
  | list xs => exact begins_text (begins_text (by decide) _) _
  | tuple xs =>
      simp only [Value.literal, Value.tupleText.eq_def]
      split <;> exact begins_text (begins_text (by decide) _) _
  | map es => exact begins_braced _
  | set xs =>
      simp only [Value.literal, Value.setText.eq_def]
      split
      · exact .cons (by decide) _
      · exact begins_braced _
  | complex => exact .cons (by decide) _
  | object => exact .cons (by decide) _

end Begins

namespace Statement

inductive Doubled : List Char → List Char → Prop
  | nil : Doubled [] []
  | quote {cs ds : List Char} (h : Doubled cs ds) : Doubled ('\'' :: cs) ('\'' :: '\'' :: ds)
  | other {c : Char} {cs ds : List Char} (hc : c ≠ '\'') (h : Doubled cs ds) :
      Doubled (c :: cs) (c :: ds)

/-- How an argument is shown. -/
inductive Shown : Value → List Char → Prop
  | null : Shown .null "NULL".toList
  | text {v : Value} {s : String} {cs : List Char} (hs : v.text? = some s)
      (h : Doubled s.toList cs) : Shown v ('\'' :: cs ++ ['\''])
  | plain {v : Value} (hs : v.text? = none) (hn : v ≠ .null) : Shown v v.plain.toList

theorem doubled_replaceChar (cs : List Char) :
    Doubled cs (replaceChar '\'' ['\'', '\''] cs) := by
  induction cs with
  | nil => exact .nil
  | cons c cs ih =>
      rw [replaceChar, List.flatMap_cons]
      split
      · next hc =>
          subst hc
          exact .quote ih
      · next hc => exact .other hc ih

theorem Doubled.eq {cs ds : List Char} (h : Doubled cs ds) :
    replaceChar '\'' ['\'', '\''] cs = ds := by
  induction h with
  | nil => rfl
  | quote _ ih =>
      rw [replaceChar] at ih ⊢
      rw [List.flatMap_cons, ih, if_pos rfl]
      rfl
  | other hc _ ih =>
      rw [replaceChar] at ih ⊢
      rw [List.flatMap_cons, ih, if_neg hc]
      rfl

theorem shown_renderArgument (v : Value) : Shown v (renderArgument v) := by
  unfold renderArgument
  split
  · next s hs => exact .text hs (doubled_replaceChar s.toList)
  · next hs =>
      split
      · exact .null
      · next hn => exact .plain hs hn

theorem Shown.eq {v : Value} {cs : List Char} (h : Shown v cs) : renderArgument v = cs := by
  cases h with
  | null => rfl
  | text hs hd =>
      unfold renderArgument
      rw [hs]
      simp only [quoted, hd.eq]
  | plain hs hn =>
      unfold renderArgument
      simp only [hs]

theorem Shown.begins {v : Value} {cs : List Char} (h : Shown v cs) : Begins cs := by
  cases h with
  | null => decide
  | text hs hd => exact .cons (by decide) _
  | plain hs hn => exact begins_plain hs

theorem shown_map (params : List Value) :
    List.Forall₂ Shown params (params.map renderArgument) :=
  List.forall₂_map_right_iff.mpr (List.forall₂_same.mpr fun v _ => shown_renderArgument v)

theorem map_of_shown {params : List Value} {args : List (List Char)}
    (h : List.Forall₂ Shown params args) : params.map renderArgument = args := by
  induction h with
  | nil => rfl
  | cons hv _ ih => rw [List.map_cons, hv.eq, ih]

/-- The pieces of a text with the arguments between them. -/
def weave : List (List Char) → List (List Char) → List Char
  | piece :: pieces, arg :: args => piece ++ arg ++ weave pieces args
  | pieces, _ => pieces.flatten

def fill (text : List Char) (args : List (List Char)) : List Char :=
  args.foldl (fun text arg => replaceFirst '?' arg text) text

theorem render_eq (s : Statement) :
    s.render = String.ofList (fill s.template.chars (s.parameters.map renderArgument)) := by
  rw [render, fill, List.foldl_map]

variable {cs arg : List Char} {args : List (List Char)}

theorem fill_append (h : '?' ∉ cs) (text : List Char) (args : List (List Char)) :
    fill (cs ++ text) args = cs ++ fill text args := by
  induction args generalizing text with
  | nil => rfl
  | cons arg args ih =>
      have hfirst : replaceFirst '?' arg (cs ++ text) = cs ++ replaceFirst '?' arg text := by
        rw [replaceFirst, replaceFirst, cutFirst?_append_of_not_mem h]
        cases cutFirst? '?' text <;> simp
      rw [fill, List.foldl_cons, hfirst]
      exact ih _

theorem fill_cons (h : '?' ∉ cs) (text arg : List Char) (args : List (List Char)) :
    fill (cs ++ '?' :: text) (arg :: args) = cs ++ fill (arg ++ text) args := by
  have hfirst : replaceFirst '?' arg (cs ++ '?' :: text) = cs ++ (arg ++ text) := by
    simp only [replaceFirst, cutFirst?_append h, List.append_assoc]
  rw [← fill_append h, fill, List.foldl_cons, hfirst]
  rfl

theorem exists_mark {text : List Char} {n : Nat} (h : text.count '?' = n + 1) :
    ∃ cs ds, text = cs ++ '?' :: ds ∧ '?' ∉ cs ∧ ds.count '?' = n := by
  have hmem : '?' ∈ text := List.count_pos_iff.mp (h ▸ Nat.succ_pos n)
  obtain ⟨cs, ds, rfl, hcs⟩ := List.eq_append_cons_of_mem hmem
  refine ⟨cs, ds, rfl, hcs, ?_⟩
  rw [List.count_append, List.count_cons_self, List.count_eq_zero.mpr hcs] at h
  omega

/-- A question mark that an argument brings along is taken by the next one. -/
theorem fill_ne (harg : '?' ∈ arg) {next : List Char} (hnext : Begins next)
    (text rest : List Char) (args : List (List Char)) :
    fill (arg ++ text) (next :: args) ≠ arg ++ rest := by
  obtain ⟨as, bs, rfl, has⟩ := List.eq_append_cons_of_mem harg
  obtain @⟨c, hc, ds⟩ := hnext
  have hkept : fill ([c] ++ (ds ++ (bs ++ text))) args = [c] ++ fill (ds ++ (bs ++ text)) args :=
    fill_append (by simpa using Ne.symm hc) _ args
  rw [List.append_assoc, List.append_assoc, List.cons_append, List.cons_append, fill_cons has]
  intro h
  have hhead := List.append_cancel_left h
  rw [List.cons_append] at hhead
  rw [List.singleton_append, List.singleton_append] at hkept
  rw [hkept] at hhead
  exact hc (List.cons.inj hhead).1

theorem fill_eq_weave_iff {text : List Char} (hcount : text.count '?' = args.length)
    (hargs : ∀ arg ∈ args, Begins arg) :
    fill text args = weave (splitAt '?' text) args ↔ ∀ arg ∈ args.dropLast, '?' ∉ arg := by
  induction args generalizing text with
  | nil =>
      rw [splitAt_of_not_mem (List.count_eq_zero.mp hcount)]
      simp [fill, weave]
  | cons arg args ih =>
      obtain ⟨cs, ds, rfl, hcs, hds⟩ := exists_mark hcount
      rw [splitAt_append ds hcs, fill_cons hcs, weave, List.append_assoc,
        List.append_cancel_left_eq]
      have ih := ih hds fun a ha => hargs a (List.mem_cons_of_mem arg ha)
      by_cases harg : '?' ∈ arg
      · cases args with
        | nil =>
            rw [splitAt_of_not_mem (List.count_eq_zero.mp hds)]
            simp [fill, weave]
        | cons next args =>
            have hnext : Begins next := hargs next (by simp)
            have hearly : arg ∈ (arg :: next :: args).dropLast := by simp
            exact iff_of_false (fill_ne harg hnext _ _ args) fun h => h arg hearly harg
      · rw [fill_append harg, List.append_cancel_left_eq, ih]
        cases args with
        | nil => simp
        | cons next args => simp [harg]

/-- With as many question marks as arguments, a statement is shown with each argument in its own
place just if no argument but the last is shown with a question mark. -/
theorem render_in_place {sql : String} {params : List Value}
    (hcount : sql.toList.count '?' = params.length) :
    (∃ args, List.Forall₂ Shown params args) ∧
      ∀ args, List.Forall₂ Shown params args →
        (render ⟨.text sql, params⟩ = String.ofList (weave (splitAt '?' sql.toList) args) ↔
          ∀ arg ∈ args.dropLast, '?' ∉ arg) := by
  refine ⟨⟨_, shown_map params⟩, fun args h => ?_⟩
  have hargs : ∀ arg ∈ args, Begins arg := by
    rw [← map_of_shown h]
    intro arg harg
    obtain ⟨v, -, rfl⟩ := List.mem_map.mp harg
    exact (shown_renderArgument v).begins
  rw [render_eq, map_of_shown h, String.ofList_inj]
  exact fill_eq_weave_iff (hcount.trans h.length_eq) hargs

def insertTemplate : String := "INSERT INTO t VALUES (?, ?)"

theorem insertTemplate_in_place :
    insertTemplate.toList.count '?' = [Value.int 1, .text "why?"].length ∧
      render ⟨.text insertTemplate, [.int 1, .text "why?"]⟩ = "INSERT INTO t VALUES (1, 'why?')" := by
  refine ⟨by decide, ?_⟩
  have hshown := shown_map [.int 1, .text "why?"]
  exact ((render_in_place (by decide)).2 _ hshown).mpr (by decide)

theorem insertTemplate_out_of_place :
    insertTemplate.toList.count '?' = [Value.text "why?", .int 1].length ∧
      List.Forall₂ Shown [.text "why?", .int 1] ["'why?'".toList, "1".toList] ∧
      render ⟨.text insertTemplate, [.text "why?", .int 1]⟩ = "INSERT INTO t VALUES ('why1', ?)" ∧
      String.ofList (weave (splitAt '?' insertTemplate.toList) ["'why?'".toList, "1".toList]) =
        "INSERT INTO t VALUES ('why?', 1)" :=
  ⟨by decide, shown_map [.text "why?", .int 1], by decide, by decide⟩

end Statement

end SqlCluster
