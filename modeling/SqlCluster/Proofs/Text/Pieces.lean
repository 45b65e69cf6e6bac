import SqlCluster.Proofs.Text.Within
import SqlCluster.Text.Blank
/-!
Trimming, and the pieces of a text: where a text is put together they can be told from the pieces of
its parts, and trimmed pieces do not show whether the whole was trimmed before.
-/
namespace SqlCluster.Text

section Trim

variable {drop : Char → Bool} {x : Char} {cs ds : List Char}

theorem trim_cons (hx : drop x = true) (cs : List Char) : trim drop (x :: cs) = trim drop cs := by
  rw [trim, trim, List.dropWhile_cons_of_pos hx]

theorem trimEnd_concat (hx : drop x = true) (cs : List Char) :
    trimEnd drop (cs ++ [x]) = trimEnd drop cs := by
  rw [trimEnd, trimEnd, List.reverse_concat, List.dropWhile_cons_of_pos hx]

theorem trim_concat (hx : drop x = true) (cs : List Char) :
    trim drop (cs ++ [x]) = trim drop cs := by
  rw [trim, trim, List.dropWhile_append]
  cases hd : cs.dropWhile drop with
  | nil => simp [hx]
  | cons d ds => exact trimEnd_concat hx (d :: ds)

theorem trimEnd_append_cons (hx : drop x = false) (cs ds : List Char) :
    trimEnd drop (cs ++ x :: ds) = cs ++ x :: trimEnd drop ds := by
  have hk : (x :: cs.reverse).dropWhile drop = x :: cs.reverse := by
    rw [List.dropWhile_cons_of_neg]
    simp [hx]
  rw [trimEnd, trimEnd, List.reverse_append, List.reverse_cons, List.append_assoc,
    List.singleton_append, List.dropWhile_append]
  cases hd : ds.reverse.dropWhile drop with
  | nil => simp [hk]
  | cons e es => simp

theorem trim_append_cons (hx : drop x = false) (hc : Within (drop · = true) cs)
    (ds : List Char) : trim drop (cs ++ x :: ds) = trimEnd drop (x :: ds) := by
  induction cs with
  | nil =>
      rw [List.nil_append, trim, List.dropWhile_cons_of_neg]
      simp [hx]
  | cons c cs ih =>
      rw [within_cons] at hc
      rw [List.cons_append, trim_cons hc.1, ih hc.2]

theorem trimEnd_trimEnd {less : Char → Bool} (h : ∀ c, less c = true → drop c = true)
    (cs : List Char) : trimEnd less (trimEnd drop cs) = trimEnd drop cs := by
  induction cs using List.reverseRecOn with
  | nil => rfl
  | append_singleton cs x ih =>
      cases hx : drop x with
      | true => rw [trimEnd_concat hx, ih]
      | false =>
          have hless : less x = false := by
            rw [Bool.eq_false_iff]
            intro hl
            rw [h x hl] at hx
            cases hx
          rw [trimEnd_append_cons hx, trimEnd_append_cons hless]
          rfl

theorem trim_trim (cs : List Char) : trim drop (trim drop cs) = trim drop cs := by
  have htrim : trim drop cs = trimEnd drop (cs.dropWhile drop) := rfl
  cases hd : cs.dropWhile drop with
  | nil =>
      rw [htrim, hd]
      rfl
  | cons x xs =>
      have hx : drop x = false := by
        have hhead := List.head?_dropWhile_not drop cs
        rw [hd] at hhead
        exact hhead
      have hkeep : trimEnd drop (x :: xs) = x :: trimEnd drop xs := trimEnd_append_cons hx [] xs
      have hstay := trim_append_cons hx within_nil (trimEnd drop xs)
      rw [List.nil_append, ← hkeep, trimEnd_trimEnd fun _ h => h] at hstay
      rw [htrim, hd, hstay]

theorem dropWhile_of_head (h : ∀ x ∈ cs.head?, drop x = false) : cs.dropWhile drop = cs := by
  cases cs with
  | nil => rfl
  | cons c cs =>
      rw [List.dropWhile_cons_of_neg]
      simp [h c rfl]

theorem trim_of_ends (hh : ∀ x ∈ cs.head?, drop x = false)
    (hl : ∀ x ∈ cs.getLast?, drop x = false) : trim drop cs = cs := by
  have hr : cs.reverse.dropWhile drop = cs.reverse :=
    dropWhile_of_head (by rwa [List.head?_reverse])
  rw [trim, trimEnd, dropWhile_of_head hh, hr, List.reverse_reverse]

theorem Within.trim_eq (h : Within (drop · = false) cs) : trim drop cs = cs :=
  trim_of_ends (fun x hx => h x (List.mem_of_mem_head? hx))
    fun x hx => h x (List.mem_of_mem_getLast? hx)

theorem Within.trimEnd_eq (h : Within (drop · = false) cs) : trimEnd drop cs = cs := by
  cases cs using List.reverseRecOn with
  | nil => rfl
  | append_singleton cs x =>
      rw [within_append, within_cons] at h
      exact trimEnd_append_cons h.2.1 cs []

theorem trim_between {mid : List Char} (hc : Within (drop · = false) cs) (hcs : cs ≠ [])
    (hd : Within (drop · = false) ds) (hds : ds ≠ []) :
    trim drop (cs ++ mid ++ ds) = cs ++ mid ++ ds := by
  refine trim_of_ends (fun x hx => ?_) fun x hx => ?_
  · rw [List.append_assoc, List.head?_append_of_ne_nil cs hcs] at hx
    exact hc x (List.mem_of_mem_head? hx)
  · rw [List.getLast?_append_of_ne_nil _ hds] at hx
    exact hd x (List.mem_of_mem_getLast? hx)

theorem mem_dropWhile (hx : drop x = false) : x ∈ cs.dropWhile drop ↔ x ∈ cs := by
  refine ⟨fun h => (List.dropWhile_sublist drop).subset h, fun h => ?_⟩
  rw [← List.takeWhile_append_dropWhile (p := drop) (l := cs), List.mem_append] at h
  refine h.resolve_left fun ht => ?_
  rw [List.mem_takeWhile_imp ht] at hx
  cases hx

theorem Within.trimEnd {P : Char → Prop} (h : Within P cs) : Within P (trimEnd drop cs) :=
  h.of_subset fun _ hc =>
    List.mem_reverse.mp ((List.dropWhile_sublist drop).subset (List.mem_reverse.mp hc))

end Trim

theorem splitAt_append_cons (c : Char) (a b : List Char) :
    splitAt c (a ++ c :: b) = splitAt c a ++ splitAt c b := by
  induction a with
  | nil => simp [splitAt]
  | cons x xs ih =>
      by_cases hx : x = c
      · simp [splitAt, hx, ih]
      · cases hs : splitAt c xs with
        | nil => exact absurd hs (splitAt_ne_nil c xs)
        | cons p ps => simp [splitAt, hx, ih, hs]

theorem splitAt_joinWith {c : Char} {piece : List Char} {pieces : List (List Char)}
    (h : ∀ s ∈ piece :: pieces, c ∉ s) :
    splitAt c (joinWith [c] (piece :: pieces)) = piece :: pieces := by
  induction pieces generalizing piece with
  | nil => exact splitAt_of_not_mem (h piece List.mem_cons_self)
  | cons next more ih =>
      have ih := ih fun s hs => h s (List.mem_cons_of_mem piece hs)
      rw [joinWith, List.append_assoc, List.singleton_append,
        splitAt_append _ (h piece List.mem_cons_self), ih]

theorem splitAt_concat {c x : Char} (hx : x ≠ c) (cs : List Char) :
    ∃ ps p, splitAt c cs = ps ++ [p] ∧ splitAt c (cs ++ [x]) = ps ++ [p ++ [x]] := by
  induction cs with
  | nil => exact ⟨[], [], rfl, by simp [splitAt, hx]⟩
  | cons d ds ih =>
      obtain ⟨ps, p, hd, hdx⟩ := ih
      by_cases h : d = c
      · exact ⟨[] :: ps, p, by simp [splitAt, h, hd], by simp [splitAt, h, hdx]⟩
      · cases ps with
        | nil => exact ⟨[], d :: p, by simp [splitAt, h, hd], by simp [splitAt, h, hdx]⟩
        | cons q qs =>
            exact ⟨(d :: q) :: qs, p, by simp [splitAt, h, hd], by simp [splitAt, h, hdx]⟩

section TrimPieces

variable {drop : Char → Bool} {c : Char}

theorem trim_splitAt_concat (hc : drop c = false) {x : Char} (hx : drop x = true)
    (cs : List Char) :
    (splitAt c (cs ++ [x])).map (trim drop) = (splitAt c cs).map (trim drop) := by
  have hne : x ≠ c := by
    rintro rfl
    rw [hc] at hx
    cases hx
  obtain ⟨ps, p, h, hx'⟩ := splitAt_concat hne cs
  rw [h, hx', List.map_append, List.map_append, List.map_singleton, List.map_singleton,
    trim_concat hx]

theorem trim_splitAt_cons (hc : drop c = false) {x : Char} (hx : drop x = true)
    (cs : List Char) :
    (splitAt c (x :: cs)).map (trim drop) = (splitAt c cs).map (trim drop) := by
  have hne : x ≠ c := by
    rintro rfl
    rw [hc] at hx
    cases hx
  cases hs : splitAt c cs with
  | nil => exact absurd hs (splitAt_ne_nil c cs)
  | cons p ps => simp [splitAt, hne, hs, trim_cons hx]

theorem trim_splitAt_trim (hc : drop c = false) (cs : List Char) :
    (splitAt c (trim drop cs)).map (trim drop) = (splitAt c cs).map (trim drop) := by
  have hend : ∀ ds : List Char,
      (splitAt c (trimEnd drop ds)).map (trim drop) = (splitAt c ds).map (trim drop) := by
    intro ds
    induction ds using List.reverseRecOn with
    | nil => rfl
    | append_singleton ds x ih =>
        cases hx : drop x with
        | true => rw [trimEnd_concat hx, ih, trim_splitAt_concat hc hx]
        | false => rw [trimEnd_append_cons hx, trimEnd, List.reverse_nil, List.dropWhile_nil,
            List.reverse_nil]
  rw [trim, hend]
  induction cs with
  | nil => rfl
  | cons x xs ih =>
      cases hx : drop x with
      | true => rw [List.dropWhile_cons_of_pos hx, ih, trim_splitAt_cons hc hx]
      | false =>
          rw [List.dropWhile_cons_of_neg]
          simp [hx]

end TrimPieces

end SqlCluster.Text
