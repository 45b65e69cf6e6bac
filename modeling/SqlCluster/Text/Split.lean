/-!
Taking text apart at a character. A cut gives what stands before and after the character, which is
itself dropped; joining the parts again gives the text back.
-/
namespace SqlCluster.Text

def cutFirst? (c : Char) : List Char → Option (List Char × List Char)
  | [] => none
  | x :: xs =>
      if x = c then some ([], xs)
      else (cutFirst? c xs).map fun p => (x :: p.1, p.2)

theorem eq_of_cutFirst? {c : Char} {s a b : List Char} (h : cutFirst? c s = some (a, b)) :
    s = a ++ c :: b := by
  induction s generalizing a with
  | nil => simp [cutFirst?] at h
  | cons x xs ih =>
      simp only [cutFirst?] at h
      split at h
      · next hx => simp only [Option.some.injEq, Prod.mk.injEq] at h; simp [← h.1, ← h.2, hx]
      · obtain ⟨p, hp, he⟩ := Option.map_eq_some_iff.1 h
        simp only [Prod.mk.injEq] at he
        obtain ⟨rfl, rfl⟩ := he
        simp [ih hp]

theorem cutFirst?_eq_none {c : Char} {s : List Char} (h : c ∉ s) : cutFirst? c s = none := by
  induction s with
  | nil => rfl
  | cons x xs ih =>
      simp only [List.mem_cons, not_or] at h
      simp [cutFirst?, Ne.symm h.1, ih h.2]

theorem cutFirst?_append {c : Char} {a b : List Char} (h : c ∉ a) :
    cutFirst? c (a ++ c :: b) = some (a, b) := by
  induction a with
  | nil => simp [cutFirst?]
  | cons x xs ih =>
      simp only [List.mem_cons, not_or] at h
      simp [cutFirst?, Ne.symm h.1, ih h.2]

def cutLast? (c : Char) : List Char → Option (List Char × List Char)
  | [] => none
  | x :: xs =>
      match cutLast? c xs with
      | some p => some (x :: p.1, p.2)
      | none => if x = c then some ([], xs) else none

theorem cutLast?_eq_none {c : Char} {s : List Char} (h : c ∉ s) : cutLast? c s = none := by
  induction s with
  | nil => rfl
  | cons x xs ih =>
      simp only [List.mem_cons, not_or] at h
      simp [cutLast?, Ne.symm h.1, ih h.2]

theorem cutLast?_append {c : Char} {a b : List Char} (h : c ∉ b) :
    cutLast? c (a ++ c :: b) = some (a, b) := by
  induction a with
  | nil => simp [cutLast?, cutLast?_eq_none h]
  | cons x xs ih => simp [cutLast?, ih]

theorem eq_of_cutLast? {c : Char} {s a b : List Char} (h : cutLast? c s = some (a, b)) :
    s = a ++ c :: b := by
  induction s generalizing a b with
  | nil => simp [cutLast?] at h
  | cons x xs ih =>
      simp only [cutLast?] at h
      split at h
      · next p hp =>
          simp only [Option.some.injEq, Prod.mk.injEq] at h
          obtain ⟨rfl, rfl⟩ := h
          simp [ih hp]
      · split at h
        · next hx => simp only [Option.some.injEq, Prod.mk.injEq] at h; simp [← h.1, ← h.2, hx]
        · simp at h

def splitAt (c : Char) : List Char → List (List Char)
  | [] => [[]]
  | x :: xs =>
      if x = c then [] :: splitAt c xs
      else match splitAt c xs with
        | [] => [[x]]
        | p :: ps => (x :: p) :: ps

theorem splitAt_ne_nil (c : Char) (s : List Char) : splitAt c s ≠ [] := by
  cases s with
  | nil => simp [splitAt]
  | cons x xs =>
      simp only [splitAt]
      split
      · simp
      · split <;> simp

theorem splitAt_of_not_mem {c : Char} {s : List Char} (h : c ∉ s) : splitAt c s = [s] := by
  induction s with
  | nil => rfl
  | cons x xs ih =>
      simp only [List.mem_cons, not_or] at h
      simp [splitAt, Ne.symm h.1, ih h.2]

theorem splitAt_append {c : Char} {a : List Char} (b : List Char) (h : c ∉ a) :
    splitAt c (a ++ c :: b) = a :: splitAt c b := by
  induction a with
  | nil => simp [splitAt]
  | cons x xs ih =>
      simp only [List.mem_cons, not_or] at h
      simp [splitAt, Ne.symm h.1, ih h.2]

def joinWith (sep : List Char) : List (List Char) → List Char
  | [] => []
  | [p] => p
  | p :: q :: ps => p ++ sep ++ joinWith sep (q :: ps)

def after? : List Char → List Char → Option (List Char)
  | [], s => some s
  | _ :: _, [] => none
  | p :: ps, x :: xs => if p = x then after? ps xs else none

theorem after?_append (p s : List Char) : after? p (p ++ s) = some s := by
  induction p with
  | nil => cases s <;> rfl
  | cons x xs ih => simp [after?, ih]

def containsText (part : List Char) : List Char → Bool
  | [] => part.isEmpty
  | x :: xs => (after? part (x :: xs)).isSome || containsText part xs

def replaceChar (c : Char) (new : List Char) (s : List Char) : List Char :=
  s.flatMap fun x => if x = c then new else [x]

def replaceFirst (c : Char) (new : List Char) (s : List Char) : List Char :=
  match cutFirst? c s with
  | some p => p.1 ++ new ++ p.2
  | none => s

end SqlCluster.Text
