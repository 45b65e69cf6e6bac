import SqlCluster.Proofs.Outcome
import SqlCluster.Proofs.Result.Forward
/-!
Columns by name. A select list may name a column more than once. A cell that is asked for by name is
the first one's of that name, and the cell in the map of a row is the last one's.
-/
namespace SqlCluster

open Conversion Outcome

theorem Value.compare?_text (v : Value) (s : String) :
    compare? v (.text s) = some (decide (v.text? = some s)) := by
  cases v <;> simp [compare?, compareLeaves?, quantity?, sameLeaf, text?, ← Bool.beq_eq_decide_eq]

theorem Value.equals_text (v : Value) (s : String) :
    equals v (.text s) = decide (v.text? = some s) := by
  rw [equals, compare?_text]
  cases decide (v.text? = some s) <;> rfl

namespace Keyed

def get? (key : Value) (es : Keyed) : Option Value :=
  (es.find? fun e => Value.equals e.1 key).map (·.2)

theorem get?_cons (key : Value) (e : Value × Value) (es : Keyed) :
    get? key (e :: es) = if Value.equals e.1 key then some e.2 else get? key es := by
  rw [get?, List.find?_cons]
  cases Value.equals e.1 key <;> rfl

theorem get?_put (s t : String) (v : Value) (es : Keyed) :
    get? (.text t) (put (.text s) v es) = if s = t then some v else get? (.text t) es := by
  induction es with
  | nil => by_cases h : s = t <;> simp [put, get?, Value.equals_text, Value.text?, h]
  | cons e es ih =>
      simp only [put, Value.equals_text, decide_eq_true_eq]
      by_cases hs : e.1.text? = some s
      · by_cases h : s = t <;> simp [get?_cons, Value.equals_text, hs, h]
      · rw [if_neg hs, get?_cons, get?_cons, ih]
        by_cases ht : e.1.text? = some t
        · have h : s ≠ t := fun h => hs (h ▸ ht)
          simp [Value.equals_text, ht, h]
        · simp [Value.equals_text, ht]

end Keyed

structure FirstAt (names : List String) (s : String) (k : Nat) : Prop where
  named : names[k]? = some s
  first : ∀ l < k, names[l]? ≠ some s

structure LastAt (names : List String) (s : String) (k : Nat) : Prop where
  named : names[k]? = some s
  last : ∀ l, k < l → names[l]? ≠ some s

section Places

variable {x s : String} {xs names : List String} {k : Nat}

theorem FirstAt.of_cons (h : FirstAt (x :: xs) s (k + 1)) : x ≠ s ∧ FirstAt xs s k :=
  ⟨fun hx => h.first 0 (Nat.succ_pos k) (congrArg some hx), h.named,
    fun l hl => h.first (l + 1) (Nat.succ_lt_succ hl)⟩

theorem LastAt.of_cons (h : LastAt (x :: xs) s (k + 1)) : LastAt xs s k :=
  ⟨h.named, fun l hl => h.last (l + 1) (Nat.succ_lt_succ hl)⟩

theorem LastAt.not_mem (h : LastAt (x :: xs) s 0) : s ∉ xs := by
  intro hs
  obtain ⟨l, hl⟩ := List.mem_iff_getElem?.mp hs
  exact h.last (l + 1) (Nat.succ_pos l) hl

theorem LastAt.of_length (hs : names[k]? = some s) (hk : names.length = k + 1) :
    LastAt names s k := by
  refine ⟨hs, fun l hl => ?_⟩
  rw [List.getElem?_eq_none (by omega)]
  exact Option.some_ne_none s |>.symm

theorem exists_firstAt (h : s ∈ names) : ∃ k, FirstAt names s k := by
  induction names with
  | nil => cases h
  | cons x xs ih =>
      by_cases hx : x = s
      · exact ⟨0, congrArg some hx, nofun⟩
      · obtain ⟨k, hk⟩ := ih ((List.mem_cons.mp h).resolve_left (Ne.symm hx))
        refine ⟨k + 1, hk.named, fun l hl => ?_⟩
        cases l with
        | zero => simpa using hx
        | succ l => exact hk.first l (Nat.lt_of_succ_lt_succ hl)

theorem exists_lastAt (h : s ∈ names) : ∃ k, LastAt names s k := by
  induction names with
  | nil => cases h
  | cons x xs ih =>
      by_cases hxs : s ∈ xs
      · obtain ⟨k, hk⟩ := ih hxs
        refine ⟨k + 1, hk.named, fun l hl => ?_⟩
        cases l with
        | zero => cases hl
        | succ l => exact hk.last l (Nat.lt_of_succ_lt_succ hl)
      · have hx : s = x := (List.mem_cons.mp h).resolve_right hxs
        refine ⟨0, congrArg some hx.symm, fun l hl => ?_⟩
        cases l with
        | zero => cases hl
        | succ l => exact fun hs => hxs (List.mem_of_getElem? hs)

end Places

section Conversions

variable {α : Type} {x : Except ConversionError α}

theorem ReadError.ofConversion_eq_ok {a : α} : ofConversion x = .ok a ↔ x = .ok a := by
  cases x <;> simp [ofConversion]

theorem ReadError.ofConversion_eq_error {e : ReadError} :
    ofConversion x = .error e ↔ ∃ f, x = .error f ∧ e = .conversion f := by
  cases x <;> simp [ofConversion, eq_comm]

end Conversions

namespace QueryResult

section Cells

variable {declared : String} {v : Value}

theorem readCell_plain (h : declared ∉ timeTypes) : readCell declared v = .ok v := by
  unfold readCell
  split
  · rfl
  · rw [if_neg]
    simpa using h

theorem readCell_time (h : declared ∈ timeTypes) (hv : v ≠ .null) :
    readCell declared v = (moment v).map .moment := by
  unfold readCell
  split
  · exact absurd rfl hv
  · rw [if_pos]
    simpa using h

theorem readCell_error {e : ConversionError} (h : readCell declared v = .error e) :
    declared ∈ timeTypes ∧ v ≠ .null ∧ moment v = .error e := by
  by_cases hd : declared ∈ timeTypes
  · have hv : v ≠ .null := by
      rintro rfl
      cases h
    rw [readCell_time hd hv] at h
    exact ⟨hd, hv, map_eq_error.mp h⟩
  · rw [readCell_plain hd] at h
    cases h

end Cells

section Rows

variable {types : List String} {cells : List Value} {done m : Keyed} {names : List String}
  {s : String} {k : Nat}

theorem readRow_cons (types : List String) (cells : List Value) (done : Keyed) (x : String)
    (xs : List String) :
    readRow types cells done ((x :: xs).map .text) =
      (ReadError.ofConversion (readCell (types.getD 0 "") (cells.getD 0 .null)) >>= fun v =>
        readRow (types.drop 1) (cells.drop 1) (Keyed.put (.text x) v done) (xs.map .text)) := by
  cases types <;> cases cells <;> rfl

theorem readRow_cases (types : List String) (cells : List Value) (done : Keyed)
    (names : List String) :
    (∃ m, readRow types cells done (names.map .text) = .ok m) ∨
      ∃ k f, k < names.length ∧ readCell (types.getD k "") (cells.getD k .null) = .error f ∧
        readRow types cells done (names.map .text) = .error (.conversion f) := by
  induction names generalizing types cells done with
  | nil => exact .inl ⟨done, rfl⟩
  | cons x xs ih =>
      rw [readRow_cons]
      cases hc : readCell (types.getD 0 "") (cells.getD 0 .null) with
      | error f => exact .inr ⟨0, f, Nat.succ_pos _, hc, rfl⟩
      | ok v =>
          rcases ih (types.drop 1) (cells.drop 1) (Keyed.put (.text x) v done) with
            ⟨m, hm⟩ | ⟨k, f, hk, hf, hr⟩
          · exact .inl ⟨m, hm⟩
          · refine .inr ⟨k + 1, f, Nat.succ_lt_succ hk, ?_, hr⟩
            simpa [List.getD_eq_getElem?_getD, Nat.add_comm 1] using hf

theorem get?_readRow (h : readRow types cells done (names.map .text) = .ok m) (s : String) :
    (s ∉ names → m.get? (.text s) = done.get? (.text s)) ∧
      ∀ k, LastAt names s k →
        ∃ v, readCell (types.getD k "") (cells.getD k .null) = .ok v ∧
          m.get? (.text s) = some v := by
  induction names generalizing types cells done with
  | nil =>
      cases h
      exact ⟨fun _ => rfl, fun k hk => nomatch hk.named⟩
  | cons x xs ih =>
      rw [readRow_cons] at h
      obtain ⟨v, hv, h⟩ := bind_eq_ok.mp h
      have hcell := ReadError.ofConversion_eq_ok.mp hv
      obtain ⟨hout, hin⟩ := ih h
      refine ⟨fun hs => ?_, fun k hk => ?_⟩
      · rw [List.mem_cons, not_or] at hs
        rw [hout hs.2, Keyed.get?_put, if_neg (Ne.symm hs.1)]
      · cases k with
        | zero =>
            have hx : x = s := Option.some.inj hk.named
            refine ⟨v, hcell, ?_⟩
            rw [hout hk.not_mem, Keyed.get?_put, if_pos hx]
        | succ k =>
            obtain ⟨w, hw, hm⟩ := hin k hk.of_cons
            refine ⟨w, ?_, hm⟩
            simpa [List.getD_eq_getElem?_getD, Nat.add_comm 1] using hw

theorem place?_of_firstAt (h : FirstAt names s k) :
    place? (.text s) (names.map .text) = .ok k := by
  induction names generalizing k with
  | nil => cases h.named
  | cons x xs ih =>
      rw [List.map_cons, place?, Value.compare?_text]
      cases k with
      | zero =>
          have hx : x = s := Option.some.inj h.named
          simp only [Value.text?, hx, decide_true]
      | succ k =>
          obtain ⟨hx, h⟩ := h.of_cons
          simp only [Value.text?, Option.some.injEq, hx, decide_false, ih h]
          rfl

end Rows

variable {q : QueryResult} {names : List String} {n k : Nat} {row : List Value} {m : Keyed}
  {s : String} {v : Value}

theorem current_of_row (hrow : q.rows[n]? = some row) :
    Cursor.current ⟨q, n + 1⟩ = .ok row := by
  simp only [Cursor.current, hrow]

theorem rowMap_eq (hnames : q.columns = names.map .text) (hrow : q.rows[n]? = some row) :
    q.rowMap n = readRow q.types row [] (names.map .text) := by
  rw [rowMap, Cursor.asMap, current_of_row hrow, ← hnames]
  rfl

theorem value_of_firstAt (hnames : q.columns = names.map .text) (hrow : q.rows[n]? = some row)
    (hk : FirstAt names s k) (hv : row[k]? = some v) :
    Cursor.value ⟨q, n + 1⟩ (.text s) = .ok v := by
  have hplace := place?_of_firstAt hk
  rw [← hnames] at hplace
  simp only [Cursor.value, current_of_row hrow, hplace, bind, Except.bind, hv]

def TimeAt (q : QueryResult) (k : Nat) : Prop := q.types.getD k "" ∈ timeTypes

instance (q : QueryResult) (k : Nat) : Decidable (q.TimeAt k) :=
  inferInstanceAs (Decidable (_ ∈ _))

theorem get?_rowMap (hnames : q.columns = names.map .text) (hrow : q.rows[n]? = some row)
    (hm : q.rowMap n = .ok m) (hk : LastAt names s k) :
    ∃ v, readCell (q.types.getD k "") (row.getD k .null) = .ok v ∧ m.get? (.text s) = some v := by
  rw [rowMap_eq hnames hrow] at hm
  exact (get?_readRow hm s).2 k hk

theorem rowMap_cases (hnames : q.columns = names.map .text) (hrow : q.rows[n]? = some row) :
    (∃ m, q.rowMap n = .ok m) ∨
      ∃ k v f, q.TimeAt k ∧ row[k]? = some v ∧ v ≠ .null ∧ moment v = .error f ∧
        q.rowMap n = .error (.conversion f) := by
  rw [rowMap_eq hnames hrow]
  rcases readRow_cases q.types row [] names with h | ⟨k, f, -, hf, hr⟩
  · exact .inl h
  · obtain ⟨ht, hv, hf⟩ := readCell_error hf
    refine .inr ⟨k, row.getD k .null, f, ht, ?_, hv, hf, hr⟩
    cases hk : row[k]? with
    | some v => rw [List.getD_eq_getElem?_getD, hk, Option.getD_some]
    | none => simp [List.getD_eq_getElem?_getD, hk] at hv

/-- What is asked for by name is what the map of the row has under the name, if there is a map. -/
def AgreesOn (q : QueryResult) (n : Nat) (s : String) : Prop :=
  ∀ m, q.rowMap n = .ok m →
    ∃ v, Cursor.value ⟨q, n + 1⟩ (.text s) = .ok v ∧ m.get? (.text s) = some v

/-- Of a name without timestamps, the value is the cell of its first column and the map has that of
its last one, so both agree where these two cells do. The map is only refused for a timestamp that
cannot be read. -/
theorem named_and_mapped (hnames : q.columns = names.map .text) (hrow : q.rows[n]? = some row)
    (hwide : row.length = names.length) :
    (∀ e, q.rowMap n = .error e → ∃ k v f, q.TimeAt k ∧ row[k]? = some v ∧
      moment v = .error f ∧ e = .conversion f) ∧
    ∀ s ∈ names, (∀ k, names[k]? = some s → ¬q.TimeAt k) →
      ∃ k l v w, FirstAt names s k ∧ LastAt names s l ∧ row[k]? = some v ∧ row[l]? = some w ∧
        Cursor.value ⟨q, n + 1⟩ (.text s) = .ok v ∧
        (∀ m, q.rowMap n = .ok m → m.get? (.text s) = some w) ∧
        (q.AgreesOn n s ↔ ((∃ m, q.rowMap n = .ok m) → v = w)) := by
  have hcell {k : Nat} {s : String} (hk : names[k]? = some s) : ∃ v, row[k]? = some v := by
    have hlt : k < row.length := hwide ▸ (List.getElem?_eq_some_iff.mp hk).1
    exact ⟨row[k], List.getElem?_eq_getElem hlt⟩
  refine ⟨fun e he => ?_, fun s hs hplain => ?_⟩
  · rcases rowMap_cases hnames hrow with ⟨m, hm⟩ | ⟨k, v, f, ht, hv, -, hf, hr⟩
    · rw [hm] at he
      cases he
    · rw [hr] at he
      cases he
      exact ⟨k, v, f, ht, hv, hf, rfl⟩
  · obtain ⟨k, hk⟩ := exists_firstAt hs
    obtain ⟨l, hl⟩ := exists_lastAt hs
    obtain ⟨v, hv⟩ := hcell hk.named
    obtain ⟨w, hw⟩ := hcell hl.named
    have hvalue := value_of_firstAt hnames hrow hk hv
    have hmap : ∀ m, q.rowMap n = .ok m → m.get? (.text s) = some w := by
      intro m hm
      obtain ⟨u, hu, hget⟩ := get?_rowMap hnames hrow hm hl
      rw [readCell_plain (hplain l hl.named), List.getD_eq_getElem?_getD, hw,
        Option.getD_some] at hu
      cases hu
      exact hget
    refine ⟨k, l, v, w, hk, hl, hv, hw, hvalue, hmap, ?_, ?_⟩
    · rintro hagree ⟨m, hm⟩
      obtain ⟨u, hu, hget⟩ := hagree m hm
      rw [hvalue] at hu
      cases hu
      rw [hmap m hm] at hget
      exact (Option.some.inj hget).symm
    · intro hsame m hm
      refine ⟨v, hvalue, ?_⟩
      rw [hmap m hm, hsame ⟨m, hm⟩]

def joinColumns : List String := ["id", "name", "id"]

def joinRow : List Value := [.int 1, .text "fiona", .int 2]

def joinResult : QueryResult :=
  ⟨0, joinColumns.map .text, ["integer", "text", "integer"], [joinRow], .zero false, .null⟩

theorem joinResult_plain : ∀ k, ¬joinResult.TimeAt k
  | 0 => by decide
  | 1 => by decide
  | 2 => by decide
  | _ + 3 => (by decide : "" ∉ timeTypes)

theorem joinResult_named_and_mapped :
    joinResult.columns = joinColumns.map .text ∧ joinResult.rows[0]? = some joinRow ∧
      joinRow.length = joinColumns.length ∧
      ∃ k l v w, FirstAt joinColumns "id" k ∧ LastAt joinColumns "id" l ∧
        joinRow[k]? = some v ∧ joinRow[l]? = some w ∧
        Cursor.value ⟨joinResult, 1⟩ (.text "id") = .ok v ∧
        (∀ m, joinResult.rowMap 0 = .ok m → m.get? (.text "id") = some w) ∧
        (joinResult.AgreesOn 0 "id" ↔ ((∃ m, joinResult.rowMap 0 = .ok m) → v = w)) :=
  ⟨rfl, rfl, rfl,
    (named_and_mapped rfl rfl rfl).2 "id" List.mem_cons_self fun k _ => joinResult_plain k⟩

/-- By its name the `id` is the first table's, and in the map it is the second one's. -/
theorem joinResult_not_agrees :
    (∀ row ∈ joinResult.rows, row.length = joinResult.columns.length) ∧
      .text "id" ∈ joinResult.columns ∧ (∀ k, ¬joinResult.TimeAt k) ∧ ¬joinResult.AgreesOn 0 "id" := by
  refine ⟨?_, List.mem_cons_self, joinResult_plain, fun h => ?_⟩
  · intro row hrow
    rw [List.mem_singleton.mp hrow]
    rfl
  · have hfirst : FirstAt joinColumns "id" 0 := ⟨rfl, nofun⟩
    have hlast : LastAt joinColumns "id" 2 := .of_length rfl rfl
    have hrow : joinResult.rows[0]? = some joinRow := rfl
    obtain ⟨m, hm⟩ : ∃ m, joinResult.rowMap 0 = .ok m := ⟨_, rfl⟩
    obtain ⟨v, hv, hmv⟩ := h m hm
    obtain ⟨w, hw, hmw⟩ := get?_rowMap rfl hrow hm hlast
    rw [value_of_firstAt rfl hrow hfirst rfl] at hv
    cases hv
    cases hw
    rw [hmv] at hmw
    cases hmw

end QueryResult

end SqlCluster
