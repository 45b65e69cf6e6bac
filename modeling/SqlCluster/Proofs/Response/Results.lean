import SqlCluster.Proofs.Outcome
import SqlCluster.Response.Decode
/-!
What an entry gives. Whatever subset of its fields an entry spells out, it becomes a result, and
that depends on the entry, its place and the operation alone.
-/
namespace SqlCluster

open Number Json Outcome

section Fields

variable {α : Type} {key k : String} {f : α → Value} {s : Slot α} {fields : List (String × Value)}
  {default : Value}

theorem Value.lookup_append (key : String) (a b : List (String × Value)) :
    lookup key (a ++ b) = (lookup key a).or (lookup key b) := by
  simp only [lookup, List.find?_append, Option.map_or]

def Json.Slot.value? (f : α → Value) : Slot α → Option Value
  | .absent => none
  | .null => some .null
  | .given a => some (f a)

theorem Response.Entry.lookup_present :
    Value.lookup k (present key f s) = if key = k then s.value? f else none := by
  cases s <;> by_cases h : key = k <;> simp [present, Value.lookup, Slot.value?, h]

theorem Result.orElse_of_lookup (h : Value.lookup key fields = s.value? f) :
    orElse key default fields =
      (s.get?.map fun a => if (f a).isTruthy then f a else default).getD default := by
  rw [orElse, h]
  cases s <;> rfl

theorem Result.orElse_list {s : Slot (List α)} {f : List α → Value} {g : α → Value}
    (hf : ∀ xs, f xs = .list (xs.map g)) (h : Value.lookup key fields = s.value? f) :
    orElse key (.list []) fields = .list ((s.get?.getD []).map g) := by
  rw [orElse_of_lookup h]
  cases s.get? with
  | none => rfl
  | some xs => cases xs <;> simp [hf, Value.isTruthy]

theorem Result.orElse_int {s : Slot Int} (h : Value.lookup key fields = s.value? .int) :
    orElse key (.int 0) fields = .int (s.get?.getD 0) := by
  rw [orElse_of_lookup h]
  cases s.get? with
  | none => rfl
  | some n => by_cases hn : n = 0 <;> simp [Value.isTruthy, hn]

end Fields

namespace Response.Entry

/-- Is the entry a query's? In a mixed batch it is one that names columns, be it with a null. -/
def HoldsRows (operation : Operation) (e : Entry) : Prop :=
  operation = .query ∨ operation = .request ∧ e.columns ≠ .absent

instance (operation : Operation) (e : Entry) : Decidable (e.HoldsRows operation) :=
  inferInstanceAs (Decidable (_ ∨ _))

def seconds (e : Entry) : Double :=
  (e.time.get?.map fun d => if d.isZero then .zero false else d).getD (.zero false)

def fault (e : Entry) : Value :=
  (e.error.get?.map fun m => if m = "" then .null else .text m).getD .null

def asQuery (index : Int) (e : Entry) : QueryResult where
  index := index
  columns := (e.columns.get?.getD []).map .text
  types := (e.types.get?.getD []).map Text.lowerText
  rows := (e.values.get?.getD []).map toValues
  time := e.seconds
  error := e.fault

def asWrite (index : Int) (e : Entry) : WriteResult where
  index := index
  rowsAffected := e.rowsAffected.get?.getD 0
  lastInsertId := (e.lastInsertId.get?.map .int).getD .null
  time := e.seconds
  error := e.fault

def result (operation : Operation) (index : Int) (e : Entry) : Result :=
  if e.HoldsRows operation then .query (e.asQuery index) else .write (e.asWrite index)

theorem lookup_fields (e : Entry) (key : String) :
    Value.lookup key e.fields =
      (((((((if "columns" = key then e.columns.value? textList else none).or
        (if "types" = key then e.types.value? textList else none)).or
        (if "values" = key then
          e.values.value? fun rows => .list (rows.map fun r => .list (toValues r)) else none)).or
        (if "last_insert_id" = key then e.lastInsertId.value? .int else none)).or
        (if "rows_affected" = key then e.rowsAffected.value? .int else none)).or
        (if "time" = key then e.time.value? .float else none)).or
        (if "error" = key then e.error.value? .text else none)) := by
  simp only [fields, Value.lookup_append, lookup_present]

theorem orElse_time (e : Entry) :
    Result.orElse "time" (.float (.zero false)) e.fields = .float e.seconds := by
  have h : Value.lookup "time" e.fields = e.time.value? .float := by simp [lookup_fields]
  rw [Result.orElse_of_lookup h, seconds]
  cases e.time.get? with
  | none => rfl
  | some d => cases hd : d.isZero <;> simp [Value.isTruthy, hd]

theorem orElse_error (e : Entry) : Result.orElse "error" .null e.fields = e.fault := by
  have h : Value.lookup "error" e.fields = e.error.value? .text := by simp [lookup_fields]
  rw [Result.orElse_of_lookup h, fault]
  cases e.error.get? with
  | none => rfl
  | some m => by_cases hm : m = "" <;> simp [Value.isTruthy, hm]

theorem rowsOf?_lists (rows : List (List Value)) :
    Result.rowsOf? (rows.map .list) = .ok rows := by
  induction rows with
  | nil => rfl
  | cons r rows ih =>
      rw [List.map_cons, Result.rowsOf?, ih]
      rfl

theorem ofQuery?_fields (e : Entry) (index : Int) :
    Result.ofQuery? e.fields index = .ok (e.asQuery index) := by
  have hcolumns : Result.orElse "columns" (.list []) e.fields =
      .list ((e.columns.get?.getD []).map .text) :=
    Result.orElse_list (fun _ => rfl) (by simp [lookup_fields]; rfl)
  have htypes : Result.orElse "types" (.list []) e.fields =
      .list ((e.types.get?.getD []).map .text) :=
    Result.orElse_list (fun _ => rfl) (by simp [lookup_fields]; rfl)
  have hvalues : Result.orElse "values" (.list []) e.fields =
      .list ((e.values.get?.getD []).map fun r => .list (toValues r)) :=
    Result.orElse_list (fun _ => rfl) (by simp [lookup_fields])
  have hrows := rowsOf?_lists ((e.values.get?.getD []).map toValues)
  have htypeText : (((e.types.get?.getD []).map .text).map Result.typeText) =
      (e.types.get?.getD []).map Text.lowerText := by
    rw [List.map_map]
    rfl
  rw [List.map_map] at hrows
  simp only [Result.ofQuery?, hcolumns, htypes, hvalues, orElse_time, orElse_error]
  refine bind_eq_ok.mpr ⟨_, rfl, bind_eq_ok.mpr ⟨_, rfl, bind_eq_ok.mpr ⟨_, rfl,
    bind_eq_ok.mpr ⟨_, hrows, bind_eq_ok.mpr ⟨e.seconds, rfl, ?_⟩⟩⟩⟩⟩
  rw [htypeText]
  rfl

theorem ofWrite?_fields (e : Entry) (index : Int) :
    Result.ofWrite? e.fields index = .ok (e.asWrite index) := by
  have hrows : Result.orElse "rows_affected" (.int 0) e.fields =
      .int (e.rowsAffected.get?.getD 0) :=
    Result.orElse_int (by simp [lookup_fields])
  have hid : (Value.lookup "last_insert_id" e.fields).getD .null =
      (e.lastInsertId.get?.map .int).getD .null := by
    have h : Value.lookup "last_insert_id" e.fields = e.lastInsertId.value? .int := by
      simp [lookup_fields]
    rw [h]
    cases e.lastInsertId <;> rfl
  simp only [Result.ofWrite?, hrows, orElse_time, orElse_error, hid]
  rfl

theorem isSome_lookup_columns (e : Entry) :
    (Value.lookup "columns" e.fields).isSome = true ↔ e.columns ≠ .absent := by
  have h : Value.lookup "columns" e.fields = e.columns.value? textList := by simp [lookup_fields]
  rw [h]
  cases e.columns <;> simp [Slot.value?]

end Entry

variable {operation : Operation}

theorem decodeEntry_fields (ho : operation.isData = true) (index : Int) (e : Entry) :
    decodeEntry operation index e.fields = .ok (e.result operation index) := by
  have hq : query e.fields index = .ok (.query (e.asQuery index)) := by
    rw [query, e.ofQuery?_fields]
  have hw : write e.fields index = .ok (.write (e.asWrite index)) := by
    rw [write, e.ofWrite?_fields]
  cases operation with
  | status => cases ho
  | nodes => cases ho
  | query =>
      have hr : e.HoldsRows .query := .inl rfl
      rw [Entry.result, if_pos hr]
      exact hq
  | execute =>
      have hr : ¬e.HoldsRows .execute := by simp [Entry.HoldsRows]
      rw [Entry.result, if_neg hr]
      exact hw
  | request =>
      have hr : e.HoldsRows .request ↔ (Value.lookup "columns" e.fields).isSome = true := by
        rw [e.isSome_lookup_columns]
        simp [Entry.HoldsRows]
      simp only [decodeEntry, Entry.result, hr, hq, hw]
      split <;> rfl

theorem decodeEntries_eq (ho : operation.isData = true) (n : Nat) (es : List Entry) :
    decodeEntries operation n es =
      .ok (es.mapIdx fun i e => e.result operation ((n + i : Nat) : Int)) := by
  induction es generalizing n with
  | nil => rfl
  | cons e es ih =>
      rw [decodeEntries, decodeEntry_fields ho, ih, List.mapIdx_cons]
      simp only [bind, Except.bind, pure, Except.pure, Nat.add_zero, Nat.add_assoc, Nat.add_comm 1]

theorem decode_eq (ho : operation.isData = true) (body : List UInt8) :
    decode body operation = match parse body with
      | .ok e => .ok (e.results.mapIdx fun i e => e.result operation i)
      | .error e => .error (.body e) := by
  rw [decode]
  cases parse body with
  | error e => rfl
  | ok e => simp only [decodeEntries_eq ho, Nat.zero_add]

end Response

end SqlCluster
