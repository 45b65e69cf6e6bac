import SqlCluster.Proofs.Conversion.Aware
import SqlCluster.Proofs.Conversion.Timestamp
import SqlCluster.Proofs.Response.Faithful
import SqlCluster.Proofs.Result.Columns
/-!
Columns of timestamps. The cells that an answer declares as timestamps, in whatever letter case, are
aware in the map of their row, or the row has no map.
-/
namespace SqlCluster

open Calendar Conversion Json Outcome Text

namespace QueryResult

def NamesTime (declared : String) : Prop :=
  ∃ name ∈ timeTypes, asciiLower declared.toList = name.toList

theorem NamesTime.lowerText_mem {declared : String} (h : NamesTime declared) :
    lowerText declared ∈ timeTypes := by
  obtain ⟨name, hname, heq⟩ := h
  have hplain : ∀ name ∈ timeTypes, Within IsPlain name.toList := by decide
  have hlower : lower declared.toList = name.toList := by
    rw [lower_of_plain_asciiLower (heq ▸ hplain name hname), heq]
  rwa [lowerText, hlower, String.ofList_toList]

variable {q : QueryResult} {names : List String} {n k : Nat} {row : List Value} {m : Keyed}
  {s : String} {v : Value}

theorem get?_time (hnames : q.columns = names.map .text) (hrow : q.rows[n]? = some row)
    (hm : q.rowMap n = .ok m) (hk : LastAt names s k) (ht : q.TimeAt k) (hv : row[k]? = some v)
    (hne : v ≠ .null) : ∃ w, moment v = .ok w ∧ m.get? (.text s) = some (.moment w) := by
  obtain ⟨u, hu, hget⟩ := get?_rowMap hnames hrow hm hk
  rw [List.getD_eq_getElem?_getD (l := row), hv, Option.getD_some, readCell_time ht hne] at hu
  obtain ⟨w, hw, rfl⟩ := map_eq_ok.mp hu
  exact ⟨w, hw, hget⟩

end QueryResult

namespace Response

def Entry.Legible (e : Entry) : Prop := ∀ row ∈ e.values.get?.getD [], ∀ j ∈ row, j.Legible

theorem Entry.legible_of_ofJson? {j : Json} {e : Entry} (hj : j.Legible)
    (h : Entry.ofJson? j = some e) : e.Legible := by
  cases hj with
  | @map ms hms =>
      obtain ⟨columns, -, h⟩ := Option.bind_eq_some_iff.mp h
      obtain ⟨types, -, h⟩ := Option.bind_eq_some_iff.mp h
      obtain ⟨values, hvalues, h⟩ := Option.bind_eq_some_iff.mp h
      obtain ⟨lastInsertId, -, h⟩ := Option.bind_eq_some_iff.mp h
      obtain ⟨rowsAffected, -, h⟩ := Option.bind_eq_some_iff.mp h
      obtain ⟨time, -, h⟩ := Option.bind_eq_some_iff.mp h
      obtain ⟨error, -, h⟩ := Option.bind_eq_some_iff.mp h
      cases h
      cases hv : values.get? with
      | none => simp [Entry.Legible, hv]
      | some rows =>
          obtain ⟨m, hm, hrows⟩ := mem_of_slot? hvalues hv
          rw [Entry.Legible]
          simp only [hv, Option.getD_some]
          refine (hms m hm).forall_of_listOf? hrows fun x row hx hrow => ?_
          refine hx.forall_of_listOf? hrow fun y a hy ha => ?_
          cases ha
          exact hy
  | _ => cases h

theorem Envelope.legible_of_ofJson? {j : Json} {envelope : Envelope} (hj : j.Legible)
    (h : Envelope.ofJson? j = some envelope) : ∀ e ∈ envelope.results, e.Legible := by
  cases hj with
  | @map ms hms =>
      obtain ⟨results, hresults, h⟩ := Option.bind_eq_some_iff.mp h
      obtain ⟨time, -, h⟩ := Option.bind_eq_some_iff.mp h
      obtain ⟨sequenceNumber, -, h⟩ := Option.bind_eq_some_iff.mp h
      obtain ⟨error, -, h⟩ := Option.bind_eq_some_iff.mp h
      cases h
      rw [fieldOr?] at hresults
      split at hresults
      · cases hresults
        exact fun _ he => absurd he List.not_mem_nil
      · next hmember =>
          obtain ⟨m, hm, rfl⟩ := mem_of_member? hmember
          exact (hms m hm).forall_of_listOf? hresults fun _ _ => Entry.legible_of_ofJson?
  | _ => cases h

theorem legible_of_parse {body : List UInt8} {envelope : Envelope}
    (h : parse body = .ok envelope) : ∀ e ∈ envelope.results, e.Legible := by
  have hread : (answer? body).bind Envelope.ofJson? = some envelope := by
    rw [parse] at h
    cases hread : (answer? body).bind Envelope.ofJson? with
    | none =>
        rw [hread] at h
        cases h
    | some e =>
        simp only [hread] at h
        split at h
        · cases h
          rfl
        · split at h
          · cases h
            rfl
          · cases h
  obtain ⟨j, hj, hread⟩ := Option.bind_eq_some_iff.mp hread
  exact Envelope.legible_of_ofJson? (legible_of_answer? hj) hread

section Results

variable {body : List UInt8} {operation : Operation} {rs : List Result} {i : Nat} {q : QueryResult}

theorem decodeEntries_of_not_data (ho : operation.isData = false) {es : List Entry}
    (h : decodeEntries operation i es = .ok rs) : rs = [] := by
  cases es with
  | nil =>
      cases h
      rfl
  | cons e es =>
      have he : decodeEntry operation i e.fields = .error (.noResults operation) := by
        cases operation with
        | status => rfl
        | nodes => rfl
        | _ => cases ho
      rw [decodeEntries, he] at h
      cases h

theorem query_of_decode (h : decode body operation = .ok rs) (hq : rs[i]? = some (.query q)) :
    ∃ envelope entry, parse body = .ok envelope ∧ envelope.results[i]? = some entry ∧
      q = entry.asQuery i := by
  rw [decode] at h
  split at h
  · next envelope hp =>
      cases ho : operation.isData with
      | true =>
          rw [decodeEntries_eq ho] at h
          cases h
          rw [List.getElem?_mapIdx] at hq
          obtain ⟨entry, hentry, hr⟩ := Option.map_eq_some_iff.mp hq
          refine ⟨envelope, entry, hp, hentry, ?_⟩
          rw [Nat.zero_add, Entry.result] at hr
          split at hr
          · cases hr
            rfl
          · cases hr
      | false =>
          rw [decodeEntries_of_not_data ho h] at hq
          cases hq
  · cases h

theorem Entry.cells_of_asQuery {e : Entry} (he : e.Legible) {n : Nat} {row : List Value}
    (h : (e.asQuery i).rows[n]? = some row) : ∀ v ∈ row, ∃ j : Json, j.Legible ∧ j.toValue = v := by
  obtain ⟨cells, hcells, rfl⟩ := List.mem_map.mp (List.mem_of_getElem? h)
  intro v hv
  rw [toValues_eq_map] at hv
  obtain ⟨j, hj, rfl⟩ := List.mem_map.mp hv
  exact ⟨j, he cells hcells j hj, rfl⟩

/-- A cell of an answer is read as an aware timestamp or refused. A cell that is declared a
timestamp, of a column whose name does not come again, is aware in the map of its row, unless a cell
is refused and with it the map. -/
theorem time_columns_aware :
    (∀ j : Json, j.Legible → (∃ m o, moment j.toValue = .ok m ∧ TellsTime j m o) ∨
      ∃ e, moment j.toValue = .error e ∧ (Fault.conversion e).kind = .coercion) ∧
    ∀ (body : List UInt8) (operation : Operation) (rs : List Result) (i n : Nat) (q : QueryResult)
      (row : List Value), decode body operation = .ok rs → rs[i]? = some (.query q) →
      q.rows[n]? = some row →
      (∀ v ∈ row, ∃ j : Json, j.Legible ∧ j.toValue = v) ∧
      ∃ envelope entry, parse body = .ok envelope ∧ envelope.results[i]? = some entry ∧
        ((∃ e, q.rowMap n = .error e ∧ (Fault.read e).kind = .coercion) ∨
          ∃ m, q.rowMap n = .ok m ∧ ∀ s k t v,
            LastAt (entry.columns.get?.getD []) s k →
            (entry.types.get?.getD [])[k]? = some t → QueryResult.NamesTime t →
            row[k]? = some v → v ≠ .null →
            ∃ w, moment v = .ok w ∧ m.get? (.text s) = some (.moment w) ∧ w.isAware = true) := by
  refine ⟨fun j _ => told_or_refused j, fun body operation rs i n q row h hq hrow => ?_⟩
  obtain ⟨envelope, entry, hp, hentry, rfl⟩ := query_of_decode h hq
  have hcells := Entry.cells_of_asQuery
    (legible_of_parse hp entry (List.mem_of_getElem? hentry)) hrow
  refine ⟨hcells, envelope, entry, hp, hentry, ?_⟩
  rcases QueryResult.rowMap_cases rfl hrow with ⟨m, hm⟩ | ⟨-, -, f, -, -, -, -, hr⟩
  · refine .inr ⟨m, hm, fun s k t v hk ht htime hv hne => ?_⟩
    have hat : (entry.asQuery i).TimeAt k := by
      rw [QueryResult.TimeAt, Entry.asQuery, List.getD_eq_getElem?_getD, List.getElem?_map, ht]
      exact htime.lowerText_mem
    obtain ⟨w, hw, hget⟩ := QueryResult.get?_time rfl hrow hm hk hat hv hne
    obtain ⟨j, -, rfl⟩ := hcells v (List.mem_of_getElem? hv)
    refine ⟨w, hw, hget, ?_⟩
    rcases told_or_refused j with ⟨m', o, hm', htold⟩ | ⟨e, he, -⟩
    · rw [hw] at hm'
      cases hm'
      rw [Moment.isAware, htold.aware, Option.isSome_some]
    · rw [hw] at he
      cases he
  · exact .inl ⟨_, hr, rfl⟩

end Results

def timedMembers : List (String × Json) :=
  [("results", .list [.map [("columns", .list [.text "at", .text "at"]),
    ("types", .list [.text "TEXT", .text "DateTime"]),
    ("values", .list [.list [.text "soon", .text "2024-03-01"]])]])]

def timedEntry : Entry :=
  ⟨.given ["at", "at"], .given ["TEXT", "DateTime"], .given [[.text "soon", .text "2024-03-01"]],
    .absent, .absent, .absent, .absent⟩

def timedBody : List UInt8 := Utf8.encode (Json.render (.map timedMembers))

theorem timedMembers_answers : Answers timedMembers [timedEntry] :=
  .of_entry ⟨by decide, .given (.head _) rfl, .given (.tail _ (.head _)) rfl,
    .given (.tail _ (.tail _ (.head _))) rfl, .absent (by decide), .absent (by decide),
    .absent (by decide), .absent (by decide)⟩

theorem bodyOf_timed : BodyOf (.map timedMembers) timedBody :=
  bodyOf_render (by simp [timedMembers, Floatless, FloatlessItems, FloatlessMembers])
    (by decide +kernel) (by decide)

theorem moment_timed :
    moment (.text "2024-03-01") = .ok ⟨⟨2024, 3, 1⟩, .midnight, some 0⟩ := by
  have hread := moment_date (d := ⟨2024, 3, 1⟩) (by decide)
  have htext : String.ofList (Date.mk 2024 3 1).chars = "2024-03-01" := by decide
  rwa [htext] at hread

theorem timed_columns_aware :
    (Json.text "2024-03-01").Legible ∧
    ((∃ m o, moment (Json.text "2024-03-01").toValue = .ok m ∧
        TellsTime (.text "2024-03-01") m o) ∨
      ∃ e, moment (Json.text "2024-03-01").toValue = .error e ∧
        (Fault.conversion e).kind = .coercion) ∧
    decode timedBody .query = .ok [.query (timedEntry.asQuery 0)] ∧
    ∃ m w, (timedEntry.asQuery 0).rowMap 0 = .ok m ∧ m.get? (.text "at") = some (.moment w) ∧
      w.isAware = true := by
  have hdecode : decode timedBody .query = .ok [.query (timedEntry.asQuery 0)] :=
    decode_of_answers rfl timedMembers_answers bodyOf_timed
  refine ⟨.text _, time_columns_aware.1 _ (.text _), hdecode, ?_⟩
  obtain ⟨-, envelope, entry, hp, hentry, h⟩ :=
    time_columns_aware.2 timedBody .query _ 0 0 _ _ hdecode rfl rfl
  obtain ⟨envelope', hp', hresults⟩ := parse_of_answers timedMembers_answers bodyOf_timed
  rw [hp] at hp'
  cases hp'
  rw [hresults] at hentry
  cases hentry
  have hmap : ∃ m, (timedEntry.asQuery 0).rowMap 0 = .ok m := by
    have hnames : (timedEntry.asQuery 0).columns = ["at", "at"].map .text := rfl
    rcases QueryResult.rowMap_cases (n := 0) hnames rfl with hm | ⟨k, v, f, ht, hv, -, hf, -⟩
    · exact hm
    · cases k with
      | zero => exact absurd ht (by decide)
      | succ k =>
          cases k with
          | zero =>
              cases hv
              rw [toValue, moment_timed] at hf
              cases hf
          | succ k => cases hv
  obtain ⟨m, hm⟩ := hmap
  rcases h with ⟨e, he, -⟩ | ⟨m', hm', h⟩
  · rw [hm] at he
    cases he
  · obtain ⟨w, -, hget, haware⟩ := h "at" 1 "DateTime" (.text "2024-03-01")
      (.of_length rfl rfl) rfl ⟨"datetime", by decide, by decide⟩ rfl (by simp)
    exact ⟨m', w, hm', hget, haware⟩

end Response

end SqlCluster
