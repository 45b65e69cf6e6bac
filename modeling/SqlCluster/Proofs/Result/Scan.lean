import Mathlib.Data.List.Forall2
import SqlCluster.Proofs.Response.Faithful
import SqlCluster.Proofs.Result.Columns
/-!
Scanning a row. The cells are paired with the targets from the left, as far as there are both, so
the values are as many as the targets only where the row is not shorter than its columns.
-/
namespace SqlCluster

open Conversion Outcome Response

theorem QueryResult.coerceRow_eq_ok {cells vs : List Value} {targets : List Target} :
    coerceRow cells targets = .ok vs ↔
      List.Forall₂ (fun p w => coerce p.1 p.2 = .ok w) (cells.zip targets) vs := by
  induction cells generalizing targets vs with
  | nil => cases vs <;> simp [coerceRow]
  | cons v cells ih =>
      cases targets with
      | nil => cases vs <;> simp [coerceRow]
      | cons t targets =>
          rw [coerceRow, List.zip_cons_cons, bind_eq_ok]
          constructor
          · rintro ⟨w, hw, h⟩
            obtain ⟨ws, hws, h⟩ := bind_eq_ok.mp h
            cases h
            exact .cons hw (ih.mp hws)
          · rintro (_ | ⟨hw, hws⟩)
            exact ⟨_, hw, bind_eq_ok.mpr ⟨_, ih.mpr hws, rfl⟩⟩

namespace Cursor

variable {c : Cursor} {row vs : List Value} {targets : List Target} {e : ReadError}

theorem scan_eq_ok (hrow : c.current = .ok row) :
    c.scan targets = .ok vs ↔ targets.length = c.result.columns.length ∧
      List.Forall₂ (fun p w => coerce p.1 p.2 = .ok w) (row.zip targets) vs := by
  simp only [scan, hrow, bind, Except.bind, ← QueryResult.coerceRow_eq_ok]
  split
  · next hlen => rw [ReadError.ofConversion_eq_ok, and_iff_right hlen]
  · next hlen => simp [hlen]

theorem scan_error (hrow : c.current = .ok row) (h : c.scan targets = .error e) :
    ∃ f, e = .conversion f := by
  simp only [scan, hrow, bind, Except.bind] at h
  split at h
  · obtain ⟨f, -, rfl⟩ := ReadError.ofConversion_eq_error.mp h
    exact ⟨f, rfl⟩
  · cases h
    exact ⟨_, rfl⟩

/-- A scan that fills its targets, each with its own cell, and refuses a row of another width. -/
structure Fills (c : Cursor) (row : List Value) (targets : List Target) : Prop where
  filled : ∀ vs, c.scan targets = .ok vs →
    vs.length = targets.length ∧ vs.length = c.result.columns.length ∧
      ∀ (i : Nat) (v : Value) (t : Target), row[i]? = some v → targets[i]? = some t →
        ∃ w, coerce v t = .ok w ∧ vs[i]? = some w
  refused : row.length ≠ c.result.columns.length →
    ∃ e, c.scan targets = .error e ∧ (Fault.read e).kind = .coercion

/-- On a row, a scan gives the conversions of the cells that have a target, provided that there is
one target a column; else it is refused. So it fills its targets where the row has as many cells as
columns, and on any other row where it is refused. -/
theorem scan_pairs (hrow : c.current = .ok row) (targets : List Target) :
    (∀ vs, c.scan targets = .ok vs ↔ targets.length = c.result.columns.length ∧
      List.Forall₂ (fun p w => coerce p.1 p.2 = .ok w) (row.zip targets) vs) ∧
    (∀ vs, c.scan targets = .ok vs → vs.length = min row.length c.result.columns.length) ∧
    (∀ e, c.scan targets = .error e → (Fault.read e).kind = .coercion) ∧
    (c.Fills row targets ↔
      row.length = c.result.columns.length ∨ ∃ e, c.scan targets = .error e) := by
  have hlength : ∀ vs, c.scan targets = .ok vs →
      vs.length = min row.length c.result.columns.length := by
    intro vs h
    obtain ⟨hlen, hvs⟩ := (scan_eq_ok hrow).mp h
    rw [← hvs.length_eq, List.length_zip, hlen]
  have hkind : ∀ e, c.scan targets = .error e → (Fault.read e).kind = .coercion := by
    intro e h
    obtain ⟨f, rfl⟩ := scan_error hrow h
    rfl
  refine ⟨fun vs => scan_eq_ok hrow, hlength, hkind, fun h => ?_, fun h => ?_⟩
  · by_cases hwide : row.length = c.result.columns.length
    · exact .inl hwide
    · obtain ⟨e, he, -⟩ := h.refused hwide
      exact .inr ⟨e, he⟩
  · rcases h with hwide | ⟨e, he⟩
    · refine ⟨fun vs hvs => ?_, fun hne => absurd hwide hne⟩
      have hcount := hlength vs hvs
      obtain ⟨hlen, hpairs⟩ := (scan_eq_ok hrow).mp hvs
      refine ⟨by omega, by omega, fun i v t hv ht => ?_⟩
      have hpair : (row.zip targets)[i]? = some (v, t) :=
        List.getElem?_zip_eq_some.mpr ⟨hv, ht⟩
      obtain ⟨hi, hget⟩ := List.getElem?_eq_some_iff.mp hpair
      have hconverted := hpairs.get hi (hpairs.length_eq ▸ hi)
      rw [List.get_eq_getElem, hget] at hconverted
      exact ⟨_, hconverted, List.getElem?_eq_getElem _⟩
    · exact ⟨fun vs hvs => by simp [he] at hvs, fun _ => ⟨e, he, hkind e he⟩⟩

def shortRowMembers : List (String × Json) :=
  [("results", .list [.map [("columns", .list [.text "id", .text "name"]),
    ("values", .list [.list [.int 1]])]])]

def shortRowEntry : Response.Entry :=
  ⟨.given ["id", "name"], .absent, .given [[.int 1]], .absent, .absent, .absent, .absent⟩

def shortRowBody : List UInt8 := Text.Utf8.encode (Json.render (.map shortRowMembers))

theorem shortRowMembers_answers : Answers shortRowMembers [shortRowEntry] :=
  .of_entry ⟨by decide, .given (.head _) rfl, .absent (by decide), .given (.tail _ (.head _)) rfl,
    .absent (by decide), .absent (by decide), .absent (by decide), .absent (by decide)⟩

theorem decode_shortRow : decode shortRowBody .query = .ok [.query (shortRowEntry.asQuery 0)] :=
  decode_of_answers rfl shortRowMembers_answers
    (Json.bodyOf_render (by simp [shortRowMembers, Json.Floatless, Json.FloatlessItems,
      Json.FloatlessMembers]) (by decide +kernel) (by decide))

/-- The scan of a row that is too short succeeds, and leaves the second target out. -/
theorem shortRow_not_fills : ∃ q row, decode shortRowBody .query = .ok [.query q] ∧
    Cursor.current ⟨q, 1⟩ = .ok row ∧ Cursor.scan ⟨q, 1⟩ [.int, .text] = .ok [.int 1] ∧
      ¬Fills ⟨q, 1⟩ row [.int, .text] := by
  refine ⟨shortRowEntry.asQuery 0, _, decode_shortRow, rfl, rfl, fun h => ?_⟩
  obtain ⟨hlen, -⟩ := h.filled [.int 1] rfl
  cases hlen

theorem shortRow_scan_pairs : ∃ row, Cursor.current ⟨shortRowEntry.asQuery 0, 1⟩ = .ok row ∧
    (Fills ⟨shortRowEntry.asQuery 0, 1⟩ row [.int, .text] ↔
      row.length = (shortRowEntry.asQuery 0).columns.length ∨
        ∃ e, Cursor.scan ⟨shortRowEntry.asQuery 0, 1⟩ [.int, .text] = .error e) :=
  ⟨_, rfl, (scan_pairs rfl [.int, .text]).2.2.2⟩

end Cursor

end SqlCluster
