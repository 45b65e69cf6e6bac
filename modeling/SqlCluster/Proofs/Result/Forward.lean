import SqlCluster.Fault.Basic
import SqlCluster.Result.Reading
/-!
Rows are read forward, each once. Whatever a reader does, by moves of its own and iterations in any
order, the rows are entered one after the other from the first, a read leaves the cursor where it
is, and the result stays as it was.
-/
namespace SqlCluster

def ReadError.IsState (e : ReadError) : Prop := Fault.readKind e = .cursor

def Reading.isRead : Reading → Bool
  | .slice => true
  | .value _ => true
  | .asMap => true
  | .scan _ => true
  | _ => false

def Reading.moves : Reading → Bool
  | .next => true
  | .iterate _ => true
  | _ => false

def QueryResult.rowMap (q : QueryResult) (n : Nat) : Except ReadError Keyed :=
  Cursor.asMap ⟨q, n + 1⟩

variable {q : QueryResult} {c : Cursor} {d : Desk} {limit place place' : Nat} {rows : List Nat}
  {r : Except ReadError (List Keyed)}

/-- The rows that an iteration enters, where it leaves the cursor, and what it gives. -/
inductive Course (q : QueryResult) :
    Nat → Nat → List Nat → Nat → Except ReadError (List Keyed) → Prop
  | dropped (place : Nat) : Course q 0 place [] place (.ok [])
  | ended {limit place : Nat} (h : q.numRows ≤ place) :
      Course q (limit + 1) place [] (q.numRows + 1) (.ok [])
  | spoilt {limit place : Nat} {e : ReadError} (h : place < q.numRows)
      (he : q.rowMap place = .error e) : Course q (limit + 1) place [place] (place + 1) (.error e)
  | onward {limit place place' : Nat} {m : Keyed} {rows : List Nat}
      {r : Except ReadError (List Keyed)} (h : place < q.numRows) (hm : q.rowMap place = .ok m)
      (rest : Course q limit (place + 1) rows place' r) :
      Course q (limit + 1) place (place :: rows) place' (r.map (m :: ·))

theorem Cursor.next_of_lt (h : c.place < c.result.numRows) :
    c.next = (⟨c.result, c.place + 1⟩, true) := by
  have hle : c.place ≤ c.result.numRows := Nat.le_of_lt h
  simp only [next, if_pos hle, decide_eq_true (Nat.succ_le_of_lt h)]

theorem Cursor.next_of_le (h : c.result.numRows ≤ c.place) (hp : c.place ≤ c.result.numRows + 1) :
    c.next = (⟨c.result, c.result.numRows + 1⟩, false) := by
  have hplace : (if c.place ≤ c.result.numRows then c.place + 1 else c.place) =
      c.result.numRows + 1 := by
    split <;> omega
  simp only [next, hplace, decide_eq_false (Nat.not_succ_le_self c.result.numRows)]

theorem course_takeMaps (limit : Nat) (hp : place ≤ q.numRows + 1) :
    ∃ rows, Course q limit place rows (Cursor.takeMaps limit ⟨q, place⟩).1.place
      (Cursor.takeMaps limit ⟨q, place⟩).2 := by
  induction limit generalizing place with
  | zero => exact ⟨[], .dropped place⟩
  | succ limit ih =>
      by_cases h : place < q.numRows
      · simp only [Cursor.takeMaps, Cursor.next_of_lt (c := ⟨q, place⟩) h, if_true]
        split
        · next e he => exact ⟨[place], .spoilt h he⟩
        · next m hm =>
            obtain ⟨rows, hr⟩ := ih (Nat.succ_le_succ (Nat.le_of_lt h))
            exact ⟨place :: rows, .onward h hm hr⟩
      · have h : q.numRows ≤ place := Nat.le_of_not_lt h
        simp only [Cursor.takeMaps, Cursor.next_of_le (c := ⟨q, place⟩) h hp]
        exact ⟨[], .ended h⟩

namespace Course

theorem bounds (h : Course q limit place rows place' r) (hp : place ≤ q.numRows + 1) :
    place ≤ place' ∧ place' ≤ q.numRows + 1 := by
  induction h with
  | dropped place => exact ⟨Nat.le_refl place, hp⟩
  | ended h => exact ⟨hp, Nat.le_refl _⟩
  | spoilt h _ => omega
  | onward h _ _ ih =>
      have := ih (by omega)
      omega

theorem rows_eq (h : Course q limit place rows place' r) (hp : place ≤ q.numRows + 1) :
    rows = List.range' place (min place' q.numRows - place) := by
  induction h with
  | dropped place =>
      rw [show min place q.numRows - place = 0 by omega]
      rfl
  | @ended _ place h =>
      rw [show min (q.numRows + 1) q.numRows - place = 0 by omega]
      rfl
  | @spoilt _ place _ h _ =>
      rw [show min (place + 1) q.numRows - place = 1 by omega]
      rfl
  | @onward _ place place' _ rows _ h _ rest ih =>
      have hb := rest.bounds (by omega)
      rw [ih (by omega), show min place' q.numRows - place =
        min place' q.numRows - (place + 1) + 1 by omega, List.range'_succ]

theorem of_le (h : Course q limit place rows place' r) (hp : q.numRows ≤ place) :
    rows = [] ∧ r = .ok [] := by
  cases h with
  | dropped _ => exact ⟨rfl, rfl⟩
  | ended _ => exact ⟨rfl, rfl⟩
  | spoilt h _ => omega
  | onward h _ _ => omega

theorem of_error {e : ReadError} (h : Course q limit place rows place' r) (hr : r = .error e) :
    ∃ n, place ≤ n ∧ n < q.numRows ∧ place' = n + 1 ∧ q.rowMap n = .error e := by
  induction h with
  | dropped _ => cases hr
  | ended _ => cases hr
  | @spoilt _ place _ h he =>
      cases hr
      exact ⟨place, Nat.le_refl place, h, rfl, he⟩
  | @onward _ place _ _ _ r h _ _ ih =>
      cases r with
      | ok ms => cases hr
      | error f =>
          obtain ⟨n, hn, hlt, hplace, hmap⟩ := ih hr
          exact ⟨n, by omega, hlt, hplace, hmap⟩

theorem of_room {ms : List Keyed} (h : Course q limit place rows place' r)
    (hl : q.numRows < place + limit) (hr : r = .ok ms) (hp : place ≤ q.numRows + 1) :
    place' = q.numRows + 1 := by
  induction h generalizing ms with
  | dropped place => omega
  | ended _ => rfl
  | spoilt _ _ => cases hr
  | @onward _ _ _ _ _ r h _ _ ih =>
      cases r with
      | ok ms => exact ih (by omega) rfl (by omega)
      | error f => cases hr

end Course

namespace Cursor

theorem current_cases (c : Cursor) :
    (0 < c.place ∧ c.place ≤ c.result.numRows ∧ ∃ cells, c.current = .ok cells) ∨
      (c.place = 0 ∨ c.result.numRows < c.place) ∧ ∃ e, c.current = .error e ∧ e.IsState := by
  unfold current
  split
  · next h => exact .inr ⟨.inl h, .beforeFirst, rfl, rfl⟩
  · next n h =>
      cases hr : c.result.rows[n]? with
      | some cells =>
          have hn : n < c.result.numRows := (List.getElem?_eq_some_iff.mp hr).1
          exact .inl ⟨by omega, by omega, cells, rfl⟩
      | none =>
          have hn : c.result.numRows ≤ n := List.getElem?_eq_none_iff.mp hr
          exact .inr ⟨.inr (by omega), .pastLast, rfl, rfl⟩

theorem not_isState_of_place {column : Value} {columns : List Value} {e : ReadError}
    (h : QueryResult.place? column columns = .error e) : ¬e.IsState := by
  induction columns generalizing e with
  | nil =>
      cases h
      nofun
  | cons c cs ih =>
      simp only [QueryResult.place?] at h
      split at h
      · cases h
        nofun
      · cases h
      · cases hp : QueryResult.place? column cs with
        | ok n => simp [hp, Except.map] at h
        | error f =>
            rw [hp] at h
            cases h
            exact ih hp

theorem not_isState_of_readRow {types : List String} {cells columns : List Value} {done : Keyed}
    {e : ReadError} (h : QueryResult.readRow types cells done columns = .error e) :
    ¬e.IsState := by
  induction columns generalizing types cells done with
  | nil => cases h
  | cons column columns ih =>
      simp only [QueryResult.readRow] at h
      cases hc : QueryResult.readCell (types.headD "") (cells.headD .null) with
      | error f =>
          rw [hc] at h
          cases h
          nofun
      | ok v =>
          rw [hc] at h
          simp only [ReadError.ofConversion, bind, Except.bind] at h
          split at h
          · cases h
            nofun
          · exact ih h

/-- Without a row to read, what a read gives is the reason; with one it is never such a reason. -/
def Reads {α : Type} (c : Cursor) (r : Except ReadError α) : Prop :=
  match c.current with
  | .error e => r = .error e
  | .ok _ => ∀ e, r = .error e → ¬e.IsState

theorem Reads.isState_iff {α : Type} {r : Except ReadError α} (h : c.Reads r) :
    (∃ e, r = .error e ∧ e.IsState) ↔ c.place = 0 ∨ c.result.numRows < c.place := by
  unfold Reads at h
  rcases c.current_cases with ⟨hp, hn, cells, hc⟩ | ⟨hp, e, hc, he⟩
  · rw [hc] at h
    constructor
    · rintro ⟨e, hr, he⟩
      exact absurd he (h e hr)
    · omega
  · rw [hc] at h
    exact ⟨fun _ => hp, fun _ => ⟨e, h, he⟩⟩

theorem Reads.map {α β : Type} {r : Except ReadError α} (h : c.Reads r) (f : α → β) :
    c.Reads (r.map f) := by
  unfold Reads at h ⊢
  cases hc : c.current with
  | error e =>
      rw [hc] at h
      simp only at h ⊢
      rw [h]
      rfl
  | ok cells =>
      rw [hc] at h
      cases r with
      | error e =>
          intro g hg
          cases hg
          exact h e rfl
      | ok a => nofun

theorem reads_slice (c : Cursor) : c.Reads c.slice := by
  unfold Reads slice
  cases c.current with
  | error e => rfl
  | ok cells => nofun

theorem reads_value (c : Cursor) (column : Value) : c.Reads (c.value column) := by
  unfold Reads value
  cases c.current with
  | error e => rfl
  | ok cells =>
      intro e he
      simp only [bind, Except.bind] at he
      split at he
      · next hp =>
          cases he
          exact not_isState_of_place hp
      · split at he
        · cases he
        · cases he
          nofun

theorem reads_asMap (c : Cursor) : c.Reads c.asMap := by
  unfold Reads asMap
  cases c.current with
  | error e => rfl
  | ok cells => exact fun e => not_isState_of_readRow

theorem reads_scan (c : Cursor) (targets : List Target) : c.Reads (c.scan targets) := by
  unfold Reads scan
  cases c.current with
  | error e => rfl
  | ok cells =>
      intro e he
      simp only [bind, Except.bind] at he
      split at he
      · cases hr : QueryResult.coerceRow cells targets with
        | error f =>
            rw [hr] at he
            cases he
            nofun
        | ok vs =>
            rw [hr] at he
            cases he
      · cases he
        nofun

end Cursor

/-- A desk at which the result stands as it was laid out, however the lists handed out were changed.
-/
structure Desk.Keeps (q : QueryResult) (d : Desk) : Prop where
  result : d.result = q
  place : d.place ≤ q.numRows + 1
  rows : ∀ a ∈ d.rows, a < d.memory.length
  apart : ∀ a ∈ d.handed, a ∉ d.rows

namespace Desk

theorem keeps_lay (q : QueryResult) : (lay q).Keeps q where
  result := by
    have hrows : (List.range q.rows.length).map (lay q).read = q.rows := by
      refine List.ext_getElem (by simp) ?_
      intro i hi hq
      simp [read, lay, List.getD_eq_getElem?_getD, List.getElem?_eq_getElem hq]
    rw [result]
    exact congrArg (fun rows => { q with rows := rows }) hrows
  place := Nat.zero_le _
  rows := by
    intro a ha
    exact List.mem_range.mp ha
  apart := nofun

theorem result_congr {e : Desk} (hh : e.header = d.header) (hr : e.rows = d.rows)
    (hm : ∀ a ∈ d.rows, e.read a = d.read a) : e.result = d.result := by
  rw [result, result, hh, hr, List.map_congr_left hm]

theorem Keeps.hand (h : d.Keeps q) (cells : List Value) : (d.hand cells).Keeps q where
  result := by
    have hr : (d.hand cells).result = d.result := by
      refine result_congr rfl rfl fun a ha => ?_
      simp only [read, Desk.hand, List.getD_eq_getElem?_getD,
        List.getElem?_append_left (h.rows a ha)]
    exact hr.trans h.result
  place := h.place
  rows := by
    intro a ha
    have := h.rows a ha
    simp only [Desk.hand, List.length_append, List.length_singleton]
    omega
  apart := by
    intro a ha hr
    rcases List.mem_append.mp ha with ha | ha
    · exact h.apart a ha hr
    · have hlt := h.rows a hr
      rw [List.mem_singleton.mp ha] at hlt
      exact Nat.lt_irrefl _ hlt

theorem Keeps.change (h : d.Keeps q) (number : Nat) (cells : List Value) :
    (d.change number cells).Keeps q := by
  unfold Desk.change
  split
  · next a ha =>
      have hmem : a ∈ d.handed := List.mem_of_getElem? ha
      have hr : ({ d with memory := d.memory.set a cells } : Desk).result = d.result := by
        refine result_congr rfl rfl fun b hb => ?_
        have hne : a ≠ b := fun he => h.apart a hmem (he ▸ hb)
        simp only [read, List.getD_eq_getElem?_getD, List.getElem?_set_ne hne]
      refine ⟨hr.trans h.result, h.place, ?_, h.apart⟩
      intro b hb
      rw [List.length_set]
      exact h.rows b hb
  · exact h

theorem Keeps.moved (h : d.Keeps q) {n : Nat} (hn : n ≤ q.numRows + 1) :
    ({ d with place := n } : Desk).Keeps q :=
  ⟨h.result, hn, h.rows, h.apart⟩

theorem Keeps.cursor (h : d.Keeps q) : d.cursor = ⟨q, d.place⟩ := by
  rw [Desk.cursor, h.result]

end Desk

/-- What an operation does from a place: the rows that it enters, where it leaves the cursor, and
what it gives. -/
inductive Enters (q : QueryResult) (place : Nat) :
    Reading → List Nat → Nat → Except ReadError Gain → Prop
  | onto (h : place < q.numRows) : Enters q place .next [place] (place + 1) (.ok (.moved true))
  | off (h : q.numRows ≤ place) : Enters q place .next [] (q.numRows + 1) (.ok (.moved false))
  | iterated {limit : Option Nat} {most : Nat} {rows : List Nat} {place' : Nat}
      {r : Except ReadError (List Keyed)}
      (hl : ∀ n, limit = some n → most = n) (hn : limit = none → q.numRows < place + most)
      (h : Course q most place rows place' r) :
      Enters q place (.iterate limit) rows place' (r.map .maps)
  | still {op : Reading} (h : op.moves = false) (r : Except ReadError Gain) :
      Enters q place op [] place r

inductive Entered (q : QueryResult) : Desk → List Reading → List Nat → Prop
  | nil (d : Desk) : Entered q d [] []
  | cons {d : Desk} {op : Reading} {ops : List Reading} {new rows : List Nat}
      (h : Enters q d.place op new (d.step op).2.place (d.step op).1)
      (rest : Entered q (d.step op).2 ops rows) : Entered q d (op :: ops) (new ++ rows)

variable {op : Reading} {gain : Except ReadError Gain}

namespace Enters

theorem bounds (h : Enters q place op rows place' gain) (hp : place ≤ q.numRows + 1) :
    place ≤ place' ∧ place' ≤ q.numRows + 1 := by
  cases h with
  | onto h => omega
  | off h => omega
  | iterated _ _ h => exact h.bounds hp
  | still _ _ => exact ⟨Nat.le_refl place, hp⟩

theorem rows_eq (h : Enters q place op rows place' gain) (hp : place ≤ q.numRows + 1) :
    rows = List.range' place (min place' q.numRows - place) := by
  cases h with
  | onto h =>
      rw [show min (place + 1) q.numRows - place = 1 by omega]
      rfl
  | off h =>
      rw [show min (q.numRows + 1) q.numRows - place = 0 by omega]
      rfl
  | iterated _ _ h => exact h.rows_eq hp
  | still _ _ =>
      rw [show min place q.numRows - place = 0 by omega]
      rfl

theorem place_of_still (h : Enters q place op rows place' gain) (hm : op.moves = false) :
    place' = place := by
  cases h with
  | still _ _ => rfl
  | onto _ => cases hm
  | off _ => cases hm
  | iterated _ _ _ => cases hm

theorem of_next (h : Enters q place .next rows place' gain) (hp : place ≤ q.numRows + 1) :
    ∃ onRow, gain = .ok (.moved onRow) ∧ (onRow = true ↔ place' ≤ q.numRows) ∧
      (place' = place + 1 ∨ place' = place ∧ place = q.numRows + 1) := by
  cases h with
  | onto h => exact ⟨true, rfl, by simpa using Nat.succ_le_of_lt h, .inl rfl⟩
  | off h => exact ⟨false, rfl, by simp, by omega⟩
  | still h _ => cases h

theorem of_spoilt {limit : Option Nat} {e : ReadError}
    (h : Enters q place (.iterate limit) rows place' gain) (hg : gain = .error e) :
    ∃ n, place ≤ n ∧ n < q.numRows ∧ place' = n + 1 ∧ q.rowMap n = .error e := by
  cases h with
  | @iterated _ _ _ _ r _ _ h =>
      cases r with
      | ok ms => cases hg
      | error f =>
          cases hg
          exact h.of_error rfl
  | still h _ => cases h

theorem of_through {ms : List Keyed} (h : Enters q place (.iterate none) rows place' gain)
    (hg : gain = .ok (.maps ms)) (hp : place ≤ q.numRows + 1) : place' = q.numRows + 1 := by
  cases h with
  | @iterated _ _ _ _ r _ hn h =>
      cases r with
      | ok ms => exact h.of_room (hn rfl) rfl hp
      | error f => cases hg
  | still h _ => cases h

theorem of_spent {limit : Option Nat} (h : Enters q place (.iterate limit) rows place' gain)
    (hp : q.numRows ≤ place) : gain = .ok (.maps []) := by
  cases h with
  | iterated _ _ h =>
      rw [(h.of_le hp).2]
      rfl
  | still h _ => cases h

end Enters

namespace Desk

theorem enters_step (h : d.Keeps q) (op : Reading) :
    ∃ rows, Enters q d.place op rows (d.step op).2.place (d.step op).1 := by
  cases op with
  | next =>
      simp only [step, h.cursor]
      by_cases hlt : d.place < q.numRows
      · rw [Cursor.next_of_lt (c := ⟨q, d.place⟩) hlt]
        exact ⟨_, .onto hlt⟩
      · have hle : q.numRows ≤ d.place := Nat.le_of_not_lt hlt
        rw [Cursor.next_of_le (c := ⟨q, d.place⟩) hle h.place]
        exact ⟨_, .off hle⟩
  | iterate limit =>
      simp only [step, h.cursor]
      cases limit with
      | some n =>
          obtain ⟨rows, hr⟩ := course_takeMaps n h.place
          exact ⟨rows, .iterated (fun m hm => Option.some.inj hm) nofun hr⟩
      | none =>
          obtain ⟨rows, hr⟩ := course_takeMaps (q.numRows + 1 - d.place + 1) h.place
          exact ⟨rows, .iterated nofun (fun _ => by omega) hr⟩
  | slice =>
      refine ⟨[], ?_⟩
      simp only [step]
      split <;> exact .still rfl _
  | change number cells =>
      refine ⟨[], ?_⟩
      simp only [step, Desk.change]
      split <;> exact .still rfl _
  | value column => exact ⟨[], .still rfl _⟩
  | asMap => exact ⟨[], .still rfl _⟩
  | scan targets => exact ⟨[], .still rfl _⟩

theorem keeps_step (h : d.Keeps q) (op : Reading) : (d.step op).2.Keeps q := by
  obtain ⟨rows, he⟩ := enters_step h op
  have hb := (he.bounds h.place).2
  cases op with
  | next => exact h.moved hb
  | iterate limit => exact h.moved hb
  | slice =>
      simp only [step]
      split
      · exact h.hand _
      · exact h
  | change number cells => exact h.change number cells
  | value column => exact h
  | asMap => exact h
  | scan targets => exact h

theorem keeps_after (h : d.Keeps q) (ops : List Reading) : (d.after ops).Keeps q := by
  induction ops generalizing d with
  | nil => exact h
  | cons op ops ih => exact ih (keeps_step h op)

theorem entered_after (h : d.Keeps q) (ops : List Reading) : ∃ rows, Entered q d ops rows := by
  induction ops generalizing d with
  | nil => exact ⟨[], .nil d⟩
  | cons op ops ih =>
      obtain ⟨new, hn⟩ := enters_step h op
      obtain ⟨rows, hr⟩ := ih (keeps_step h op)
      exact ⟨new ++ rows, .cons hn hr⟩

end Desk

namespace Entered

variable {ops : List Reading}

theorem bounds (h : Entered q d ops rows) (hp : d.place ≤ q.numRows + 1) :
    d.place ≤ (d.after ops).place ∧ (d.after ops).place ≤ q.numRows + 1 := by
  induction h with
  | nil d => exact ⟨Nat.le_refl d.place, hp⟩
  | cons h _ ih =>
      have hb := h.bounds hp
      have hr := ih hb.2
      exact ⟨Nat.le_trans hb.1 hr.1, hr.2⟩

theorem rows_eq (h : Entered q d ops rows) (hp : d.place ≤ q.numRows + 1) :
    rows = List.range' d.place (min (d.after ops).place q.numRows - d.place) := by
  induction h with
  | nil d =>
      rw [Desk.after, show min d.place q.numRows - d.place = 0 by omega]
      rfl
  | @cons d op ops new rows h rest ih =>
      have hb := h.bounds hp
      have hr := rest.bounds hb.2
      rw [h.rows_eq hp, ih hb.2, Desk.after]
      generalize (d.step op).2.place = place at hb hr ⊢
      generalize ((d.step op).2.after ops).place = place' at hr ⊢
      by_cases hn : place ≤ q.numRows
      · rw [show min place q.numRows - d.place = place - d.place by omega,
          show min place' q.numRows - d.place =
            place - d.place + (min place' q.numRows - place) by omega, ← List.range'_append_1,
          show d.place + (place - d.place) = place by omega]
      · rw [show min place' q.numRows - place = 0 by omega,
          show min place' q.numRows - d.place = min place q.numRows - d.place by omega,
          List.range'_zero, List.append_nil]

end Entered

/-- One operation, seen from the row that the cursor is on. -/
structure Desk.Forward (q : QueryResult) (d : Desk) (op : Reading)
    (r : Except ReadError Gain × Desk) : Prop where
  onward : d.row ≤ r.2.row ∧ r.2.row ≤ q.numRows
  still : op.moves = false → r.2.row = d.row
  next : op = .next → ∃ onRow, r.1 = .ok (.moved onRow) ∧
    (onRow = true ↔ r.2.row < q.numRows) ∧
    (r.2.row = d.row + 1 ∨ r.2.row = d.row ∧ d.row = q.numRows)
  state : op.isRead = true →
    ((∃ e, r.1 = .error e ∧ e.IsState) ↔ d.row = -1 ∨ d.row = q.numRows)
  spoilt : ∀ limit e, op = .iterate limit → r.1 = .error e →
    d.row < r.2.row ∧ r.2.row < q.numRows ∧ r.2.cursor.asMap = .error e
  through : ∀ ms, op = .iterate none → r.1 = .ok (.maps ms) → r.2.row = q.numRows

namespace Desk

theorem row_eq (d : Desk) : d.row = (d.place : Int) - 1 := rfl

theorem reads_step (d : Desk) {op : Reading} (h : op.isRead = true) :
    d.cursor.Reads (d.step op).1 := by
  cases op with
  | slice =>
      have hs := (Cursor.reads_slice d.cursor).map Gain.cells
      simp only [step]
      cases hc : d.cursor.slice with
      | ok cells => rwa [hc] at hs
      | error e => rwa [hc] at hs
  | value column => exact (Cursor.reads_value d.cursor column).map _
  | asMap => exact (Cursor.reads_asMap d.cursor).map _
  | scan targets => exact (Cursor.reads_scan d.cursor targets).map _
  | _ => cases h

theorem forward_step (h : d.Keeps q) (op : Reading) : d.Forward q op (d.step op) := by
  obtain ⟨rows, he⟩ := enters_step h op
  have hk := keeps_step h op
  have hb := he.bounds h.place
  constructor
  · rw [row_eq, row_eq]
    omega
  · intro hm
    rw [row_eq, row_eq, he.place_of_still hm]
  · rintro rfl
    obtain ⟨onRow, hr, hon, hplace⟩ := he.of_next h.place
    rw [row_eq, row_eq]
    exact ⟨onRow, hr, hon.trans (by omega), by omega⟩
  · intro hr
    rw [(reads_step d hr).isState_iff, row_eq]
    have hq : d.cursor.result = q := h.result
    have hp : d.cursor.place = d.place := rfl
    rw [hq, hp]
    have := h.place
    omega
  · rintro limit e rfl hr
    obtain ⟨n, hn, hlt, hplace, hmap⟩ := he.of_spoilt hr
    rw [row_eq, row_eq, hk.cursor, hplace]
    exact ⟨by omega, by omega, hmap⟩
  · rintro ms rfl hr
    rw [row_eq, he.of_through hr h.place]
    omega

theorem spent_after (h : d.Keeps q) (hs : q.numRows < d.place) (ops : List Reading) :
    ((d.after ops).step .next).1 = .ok (.moved false) ∧
      ∀ limit, ((d.after ops).step (.iterate limit)).1 = .ok (.maps []) := by
  obtain ⟨rows, hr⟩ := entered_after h ops
  have hk := keeps_after h ops
  have hle : q.numRows < (d.after ops).place := Nat.lt_of_lt_of_le hs (hr.bounds h.place).1
  constructor
  · obtain ⟨rows, he⟩ := enters_step hk .next
    obtain ⟨onRow, hg, hon, -⟩ := he.of_next hk.place
    cases onRow with
    | false => exact hg
    | true =>
        have := (he.bounds hk.place).1
        have := hon.mp rfl
        omega
  · intro limit
    obtain ⟨rows, he⟩ := enters_step hk (.iterate limit)
    exact he.of_spent (Nat.le_of_lt hle)

/-- However a result is read, its rows are entered in order, each once, by moves of one row; a read
needs a row and leaves the cursor on it; the end is final; and the result stays what it was. -/
theorem forward_after (q : QueryResult) (ops : List Reading) :
    let d := (lay q).after ops
    (lay q).row = -1 ∧ -1 ≤ d.row ∧ d.row ≤ q.numRows ∧ d.result = q ∧
      (∃ rows, Entered q (lay q) ops rows ∧
        rows = List.range (min (d.row + 1).toNat q.numRows)) ∧
      (∀ op, d.Forward q op (d.step op)) ∧
      ((d.step .next).1 = .ok (.moved false) → ∀ more,
        let e := (d.step .next).2.after more
        (e.step .next).1 = .ok (.moved false) ∧
          ∀ limit, (e.step (.iterate limit)).1 = .ok (.maps [])) := by
  intro d
  have hk : d.Keeps q := keeps_after (keeps_lay q) ops
  have hrow := row_eq d
  have hplace := hk.place
  refine ⟨rfl, by omega, by omega, hk.result, ?_, forward_step hk, ?_⟩
  · obtain ⟨rows, hr⟩ := entered_after (keeps_lay q) ops
    refine ⟨rows, hr, ?_⟩
    have hd : (d.row + 1).toNat = d.place := by omega
    rw [hr.rows_eq (Nat.zero_le _), hd, List.range_eq_range']
    rfl
  · intro hg more
    obtain ⟨rows, he⟩ := enters_step hk .next
    obtain ⟨onRow, hr, hon, -⟩ := he.of_next hk.place
    rw [hg] at hr
    cases hr
    refine spent_after (keeps_step hk .next) ?_ more
    simpa using hon

end Desk

end SqlCluster
