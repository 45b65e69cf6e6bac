import SqlCluster.Proofs.Connection.Whole
import SqlCluster.Proofs.Response.Results
/-!
Results beside statements. A batch gets one result for each entry of the answer, and the two are
never counted against each other: results line up with statements where the answer has as many
entries.
-/
namespace SqlCluster.Connection

open Text Http Response

variable {σ : Type} {serve : Server σ} {c : Connection} {kind : BatchKind} {items : List Item}
  {w : World σ}

/-- The entries of the answer that a batch gets, if it gets one that can be read. -/
def entries? (serve : Server σ) (c : Connection) (kind : BatchKind) (items : List Item)
    (w : World σ) : Option (List Response.Entry) := do
  let walk ← c.walk? serve (.batch kind items) w
  let body ← walk.outcome.toOption
  let envelope ← (parse body).toOption
  return envelope.results

inductive Answered (kind : BatchKind) : Option (List Response.Entry) → Except Fault Reply → Prop
  | error (f : Fault) : Answered kind none (.error f)
  | results (es : List Response.Entry) :
      Answered kind (some es) (.ok (.results (es.mapIdx fun i e => e.result kind.operation i)))

/-- An error, or one result a statement, each with its statement's place. -/
inductive LinesUp (n : Nat) : Except Fault Reply → Prop
  | error (f : Fault) : LinesUp n (.error f)
  | results {rs : List Result} (hn : rs.length = n)
      (hi : ∀ (i : Nat) (r : Result), rs[i]? = some r → r.index = i) : LinesUp n (.ok (.results rs))

theorem decode_results (hk : kind ≠ .queue) {body : List UInt8} {rs : List Result}
    (h : Response.decode body kind.operation = .ok rs) : decode kind body = .ok (.results rs) := by
  cases kind with
  | queue => exact absurd rfl hk
  | _ => simp only [decode, h]

theorem decode_fault (hk : kind ≠ .queue) {body : List UInt8} {e : DecodeError}
    (h : Response.decode body kind.operation = .error e) :
    decode kind body = .error (.decode e) := by
  cases kind with
  | queue => exact absurd rfl hk
  | _ => simp only [decode, h]

theorem answered_decode (hk : kind ≠ .queue) (body : List UInt8) :
    Answered kind ((parse body).toOption.map (·.results)) (decode kind body) := by
  have hd := decode_eq kind.isData_operation body
  cases hp : parse body with
  | error e =>
      rw [hp] at hd
      rw [decode_fault hk hd]
      exact .error _
  | ok e =>
      rw [hp] at hd
      rw [decode_results hk hd]
      exact .results e.results

theorem runBatch_written (serve : Server σ) (w : World σ) (h : c.isOpen = true)
    {batch : List Statement} {cs : List Char} (hb : Item.statements? items = .ok batch)
    (hne : batch ≠ [])
    (hcs : Statement.encodeAll c.room batch = .ok cs) :
    ∃ walk, c.walk? serve (.batch kind items) w = some walk ∧
      (c.runBatch serve kind items w).1 = walk.outcome.bind (decode kind) := by
  obtain ⟨v, hv, -⟩ := prepare_eq items w
  rw [hb] at hv
  cases batch with
  | nil => exact absurd rfl hne
  | cons s ss =>
      refine ⟨c.walkWith serve kind (Utf8.encode cs) (c.noteBatch kind (s :: ss) v), ?_, ?_⟩
      · simp only [walk?, hb, hv, dispatch?, h, hcs, Except.toOption, Option.map_some]
        rfl
      · simp only [runBatch, not_closed_of_isOpen h, hv, Except.mapError, send_of_isOpen h, hcs]
        cases (c.walkWith serve kind (Utf8.encode cs) (c.noteBatch kind (s :: ss) v)).outcome <;> rfl

theorem entries?_of_walk? {walk : Run σ (Except Fault (List UInt8))}
    (h : c.walk? serve (.batch kind items) w = some walk) :
    c.entries? serve kind items w =
      walk.outcome.toOption.bind fun body => (parse body).toOption.map (·.results) := by
  rw [entries?, h, Option.bind_eq_bind, Option.bind_some]
  cases walk.outcome with
  | error f => rfl
  | ok body => cases hp : parse body <;> simp [Except.toOption, hp]

theorem entries?_of_no_walk (h : c.walk? serve (.batch kind items) w = none) :
    c.entries? serve kind items w = none := by
  rw [entries?, h]
  rfl

theorem statements_ne_nil {batch : List Statement} (h : Item.statements? items = .ok batch)
    (hne : items ≠ []) : batch ≠ [] := by
  obtain ⟨i, is, rfl⟩ := List.exists_cons_of_ne_nil hne
  obtain ⟨s, -, hs⟩ := Outcome.bind_eq_ok.mp h
  obtain ⟨ss, -, hs⟩ := Outcome.bind_eq_ok.mp hs
  cases hs
  exact List.cons_ne_nil s ss

theorem answered_run (h : c.isOpen = true) (hk : kind ≠ .queue) (hne : items ≠ []) :
    Answered kind (c.entries? serve kind items w) (c.run serve (.batch kind items) w).1 := by
  -- A batch is refused as it is prepared or as it is written, or it is sent.
  change Answered kind (c.entries? serve kind items w) (c.runBatch serve kind items w).1
  cases hb : Item.statements? items with
  | error e =>
      rw [(runBatch_unprepared serve kind w h hb).1, entries?_of_no_walk]
      · exact .error _
      · simp only [walk?, hb]
  | ok batch =>
      cases hcs : Statement.encodeAll c.room batch with
      | error e =>
          rw [(runBatch_unwritten serve kind w h hb hcs).1, entries?_of_no_walk]
          · exact .error _
          · simp only [walk?, hb, dispatch?, hcs, Except.toOption, Option.map_none, ite_self]
      | ok cs =>
          have hbne := statements_ne_nil hb hne
          obtain ⟨walk, hw, hr⟩ := runBatch_written serve w h hb hbne hcs
          rw [hr, entries?_of_walk? hw]
          cases walk.outcome with
          | error f => exact .error f
          | ok body => exact answered_decode hk body

theorem Answered.linesUp_iff {entries : Option (List Response.Entry)} {r : Except Fault Reply} {n : Nat}
    (h : Answered kind entries r) : LinesUp n r ↔ ∀ es, entries = some es → es.length = n := by
  cases h with
  | error f => exact ⟨fun _ => nofun, fun _ => .error f⟩
  | results es =>
      constructor
      · rintro (_ | ⟨hn, -⟩) es' hes
        cases hes
        rwa [List.length_mapIdx] at hn
      · intro hn
        refine .results (List.length_mapIdx.trans (hn es rfl)) ?_
        intro i r hr
        rw [List.getElem?_mapIdx] at hr
        obtain ⟨e, -, rfl⟩ := Option.map_eq_some_iff.mp hr
        rw [Response.Entry.result]
        split <;> rfl

/-- A batch gives an error or one result an entry of its answer. These line up with the statements
exactly where the answer, if it comes, has an entry for every one of them. -/
theorem linesUp_run_iff (h : c.isOpen = true) (hk : kind ≠ .queue) (hne : items ≠ [])
    (serve : Server σ) (w : World σ) :
    let r := (c.run serve (.batch kind items) w).1
    Answered kind (c.entries? serve kind items w) r ∧
      (LinesUp items.length r ↔
        ∀ es, c.entries? serve kind items w = some es → es.length = items.length) :=
  ⟨answered_run h hk hne, (answered_run h hk hne).linesUp_iff⟩

def answering (entries : String) : World (List Route) where
  server := [⟨"a:4001".toList, "/db/execute".toList, [.response ⟨200, [],
    Utf8.encode ("\x7b\"results\":[" ++ entries ++ "]\x7d").toList⟩]⟩]
  sent := []
  journal := .empty

def entryPerStatement : World (List Route) :=
  answering "\x7b\"rows_affected\":1\x7d,\x7b\"error\":\"e\"\x7d"

theorem writableBatch_linesUp :
    openedOnTwoSeeds.isOpen = true ∧ BatchKind.write ≠ .queue ∧ writableBatch ≠ [] ∧
      LinesUp writableBatch.length
        (openedOnTwoSeeds.run Script.serve (.batch .write writableBatch) entryPerStatement).1 := by
  have ho : openedOnTwoSeeds.isOpen = true := rfl
  have hk : BatchKind.write ≠ .queue := nofun
  have hne : writableBatch ≠ [] := List.cons_ne_nil _ _
  have hlen : (openedOnTwoSeeds.entries? Script.serve .write writableBatch entryPerStatement).map
      (·.length) = some 2 := by
    decide +kernel
  refine ⟨ho, hk, hne, (linesUp_run_iff ho hk hne Script.serve entryPerStatement).2.mpr ?_⟩
  intro es hes
  rw [hes] at hlen
  exact Option.some.inj hlen

def oneStatement : List Item := [.plain (.text "a")]

theorem oneStatement_not_linesUp :
    openedOnTwoSeeds.isOpen = true ∧ openedOnTwoSeeds.config.queuedWrites.isTruthy = false ∧
      ¬LinesUp oneStatement.length
        (openedOnTwoSeeds.run Script.serve (.batch .write oneStatement) (answering "")).1 := by
  have ho : openedOnTwoSeeds.isOpen = true := rfl
  have hk : BatchKind.write ≠ .queue := nofun
  have hne : oneStatement ≠ [] := List.cons_ne_nil _ _
  have hlen : (openedOnTwoSeeds.entries? Script.serve .write oneStatement (answering "")).map
      (·.length) = some 0 := by
    decide +kernel
  refine ⟨ho, rfl, ?_⟩
  intro hl
  obtain ⟨es, hes, hz⟩ := Option.map_eq_some_iff.mp hlen
  have hone : es.length = oneStatement.length := (answered_run ho hk hne).linesUp_iff.mp hl es hes
  rw [hz] at hone
  cases hone

end SqlCluster.Connection
