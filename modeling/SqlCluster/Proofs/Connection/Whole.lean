import SqlCluster.Proofs.Connection.Dispatch
import SqlCluster.Proofs.Statement.Refusal
/-!
A batch is sent whole or not at all. Where an item is refused nothing reaches the cluster, and else
every request that does has the same body, in which each item has its entry.
-/
namespace SqlCluster.Connection

open Text Http

variable {σ : Type} {c : Connection} {items : List Item}

theorem not_closed_of_isOpen (h : c.isOpen = true) : c.closed = false := (isOpen_iff.mp h).2

theorem runBatch_unprepared (serve : Server σ) (kind : BatchKind) (w : World σ)
    (h : c.isOpen = true) {e : BatchError} (he : Item.statements? items = .error e) :
    (c.runBatch serve kind items w).1 = .error (.batch e) ∧
      w.Quiet (c.runBatch serve kind items w).2 := by
  obtain ⟨v, hv, hq⟩ := prepare_eq items w
  rw [he] at hv
  have hrun : c.runBatch serve kind items w = (.error (.batch e), v) := by
    simp only [runBatch, not_closed_of_isOpen h, hv]
    rfl
  rw [hrun]
  exact ⟨rfl, hq⟩

theorem runBatch_unwritten (serve : Server σ) (kind : BatchKind) (w : World σ)
    (h : c.isOpen = true) {batch : List Statement} {e : Json.EncodeError}
    (hb : Item.statements? items = .ok batch) (he : Statement.encodeAll c.room batch = .error e) :
    (c.runBatch serve kind items w).1 = .error (.batch (.encoding e)) ∧
      w.Quiet (c.runBatch serve kind items w).2 := by
  obtain ⟨v, hv, hq⟩ := prepare_eq items w
  rw [hb] at hv
  cases batch with
  | nil => cases he
  | cons s ss =>
      have hnote : v.Quiet (c.noteBatch kind (s :: ss) v) := v.quiet_note _ _
      have hrun : c.runBatch serve kind items w =
          (.error (.batch (.encoding e)), c.noteBatch kind (s :: ss) v) := by
        simp only [runBatch, not_closed_of_isOpen h, hv, Except.mapError, send_of_isOpen h, he]
        rfl
      rw [hrun]
      exact ⟨rfl, hq.trans hnote⟩

theorem runBatch_refused (serve : Server σ) (kind : BatchKind) (w : World σ) (h : c.isOpen = true)
    (hr : ∃ i ∈ items, i.IsRefused c.room) :
    (∃ e, (c.runBatch serve kind items w).1 = .error (.batch e)) ∧
      w.Quiet (c.runBatch serve kind items w).2 := by
  obtain ⟨i, hi, hr⟩ := hr
  rcases Item.refused_of_mem hi hr with ⟨e, he⟩ | ⟨batch, e, hb, he⟩
  · obtain ⟨hf, hq⟩ := runBatch_unprepared serve kind w h he
    exact ⟨⟨e, hf⟩, hq⟩
  · obtain ⟨hf, hq⟩ := runBatch_unwritten serve kind w h hb he
    exact ⟨⟨.encoding e, hf⟩, hq⟩

theorem runBatch_nil (serve : Server σ) (kind : BatchKind) (w : World σ) (h : c.isOpen = true) :
    c.runBatch serve kind [] w = (.ok (nothing kind), w) := by
  simp only [runBatch, not_closed_of_isOpen h, prepare]
  rfl

theorem walk_written (serve : Server σ) (kind : BatchKind) (w : World σ) (h : c.isOpen = true)
    {batch : List Statement} {cs : List Char} (hb : Item.statements? items = .ok batch)
    (hne : batch ≠ []) (hcs : Statement.encodeAll c.room batch = .ok cs) :
    ∃ v, c.walk? serve (.batch kind items) w =
      some (c.walkWith serve kind (Utf8.encode cs) v) := by
  have hn : batch.isEmpty = false := by simpa using hne
  refine ⟨c.noteBatch kind batch (prepare items w).2, ?_⟩
  simp only [walk?, hb, dispatch?, h, hn, hcs, Except.toOption, Option.map_some]
  rfl

structure SameBody (timeout : Value) (body : List UInt8) (calls : List Call) : Prop where
  made : ∀ call ∈ calls, call.method = .post ∧ call.body = body
  sent : ∀ r ∈ calls.filterMap (Call.request? timeout), r.method = .post ∧ r.body = body

theorem sameBody_walkWith (c : Connection) (serve : Server σ) (kind : BatchKind)
    (body : List UInt8) (v : World σ) :
    SameBody c.config.timeout body (c.walkWith serve kind body v).calls := by
  have made : ∀ call ∈ (c.walkWith serve kind body v).calls,
      call.method = .post ∧ call.body = body := by
    intro call hc
    obtain ⟨hm, hb⟩ := (slotted_walkWith c serve kind body v).replays call hc
    rw [Executor.methodOf, if_pos kind.isData_operation] at hm
    exact ⟨hm, hb⟩
  refine ⟨made, ?_⟩
  intro r hr
  obtain ⟨call, hc, hr⟩ := List.mem_filterMap.mp hr
  obtain ⟨hm, hb⟩ := made call hc
  obtain ⟨hmr, hbr⟩ := Call.body_of_request hr
  exact ⟨hmr.trans hm, hbr.trans hb⟩

/-- An open connection refuses a batch before anything is sent, or sends all of it with every
request that it makes. -/
theorem whole_or_nothing_run (h : c.isOpen = true) (serve : Server σ) (kind : BatchKind)
    (items : List Item) (w : World σ) :
    let r := c.run serve (.batch kind items) w
    r.2.1 = c ∧
      ((∃ i ∈ items, i.IsRefused c.room) → (∃ e, r.1 = .error (.batch e)) ∧ w.Quiet r.2.2) ∧
      ((∀ i ∈ items, ¬i.IsRefused c.room) →
        ∃ js, List.Forall₂ (fun i j => i.wire? c.room = .ok j) items js ∧
          (items = [] → r.1 = .ok (nothing kind) ∧ w.Quiet r.2.2) ∧
          (items ≠ [] → ∃ walk, c.walk? serve (.batch kind items) w = some walk ∧
            r.2.2.sent = w.sent ++ walk.calls.filterMap (Call.request? c.config.timeout) ∧
            SameBody c.config.timeout (Utf8.encode (Json.render (.list js))) walk.calls)) := by
  intro r
  refine ⟨rfl, runBatch_refused serve kind w h, ?_⟩
  intro hr
  obtain ⟨batch, js, hb, hcs, hlen, hall⟩ := Item.wires_of_not_isRefused hr
  refine ⟨js, hall, ?_, ?_⟩
  · rintro rfl
    have hrun : c.runBatch serve kind [] w = (.ok (nothing kind), w) := runBatch_nil serve kind w h
    refine ⟨congrArg Prod.fst hrun, ?_⟩
    show w.Quiet (c.runBatch serve kind [] w).2
    rw [hrun]
    exact .refl w
  · intro hne
    have hbne : batch ≠ [] := by
      rintro rfl
      exact hne (List.length_eq_zero_iff.mp hlen.symm)
    obtain ⟨v, hw⟩ := walk_written serve kind w h hb hbne hcs
    have hd : Delivered c.executor w (c.walk? serve (.batch kind items) w) r.2.2 :=
      delivered_run serve c w rfl
    rw [hw] at hd
    exact ⟨_, hw, hd.sent_eq, sameBody_walkWith c serve kind _ v⟩

def openedOnTwoSeeds : Connection := (make twoSeeds ⟨.silent, []⟩ false none Json.usualRoom).begun

/-- The first peer leads on to the second, which is out of reach. -/
def redirectingFirst : World (List Route) where
  server := [⟨"a:4001".toList, "/db/execute".toList,
    [.response ⟨307, [("location", "http://b:4001/db/execute")], []⟩]⟩]
  sent := []
  journal := .empty

def writableBatch : List Item :=
  [.plain (.text "a"), .prepared ⟨.text "b(?)", [.tuple [.int 1, .null]]⟩]

def batchWithSet : List Item :=
  writableBatch ++ [.prepared ⟨.text "c(?)", [.list [.map [("k", .set [])]]]⟩]

theorem batchWithSet_refused (room : Nat) : ∃ i ∈ batchWithSet, i.IsRefused room := by
  refine ⟨.prepared ⟨.text "c(?)", [.list [.map [("k", .set [])]]]⟩, by simp [batchWithSet], ?_⟩
  have hs : Value.Holds (.list [.map [("k", .set [])]]) (.set []) :=
    .list List.mem_cons_self (.map List.mem_cons_self (.self _))
  exact .formless rfl (List.mem_cons_of_mem _ List.mem_cons_self) hs rfl

theorem writableBatch_not_refused : ∀ i ∈ writableBatch, ¬i.IsRefused openedOnTwoSeeds.room := by
  intro i hi hr
  obtain ⟨e, he⟩ := Item.wire_of_isRefused hr
  have hok : ∀ i ∈ writableBatch, (i.wire? openedOnTwoSeeds.room).isOk = true := by decide +kernel
  have hok := hok i hi
  rw [he] at hok
  cases hok

/-- A set deep in the last statement holds up the whole batch. Without that statement the batch goes
to both peers and to where the first one leads. -/
theorem batchWithSet_whole_or_nothing :
    openedOnTwoSeeds.isOpen = true ∧ (∃ i ∈ batchWithSet, i.IsRefused openedOnTwoSeeds.room) ∧
      (∀ i ∈ writableBatch, ¬i.IsRefused openedOnTwoSeeds.room) ∧
      ((∃ e, (openedOnTwoSeeds.run Script.serve (.batch .write batchWithSet) redirectingFirst).1 =
          .error (.batch e)) ∧
        redirectingFirst.Quiet
          (openedOnTwoSeeds.run Script.serve (.batch .write batchWithSet) redirectingFirst).2.2) ∧
      ∃ js walk, List.Forall₂ (fun i j => i.wire? openedOnTwoSeeds.room = .ok j) writableBatch js ∧
        openedOnTwoSeeds.walk? Script.serve (.batch .write writableBatch) redirectingFirst = some walk ∧
        walk.calls.length = 3 ∧
        SameBody twoSeeds.timeout (Utf8.encode (Json.render (.list js))) walk.calls := by
  have ho : openedOnTwoSeeds.isOpen = true := rfl
  obtain ⟨-, hrefused, -⟩ := whole_or_nothing_run ho Script.serve .write batchWithSet redirectingFirst
  obtain ⟨-, -, hwritten⟩ := whole_or_nothing_run ho Script.serve .write writableBatch redirectingFirst
  obtain ⟨js, hjs, -, hsent⟩ := hwritten writableBatch_not_refused
  obtain ⟨walk, hwalk, -, hbody⟩ := hsent (by simp [writableBatch])
  have hcalls : (openedOnTwoSeeds.walk? Script.serve (.batch .write writableBatch)
      redirectingFirst).map (·.calls.length) =
      some 3 := by decide +kernel
  rw [hwalk] at hcalls
  exact ⟨ho, batchWithSet_refused _, writableBatch_not_refused, hrefused (batchWithSet_refused _), js,
    walk, hjs, hwalk,
    Option.some.inj hcalls, hbody⟩

end SqlCluster.Connection
