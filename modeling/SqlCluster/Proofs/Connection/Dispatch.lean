import SqlCluster.Proofs.Connection.Beliefs
import SqlCluster.Proofs.Executor.Slots
/-!
How statements are sent. An operation on statements comes to one walk over the peers, with one body,
or to none at all; and nothing reaches the cluster but the requests of that walk.
-/
namespace SqlCluster

open Http

def Step.kind? : Step → Option BatchKind
  | .batch kind _ => some kind
  | .single kind _ _ => some kind
  | _ => none

theorem BatchKind.isData_operation (kind : BatchKind) : kind.operation.isData = true := by
  cases kind <;> rfl

namespace Connection

variable {σ : Type} {serve : Server σ} {c : Connection} {step : Step} {kind : BatchKind}
  {batch : List Statement} {w : World σ}

theorem quiet_announce (w : World σ) (s : Statement) : w.Quiet (w.announce s) := by
  unfold World.announce
  split
  · exact .refl w
  · exact w.quiet_log _ _ _

def announcedBy (i : Item) (s : Statement) (w : World σ) : World σ :=
  match i with
  | .plain _ => w.announce s
  | _ => w

theorem quiet_announcedBy (i : Item) (s : Statement) (w : World σ) : w.Quiet (announcedBy i s w) := by
  cases i with
  | plain t => exact quiet_announce w s
  | prepared s => exact .refl w
  | other v => exact .refl w

theorem prepare_cons {i : Item} {is : List Item} {s : Statement} (h : i.statement? = .ok s) :
    prepare (i :: is) w = ((prepare is (announcedBy i s w)).1.map (s :: ·),
      (prepare is (announcedBy i s w)).2) := by
  cases hr : prepare is (announcedBy i s w) with
  | mk r v =>
      have hp : prepare (i :: is) w = (r.map (s :: ·), v) := by
        cases i <;> simp only [announcedBy] at hr <;> simp only [prepare, h, hr] <;> cases r <;> rfl
      exact hp

theorem prepare_eq (items : List Item) (w : World σ) :
    ∃ v, prepare items w = ((Item.statements? items).mapError .batch, v) ∧ w.Quiet v := by
  induction items generalizing w with
  | nil => exact ⟨w, rfl, .refl w⟩
  | cons i is ih =>
      cases h : i.statement? with
      | error e => exact ⟨w, by simp only [prepare, Item.statements?, h]; rfl, .refl w⟩
      | ok s =>
          obtain ⟨v, hv, hq⟩ := ih (announcedBy i s w)
          refine ⟨v, ?_, (quiet_announcedBy i s w).trans hq⟩
          rw [prepare_cons h, hv]
          simp only [Item.statements?, h]
          cases Item.statements? is <;> rfl

theorem quiet_single (item : Item) (parameters : List Value) (w : World σ) :
    w.Quiet (single item parameters w).2 := by
  unfold single
  split
  · split <;> exact .refl w
  · exact quiet_announce w _
  · exact .refl w
  · exact .refl w
  · split
    · exact quiet_announce w _
    · exact .refl w

def noteBatch (c : Connection) (kind : BatchKind) (batch : List Statement) (w : World σ) : World σ :=
  w.note c.tracer (kind.operation.name ++ " of " ++ toString batch.length ++ " statement(s)")

def walkWith (serve : Server σ) (c : Connection) (kind : BatchKind) (body : List UInt8)
    (w : World σ) : Run σ (Except Fault (List UInt8)) :=
  c.executor.walk serve kind.operation body (decide (kind = .queue)) w

theorem slotted_walkWith (c : Connection) (serve : Server σ) (kind : BatchKind) (body : List UInt8)
    (w : World σ) : Executor.Slotted c.executor kind.operation body (decide (kind = .queue))
      (c.topology.orderedPeers c.favorSeed) (c.walkWith serve kind body w).calls := by
  have hm : 0 ≤ c.executor.maxRedirects := show (0 : Int) ≤ 10 by decide
  exact Executor.slotted_walk hm serve w

def dispatch? (serve : Server σ) (c : Connection) (kind : BatchKind) (batch : List Statement)
    (w : World σ) : Option (Run σ (Except Fault (List UInt8))) :=
  if c.isOpen && !batch.isEmpty then
    (Statement.encodeAll c.room batch).toOption.map fun cs =>
      c.walkWith serve kind (Text.Utf8.encode cs) (c.noteBatch kind batch w)
  else none

/-- The walk that an operation makes for its statements, if it makes one. -/
def walk? (serve : Server σ) (c : Connection) (step : Step) (w : World σ) :
    Option (Run σ (Except Fault (List UInt8))) :=
  match step with
  | .batch kind items => match Item.statements? items with
      | .ok batch => c.dispatch? serve kind batch (prepare items w).2
      | .error _ => none
  | .single kind item parameters => match single item parameters w with
      | (.ok s, w) => c.dispatch? serve kind [s] w
      | _ => none
  | _ => none

/-- The requests of a walk are all that reached the cluster meanwhile. -/
inductive Delivered (x : Executor) (w : World σ) :
    Option (Run σ (Except Fault (List UInt8))) → World σ → Prop
  | silent {v : World σ} (h : w.Quiet v) : Delivered x w none v
  | sent {r : Run σ (Except Fault (List UInt8))} (h : x.Delivers w r) : Delivered x w (some r) r.world

theorem Delivered.of_quiet {x : Executor} {u v : World σ}
    {o : Option (Run σ (Except Fault (List UInt8)))} (hd : Delivered x u o v) (h : w.Quiet u) :
    Delivered x w o v := by
  cases hd with
  | silent hq => exact .silent (h.trans hq)
  | sent hs =>
      refine .sent ?_
      rw [Executor.Delivers] at hs ⊢
      rw [hs, h.2]

theorem Delivered.quiet {x : Executor} {v : World σ} (h : Delivered x w none v) : w.Quiet v := by
  cases h with
  | silent h => exact h

theorem Delivered.sent_eq {x : Executor} {v : World σ} {r : Run σ (Except Fault (List UInt8))}
    (h : Delivered x w (some r) v) :
    v.sent = w.sent ++ r.calls.filterMap (Call.request? x.config.timeout) := by
  cases h with
  | sent h => exact h

theorem dispatch_of_not_isOpen (h : c.isOpen = false) : c.dispatch? serve kind batch w = none := by
  simp [dispatch?, h]

theorem send_of_isOpen (h : c.isOpen = true) :
    c.send serve kind batch w = match Statement.encodeAll c.room batch with
      | .error e => (.error (.batch (.encoding e)), c.noteBatch kind batch w)
      | .ok cs =>
          let r := c.walkWith serve kind (Text.Utf8.encode cs) (c.noteBatch kind batch w)
          (r.outcome, r.world) := by
  simp only [send, requireExecutor_of_isOpen h]
  rfl

theorem delivered_send (hb : batch ≠ []) :
    Delivered c.executor w (c.dispatch? serve kind batch w) (c.send serve kind batch w).2 := by
  have hne : batch.isEmpty = false := by simpa using hb
  have hnote : w.Quiet (c.noteBatch kind batch w) := w.quiet_note _ _
  cases ho : c.isOpen with
  | false =>
      obtain ⟨f, hf⟩ := requireExecutor_of_not_isOpen ho
      rw [dispatch_of_not_isOpen ho]
      simp only [send, hf]
      exact .silent (.refl w)
  | true =>
      rw [send_of_isOpen ho, dispatch?, ho, hne]
      cases Statement.encodeAll c.room batch with
      | error e => exact .silent hnote
      | ok cs =>
          exact Delivered.of_quiet (.sent (Executor.delivers_walk serve kind.isData_operation _ _)) hnote

theorem delivered_runBatch (items : List Item) (w : World σ) :
    Delivered c.executor w (c.walk? serve (.batch kind items) w)
      (c.runBatch serve kind items w).2 := by
  obtain ⟨v, hv, hq⟩ := prepare_eq items w
  simp only [walk?, runBatch, hv]
  cases hc : c.closed with
  | true =>
      have ho : c.isOpen = false := by simp [isOpen, hc]
      cases Item.statements? items with
      | error e => exact .silent (.refl w)
      | ok batch =>
          simp only [dispatch_of_not_isOpen ho]
          exact .silent (.refl w)
  | false =>
      cases Item.statements? items with
      | error e => exact .silent hq
      | ok batch =>
          cases batch with
          | nil =>
              simp only [dispatch?, List.isEmpty_nil, Bool.not_true, Bool.and_false]
              exact .silent hq
          | cons s ss =>
              have hd : Delivered c.executor w (c.dispatch? serve kind (s :: ss) v)
                  (c.send serve kind (s :: ss) v).2 :=
                (delivered_send (List.cons_ne_nil s ss)).of_quiet hq
              simp only [Except.mapError, Bool.false_eq_true, if_false]
              split
              · next he =>
                  rw [he] at hd
                  exact hd
              · next he =>
                  rw [he] at hd
                  exact hd

theorem delivered_runSingle {item : Item} {parameters : List Value} :
    Delivered c.executor w (c.walk? serve (.single kind item parameters) w)
      (c.runSingle serve kind item parameters w).2 := by
  have hq := quiet_single item parameters w
  -- A single statement that was made is sent as a batch of one.
  simp only [walk?, runSingle]
  split
  · next s v h =>
      rw [h] at hq
      rw [h]
      have hd : Delivered c.executor v (c.dispatch? serve kind [s] v)
          (c.runBatch serve kind [.prepared s] v).2 :=
        delivered_runBatch [.prepared s] v
      refine Delivered.of_quiet ?_ hq
      dsimp only
      split
      · next he =>
          rw [he] at hd
          exact hd
      · exact hd
  · next hne =>
      split
      · next h =>
          rw [h] at hq
          exact .silent hq
      · next s v h => exact absurd h (hne s v)

/-- Of an operation on statements, exactly the requests of its walk reach the cluster. -/
theorem delivered_run (serve : Server σ) (c : Connection) (w : World σ)
    (hk : step.kind? = some kind) :
    Delivered c.executor w (c.walk? serve step w) (c.run serve step w).2.2 := by
  cases step with
  | batch kind items => exact delivered_runBatch items w
  | single kind item parameters => exact delivered_runSingle
  | _ => cases hk

end Connection

end SqlCluster
