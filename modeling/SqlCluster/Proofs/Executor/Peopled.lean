import SqlCluster.Proofs.Executor.Tour
/-!
Faults that do not lie in a lack of peers. A walk over at least one peer fails with no others.
-/
namespace SqlCluster

open Http

/-- A fault that is neither a lack of peers nor handed in from outside. -/
def Fault.Peopled : Fault → Prop
  | .noPeers => False
  | .raised _ => False
  | _ => True

theorem Fault.Peopled.kind_ne {f : Fault} (h : f.Peopled) : f.kind ≠ .noPeers := by
  have hn (e : NumberError) : numberKind e ≠ .noPeers := by cases e <;> simp [numberKind]
  cases f with
  | noPeers => exact h.elim
  | raised r => exact h.elim
  | config e =>
      rw [kind, configKind]
      split
      · cases e <;> simp [settingKind]
      · simp
  | decode e =>
      cases e with
      | field e =>
          cases e with
          | number e => exact hn e
          | _ => simp [kind, decodeKind, fieldKind]
      | _ => simp [kind, decodeKind]
  | batch e =>
      cases e with
      | encoding e => cases e <;> simp [kind, batchKind, encodeKind]
      | notStatement name => simp [kind, batchKind]
  | number e => exact hn e
  | hostName e =>
      cases e with
      | label e => cases e <;> simp [kind, nameKind, labelKind]
      | _ => simp [kind, nameKind]
  | read e => cases e <;> simp [kind, readKind]
  | format e =>
      cases e with
      | pattern e => cases e <;> simp [kind, formatKind]
      | number e => exact hn e
      | _ => simp [kind, formatKind]
  | _ => simp [kind]

def FailsPeopled {α : Type} (r : Except Fault α) : Prop := ∀ f, r = .error f → f.Peopled

section FailsPeopled

variable {α β : Type}

theorem failsPeopled_ok (a : α) : FailsPeopled (.ok a) := by
  intro f h
  cases h

theorem failsPeopled_error {f : Fault} (h : f.Peopled) :
    FailsPeopled (.error f : Except Fault α) := by
  intro g hg
  cases hg
  exact h

theorem FailsPeopled.map {r : Except Fault α} (h : FailsPeopled r) (g : α → β) :
    FailsPeopled (r.map g) := by
  cases r with
  | ok a => exact failsPeopled_ok (g a)
  | error f => exact failsPeopled_error (h f rfl)

theorem FailsPeopled.error {r : Except Fault α} {f : Fault} (h : FailsPeopled r)
    (hr : r = .error f) : FailsPeopled (.error f : Except Fault β) := failsPeopled_error (h f hr)

end FailsPeopled

namespace Executor

variable {σ : Type} {x : Executor} {operation : Operation} {peer : Peer} {body : List UInt8}
  {queue : Bool}

theorem peopled_of_next {url : List Char} {answer : Except SendError Response} {f : Fault}
    (h : x.next operation peer url answer = .done (.escaped f)) : f.Peopled := by
  cases verdict_of_next h with
  | @leaked e _ he =>
      cases e with
      | failed f => simp [unsent, failure] at he
      | invalid e => simp [unsent, failure] at he
      | _ =>
          obtain rfl := Attempt.escaped.inj he
          trivial
  | unresolved _ _ hf =>
      rcases fault_of_redirect hf with ⟨e, rfl⟩ | rfl
      · trivial
      · trivial
  | unreadable _ _ _ => trivial

theorem Chain.peopled {fuel : Nat} {url : List Char} {calls : List Call} {a : Attempt}
    (h : Chain x operation peer body fuel url calls a) {f : Fault} (ha : a = .escaped f) :
    f.Peopled := by
  induction h with
  | spent url => simp [failure] at ha
  | done hn =>
      rw [ha] at hn
      exact peopled_of_next hn
  | onward _ _ ih => exact ih ha

theorem Tour.peopled {peers : List Peer} {failures : List PeerFailure} {calls : List Call}
    {outcome : Except Fault (List UInt8)}
    (h : Tour x operation body queue peers failures calls outcome) {f : Fault}
    (ho : outcome = .error f) : f.Peopled := by
  cases h with
  | exhausted _ =>
      obtain rfl := Except.error.inj ho
      trivial
  | stopped _ _ stop =>
      cases stop with
      | answered _ => cases ho
      | escaped ht =>
          obtain rfl := Except.error.inj ho
          obtain ⟨url, -, hc⟩ := ht
          exact hc.peopled rfl
      | unquotable _ =>
          obtain rfl := Except.error.inj ho
          trivial

theorem failsPeopled_execute {serve : Server σ} {w : World σ}
    (hp : x.topology.orderedPeers x.favorSeed ≠ []) :
    FailsPeopled (x.execute serve operation body queue w).1 := by
  intro f h
  exact (tour_walk serve queue w hp).peopled h

end Executor

end SqlCluster
