import SqlCluster.Proofs.Journal.Notice
import SqlCluster.Proofs.Text.Pieces
/-!
Transcripts: what is noted and recorded, in order. A computation tells a transcript if it leaves
that in any journal, whichever sink its lines go to, and neither its outcome nor the cluster depends
on the sink or the journal.
-/
namespace SqlCluster

open Text

inductive Event where
  | notice (n : Notice)
  | record (r : Record)

namespace Journal

def enter (t : Tracer) (j : Journal) : Event → Journal
  | .notice n => t.note n.text j
  | .record r => j.log r

def replay (t : Tracer) (es : List Event) (j : Journal) : Journal := es.foldl (enter t) j

theorem replay_append (t : Tracer) (es fs : List Event) (j : Journal) :
    j.replay t (es ++ fs) = (j.replay t es).replay t fs := List.foldl_append

theorem replay_cons (t : Tracer) (e : Event) (es : List Event) (j : Journal) :
    j.replay t (e :: es) = (j.enter t e).replay t es := rfl

def untraced (j : Journal) : List Record := j.records.filter fun r => r.channel ≠ .trace

theorem untraced_log (j : Journal) (r : Record) : (j.log r).untraced = j.untraced ++
    if r.severity < Severity.debug ∨ r.channel = .trace then [] else [r] := by
  rw [log]
  by_cases hs : r.severity < Severity.debug
  · rw [if_pos hs, if_pos (.inl hs), List.append_nil]
  · rw [if_neg hs, untraced, List.filter_append]
    by_cases hc : r.channel = .trace
    · rw [if_pos (.inr hc), List.filter_cons_of_neg (by simp [hc]), List.filter_nil]
      rfl
    · rw [if_neg (not_or.mpr ⟨hs, hc⟩), List.filter_cons_of_pos (by simp [hc]), List.filter_nil]
      rfl

theorem untraced_note (t : Tracer) (message : String) (j : Journal) :
    (t.note message j).untraced = j.untraced := by
  rw [Tracer.note]
  cases t.sink with
  | silent => rfl
  | stream => rfl
  | log severity =>
      rw [Sink.write, untraced_log, if_pos (.inr rfl), List.append_nil]

theorem untraced_replay (s t : Tracer) (es : List Event) {i j : Journal}
    (h : i.untraced = j.untraced) : (i.replay s es).untraced = (j.replay t es).untraced := by
  induction es generalizing i j with
  | nil => exact h
  | cons e es ih =>
      refine ih ?_
      cases e with
      | notice n => rw [enter, enter, untraced_note, untraced_note, h]
      | record r => rw [enter, enter, untraced_log, untraced_log, h]

end Journal

section Tells

variable {σ α β γ : Type}

/-- What it gives in the end is put together from its outcome, of which `outcome` holds, and the
world. -/
def TellsAs (give : Sink → α → World σ → β) (id : List Char) (fits : Event → Prop)
    (outcome : α → Prop) (f : Sink → Journal → β) : Prop :=
  ∃ a server sent es, outcome a ∧ (∀ e ∈ es, fits e) ∧
    ∀ sink j, f sink j = give sink a ⟨server, sent, j.replay ⟨sink, id⟩ es⟩

def Tells (id : List Char) (fits : Event → Prop) (outcome : α → Prop)
    (f : Sink → Journal → α × World σ) : Prop :=
  TellsAs (fun _ a w => (a, w)) id fits outcome f

variable {give : Sink → α → World σ → β} {id : List Char} {fits : Event → Prop}
  {outcome : α → Prop} {f : Sink → Journal → β}

theorem TellsAs.pure {a : α} (h : outcome a) (server : σ) (sent : List Http.Request) :
    TellsAs give id fits outcome fun sink j => give sink a ⟨server, sent, j⟩ := by
  refine ⟨a, server, sent, [], h, ?_, fun _ _ => rfl⟩
  intro e he
  cases he

theorem Tells.pure {a : α} (h : outcome a) (server : σ) (sent : List Http.Request) :
    Tells id fits outcome fun _ j => (a, ⟨server, sent, j⟩) :=
  TellsAs.pure h server sent

theorem Tells.elim {g : Sink → Journal → α × World σ} (h : Tells id fits outcome g) :
    ∃ a server sent es, outcome a ∧ (∀ e ∈ es, fits e) ∧
      ∀ sink j, g sink j = (a, ⟨server, sent, j.replay ⟨sink, id⟩ es⟩) := h

theorem TellsAs.after (h : TellsAs give id fits outcome f) {es : List Event}
    (hes : ∀ e ∈ es, fits e) :
    TellsAs give id fits outcome fun sink j => f sink (j.replay ⟨sink, id⟩ es) := by
  obtain ⟨a, server, sent, fs, ha, hfs, hf⟩ := h
  refine ⟨a, server, sent, es ++ fs, ha, ?_, ?_⟩
  · intro e he
    rcases List.mem_append.mp he with he | he
    · exact hes e he
    · exact hfs e he
  · intro sink j
    simp only [hf, Journal.replay_append]

theorem TellsAs.note (h : TellsAs give id fits outcome f) {n : Notice} (hn : fits (.notice n)) :
    TellsAs give id fits outcome fun sink j => f sink (Tracer.note ⟨sink, id⟩ n.text j) := by
  have hes : ∀ e ∈ [Event.notice n], fits e := List.forall_mem_singleton.mpr hn
  exact h.after hes

theorem TellsAs.log (h : TellsAs give id fits outcome f) {r : Record} (hr : fits (.record r)) :
    TellsAs give id fits outcome fun sink j => f sink (j.log r) := by
  have hes : ∀ e ∈ [Event.record r], fits e := List.forall_mem_singleton.mpr hr
  exact h.after hes

theorem TellsAs.congr {g : Sink → Journal → β} (h : TellsAs give id fits outcome f)
    (hfg : ∀ sink j, g sink j = f sink j) : TellsAs give id fits outcome g := by
  obtain ⟨a, server, sent, es, ha, hes, hf⟩ := h
  exact ⟨a, server, sent, es, ha, hes, fun sink j => (hfg sink j).trans (hf sink j)⟩

end Tells

end SqlCluster
