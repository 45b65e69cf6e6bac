import SqlCluster.Http.Script
import SqlCluster.Proofs.Connection.Transcript
import SqlCluster.Proofs.Text.Pieces
/-!
What a sink is for. It changes nothing but the lines that are left. On a stream every message opens
with the connection's name, but one that tells of a failure can go on in lines that do not.
-/
namespace SqlCluster

open Text Uri Http

def Notice.entry (id : List Char) (n : Notice) : List Char :=
  (id ++ ':' :: ' ' :: trim isBlank n.text.toList) ++ ['\n']

/-- The lines of a message behind its first. -/
def Notice.furtherLines (n : Notice) : List (List Char) :=
  (splitAt '\n' (trim isBlank n.text.toList)).tail

def linesOf (cs : List Char) : List (List Char) := (splitAt '\n' cs).dropLast

def IsSigned (id line : List Char) : Prop := id ++ [':', ' '] <+: line

instance (id line : List Char) : Decidable (IsSigned id line) :=
  inferInstanceAs (Decidable (_ <+: _))

def Event.notices : List Event → List Notice :=
  List.filterMap fun
    | .notice n => some n
    | .record _ => none

theorem trimEnd_line (id cs : List Char) :
    trimEnd Sink.isNewline (id ++ ':' :: ' ' :: trim isBlank cs) =
      id ++ ':' :: ' ' :: trim isBlank cs := by
  have hblank (c : Char) (hc : Sink.isNewline c = true) : isBlank c = true := by
    obtain rfl := beq_iff_eq.mp hc
    decide
  have htext : trimEnd Sink.isNewline (trim isBlank cs) = trim isBlank cs :=
    trimEnd_trimEnd hblank _
  have hsplit : id ++ ':' :: ' ' :: trim isBlank cs = (id ++ [':']) ++ ' ' :: trim isBlank cs := by
    rw [List.append_assoc, List.singleton_append]
  rw [hsplit, trimEnd_append_cons (by decide), htext]

theorem stream_note (id : List Char) (n : Notice) (j : Journal) :
    (Tracer.note ⟨.stream, id⟩ n.text j).stream = j.stream ++ n.entry id := by
  rw [Tracer.note, Sink.write, Tracer.line, trimEnd_line, Notice.entry, List.append_assoc]

theorem stream_log (j : Journal) (r : Record) : (j.log r).stream = j.stream := by
  rw [Journal.log]
  split <;> rfl

theorem stream_replay (id : List Char) (es : List Event) (j : Journal) :
    (j.replay ⟨.stream, id⟩ es).stream =
      j.stream ++ (Event.notices es).flatMap (Notice.entry id) := by
  induction es generalizing j with
  | nil => rw [Journal.replay, List.foldl_nil, Event.notices, List.filterMap_nil, List.flatMap_nil,
      List.append_nil]
  | cons e es ih =>
      rw [Journal.replay_cons, ih]
      cases e with
      | notice n => rw [Journal.enter, stream_note, List.append_assoc]; rfl
      | record r => rw [Journal.enter, stream_log]; rfl

theorem linesOf_nil : linesOf [] = [] := rfl

theorem linesOf_append (cs ds : List Char) :
    linesOf (cs ++ '\n' :: ds) = splitAt '\n' cs ++ linesOf ds := by
  rw [linesOf, linesOf, splitAt_append_cons, List.dropLast_append_of_ne_nil (splitAt_ne_nil _ _)]

theorem splitAt_behind {id : List Char} (hid : '\n' ∉ id) (cs : List Char) :
    ∃ line, splitAt '\n' (id ++ cs) = (id ++ line) :: (splitAt '\n' cs).tail := by
  induction id with
  | nil =>
      obtain ⟨line, rest, h⟩ := List.exists_cons_of_ne_nil (splitAt_ne_nil '\n' cs)
      exact ⟨line, by rw [h]; exact h⟩
  | cons c id ih =>
      rw [List.mem_cons, not_or] at hid
      obtain ⟨line, h⟩ := ih hid.2
      exact ⟨line, by simp [splitAt, Ne.symm hid.1, h]⟩

theorem lines_entry {id : List Char} (hid : '\n' ∉ id) (n : Notice) (rest : List Char) :
    ∃ first, IsSigned id first ∧
      linesOf (n.entry id ++ rest) = first :: n.furtherLines ++ linesOf rest := by
  have hname : '\n' ∉ id ++ [':', ' '] := by
    rw [List.mem_append, not_or]
    exact ⟨hid, by decide⟩
  obtain ⟨line, hl⟩ := splitAt_behind hname (trim isBlank n.text.toList)
  refine ⟨(id ++ [':', ' ']) ++ line, List.prefix_append _ _, ?_⟩
  have hentry : n.entry id ++ rest =
      ((id ++ [':', ' ']) ++ trim isBlank n.text.toList) ++ '\n' :: rest := by
    simp [Notice.entry]
  rw [hentry, linesOf_append, hl, Notice.furtherLines]

/-- All lines are signed where those are that follow the first line of a message. -/
theorem signed_entries {id : List Char} (hid : '\n' ∉ id) (ns : List Notice) :
    (∀ line ∈ linesOf (ns.flatMap (Notice.entry id)), IsSigned id line) ↔
      ∀ n ∈ ns, ∀ line ∈ n.furtherLines, IsSigned id line := by
  induction ns with
  | nil => simp [linesOf_nil]
  | cons n ns ih =>
      obtain ⟨first, hfirst, hlines⟩ := lines_entry hid n (ns.flatMap (Notice.entry id))
      rw [List.flatMap_cons, hlines]
      simp only [List.mem_append, List.mem_cons, or_imp, forall_and, forall_eq, ih]
      exact ⟨fun h => ⟨h.1.2, h.2⟩, fun h => ⟨⟨hfirst, h.1⟩, h.2⟩⟩

theorem furtherLines_of_inline {n : Notice} (h : Inline n.text.toList) : n.furtherLines = [] := by
  have ht : '\n' ∉ trim isBlank n.text.toList := by
    have hd : Inline (trim isBlank n.text.toList) := Within.trimEnd (h.dropWhile _)
    exact inline_iff.mp hd
  rw [Notice.furtherLines, splitAt_of_not_mem ht, List.tail_cons]

namespace Connection

variable {σ : Type}

/-- Two runs whose lines go to different sinks reply the same to every operation, send the same
requests, pass through the same states and leave the same records besides their lines. They note the
same as well, and to fill it in never fails. -/
theorem transparent_after (c : Connection) (serve : Server σ) (w : World σ) (steps : List Step)
    (s t : Sink) :
    let p := after serve steps (c.through s, w)
    let q := after serve steps (c.through t, w)
    q.1 = p.1.through t ∧ q.2.server = p.2.server ∧ q.2.sent = p.2.sent ∧
      q.2.journal.untraced = p.2.journal.untraced ∧
      (∀ step, (q.1.run serve step q.2).1 = (p.1.run serve step p.2).1) ∧
      ∃ es, p.2.journal = w.journal.replay ⟨s, c.tracer.id⟩ es ∧
        q.2.journal = w.journal.replay ⟨t, c.tracer.id⟩ es ∧
        ∀ n, .notice n ∈ es → n.IsWritable → ∀ sink j,
          Tracer.format ⟨sink, c.tracer.id⟩ n.pattern n.args j =
            .ok (Tracer.note ⟨sink, c.tracer.id⟩ n.text j) := by
  intro p q
  have hc : Suits c.tracer.id False c := ⟨rfl, False.elim⟩
  obtain ⟨d, served, asked, es, hd, -, hrun⟩ := tells_after serve hc steps w.server w.sent
  have hp : p = (d.through s, ⟨served, asked, w.journal.replay ⟨s, c.tracer.id⟩ es⟩) :=
    hrun s w.journal
  have hq : q = (d.through t, ⟨served, asked, w.journal.replay ⟨t, c.tracer.id⟩ es⟩) :=
    hrun t w.journal
  rw [hp, hq]
  refine ⟨rfl, rfl, rfl, Journal.untraced_replay _ _ es rfl, ?_, es, rfl, rfl, ?_⟩
  · intro step
    obtain ⟨r, e, served, asked, fs, -, -, hstep⟩ :=
      (tells_run serve hd step served asked).elim
    rw [hstep, hstep]
  · intro n _ hn sink j
    exact Notice.format_eq hn _ j

/-- Every message on a stream opens with the connection's name, so that all lines do exactly where
the further lines of messages do. A message has some only where it quotes line ends of a failure,
unless a peer was given with one in its host. -/
theorem signed_after (c : Connection) (hid : '\n' ∉ c.tracer.id) (serve : Server σ) (w : World σ)
    (steps : List Step) :
    let p := after serve steps (c.through .stream, w)
    ∃ ns : List Notice,
      p.2.journal.stream = w.journal.stream ++ ns.flatMap (Notice.entry c.tracer.id) ∧
        ((∀ line ∈ linesOf (ns.flatMap (Notice.entry c.tracer.id)), IsSigned c.tracer.id line) ↔
          ∀ n ∈ ns, ∀ line ∈ n.furtherLines, IsSigned c.tracer.id line) ∧
        (c.IsInline → ∀ n ∈ ns, '\n' ∉ n.quoted.toList → n.furtherLines = []) := by
  intro p
  have hc : Suits c.tracer.id c.IsInline c := ⟨rfl, id⟩
  obtain ⟨d, served, asked, es, -, hes, hrun⟩ :=
    tells_after serve hc steps w.server w.sent
  have hp : p = (d.through .stream,
      ⟨served, asked, w.journal.replay ⟨.stream, c.tracer.id⟩ es⟩) := hrun .stream w.journal
  refine ⟨Event.notices es, ?_, signed_entries hid _, ?_⟩
  · rw [hp, stream_replay]
  · intro hi n hn hquoted
    obtain ⟨e, he, hen⟩ := List.mem_filterMap.mp hn
    have htidy := hes e he
    cases e with
    | record r => cases hen
    | notice m =>
        cases hen
        exact furtherLines_of_inline (htidy hi (inline_iff.mpr hquoted))

def withoutDiscovery : Config :=
  { Config.default with seeds := [⟨"a", 4001⟩], disableDiscovery := .bool true }

/-- The only peer fails with a text that spells a line of another connection. -/
def multilineFailure : List Route :=
  [⟨"a:4001".toList, "/db/query".toList,
    [.response ⟨500, [], Utf8.encode "down\nOTHER: closing connection".toList⟩]⟩]

def streamTraced : Connection := make withoutDiscovery ⟨.stream, "ID".toList⟩ false none Json.usualRoom

def openAndQuery : List Step := [.open, .batch .query [.plain (.text "SELECT 1")]]

theorem multilineFailure_lines :
    "OTHER: closing connection".toList ∈
      linesOf (after Script.serve openAndQuery
        (streamTraced, ⟨multilineFailure, [], .empty⟩)).2.journal.stream := by
  decide +kernel

theorem multilineFailure_not_signed :
    let p := after Script.serve openAndQuery (streamTraced, ⟨multilineFailure, [], .empty⟩)
    '\n' ∉ streamTraced.tracer.id ∧
      ¬∀ line ∈ linesOf p.2.journal.stream, IsSigned streamTraced.tracer.id line := by
  refine ⟨by decide, ?_⟩
  intro h
  exact absurd (h _ multilineFailure_lines) (by decide)

theorem multilineFailure_entries :
    let p := after Script.serve openAndQuery
      (streamTraced.through .stream, ⟨multilineFailure, [], .empty⟩)
    '\n' ∉ streamTraced.tracer.id ∧ ∃ ns : List Notice,
      p.2.journal.stream = ns.flatMap (Notice.entry streamTraced.tracer.id) ∧
        ∃ n ∈ ns, '\n' ∈ n.quoted.toList ∧
          ∃ line ∈ n.furtherLines, ¬IsSigned streamTraced.tracer.id line := by
  intro p
  have hid : '\n' ∉ streamTraced.tracer.id := by decide
  have hurl : Config.ofUrl "http://a:4001?disableClusterDiscovery=true".toList =
      .ok withoutDiscovery := rfl
  have hinline : streamTraced.IsInline := isInline_make hurl _ _ _ _
  obtain ⟨ns, hstream, hsigned, hquoted⟩ :=
    signed_after streamTraced hid Script.serve ⟨multilineFailure, [], .empty⟩ openAndQuery
  have hns : p.2.journal.stream = ns.flatMap (Notice.entry streamTraced.tracer.id) := hstream
  have hmultiline : ¬∀ line ∈ linesOf (ns.flatMap (Notice.entry streamTraced.tracer.id)),
      IsSigned streamTraced.tracer.id line := by
    rw [← hns]
    intro h
    exact absurd (h _ multilineFailure_lines) (by decide)
  rw [hsigned] at hmultiline
  push Not at hmultiline
  obtain ⟨n, hn, line, hline, hl⟩ := hmultiline
  refine ⟨hid, ns, hns, n, hn, ?_, line, hline, hl⟩
  by_contra hq
  rw [hquoted hinline n hn hq] at hline
  cases hline

end Connection

end SqlCluster
