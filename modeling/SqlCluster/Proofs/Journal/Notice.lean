import SqlCluster.Cluster.Refresh
import SqlCluster.Executor.Walk
import SqlCluster.Proofs.Number.Row
/-!
What a connection leaves lines about. A line is a pattern whose directives are filled with values.
To fill it in never fails, so it does not matter whether it is filled in at all.
-/
namespace SqlCluster

open Number Text

/-- A part of a message: what the pattern says itself, a text or a number that is filled in. -/
inductive Part where
  | own (s : String)
  | text (s : String)
  | count (n : Nat)

namespace Part

def pattern : Part → String
  | .own s => s
  | .text _ => "%s"
  | .count _ => "%d"

def args : Part → List Value
  | .own _ => []
  | .text s => [.text s]
  | .count n => [.int n]

def written : Part → String
  | .own s => s
  | .text s => s
  | .count n => toString n

def text? : Part → Option String
  | .text s => some s
  | _ => none

/-- The pattern opens no directive of its own, and a number is not too long to be written. -/
def IsWritable : Part → Prop
  | .own s => '%' ∉ s.toList
  | .text _ => True
  | .count n => (decimal n).length ≤ Literal.maxIntDigits

end Part

inductive Notice where
  | peersToTry (operation : Operation) (n : Nat)
  | trying (n : Nat) (peer : Peer)
  | peerFailed (n : Nat) (f : PeerFailure)
  | peerAnswered (n : Nat)
  | assembled (operation : Operation) (url : List Char)
  | withheld (url : List Char)
  | redirected (url target : List Char)
  | askingStatus
  | statusFailed (f : Fault)
  | askingNodes
  | statusUsed
  | leader (peer : Option Peer)
  | other (n : Nat) (peer : Peer)
  | opened (seeds : List Peer)
  | closing
  | refreshing
  | sending (operation : Operation) (n : Nat)

def joined : List String → String
  | [] => ""
  | s :: ss => ss.foldl (· ++ ·) s

theorem toList_joined (ss : List String) : (joined ss).toList = ss.flatMap String.toList := by
  have hfold : ∀ (ss : List String) (s : String),
      (ss.foldl (· ++ ·) s).toList = s.toList ++ ss.flatMap String.toList := by
    intro ss
    induction ss with
    | nil => intro s; simp
    | cons t ts ih =>
        intro s
        rw [List.foldl_cons, ih, String.toList_append, List.flatMap_cons, List.append_assoc]
  cases ss with
  | nil => rfl
  | cons s ss => rw [joined, hfold, List.flatMap_cons]

namespace Notice

def parts : Notice → List Part
  | .peersToTry o n => [.text o.name, .own ": ", .count n, .own " peer(s) to try"]
  | .trying n p => [.own "trying peer #", .count n, .own ": ", .text p.address]
  | .peerFailed n f => [.own "peer #", .count n, .own " failed: ", .text f.text]
  | .peerAnswered n => [.own "peer #", .count n, .own " answered OK"]
  | .assembled o url => [.own "assembled URL for ", .text o.name, .own ": ", .text (shownUrl url)]
  | .withheld url =>
      [.own "not sending credentials to unknown redirect target ", .text (shownUrl url)]
  | .redirected url target =>
      [.text (shownUrl url), .own " redirected to ", .text (shownUrl target)]
  | .askingStatus => [.own "getting leader from /status"]
  | .statusFailed f => [.own "/status discovery failed: ", .text f.message]
  | .askingNodes => [.own "getting leader from /nodes"]
  | .statusUsed => [.own "leader successfully determined using /status"]
  | .leader p => [.own "leader: ", .text (Discovery.peerText p)]
  | .other n p => [.own "other peer #", .count n, .own ": ", .text p.address]
  | .opened ps =>
      [.own "opened connection to ", .text (String.intercalate ", " (ps.map Peer.address))]
  | .closing => [.own "closing connection"]
  | .refreshing => [.own "refreshing cluster info"]
  | .sending o n => [.text o.name, .own " of ", .count n, .own " statement(s)"]

def pattern (n : Notice) : String := joined (n.parts.map Part.pattern)

def args (n : Notice) : List Value := n.parts.flatMap Part.args

def texts (n : Notice) : List String := n.parts.filterMap Part.text?

def text (n : Notice) : String := joined (n.parts.map Part.written)

def IsWritable (n : Notice) : Prop :=
  ∀ k, .count k ∈ n.parts → (decimal k).length ≤ Literal.maxIntDigits

end Notice

namespace Message

theorem fillPieces_own {cs : List Char} (h : '%' ∉ cs) (length : Nat) (rest : List Char)
    (args : List Value) :
    fillPieces (piecesOf length (cs ++ rest)) args =
      (fillPieces (piecesOf length rest) args).map (cs ++ ·) := by
  induction cs with
  | nil =>
      rw [List.nil_append]
      cases fillPieces (piecesOf length rest) args <;> rfl
  | cons c cs ih =>
      rw [List.mem_cons, not_or] at h
      rw [List.cons_append, piecesOf, if_neg (Ne.symm h.1), fillPieces, ih h.2]
      cases fillPieces (piecesOf length rest) args <;> rfl

theorem piecesOf_text (length : Nat) (rest : List Char) :
    piecesOf length ('%' :: 's' :: rest) = .directive
      ⟨.none, .unset, .unset, .letter 's' (length - rest.length - 1)⟩ :: piecesOf length rest := by
  rw [piecesOf, if_pos rfl]
  rfl

theorem piecesOf_count (length : Nat) (rest : List Char) :
    piecesOf length ('%' :: 'd' :: rest) = .directive
      ⟨.none, .unset, .unset, .letter 'd' (length - rest.length - 1)⟩ :: piecesOf length rest := by
  rw [piecesOf, if_pos rfl]
  rfl

theorem padded_zero (w : Written) : padded .none 0 w = w.sign ++ w.opening ++ w.body := by
  simp [padded, Flags.none]

theorem ofNumber_decimal (n : Nat) : ofNumber .none [] (decimal n) = ⟨true, [], [], decimal n⟩ := by
  have hrow := isRow_decimal n
  unfold ofNumber
  split
  · next cs h =>
      rw [h] at hrow
      exact absurd (within_cons.mp hrow).1 (by decide)
  · rfl

theorem decimalText_none {n : Nat} (h : (decimal n).length ≤ Literal.maxIntDigits) :
    decimalText .none none n = .ok ⟨true, [], [], decimal n⟩ := by
  have hn : ¬(n : Int) < 0 := Int.not_lt.mpr (Int.natCast_nonneg n)
  have hmost : ¬Directive.mostPrecision - 3 < (none : Option Nat).getD 0 := Nat.not_lt_zero _
  have hw : Literal.isWritable (n : Int) = true := decide_eq_true h
  rw [decimalText, if_pos hw, Int.natAbs_natCast, integerText, if_neg hmost]
  simp only [if_neg hn, Option.getD_none, Nat.zero_sub, List.replicate_zero, List.nil_append]
  rw [if_neg (by decide), ofNumber_decimal]

theorem fillOne_text (position : Nat) (s : String) (args : List Value) :
    fillOne ⟨.none, .unset, .unset, .letter 's' position⟩ (.text s :: args) =
      .ok (s.toList, args) := by
  have hw : write .none none 's' position (.text s) = .ok (ofText s.toList) := rfl
  have hf : fillOne ⟨.none, .unset, .unset, .letter 's' position⟩ (.text s :: args) =
      (write .none none 's' position (.text s)).map fun t => (padded .none 0 t, args) := rfl
  rw [hf, hw, Except.map, padded_zero]
  rfl

theorem fillOne_count (position : Nat) {n : Nat} (h : (decimal n).length ≤ Literal.maxIntDigits)
    (args : List Value) : fillOne ⟨.none, .unset, .unset, .letter 'd' position⟩ (.int n :: args) =
      .ok (decimal n, args) := by
  have hw : write .none none 'd' position (.int n) = decimalText .none none n := rfl
  have hf : fillOne ⟨.none, .unset, .unset, .letter 'd' position⟩ (.int n :: args) =
      (write .none none 'd' position (.int n)).map fun t => (padded .none 0 t, args) := rfl
  rw [hf, hw, decimalText_none h, Except.map, padded_zero]
  rfl

theorem toList_toString (n : Nat) : (toString n).toList = decimal n := by
  rw [Nat.toString_eq_repr, Nat.repr, String.toList_ofList, decimal]

theorem fillPieces_parts {ps : List Part} (h : ∀ p ∈ ps, p.IsWritable) (length : Nat) :
    fillPieces (piecesOf length ((ps.map Part.pattern).flatMap String.toList))
        (ps.flatMap Part.args) = .ok ((ps.map Part.written).flatMap String.toList) := by
  induction ps with
  | nil =>
      rw [List.map_nil, List.flatMap_nil, piecesOf]
      rfl
  | cons p ps ih =>
      have hp := h p List.mem_cons_self
      have ih := ih fun q hq => h q (List.mem_cons_of_mem p hq)
      simp only [List.map_cons, List.flatMap_cons]
      cases p with
      | own s =>
          rw [Part.pattern, fillPieces_own hp, Part.args, List.nil_append, ih]
          rfl
      | text s =>
          have hpattern : "%s".toList = ['%', 's'] := by decide
          rw [Part.pattern, hpattern, List.cons_append, List.cons_append, List.nil_append,
            piecesOf_text, fillPieces, Part.args, List.cons_append, List.nil_append, fillOne_text]
          simp only [bind, Except.bind, ih]
          rfl
      | count n =>
          have hpattern : "%d".toList = ['%', 'd'] := by decide
          rw [Part.pattern, hpattern, List.cons_append, List.cons_append, List.nil_append,
            piecesOf_count, fillPieces, Part.args, List.cons_append, List.nil_append,
            fillOne_count _ hp]
          simp only [bind, Except.bind, ih, Part.written, toList_toString]
          rfl

end Message

namespace Notice

theorem text_of_no_args {n : Notice} (h : n.args = []) : n.pattern = n.text := by
  cases n <;> first | rfl | cases h

theorem own_parts {n : Notice} {s : String} (h : .own s ∈ n.parts) :
    '%' ∉ s.toList ∧ '\n' ∉ s.toList := by
  have hall : n.parts.all (fun p => match p with
      | .own s => !s.toList.contains '%' && !s.toList.contains '\n'
      | _ => true) = true := by
    cases n <;> rfl
  simpa using List.all_eq_true.mp hall (.own s) h

theorem isWritable_parts {n : Notice} (h : n.IsWritable) : ∀ p ∈ n.parts, p.IsWritable := by
  intro p hp
  cases p with
  | own s => exact (own_parts hp).1
  | text s => trivial
  | count k => exact h k hp

theorem fill_pattern {n : Notice} (h : n.IsWritable) :
    Message.fill n.pattern n.args = .ok n.text := by
  have hf := Message.fillPieces_parts (isWritable_parts h) n.pattern.toList.length
  rw [← toList_joined, ← toList_joined] at hf
  have hp : Message.fillPieces (pieces n.pattern.toList) n.args = .ok n.text.toList := hf
  rw [Message.fill, hp, Except.map, String.ofList_toList]

/-- Filling in a line's pattern comes to the line. -/
theorem format_eq {n : Notice} (h : n.IsWritable) (t : Tracer) (j : Journal) :
    t.format n.pattern n.args j = .ok (t.note n.text j) := by
  rw [Tracer.format]
  split
  · next he =>
      obtain ⟨sink, id⟩ := t
      cases sink with
      | silent => rfl
      | stream => cases he
      | log severity => cases he
  · split
    · next ha => rw [text_of_no_args (List.isEmpty_iff.mp ha)]
    · rw [fill_pattern h]
      rfl

end Notice

end SqlCluster
