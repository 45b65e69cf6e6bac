import SqlCluster.Http.Client
/-!
What the client sends. A write is one request and a read is one or more, unless the URL is none that
the client takes; nothing that was sent is taken back.
-/
namespace SqlCluster

open Http

variable {σ : Type}

namespace World

/-- The world as it was, or one in which more has been sent. -/
def GoesOn (w v : World σ) : Prop := v = w ∨ w.sent.length < v.sent.length

variable {u v w : World σ}

theorem GoesOn.refl (w : World σ) : w.GoesOn w := .inl rfl

theorem GoesOn.length_le (h : w.GoesOn v) : w.sent.length ≤ v.sent.length := by
  rcases h with rfl | h
  · exact Nat.le_refl _
  · exact Nat.le_of_lt h

theorem GoesOn.eq (h : w.GoesOn v) (hl : v.sent.length = w.sent.length) : v = w := by
  rcases h with h | h
  · exact h
  · exact absurd hl (Nat.ne_of_gt h)

theorem GoesOn.of_sent {added : List Request} (h : v.sent = w.sent ++ added) (ha : added ≠ []) :
    w.GoesOn v := by
  have hpos := List.length_pos_iff.mpr ha
  refine .inr ?_
  rw [h, List.length_append]
  omega

end World

namespace Http.Client

theorem sent_exchange (serve : Server σ) (r : Request) (w : World σ) :
    (exchange serve r w).2.sent = w.sent ++ [r] := by
  have hs : (w.exchange serve r).2.sent = w.sent ++ [r] := rfl
  unfold exchange
  split
  all_goals
    next v h =>
      rw [h] at hs
      exact hs

theorem sent_sendOnce (serve : Server σ) (r : Request) (w : World σ) :
    (sendOnce serve r w).2.sent = w.sent ++ [r] := by
  have hs := sent_exchange serve r w
  unfold sendOnce
  split
  · next h =>
      rw [h] at hs
      exact hs
  · next h =>
      rw [h] at hs
      split <;> exact hs

theorem sent_follow (serve : Server σ) (fuel : Nat) (r : Request) (w : World σ) :
    ∃ added, (follow serve (fuel + 1) r w).2.sent = w.sent ++ r :: added := by
  induction fuel generalizing r w with
  | zero =>
      have hs := sent_exchange serve r w
      refine ⟨[], ?_⟩
      rw [follow]
      split
      · next h => rwa [h] at hs
      · next h =>
          rw [h] at hs
          split <;> exact hs
  | succ fuel ih =>
      have hs := sent_exchange serve r w
      rw [follow]
      split
      · next h => exact ⟨[], by rwa [h] at hs⟩
      · next h =>
          rw [h] at hs
          split
          · exact ⟨[], hs⟩
          · exact ⟨[], hs⟩
          · next v _ target _ =>
              obtain ⟨added, hadded⟩ := ih (Request.redirected r target) v
              refine ⟨Request.redirected r target :: added, ?_⟩
              rw [hadded, hs, List.append_assoc]
              rfl

theorem goesOn_sendOnce (serve : Server σ) (r : Request) (w : World σ) :
    w.GoesOn (sendOnce serve r w).2 := .of_sent (sent_sendOnce serve r w) (List.cons_ne_nil r [])

theorem goesOn_follow (serve : Server σ) (fuel : Nat) (r : Request) (w : World σ) :
    w.GoesOn (follow serve fuel r w).2 := by
  cases fuel with
  | zero => exact .refl w
  | succ fuel =>
      obtain ⟨added, h⟩ := sent_follow serve fuel r w
      exact .of_sent h (List.cons_ne_nil r added)

theorem goesOn_send (client : Client) (serve : Server σ) (method : Method) (url : List Char)
    (body : List UInt8) (timeout : Value) (w : World σ) :
    w.GoesOn (client.send serve method url body timeout w).2 := by
  unfold send
  split
  · exact .refl w
  · split
    · exact goesOn_follow serve _ _ w
    · exact goesOn_sendOnce serve _ w

theorem sent_send (client : Client) (serve : Server σ) (url : List Char) (body : List UInt8)
    (timeout : Value) (w : World σ) : (client.send serve .post url body timeout w).2.sent =
      w.sent ++ (prepare .post url body timeout).toOption.toList := by
  unfold send
  split
  · next h => simp [h, Except.toOption]
  · next r h =>
      rw [h]
      exact sent_sendOnce serve r w

end Http.Client

end SqlCluster
