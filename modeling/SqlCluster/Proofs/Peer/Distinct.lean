import Mathlib.Data.List.Basic
import SqlCluster.Peer.Basic
/-!
First occurrences. Without its repetitions a list holds the same elements, in the order in which
each of them first comes.
-/
namespace SqlCluster

variable {α : Type} [DecidableEq α]

theorem distinct_filter (f : α → Bool) (xs : List α) :
    distinct (xs.filter f) = (distinct xs).filter f := by
  induction xs with
  | nil => rfl
  | cons x xs ih =>
      cases hx : f x with
      | true =>
          rw [List.filter_cons_of_pos hx, distinct, distinct, List.filter_cons_of_pos hx, ih,
            List.filter_comm]
      | false =>
          have hn : ¬f x = true := by simp [hx]
          rw [List.filter_cons_of_neg hn, distinct, List.filter_cons_of_neg hn, ih,
            List.filter_filter]
          refine List.filter_congr ?_
          intro y _
          by_cases hy : y = x
          · simp [hy, hx]
          · simp [hy]

theorem distinct_of_nodup {xs : List α} (h : xs.Nodup) : distinct xs = xs := by
  induction xs with
  | nil => rfl
  | cons x xs ih =>
      obtain ⟨hx, hxs⟩ := List.nodup_cons.mp h
      rw [distinct, ih hxs, List.filter_eq_self.mpr]
      intro y hy
      have hne : y ≠ x := fun he => hx (he ▸ hy)
      simp [hne]

theorem distinct_cons_distinct (x : α) (xs : List α) :
    distinct (x :: distinct (x :: xs)) = distinct (x :: xs) := by
  rw [distinct, distinct_of_nodup (nodup_distinct _), distinct,
    List.filter_cons_of_neg (by simp), List.filter_filter]
  simp only [Bool.and_self]

/-- The elements of `xs` that are kept, in the order of their first places in `xs`. -/
structure Firsts (keep : α → Prop) (xs ys : List α) : Prop where
  mem : ∀ a, a ∈ ys ↔ a ∈ xs ∧ keep a
  order : ys.Pairwise fun a b => xs.idxOf a < xs.idxOf b

theorem pairwise_distinct (xs : List α) :
    (distinct xs).Pairwise fun a b => xs.idxOf a < xs.idxOf b := by
  induction xs with
  | nil => exact .nil
  | cons x xs ih =>
      have hplace {a : α} (ha : a ≠ x) : (x :: xs).idxOf a = xs.idxOf a + 1 :=
        List.idxOf_cons_ne xs ha.symm
      have hne {a : α} (ha : a ∈ (distinct xs).filter (· ≠ x)) : a ≠ x := by
        simpa using (List.mem_filter.mp ha).2
      rw [distinct, List.pairwise_cons]
      refine ⟨?_, (ih.filter _).imp_of_mem ?_⟩
      · intro a ha
        rw [List.idxOf_cons_self, hplace (hne ha)]
        exact Nat.succ_pos _
      · intro a b ha hb hab
        rw [hplace (hne ha), hplace (hne hb)]
        exact Nat.succ_lt_succ hab

theorem firsts_distinct (keep : α → Prop) [DecidablePred keep] (xs : List α) :
    Firsts keep xs (distinct (xs.filter fun a => keep a)) := by
  refine ⟨fun a => by simp [mem_distinct], ?_⟩
  rw [distinct_filter]
  exact (pairwise_distinct xs).filter _

end SqlCluster
