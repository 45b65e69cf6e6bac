/-!
Outcomes that may be errors: a chain of steps succeeds where each of them does, and one entry of a
list spoils the list.
-/
namespace SqlCluster.Outcome

variable {ε α β γ : Type}

theorem bind_eq_ok {x : Except ε α} {f : α → Except ε β} {b : β} :
    (x >>= f) = .ok b ↔ ∃ a, x = .ok a ∧ f a = .ok b := by
  cases x <;> simp [bind, Except.bind]

theorem map_eq_ok {x : Except ε α} {f : α → β} {b : β} :
    x.map f = .ok b ↔ ∃ a, x = .ok a ∧ f a = b := by
  cases x <;> simp [Except.map]

theorem map_eq_error {x : Except ε α} {f : α → β} {e : ε} : x.map f = .error e ↔ x = .error e := by
  cases x <;> simp [Except.map]

theorem error_of_mem {f : α → Except ε β} {g : List α → Except ε γ} {k : α → β → γ → γ}
    (hg : ∀ x xs, g (x :: xs) = f x >>= fun b => g xs >>= fun c => .ok (k x b c))
    {xs : List α} {x : α} {e : ε} (hx : x ∈ xs) (h : f x = .error e) : ∃ e, g xs = .error e := by
  induction xs with
  | nil => cases hx
  | cons y ys ih =>
      rw [hg]
      cases hy : f y with
      | error e => exact ⟨e, rfl⟩
      | ok b =>
          rcases List.mem_cons.mp hx with rfl | hx
          · rw [h] at hy
            cases hy
          · obtain ⟨e, he⟩ := ih hx
            exact ⟨e, by rw [he]; rfl⟩

theorem ok_of_mem {f : α → Except ε β} {g : List α → Except ε (List γ)} {k : α → β → γ}
    (hg : ∀ x xs, g (x :: xs) = f x >>= fun b => g xs >>= fun c => .ok (k x b :: c))
    {xs : List α} {ys : List γ} {x : α} (h : g xs = .ok ys) (hx : x ∈ xs) :
    ∃ b, f x = .ok b ∧ k x b ∈ ys := by
  induction xs generalizing ys with
  | nil => cases hx
  | cons z zs ih =>
      rw [hg] at h
      obtain ⟨b, hb, h⟩ := bind_eq_ok.mp h
      obtain ⟨bs, hbs, h⟩ := bind_eq_ok.mp h
      cases h
      rcases List.mem_cons.mp hx with rfl | hx
      · exact ⟨b, hb, List.mem_cons_self⟩
      · obtain ⟨c, hc, hmem⟩ := ih hbs hx
        exact ⟨c, hc, List.mem_cons_of_mem _ hmem⟩

end SqlCluster.Outcome
