import Mathlib.Data.List.Induction
import SqlCluster.Proofs.Json.Members
import SqlCluster.Proofs.Peer.Distinct
/-!
Objects in which a key may come twice. When their members are read, each key counts once: at its
first place, and with what its last member says.
-/
namespace SqlCluster.Json

variable {α : Type} {read : Json → Option α} {ms : List (String × Json)}

theorem distinct_concat {β : Type} [DecidableEq β] (xs : List β) (x : β) :
    distinct (xs ++ [x]) = if x ∈ xs then distinct xs else distinct xs ++ [x] := by
  induction xs with
  | nil => rfl
  | cons y ys ih =>
      rw [List.cons_append, distinct, ih, distinct]
      by_cases hy : x = y
      · subst hy
        split <;> simp
      · by_cases hx : x ∈ ys <;> simp [hy, hx]

theorem collectEntries_concat (ps : List (String × α)) (p : String × α) :
    collectEntries (ps ++ [p]) = putEntry p.1 p.2 (collectEntries ps) := by
  rw [collectEntries, List.foldl_append]
  rfl

theorem keys_collectEntries (ps : List (String × α)) :
    (collectEntries ps).map (·.1) = distinct (ps.map (·.1)) := by
  induction ps using List.reverseRecOn with
  | nil => rfl
  | append_singleton ps p ih =>
      rw [collectEntries_concat, keys_putEntry, ih, List.map_append, List.map_singleton,
        distinct_concat]
      simp only [mem_distinct]

theorem mem_putEntry {key : String} {a : α} {es : List (String × α)} (hu : KeyedOnce es)
    {e : String × α} (h : e ∈ putEntry key a es) : e = (key, a) ∨ e.1 ≠ key ∧ e ∈ es := by
  induction es with
  | nil => exact .inl (List.mem_singleton.mp h)
  | cons d es ih =>
      obtain ⟨hd, hes⟩ := List.nodup_cons.mp hu
      rw [putEntry] at h
      split at h
      · next hk =>
          rcases List.mem_cons.mp h with he | he
          · exact .inl he
          · refine .inr ⟨fun hek => hd ?_, List.mem_cons_of_mem d he⟩
            exact List.mem_map.mpr ⟨e, he, hek.trans hk.symm⟩
      · next hk =>
          rcases List.mem_cons.mp h with rfl | he
          · exact .inr ⟨hk, List.mem_cons_self⟩
          · exact (ih hes he).imp id fun hr => ⟨hr.1, List.mem_cons_of_mem d hr.2⟩

theorem find?_of_mem_collectEntries {ps : List (String × α)} {e : String × α}
    (h : e ∈ collectEntries ps) : ps.reverse.find? (·.1 = e.1) = some e := by
  induction ps using List.reverseRecOn with
  | nil => cases h
  | append_singleton ps p ih =>
      have hu : KeyedOnce (collectEntries ps) := by
        rw [KeyedOnce, keys_collectEntries]
        exact nodup_distinct _
      rw [collectEntries_concat] at h
      rw [List.reverse_concat]
      rcases mem_putEntry hu h with rfl | ⟨hk, he⟩
      · exact List.find?_cons_of_pos (by simp)
      · rw [List.find?_cons_of_neg (by simpa using Ne.symm hk)]
        exact ih he

/-- What an object's members come to when each of them is read. -/
structure Collected (read : Json → Option α) (ms : List (String × Json)) (es : List (String × α)) :
    Prop where
  keys : es.map (·.1) = distinct (ms.map (·.1))
  said : ∀ e ∈ es, ∃ j, member? e.1 ms = some j ∧ read j = some e.2

theorem read_of_mapM {ps : List (String × α)}
    (h : (ms.mapM fun m => (read m.2).map fun v => (m.1, v)) = some ps) :
    List.Forall₂ (fun m p => p.1 = m.1 ∧ read m.2 = some p.2) ms ps := by
  induction ms generalizing ps with
  | nil =>
      cases h
      exact .nil
  | cons m ms ih =>
      rw [List.mapM_cons] at h
      obtain ⟨p, hp, h⟩ := Option.bind_eq_some_iff.mp h
      obtain ⟨rest, hrest, h⟩ := Option.bind_eq_some_iff.mp h
      obtain ⟨v, hv, rfl⟩ := Option.map_eq_some_iff.mp hp
      cases h
      exact .cons ⟨rfl, hv⟩ (ih hrest)

theorem find?_of_forall₂ {ps : List (String × α)}
    (h : List.Forall₂ (fun m p => p.1 = m.1 ∧ read m.2 = some p.2) ms ps) {key : String}
    {p : String × α} (hp : ps.find? (·.1 = key) = some p) :
    ∃ m, ms.find? (·.1 = key) = some m ∧ read m.2 = some p.2 := by
  induction h with
  | nil => cases hp
  | @cons m q ms ps hm _ ih =>
      by_cases hk : q.1 = key
      · rw [List.find?_cons_of_pos (by simpa using hk)] at hp
        cases hp
        refine ⟨m, ?_, hm.2⟩
        rw [List.find?_cons_of_pos]
        simpa using hm.1.symm.trans hk
      · rw [List.find?_cons_of_neg (by simpa using hk)] at hp
        obtain ⟨n, hn, hr⟩ := ih hp
        refine ⟨n, ?_, hr⟩
        rw [List.find?_cons_of_neg, hn]
        simpa using fun he => hk (hm.1.trans he)

theorem collected_of_mapOf? {es : List (String × α)} (h : mapOf? read (.map ms) = some es) :
    Collected read ms es := by
  obtain ⟨ps, hps, rfl⟩ := Option.map_eq_some_iff.mp h
  have hread := read_of_mapM hps
  have hkeys : ps.map (·.1) = ms.map (·.1) := by
    clear hps h
    induction hread with
    | nil => rfl
    | cons hp _ ih => rw [List.map_cons, List.map_cons, hp.1, ih]
  refine ⟨by rw [keys_collectEntries, hkeys], ?_⟩
  intro e he
  obtain ⟨m, hm, hr⟩ := find?_of_forall₂ (List.rel_reverse hread) (find?_of_mem_collectEntries he)
  exact ⟨m.2, by rw [member?, hm, Option.map_some], hr⟩

end SqlCluster.Json
